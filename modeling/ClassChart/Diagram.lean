/-!
Class diagrams: classes with their members, relationships between class names, and a title.
Relationships refer to classes by name alone, so a diagram may name classes that it does not
declare and may declare a name twice; lookups then mean the first declaration.
-/
namespace ClassChart

/-- Who may use a member of a class. -/
inductive Visibility where
  | publicMember
  | privateMember
  | protectedMember
  | packageMember
  deriving DecidableEq, Repr

/-- The mark written before a member. -/
def Visibility.mark : Visibility → Char
  | .publicMember => '+'
  | .privateMember => '-'
  | .protectedMember => '#'
  | .packageMember => '~'

/-- The type of an attribute declared without one. -/
def defaultAttributeType : String := "String"

/-- The return type of a method declared without one. -/
def defaultReturnType : String := "void"

/-- A field of a class. -/
structure Attribute where
  visibility : Option Visibility
  name : String
  declaredType : String
  deriving DecidableEq, Repr

/-- An operation of a class; its parameters are not kept. -/
structure Method where
  visibility : Option Visibility
  name : String
  returnType : String
  deriving DecidableEq, Repr

/-- A class with its attributes and methods in the order of their declaration. -/
structure ClassNode where
  name : String
  isAbstract : Bool
  attributes : List Attribute
  methods : List Method
  deriving DecidableEq, Repr

namespace ClassNode

/-- A class without members. -/
def empty (name : String) : ClassNode := ⟨name, false, [], []⟩

/-- The class, declared abstract or not. -/
def withAbstract (node : ClassNode) (isAbstract : Bool) : ClassNode :=
  { node with isAbstract := isAbstract }

/-- The class with one more attribute at the end. -/
def addAttribute (node : ClassNode) (added : Attribute) : ClassNode :=
  { node with attributes := node.attributes ++ [added] }

/-- The class with one more method at the end. -/
def addMethod (node : ClassNode) (added : Method) : ClassNode :=
  { node with methods := node.methods ++ [added] }

end ClassNode

/-- The kinds of relationships between two classes. -/
inductive RelationshipKind where
  | inheritance
  | realization
  | association
  | aggregation
  | composition
  | link
  deriving DecidableEq, Repr

namespace RelationshipKind

/-- The operator that writes a relationship of this kind. -/
def operator : RelationshipKind → String
  | .inheritance => "<|--"
  | .realization => "<|.."
  | .association => "-->"
  | .aggregation => "o--"
  | .composition => "*--"
  | .link => "--"

/-- The name of the kind. -/
def label : RelationshipKind → String
  | .inheritance => "inheritance"
  | .realization => "realization"
  | .association => "association"
  | .aggregation => "aggregation"
  | .composition => "composition"
  | .link => "link"

/-- Kinds drawn with a dashed line. -/
def isDashed : RelationshipKind → Bool
  | .realization | .link => true
  | _ => false

end RelationshipKind

/-- A relationship between two class names; an empty label stands for none. -/
structure Relationship where
  source : String
  target : String
  kind : RelationshipKind
  label : String
  deriving DecidableEq, Repr

/-- The relationship as it is written in a source, its label left out. -/
def Relationship.text (relationship : Relationship) : String :=
  s!"{relationship.source} {relationship.kind.operator} {relationship.target}"

/-- A class diagram. Classes and relationships are kept in the order of their declaration,
repeated names included. -/
structure Diagram where
  title : Option String
  classes : List ClassNode
  relationships : List Relationship
  deriving DecidableEq, Repr

namespace Diagram

/-- The first class declared under `name`. -/
def findClass? (diagram : Diagram) (name : String) : Option ClassNode :=
  diagram.classes.find? (·.name = name)

/-- Some class of the diagram has this name. -/
def declares (diagram : Diagram) (name : String) : Bool :=
  diagram.classes.any (·.name = name)

/-- A lookup finds a class exactly for the declared names. -/
theorem isSome_findClass? (diagram : Diagram) (name : String) :
    (diagram.findClass? name).isSome = diagram.declares name := by
  rw [Bool.eq_iff_iff]
  simp [findClass?, declares]

end Diagram

end ClassChart
