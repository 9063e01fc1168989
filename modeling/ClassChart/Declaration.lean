import ClassChart.Diagnostic
import ClassChart.Token

/-!
Declarations, in the order in which a source makes them, and what they declare. A list of
declarations means a diagram: its classes and relationships in order, and the last title unless
that is empty. Tokens that start no declaration stay in the list, each with its report.
-/
namespace ClassChart

/-- A member of a class body. -/
inductive Member where
  | ofAttribute (declared : Attribute)
  | ofMethod (declared : Method)
  deriving DecidableEq, Repr

namespace Member

/-- The attribute that a member declares. -/
def attribute? : Member → Option Attribute
  | .ofAttribute declared => some declared
  | .ofMethod _ => none

/-- The method that a member declares. -/
def method? : Member → Option Method
  | .ofAttribute _ => none
  | .ofMethod declared => some declared

end Member

/-- A class as it is declared: attributes and methods may be mixed. -/
structure ClassDeclaration where
  name : String
  isAbstract : Bool
  members : List Member
  deriving DecidableEq, Repr

/-- The class that a declaration declares. -/
def ClassDeclaration.toNode (declared : ClassDeclaration) : ClassNode where
  name := declared.name
  isAbstract := declared.isAbstract
  attributes := declared.members.filterMap Member.attribute?
  methods := declared.members.filterMap Member.method?

/-- One declaration, or a token that starts none. -/
inductive Declaration where
  | ofClass (declared : ClassDeclaration)
  | ofRelationship (declared : Relationship)
  | ofTitle (text : String)
  | unrecognized (token : Token)
  deriving DecidableEq, Repr

/-- The report of a token that starts no declaration. -/
def Diagnostic.unrecognizedDeclaration (token : Token) : Diagnostic :=
  ⟨.unrecognizedDeclaration, s!"unrecognized declaration starting with {token.describe}",
    some token.position⟩

/-- The report of a token behind the end marker. -/
def Diagnostic.trailingContent (token : Token) : Diagnostic :=
  ⟨.trailingContent, s!"content after '@enduml' is ignored, starting with {token.describe}",
    some token.position⟩

namespace Declaration

/-- The class that a declaration declares. -/
def class? : Declaration → Option ClassNode
  | .ofClass declared => some declared.toNode
  | _ => none

/-- The relationship that a declaration declares. -/
def relationship? : Declaration → Option Relationship
  | .ofRelationship declared => some declared
  | _ => none

/-- The title that a declaration sets. -/
def title? : Declaration → Option String
  | .ofTitle text => some text
  | _ => none

/-- The token that starts no declaration. -/
def unrecognized? : Declaration → Option Token
  | .unrecognized token => some token
  | _ => none

end Declaration

/-- A title takes effect unless it is empty. -/
def titleInEffect (text : Option String) : Option String :=
  text.filter (· ≠ "")

/-- The diagram that a list of declarations means. -/
def Diagram.ofDeclarations (declarations : List Declaration) : Diagram where
  title := titleInEffect (declarations.filterMap Declaration.title?).getLast?
  classes := declarations.filterMap Declaration.class?
  relationships := declarations.filterMap Declaration.relationship?

/-- The reports on a list of declarations, in order. -/
def unrecognizedReports (declarations : List Declaration) : List Diagnostic :=
  (declarations.filterMap Declaration.unrecognized?).map .unrecognizedDeclaration

end ClassChart
