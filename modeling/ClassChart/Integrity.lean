import ClassChart.Diagnostic
import ClassChart.Diagram

/-!
Integrity of a diagram: class names are declared once, and every endpoint of a relationship is a
declared name. Violations are reported without a position, first the repeated names in the
order of declaration, then the endpoints relationship by relationship, source before target.
-/
namespace ClassChart

/-- The report of a class whose name is taken. -/
def Diagnostic.duplicateClass (name : String) : Diagnostic :=
  ⟨.duplicateClass, s!"class '{name}' is declared more than once", none⟩

/-- The report of an endpoint that no declaration names. -/
def Diagnostic.undefinedClass (relationship : Relationship) (name : String) : Diagnostic :=
  ⟨.undefinedClass,
    s!"relationship '{relationship.text}' references an undefined class '{name}'", none⟩

/-- The names in a list that an earlier entry, or one of `seen`, has taken. -/
def repeatedNames (seen : List String) : List String → List String
  | [] => []
  | name :: rest =>
    if seen.contains name then name :: repeatedNames seen rest
    else repeatedNames (name :: seen) rest

/-- The names that a relationship refers to, source first. -/
def Relationship.endpoints (relationship : Relationship) : List String :=
  [relationship.source, relationship.target]

namespace Diagram

/-- The endpoints of all relationships, each as often as it is used. -/
def endpoints (diagram : Diagram) : List String :=
  diagram.relationships.flatMap Relationship.endpoints

/-- The endpoints of a relationship that the diagram does not declare. -/
def undefinedEndpoints (diagram : Diagram) (relationship : Relationship) : List String :=
  relationship.endpoints.filter fun name => !diagram.declares name

/-- The violations of integrity, in order. -/
def validate (diagram : Diagram) : List Diagnostic :=
  (repeatedNames [] (diagram.classes.map (·.name))).map .duplicateClass ++
    diagram.relationships.flatMap fun relationship =>
      (diagram.undefinedEndpoints relationship).map (.undefinedClass relationship)

end Diagram

end ClassChart
