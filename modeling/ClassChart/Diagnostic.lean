import ClassChart.Position

/-!
Reports of problems that do not stop the work. Each kind of problem belongs to one stage of
reading a diagram, and a report names the place in the source where there is one.
-/
namespace ClassChart

/-- The stages of reading a diagram that report problems. -/
inductive Stage where
  | lexical
  | syntactic
  | semantic
  deriving DecidableEq, Repr

/-- The word printed for a stage. -/
def Stage.label : Stage → String
  | .lexical => "lexical"
  | .syntactic => "syntax"
  | .semantic => "semantic"

/-- What is wrong. -/
inductive ProblemKind where
  /-- A character that belongs to no token; it is skipped. -/
  | unexpectedCharacter
  /-- A quote that opens a text and is never closed. -/
  | unterminatedString
  /-- A token that starts no declaration; it is skipped. -/
  | unrecognizedDeclaration
  /-- Something other than blank lines after the end marker. -/
  | trailingContent
  /-- A class name that an earlier declaration has taken. -/
  | duplicateClass
  /-- An endpoint of a relationship that no declaration names. -/
  | undefinedClass
  deriving DecidableEq, Repr

/-- The stage that notices a problem. -/
def ProblemKind.stage : ProblemKind → Stage
  | .unexpectedCharacter | .unterminatedString => .lexical
  | .unrecognizedDeclaration | .trailingContent => .syntactic
  | .duplicateClass | .undefinedClass => .semantic

/-- A report of one problem. -/
structure Diagnostic where
  kind : ProblemKind
  message : String
  position : Option Position
  deriving DecidableEq, Repr

namespace Diagnostic

/-- The stage that made the report. -/
def stage (report : Diagnostic) : Stage :=
  report.kind.stage

/-- The report as one line: the place, if there is one, and the message. -/
def text (report : Diagnostic) : String :=
  match report.position with
  | some position => s!"{position.describe}: {report.message}"
  | none => report.message

end Diagnostic

end ClassChart
