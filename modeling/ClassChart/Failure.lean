import ClassChart.Position

/-!
What ends the work on a diagram without a result: a token that does not fit, a canvas that cannot
be drawn on, problems that a strict run does not accept, and failures of the surroundings.
-/
namespace ClassChart

/-- A token that does not fit where it stands. -/
structure SyntaxError where
  message : String
  position : Position
  deriving DecidableEq, Repr

/-- The error as one line. -/
def SyntaxError.text (error : SyntaxError) : String :=
  s!"{error.message} at {error.position.describe}"

/-- Why a diagram was not processed. -/
inductive Failure where
  | malformed (error : SyntaxError)
  | layout (reason : String)
  | rendering (reason : String)
  /-- A strict run does not accept semantic problems. -/
  | rejected (count : Nat)
  | inputOutput (reason : String)
  deriving DecidableEq, Repr

/-- The failure as one line. -/
def Failure.text : Failure → String
  | .malformed error => s!"Syntax error: {error.text}"
  | .layout reason => s!"Layout error: {reason}"
  | .rendering reason => s!"Render error: {reason}"
  | .rejected count => s!"Diagram rejected: {count} semantic diagnostic(s)"
  | .inputOutput reason => s!"IO error: {reason}"

/-- What a renderer fails with: a failure of the kinds above, or an error that only its words are
known of. -/
inductive RenderError where
  | known (failure : Failure)
  | other (message : String)
  deriving DecidableEq, Repr

/-- The failure that ends the work after the error of a renderer. -/
def RenderError.failure : RenderError → Failure
  | .known failure => failure
  | .other message => .rendering message

end ClassChart
