import ClassChart.Drawing
import ClassChart.Parse
import ClassChart.Scan

/-!
From a source to a checked diagram and its drawing. The reports of all stages are kept in the order
of the stages; a syntax error ends the work, semantic problems end it only in a strict run, and a
canvas that cannot be drawn on ends it last.
-/
namespace ClassChart

/-- What working on a source yields: the diagram, every report, and the drawing if one was made. -/
structure Compilation where
  diagram : Diagram
  diagnostics : List Diagnostic
  svg : Option String
  deriving DecidableEq, Repr

namespace Compilation

/-- The reports of one stage. -/
def diagnosticsAt (compilation : Compilation) (stage : Stage) : List Diagnostic :=
  compilation.diagnostics.filter (·.stage = stage)

/-- The number of semantic problems. -/
def semanticCount (compilation : Compilation) : Nat :=
  (compilation.diagnosticsAt .semantic).length

/-- Every report as a line. -/
def messages (compilation : Compilation) : List String :=
  compilation.diagnostics.map Diagnostic.text

end Compilation

/-- The diagram of a source with the reports of every stage. -/
def check (source : String) : Except SyntaxError Compilation :=
  let scanned := scan source
  (parse scanned.tokens).map fun parsed =>
    { diagram := parsed.diagram
      diagnostics := scanned.diagnostics ++ parsed.diagnostics ++ parsed.diagram.validate
      svg := none }

/-- The diagram of a source with its reports; a strict run accepts no semantic problem. -/
def compile (strict : Bool) (source : String) : Except Failure Compilation :=
  match check source with
  | .error error => .error (.malformed error)
  | .ok compilation =>
    if strict && 0 < compilation.semanticCount then .error (.rejected compilation.semanticCount)
    else .ok compilation

/-- Drawing, as a renderer answers for it: that nothing can be laid out is the only way to fail. -/
def Geometry.draw (geometry : Geometry) (diagram : Diagram) : Except RenderError String :=
  (geometry.render diagram).mapError fun refusal => .known (.layout refusal.reason)

/-- The diagram of a source with its reports and its drawing. -/
def process (geometry : Geometry) (strict : Bool) (source : String) :
    Except Failure Compilation := do
  let compilation ← compile strict source
  let svg ← (geometry.draw compilation.diagram).mapError RenderError.failure
  return { compilation with svg := some svg }

/-- The diagram of a source alone. -/
def readDiagram (source : String) : Except Failure Diagram :=
  match parse (scan source).tokens with
  | .error error => .error (.malformed error)
  | .ok parsed => .ok parsed.diagram

/-- What is said of a full run that ends without a drawing. -/
def noDrawing : String := "pipeline produced no SVG output"

/-- The drawing of a source in the standard measures. -/
def drawSource (source : String) : Except Failure String := do
  let compilation ← process .standard false source
  match compilation.svg with
  | some svg => .ok svg
  | none => .error (.rendering noDrawing)

end ClassChart
