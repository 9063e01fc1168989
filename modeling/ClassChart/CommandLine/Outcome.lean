import ClassChart.CommandLine.Arguments
import ClassChart.Compilation
import ClassChart.Listing

/-!
What an invocation does with the text that it reads: the lines it notes, what it prints, the file
it writes, and whether it fails. Nothing is printed or written by a rendering that fails.
-/
namespace ClassChart.CommandLine

/-- The name of the program. -/
def programName : String := "umlsvg"

/-- The path that stands for the standard streams. -/
def streamPath : String := "-"

/-- The path of a file, if one is meant and not a standard stream. -/
def filePath? (path : Option String) : Option String :=
  path.filter (· ≠ streamPath)

/-- The file that a command reads; without one it reads the standard input. -/
def Command.inputFile? : Command → Option String
  | .render input .. => filePath? input
  | .check input _ => filePath? input
  | .tokens input _ => filePath? input

/-- What a command leaves behind. -/
structure Outcome where
  /-- Lines for the standard error, in order. -/
  notes : List String
  /-- The text for the standard output. -/
  printed : String
  /-- A file to write, and its content. -/
  saved : Option (String × String)
  /-- The message of the failure that ends the run. -/
  failure : Option String
  deriving DecidableEq, Repr

namespace Outcome

/-- A run that fails and leaves only its notes. -/
def failed (notes : List String) (message : String) : Outcome :=
  ⟨notes, "", none, some message⟩

/-- The outcome, after some earlier notes. -/
def after (notes : List String) (outcome : Outcome) : Outcome :=
  { outcome with notes := notes ++ outcome.notes }

end Outcome

/-- A text with a line break at its end, unless it is empty or has one. -/
def endLine (text : String) : String :=
  if text.isEmpty || text.back = '\n' then text else text.push '\n'

/-- Lines, each with a line break. -/
def lines (texts : List String) : String :=
  String.join (texts.map (·.push '\n'))

/-- Sends a text to a file or to the standard output. -/
def deliver (output : Option String) (notes : List String) (text : String) : Outcome :=
  match filePath? output with
  | some path => ⟨notes, "", some (path, text), none⟩
  | none => ⟨notes, endLine text, none, none⟩

/-- A line noted only by a talkative run. -/
def verboseNote (verbose : Bool) (line : String) : List String :=
  if verbose then [line] else []

/-- The notes on reports. -/
def warnings (reports : List Diagnostic) : List String :=
  reports.map fun report => s!"warning: {report.text}"

/-- The size of what was read. -/
def readNote (content : String) : String :=
  s!"Read {content.utf8ByteSize} bytes of input"

/-- The measures of a rendering; a canvas of its own keeps the standard proportions. -/
def renderGeometry (width height : Option Nat) : Geometry :=
  match width, height with
  | none, none => .standard
  | width, height =>
    Geometry.standard.withCanvas (width.getD Geometry.standard.width)
      (height.getD Geometry.standard.height)

/-- Renders a source. The reports are noted before the drawing is looked for. -/
def runRender (output : Option String) (strict : Bool) (geometry : Geometry) (verbose : Bool)
    (content : String) : Outcome :=
  Outcome.after (verboseNote verbose (readNote content))
    (match process geometry strict content with
      | .error failure => .failed [] failure.text
      | .ok compilation =>
        let reported := warnings compilation.diagnostics
        match compilation.svg with
        | none => .failed reported noDrawing
        | some svg =>
          let diagram := compilation.diagram
          let summary :=
            s!"Rendered {diagram.classes.length} classes and {diagram.relationships.length} relationships"
          deliver output (reported ++ verboseNote verbose summary) svg)

/-- The number of reports that make a check fail: all of them for a strict check, otherwise the
semantic ones. -/
def failingCount (strict : Bool) (compilation : Compilation) : Nat :=
  if strict then compilation.diagnostics.length else compilation.semanticCount

/-- Checks a source. -/
def runCheck (strict verbose : Bool) (content : String) : Outcome :=
  Outcome.after (verboseNote verbose (readNote content))
    (match compile false content with
      | .error failure =>
        ⟨[], lines [s!"✗ Invalid class diagram: {failure.text}"], none, some failure.text⟩
      | .ok compilation =>
        let reports := compilation.diagnostics.map fun report =>
          s!"{report.stage.label}: {report.text}"
        let failing := failingCount strict compilation
        let diagram := compilation.diagram
        if failing = 0 then
          let summary :=
            s!"✓ Valid class diagram ({diagram.classes.length} classes, {diagram.relationships.length} relationships)"
          ⟨[], lines (reports ++ [summary]), none, none⟩
        else
          ⟨[], lines (reports ++ [s!"✗ {failing} problem(s) found"]), none,
            some s!"class diagram has {failing} problem(s)"⟩)

/-- Lists the tokens of a source. -/
def runTokens (json verbose : Bool) (content : String) : Outcome :=
  let scanned := scan content
  deliver none
    (verboseNote verbose s!"Scanned {scanned.tokens.length} tokens" ++
      warnings scanned.diagnostics)
    (Listing.format json scanned.tokens)

/-- Does what a command asks for with the text that it read. -/
def Command.run (command : Command) (verbose : Bool) (content : String) : Outcome :=
  match command with
  | .render _ output strict width height =>
    runRender output strict (renderGeometry width height) verbose content
  | .check _ strict => runCheck strict verbose content
  | .tokens _ json => runTokens json verbose content

/-- The notes before anything is read: a log that could not be set up, and the version. The
environment goes before the arguments in naming the format of the log. -/
def Invocation.opening (invocation : Invocation) (environment : Environment) : List String :=
  let asked := (environment.value? logFormatVariable).getD invocation.logFormat
  (match setUpLog environment false (some asked) with
    | .error error => [s!"Warning: Failed to initialize logging: {error.message}"]
    | .ok _ => []) ++
    verboseNote invocation.verbose s!"{programName} v{version}"

/-- Runs an invocation on what it read, or on why it could not read. -/
def Invocation.run (invocation : Invocation) (environment : Environment)
    (content : Except String String) : Outcome :=
  Outcome.after (invocation.opening environment)
    (match content with
      | .error reason => .failed [] reason
      | .ok content => invocation.command.run invocation.verbose content)

/-! ## Messages about files -/

/-- Why a file could not be read. -/
def readFailure (path reason : String) : String :=
  s!"Failed to read input file '{path}': {reason}"

/-- Why a file could not be written. -/
def writeFailure (path reason : String) : String :=
  s!"Failed to write output file '{path}': {reason}"

/-- Bytes that are no text. -/
def notText : String := "stream did not contain valid UTF-8"

/-- The text of what was read. -/
def decodeText (bytes : ByteArray) : Except String String :=
  match String.fromUTF8? bytes with
  | some text => .ok text
  | none => .error notText

/-- The last line for the standard error. -/
def failureLine (message : String) : String :=
  s!"Error: {message}"

/-- The line that answers a question for the version. -/
def versionLine : String := s!"{programName} {version}"

end ClassChart.CommandLine
