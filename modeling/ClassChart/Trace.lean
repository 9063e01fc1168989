import ClassChart.Compilation
import ClassChart.Logging

/-!
The trace of a run: what an observer sees of the work on a source. A trace is a row of entries, each
the opening of a span or an event inside the open spans. Scanning and validating log their events
and keep their reports side by side; every report that a caller receives is also an event, with the
same message and position, and an error is an event as well.
-/
namespace ClassChart

/-- The named values of an entry, as texts. -/
abbrev Fields := List (String × String)

/-- A message with its values. -/
structure Event where
  level : Level
  message : String
  fields : Fields
  deriving DecidableEq, Repr

/-- An entry of a trace; `spans` are the names of the spans open at an event, outermost first. -/
inductive Entry where
  | opened (level : Level) (name : String) (fields : Fields)
  | event (happened : Event) (spans : List String)
  deriving DecidableEq, Repr

/-- The entry, seen from inside one more span. -/
def Entry.inside (name : String) : Entry → Entry
  | .opened level inner fields => .opened level inner fields
  | .event happened spans => .event happened (name :: spans)

/-- A span around a row of entries. -/
def inSpan (level : Level) (name : String) (fields : Fields) (entries : List Entry) : List Entry :=
  .opened level name fields :: entries.map (Entry.inside name)

/-- An event outside all spans. -/
def Event.alone (happened : Event) : Entry :=
  .event happened []

namespace Trace

/-- The values that name a position. -/
def positionFields (position : Position) : Fields :=
  [("line", toString position.line), ("column", toString position.column)]

/-- The event of a report. -/
def reportEvent (report : Diagnostic) : Event :=
  ⟨.warn, report.message, (report.position.map positionFields).getD []⟩

/-- What a stage has written down so far: the events that an observer sees, and the reports that are
kept for the caller. -/
structure Findings where
  events : List Event
  reports : List Diagnostic

namespace Findings

/-- Nothing so far. -/
def empty : Findings := ⟨[], []⟩

/-- Shows an event to the observer. -/
def log (found : Findings) (happened : Event) : Findings :=
  { found with events := found.events ++ [happened] }

/-- Keeps a report for the caller. -/
def keep (found : Findings) (report : Diagnostic) : Findings :=
  { found with reports := found.reports ++ [report] }

/-- Notes a problem: its message is logged as a warning, then the report is kept. -/
def note (found : Findings) (report : Diagnostic) : Findings :=
  let warned := found.log
    ⟨.warn, report.message, (report.position.map positionFields).getD []⟩
  warned.keep report

end Findings

/-! ## Scanning -/

/-- The event of an arrow head that starts no operator. -/
def arrowHeadEvent (arrowHead : List Char) (position : Position) : Event :=
  let message :=
    if arrowHead = ['<', '|'] then "Ignoring incomplete '<|' operator" else "Ignoring '<'"
  ⟨.trace, message, positionFields position⟩

/-- Scanning on its way through the tiles. -/
structure Scanning where
  found : Findings
  tokens : List Token

namespace Scanning

/-- Before the first tile. -/
def start : Scanning := ⟨.empty, []⟩

/-- Logs an event. -/
def log (state : Scanning) (happened : Event) : Scanning :=
  { state with found := state.found.log happened }

/-- Logs a token, then keeps it. -/
def push (state : Scanning) (token : Token) : Scanning :=
  let logged := state.log
    ⟨.trace, "Token",
      [("kind", token.kind.name), ("lexeme", token.lexeme)] ++ positionFields token.position⟩
  { logged with tokens := logged.tokens ++ [token] }

/-- Reads the next tile: a token is kept, a problem is noted, and an arrow head that starts no
operator is logged only. -/
def readTile (state : Scanning) (placed : PlacedTile) : Scanning :=
  match placed.tile with
  | .token kind lexeme => state.push ⟨kind, String.ofList lexeme, placed.position⟩
  | .dropped arrowHead => state.log (arrowHeadEvent arrowHead placed.position)
  | .unexpected c =>
    { state with found := state.found.note (.unexpectedCharacter c placed.position) }
  | .unterminated _ => { state with found := state.found.note (.unterminatedString placed.position) }
  | .spacing _ | .comment _ => state

/-- Reads tiles one after the other. -/
def readTiles (state : Scanning) (row : List PlacedTile) : Scanning :=
  row.foldl readTile state

/-- Behind the last tile of a source. -/
def ofSource (source : String) : Scanning :=
  start.readTiles (placedTiles source)

end Scanning

/-- The events of scanning. -/
def scanEvents (source : String) : List Event :=
  let state := Scanning.ofSource source
  -- The end of input is a token that is not logged.
  let tokens := state.tokens ++ [endToken source]
  state.found.events ++
    [⟨.debug, "Scanning completed",
      [("token_count", toString tokens.length),
        ("diagnostic_count", toString state.found.reports.length)]⟩]

/-- The trace of scanning. -/
def ofScan (source : String) : List Entry :=
  inSpan .debug "scan" [("input_len", toString source.length)]
    ((scanEvents source).map Event.alone)

/-! ## Parsing -/

/-- The event of a member. -/
def memberEvent (className : String) : Member → Event
  | .ofAttribute declared =>
    ⟨.trace, "Attribute", [("class", className), ("attribute", declared.name)]⟩
  | .ofMethod declared => ⟨.trace, "Method", [("class", className), ("method", declared.name)]⟩

/-- The events of a class: its head and its members. -/
def classEvents (declared : ClassDeclaration) : List Event :=
  ⟨.trace, "Class declaration",
    [("class", declared.name), ("is_abstract", toString declared.isAbstract)]⟩ ::
    declared.members.map (memberEvent declared.name)

/-- The event of a title that replaces the one in effect. -/
def replacementEvents (previous : Option String) (text : String) : List Event :=
  match previous with
  | some previous =>
    [⟨.debug, "Replacing diagram title", [("previous", previous), ("title", text)]⟩]
  | none => []

/-- The events of declarations, where `title` is the title in effect before them. -/
def declarationEvents (title : Option String) : List Declaration → List Event
  | [] => []
  | .ofClass declared :: rest => classEvents declared ++ declarationEvents title rest
  | .ofRelationship declared :: rest =>
    ⟨.trace, "Relationship", [("relationship", declared.text), ("label", declared.label)]⟩ ::
      declarationEvents title rest
  | .ofTitle text :: rest =>
    replacementEvents title text ++ declarationEvents (titleInEffect (some text)) rest
  | .unrecognized token :: rest =>
    reportEvent (.unrecognizedDeclaration token) :: declarationEvents title rest

/-- The events at the end of parsing. -/
def endingEvents (tokens : List Token) (reading : Step) : List Event :=
  match reading.outcome with
  | .error obstacle =>
    let error := obstacle.error (firstEnd tokens)
    [⟨.error, error.message, positionFields error.position⟩]
  | .ok trailing =>
    let parsed := Parsed.ofReading reading.read trailing
    (trailingReports trailing).map reportEvent ++
      [⟨.debug, "Parsing completed",
        [("classes", toString parsed.diagram.classes.length),
          ("relationships", toString parsed.diagram.relationships.length),
          ("diagnostics", toString parsed.diagnostics.length)]⟩]

/-- The events of parsing. -/
def parseEvents (tokens : List Token) : List Event :=
  let reading := readDocument (beforeEnd tokens)
  declarationEvents none reading.read ++ endingEvents tokens reading

/-- The trace of parsing. -/
def ofParse (tokens : List Token) : List Entry :=
  inSpan .debug "parse" [("token_count", toString tokens.length)]
    ((parseEvents tokens).map Event.alone)

/-! ## Validation, layout and rendering -/

/-- The size of a diagram. -/
def sizeFields (diagram : Diagram) : Fields :=
  [("classes", toString diagram.classes.length),
    ("relationships", toString diagram.relationships.length)]

/-- Validation on its way through the diagram, with the names that are taken. -/
structure Validating where
  found : Findings
  declared : List String

namespace Validating

/-- Before the first class. -/
def start : Validating := ⟨.empty, []⟩

/-- Checks a class: its name must be free, and is taken from then on. -/
def checkClass (state : Validating) (node : ClassNode) : Validating :=
  if state.declared.contains node.name then
    { state with found := state.found.note (.duplicateClass node.name) }
  else { state with declared := node.name :: state.declared }

/-- Checks an end of a relationship: it must be the name of a class. -/
def checkEndpoint (relationship : Relationship) (state : Validating) (name : String) : Validating :=
  if state.declared.contains name then state
  else { state with found := state.found.note (.undefinedClass relationship name) }

/-- Checks both ends of a relationship, the source first. -/
def checkRelationship (state : Validating) (relationship : Relationship) : Validating :=
  relationship.endpoints.foldl (checkEndpoint relationship) state

/-- Checks all classes, then all relationships. -/
def checkDiagram (state : Validating) (diagram : Diagram) : Validating :=
  diagram.relationships.foldl checkRelationship (diagram.classes.foldl checkClass state)

end Validating

/-- The events of validating. -/
def validateEvents (diagram : Diagram) : List Event :=
  let found := (Validating.start.checkDiagram diagram).found
  found.events ++
    [⟨.debug, "Validation completed", [("diagnostics", toString found.reports.length)]⟩]

/-- The trace of validating. -/
def ofValidate (diagram : Diagram) : List Entry :=
  inSpan .debug "validate" (sizeFields diagram)
    ((validateEvents diagram).map Event.alone)

/-- The event of a placed box. -/
def boxEvent (box : ClassBox) : Event :=
  ⟨.trace, "Placed class",
    [("class", box.name), ("x", Decimal.ofFloat box.x.toFloat),
      ("y", Decimal.ofFloat box.y.toFloat), ("connections", toString box.connections)]⟩

/-- The event of a relationship that has no route. -/
def skippedEvent? (boxes : List ClassBox) (relationship : Relationship) : Option Event :=
  if (route? boxes relationship).isSome then none
  else
    some ⟨.trace, "Skipping relationship with undeclared endpoint",
      [("relationship", relationship.text)]⟩

/-- The events of a layout. -/
def layoutEvents (diagram : Diagram) (layout : Layout) : List Event :=
  layout.boxes.map boxEvent ++
    diagram.relationships.filterMap (skippedEvent? layout.boxes) ++
    [⟨.debug, "Layout completed",
      [("classes", toString layout.boxes.length),
        ("relationships", toString layout.routes.length)]⟩]

/-- The trace of laying out. -/
def ofLayout (geometry : Geometry) (diagram : Diagram) : List Entry :=
  inSpan .debug "layout" [("classes", toString diagram.classes.length)]
    (match geometry.layout diagram with
      | .ok layout => (layoutEvents diagram layout).map Event.alone
      | .error _ => [])

/-- The trace of rendering. -/
def ofRender (geometry : Geometry) (diagram : Diagram) : List Entry :=
  inSpan .info "render" (sizeFields diagram)
    (ofLayout geometry diagram ++
      match geometry.render diagram with
      | .ok svg =>
        [Event.alone ⟨.debug, "SVG rendering completed",
          [("output_len", toString svg.utf8ByteSize)]⟩]
      | .error _ => [])

/-! ## The whole run -/

/-- The events that judge a checked diagram. -/
def verdictEvents (strict : Bool) (compilation : Compilation) : List Event :=
  let count := compilation.semanticCount
  let countFields : Fields := [("count", toString count)]
  let completed : Event :=
    ⟨.debug, "Compilation completed",
      sizeFields compilation.diagram ++
        [("diagnostics", toString compilation.diagnostics.length)]⟩
  if count = 0 then [completed]
  else if strict then [⟨.warn, "Rejecting diagram in strict mode", countFields⟩]
  else [⟨.warn, "Proceeding despite semantic diagnostics", countFields⟩, completed]

/-- The number of bytes of a source. -/
def sizeField (source : String) : Fields :=
  [("input_len", toString source.utf8ByteSize)]

/-- The trace of compiling. -/
def ofCompile (strict : Bool) (source : String) : List Entry :=
  inSpan .info "compile" (sizeField source)
    (ofScan source ++ ofParse (scan source).tokens ++
      match check source with
      | .error _ => []
      | .ok compilation =>
        ofValidate compilation.diagram ++ (verdictEvents strict compilation).map Event.alone)

/-- The trace of a run to its end. -/
def ofProcess (geometry : Geometry) (strict : Bool) (source : String) : List Entry :=
  inSpan .info "process_diagram" (sizeField source)
    ([Event.alone ⟨.info, "Starting diagram processing pipeline", []⟩] ++
      ofCompile strict source ++
      (match compile strict source with
        | .error _ => []
        | .ok compilation => ofRender geometry compilation.diagram) ++
      match process geometry strict source with
      | .error _ => []
      | .ok _ => [Event.alone ⟨.info, "Pipeline completed successfully", []⟩])

end Trace

end ClassChart
