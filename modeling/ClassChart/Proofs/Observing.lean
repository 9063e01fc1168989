import ClassChart.Proofs.BreakingOff
import ClassChart.Proofs.Findings
import ClassChart.Proofs.Verdicts

/-! What an observer of a run gets to see. The reports that the caller receives are the warnings of
the trace, stage by stage, and of a run that breaks off in parsing the observer sees what had been
found until then. The error of such a run is the only one in its trace, and the tokens of the source
are all there. -/
namespace ClassChart.Trace

open Grammar (FoundBefore reportsFound)

/-! ## Looking at a trace -/

/-- An event, and the names of the spans around it. -/
abbrev Sighting := Event × List String

/-- The event of an entry, if it is wanted. -/
def sighting? (wanted : Event → Bool) : Entry → Option Sighting
  | .opened .. => none
  | .event happened spans => if wanted happened then some (happened, spans) else none

/-- The wanted events of a trace, in order. -/
def seen (wanted : Event → Bool) (entries : List Entry) : List Sighting :=
  entries.filterMap (sighting? wanted)

/-- Events that happen inside these spans. -/
def within (spans : List String) (events : List Event) : List Sighting :=
  events.map fun happened => (happened, spans)

/-- The sighting, with one more span around it. -/
def Sighting.inside (name : String) (sighting : Sighting) : Sighting :=
  (sighting.1, name :: sighting.2)

/-- The names of the spans that a trace opens, in order. -/
def spansOpened (entries : List Entry) : List String :=
  entries.filterMap fun
    | .opened _ name _ => some name
    | .event .. => none

section Looking
variable {wanted : Event → Bool}

theorem seen_append (front back : List Entry) :
    seen wanted (front ++ back) = seen wanted front ++ seen wanted back :=
  List.filterMap_append

theorem seen_alone (events : List Event) :
    seen wanted (events.map Event.alone) = within [] (events.filter wanted) := by
  induction events with
  | nil => rfl
  | cons event events ih =>
    rw [seen, within] at ih
    by_cases sought : wanted event <;> simp [seen, within, Event.alone, sighting?, sought, ih]

/-- A span is seen as the outermost one around the events inside it. -/
theorem seen_in_span (level : Level) (name : String) (fields : Fields) (entries : List Entry) :
    seen wanted (inSpan level name fields entries) =
      (seen wanted entries).map (Sighting.inside name) := by
  rw [seen, seen, inSpan, List.filterMap_cons, List.filterMap_map, List.map_filterMap]
  refine List.filterMap_congr fun entry _ => ?_
  cases entry with
  | opened level inner values => rfl
  | event happened spans =>
    by_cases sought : wanted happened <;>
      simp [Entry.inside, sighting?, Sighting.inside, sought]

theorem within_in_span (name : String) (spans : List String) (events : List Event) :
    (within spans events).map (Sighting.inside name) = within (name :: spans) events := by
  rw [within, List.map_map]
  rfl

/-- A stage that has all its events in one span. -/
theorem seen_stage (level : Level) (name : String) (fields : Fields) (events : List Event) :
    seen wanted (inSpan level name fields (events.map Event.alone)) =
      within [name] (events.filter wanted) := by
  rw [seen_in_span, seen_alone, within_in_span]

end Looking

/-! ## Events of no consequence -/

/-- The event tells only how the work goes on. -/
def Ordinary (happened : Event) : Prop :=
  happened.level ∈ [Level.trace, .debug, .info] ∧ happened.message ≠ "Token"

/-- No ordinary event is wanted. -/
def Overlooks (wanted : Event → Bool) : Prop :=
  ∀ happened, Ordinary happened → wanted happened = false

theorem warnings_overlook : Overlooks isWarning := by
  rintro ⟨level, message, fields⟩ ⟨low, -⟩
  cases level <;> simp_all [isWarning]

theorem errors_overlook : Overlooks isError := by
  rintro ⟨level, message, fields⟩ ⟨low, -⟩
  cases level <;> simp_all [isError]

theorem tokens_overlook : Overlooks isToken := by
  rintro happened ⟨-, other⟩
  simp [isToken, other]

/-- Only ordinary events stand in the list. -/
def Quiet (events : List Event) : Prop :=
  ∀ happened ∈ events, Ordinary happened

theorem quiet_append (front : Quiet events) (back : Quiet others) : Quiet (events ++ others) := by
  intro happened member
  exact (List.mem_append.mp member).elim (front happened) (back happened)

theorem class_events_quiet (declared : ClassDeclaration) : Quiet (classEvents declared) := by
  intro happened member
  rcases List.mem_cons.mp member with rfl | member
  · simp [Ordinary]
  · obtain ⟨inner, -, rfl⟩ := List.mem_map.mp member
    cases inner <;> simp [Ordinary, memberEvent]

theorem replacement_events_quiet (previous : Option String) (text : String) :
    Quiet (replacementEvents previous text) := by
  cases previous <;> simp [Quiet, Ordinary, replacementEvents]

theorem layout_events_quiet (diagram : Diagram) (layout : Layout) :
    Quiet (layoutEvents diagram layout) := by
  refine quiet_append (quiet_append ?_ ?_) ?_
  · intro happened member
    obtain ⟨box, -, rfl⟩ := List.mem_map.mp member
    simp [Ordinary, boxEvent]
  · intro happened member
    obtain ⟨relationship, -, shown⟩ := List.mem_filterMap.mp member
    unfold skippedEvent? at shown
    split at shown <;> cases shown
    simp [Ordinary]
  · simp [Quiet, Ordinary]

/-- The event of an error. -/
def errorEvent (error : SyntaxError) : Event :=
  ⟨.error, error.message, positionFields error.position⟩

/-- The warning that a diagram has problems, if it has some. -/
def countEvents (strict : Bool) (count : Nat) : List Event :=
  if count = 0 then []
  else if strict then [⟨.warn, "Rejecting diagram in strict mode", [("count", toString count)]⟩]
  else [⟨.warn, "Proceeding despite semantic diagnostics", [("count", toString count)]⟩]

/-! ## The stages -/

section Stages
variable {wanted : Event → Bool} (overlooks : Overlooks wanted)
include overlooks

theorem quiet_unseen (quiet : Quiet events) : events.filter wanted = [] := by
  rw [List.filter_eq_nil_iff]
  intro happened member
  simp [overlooks happened (quiet happened member)]

theorem quiet_before (quiet : Quiet events) (later : List Event) :
    (events ++ later).filter wanted = later.filter wanted := by
  rw [List.filter_append, quiet_unseen overlooks quiet, List.nil_append]

theorem quiet_behind (quiet : Quiet events) (earlier : List Event) :
    (earlier ++ events).filter wanted = earlier.filter wanted := by
  rw [List.filter_append, quiet_unseen overlooks quiet, List.append_nil]

theorem scan_events_seen (source : String) :
    (scanEvents source).filter wanted =
      (Scanning.ofSource source).found.events.filter wanted :=
  quiet_behind overlooks (by simp [Quiet, Ordinary]) _

theorem declaration_events_seen (title : Option String) (declarations : List Declaration) :
    (declarationEvents title declarations).filter wanted =
      ((unrecognizedReports declarations).map reportEvent).filter wanted := by
  -- The title in effect changes on the way, and only ordinary events show it.
  induction declarations generalizing title with
  | nil => rfl
  | cons declaration declarations ih =>
    cases declaration with
    | ofClass declared =>
      rw [declarationEvents, quiet_before overlooks (class_events_quiet declared), ih]
      rfl
    | ofRelationship declared =>
      rw [declarationEvents, ← List.singleton_append,
        quiet_before overlooks (by simp [Quiet, Ordinary]), ih]
      rfl
    | ofTitle text =>
      rw [declarationEvents, quiet_before overlooks (replacement_events_quiet title text), ih]
      rfl
    | unrecognized token =>
      have here : unrecognizedReports (.unrecognized token :: declarations) =
        .unrecognizedDeclaration token :: unrecognizedReports declarations := rfl
      rw [declarationEvents, here, List.map_cons, List.filter_cons, List.filter_cons, ih]

theorem parse_events_of_parsed (read : parse tokens = .ok parsed) :
    (parseEvents tokens).filter wanted = (parsed.diagnostics.map reportEvent).filter wanted := by
  cases outcome : (readDocument (beforeEnd tokens)).outcome with
  | error obstacle =>
    rw [Grammar.parse_of_obstacle outcome] at read
    cases read
  | ok trailing =>
    rw [Grammar.parse_of_trailing outcome] at read
    cases read
    have ending : (endingEvents tokens (readDocument (beforeEnd tokens))).filter wanted =
        ((trailingReports trailing).map reportEvent).filter wanted := by
      simp only [endingEvents, outcome]
      exact quiet_behind overlooks (by simp [Quiet, Ordinary]) _
    rw [parseEvents, List.filter_append, declaration_events_seen overlooks, ending,
      Parsed.ofReading, List.map_append, List.filter_append]

theorem parse_events_of_error (failed : parse tokens = .error error) :
    (parseEvents tokens).filter wanted =
      ((reportsFound tokens).map reportEvent ++ [errorEvent error]).filter wanted := by
  cases outcome : (readDocument (beforeEnd tokens)).outcome with
  | ok trailing =>
    rw [Grammar.parse_of_trailing outcome] at failed
    cases failed
  | error obstacle =>
    rw [Grammar.parse_of_obstacle outcome] at failed
    cases failed
    have ending : endingEvents tokens (readDocument (beforeEnd tokens)) =
        [errorEvent (obstacle.error (firstEnd tokens))] := by
      simp only [endingEvents, outcome]
      rfl
    rw [parseEvents, List.filter_append, declaration_events_seen overlooks, ending,
      List.filter_append]
    rfl

theorem validate_events_seen (diagram : Diagram) :
    (validateEvents diagram).filter wanted = (diagram.validate.map reportEvent).filter wanted := by
  rw [validateEvents, quiet_behind overlooks (by simp [Quiet, Ordinary]), validating_tells]

theorem verdict_events_seen (strict : Bool) (compilation : Compilation) :
    (verdictEvents strict compilation).filter wanted =
      (countEvents strict compilation.semanticCount).filter wanted := by
  simp only [verdictEvents, countEvents]
  split
  case isTrue none => exact quiet_unseen overlooks (by simp [Quiet, Ordinary])
  case isFalse some =>
    cases strict with
    | true => rfl
    | false => exact quiet_behind overlooks (by simp [Quiet, Ordinary]) [_]

theorem ordinary_unseen (ordinary : Ordinary happened) : seen wanted [happened.alone] = [] := by
  simp [seen, Event.alone, sighting?, overlooks happened ordinary]

theorem render_unseen (geometry : Geometry) (diagram : Diagram) :
    seen wanted (ofRender geometry diagram) = [] := by
  have layout : seen wanted (ofLayout geometry diagram) = [] := by
    rw [ofLayout]
    cases geometry.layout diagram with
    | error refusal => rfl
    | ok layout =>
      rw [seen_stage, quiet_unseen overlooks (layout_events_quiet diagram layout)]
      rfl
  rw [ofRender, seen_in_span, seen_append, layout, List.nil_append]
  cases geometry.render diagram with
  | error refusal => rfl
  | ok svg =>
    rw [ordinary_unseen overlooks (by simp [Ordinary])]
    rfl

/-- Around compiling there is nothing to be seen. -/
theorem process_seen (geometry : Geometry) (strict : Bool) (source : String) :
    seen wanted (ofProcess geometry strict source) =
      (seen wanted (ofCompile strict source)).map (Sighting.inside "process_diagram") := by
  have starting : seen wanted
      [Event.alone ⟨.info, "Starting diagram processing pipeline", []⟩] = [] :=
    ordinary_unseen overlooks (by simp [Ordinary])
  have completed : seen wanted
      [Event.alone ⟨.info, "Pipeline completed successfully", []⟩] = [] :=
    ordinary_unseen overlooks (by simp [Ordinary])
  have nothing : seen wanted [] = [] := rfl
  rw [ofProcess, seen_in_span, seen_append, seen_append, seen_append, starting, List.nil_append]
  split <;> split <;>
    simp only [nothing, render_unseen overlooks, completed, List.append_nil]

end Stages

/-! ## Whole runs -/

theorem compile_seen (overlooks : Overlooks wanted) (strict : Bool) (source : String) :
    seen wanted (ofCompile strict source) =
      within ["compile", "scan"] ((Scanning.ofSource source).found.events.filter wanted) ++
        within ["compile", "parse"] ((parseEvents (scan source).tokens).filter wanted) ++
        match check source with
        | .error _ => []
        | .ok compilation =>
          within ["compile", "validate"]
              ((compilation.diagram.validate.map reportEvent).filter wanted) ++
            within ["compile"] ((countEvents strict compilation.semanticCount).filter wanted) := by
  rw [ofCompile, seen_in_span, seen_append, seen_append, ofScan, ofParse, seen_stage, seen_stage,
    scan_events_seen overlooks, List.map_append, List.map_append, within_in_span, within_in_span]
  congr 1
  cases check source with
  | error error => rfl
  | ok compilation =>
    simp only [seen_append, ofValidate, seen_stage, seen_alone, validate_events_seen overlooks,
      verdict_events_seen overlooks, List.map_append, within_in_span]

/-- What is seen of a run in which parsing finds these reports and errors, and validation these
problems. -/
def Emits (geometry : Geometry) (strict : Bool) (source : String) (found problems : List Diagnostic)
    (errors : List SyntaxError) : Prop :=
  ∀ wanted, Overlooks wanted → seen wanted (ofProcess geometry strict source) =
    within ["process_diagram", "compile", "scan"]
        ((Scanning.ofSource source).found.events.filter wanted) ++
      within ["process_diagram", "compile", "parse"]
        ((found.map reportEvent ++ errors.map errorEvent).filter wanted) ++
      within ["process_diagram", "compile", "validate"]
        ((problems.map reportEvent).filter wanted) ++
      within ["process_diagram", "compile"] ((countEvents strict problems.length).filter wanted)

theorem emits_of_parsed (geometry : Geometry) (strict : Bool)
    (read : parse (scan source).tokens = .ok parsed) :
    Emits geometry strict source parsed.diagnostics parsed.diagram.validate [] := by
  intro wanted overlooks
  rw [process_seen overlooks, compile_seen overlooks, check_of_parse read,
    parse_events_of_parsed overlooks read]
  simp only [checked_semantic_count read, List.map_append, within_in_span, List.map_nil,
    List.append_nil, List.append_assoc]
  rfl

theorem emits_of_error (geometry : Geometry) (strict : Bool)
    (failed : parse (scan source).tokens = .error error) :
    Emits geometry strict source (reportsFound (scan source).tokens) [] [error] := by
  intro wanted overlooks
  have nothing (spans : List String) : within spans [] = [] := rfl
  have uncounted : countEvents strict ([] : List Diagnostic).length = [] := rfl
  rw [process_seen overlooks, compile_seen overlooks, check_of_error failed,
    parse_events_of_error overlooks failed, uncounted]
  simp only [List.map_append, within_in_span, List.map_cons, List.map_nil, List.filter_nil, nothing,
    List.append_nil]

/-! ## The sorts, one by one -/

theorem scanned_warnings (source : String) :
    (Scanning.ofSource source).found.events.filter isWarning =
      (scan source).diagnostics.map reportEvent := by
  rw [(scanning_tells source).warnings, (scanning_keeps_scan source).2]

theorem scanned_tokens (source : String) :
    (Scanning.ofSource source).found.events.filter isToken =
      (scan source).tokens.dropLast.map tokenEvent := by
  rw [(scanning_tells source).tokens, (scanning_keeps_scan source).1]

/-- Reports are warnings. -/
theorem report_warnings (reports : List Diagnostic) :
    (reports.map reportEvent).filter isWarning = reports.map reportEvent ∧
      (reports.map reportEvent).filter isError = [] ∧
      (reports.map reportEvent).filter isToken = [] := by
  simp [List.filter_eq_self, List.filter_eq_nil_iff, isWarning, isError, isToken, reportEvent]

theorem error_errors (errors : List SyntaxError) :
    (errors.map errorEvent).filter isWarning = [] ∧
      (errors.map errorEvent).filter isError = errors.map errorEvent ∧
      (errors.map errorEvent).filter isToken = [] := by
  simp [List.filter_eq_self, List.filter_eq_nil_iff, isWarning, isError, isToken, errorEvent]

theorem count_warnings (strict : Bool) (count : Nat) :
    (countEvents strict count).filter isWarning = countEvents strict count ∧
      (countEvents strict count).filter isError = [] ∧
      (countEvents strict count).filter isToken = [] := by
  unfold countEvents
  split
  case isTrue => exact ⟨rfl, rfl, rfl⟩
  case isFalse => cases strict <;> exact ⟨rfl, rfl, rfl⟩

/-! ## What the caller receives -/

/-- The syntax errors that a run ends with: one or none. -/
def syntaxErrors : Except Failure Compilation → List SyntaxError
  | .error (.malformed error) => [error]
  | _ => []

/-- What an observer of a run sees, where parsing has found these reports and validation these
problems: the reports are the warnings, with one more for the number of problems; a syntax error is
the only error, and nothing is begun behind it; the tokens are there but for the end of input. -/
structure Observed (geometry : Geometry) (strict : Bool) (source : String)
    (found problems : List Diagnostic) : Prop where
  warnings : seen isWarning (ofProcess geometry strict source) =
    within ["process_diagram", "compile", "scan"] ((scan source).diagnostics.map reportEvent) ++
      within ["process_diagram", "compile", "parse"] (found.map reportEvent) ++
      within ["process_diagram", "compile", "validate"] (problems.map reportEvent) ++
      within ["process_diagram", "compile"] (countEvents strict problems.length)
  errors : seen isError (ofProcess geometry strict source) =
    within ["process_diagram", "compile", "parse"]
      ((syntaxErrors (process geometry strict source)).map errorEvent)
  tokens : seen isToken (ofProcess geometry strict source) =
    within ["process_diagram", "compile", "scan"] ((scan source).tokens.dropLast.map tokenEvent)
  stops : ∀ error, process geometry strict source = .error (.malformed error) →
    spansOpened (ofProcess geometry strict source) = ["process_diagram", "compile", "scan", "parse"]
  received : ∀ compilation, process geometry strict source = .ok compilation →
    compilation.diagnostics = (scan source).diagnostics ++ found ++ problems

theorem spans_in_span (level : Level) (name : String) (fields : Fields) (entries : List Entry) :
    spansOpened (inSpan level name fields entries) = name :: spansOpened entries := by
  rw [spansOpened, spansOpened, inSpan, List.filterMap_cons, List.filterMap_map]
  refine congrArg (name :: ·) (List.filterMap_congr fun entry _ => ?_)
  cases entry <;> rfl

theorem spans_alone (events : List Event) : spansOpened (events.map Event.alone) = [] := by
  rw [spansOpened, List.filterMap_map, List.filterMap_eq_nil_iff]
  exact fun _ _ => rfl

theorem spans_append (front back : List Entry) :
    spansOpened (front ++ back) = spansOpened front ++ spansOpened back :=
  List.filterMap_append

theorem spans_of_malformed
    (malformed : process geometry strict source = .error (.malformed error)) :
    spansOpened (ofProcess geometry strict source) =
      ["process_diagram", "compile", "scan", "parse"] := by
  have ends := process_ends geometry strict source
  rw [malformed] at ends
  cases ends with
  | malformed failed =>
    have uncompiled : compile strict source = .error (.malformed error) := compile_of_error failed
    rw [ofProcess, malformed, uncompiled, ofCompile, check_of_error failed]
    simp only [spans_in_span, spans_append, ofScan, ofParse, spans_alone, List.append_nil]
    rfl

theorem observed_of_emits (emits : Emits geometry strict source found problems errors)
    (ends : syntaxErrors (process geometry strict source) = errors)
    (received : ∀ compilation, process geometry strict source = .ok compilation →
      compilation.diagnostics = (scan source).diagnostics ++ found ++ problems) :
    Observed geometry strict source found problems := by
  subst ends
  constructor
  · rw [emits isWarning warnings_overlook, scanned_warnings, List.filter_append,
      (report_warnings found).1, (error_errors _).1, List.append_nil, (report_warnings problems).1,
      (count_warnings strict _).1]
  · rw [emits isError errors_overlook, (scanning_tells source).errors, List.filter_append,
      (report_warnings found).2.1, (error_errors _).2.1, (report_warnings problems).2.1,
      (count_warnings strict _).2.1]
    simp [within]
  · rw [emits isToken tokens_overlook, scanned_tokens, List.filter_append,
      (report_warnings found).2.2, (error_errors _).2.2, (report_warnings problems).2.2,
      (count_warnings strict _).2.2]
    simp [within]
  · exact fun error malformed => spans_of_malformed malformed
  · exact received

/-- An observer of a run sees the reports that the caller receives, and of a run that fails in
parsing those that were found before the error. -/
theorem observers_see_the_reports (geometry : Geometry) (strict : Bool) (source : String) :
    (∀ parsed, parse (scan source).tokens = .ok parsed →
        Observed geometry strict source parsed.diagnostics parsed.diagram.validate) ∧
      ∀ error, parse (scan source).tokens = .error error →
        FoundBefore (scan source).tokens error (reportsFound (scan source).tokens) ∧
          Observed geometry strict source (reportsFound (scan source).tokens) [] := by
  constructor
  · intro parsed read
    have ends := process_ends geometry strict source
    generalize outcome : process geometry strict source = result at ends
    refine observed_of_emits (emits_of_parsed geometry strict read) ?_ ?_
    · rw [outcome]
      cases ends with
      | malformed failed => rw [read] at failed; cases failed
      | rejected | refused | drawn => rfl
    · intro compilation processed
      obtain rfl := outcome.symm.trans processed
      cases ends with
      | drawn again =>
        obtain rfl := Except.ok.inj (read.symm.trans again)
        rfl
  · intro error failed
    have processed : process geometry strict source = .error (.malformed error) :=
      process_of_failure geometry (compile_of_error failed)
    refine ⟨Grammar.reports_before_error failed,
      observed_of_emits (emits_of_error geometry strict failed) ?_ ?_⟩
    · rw [processed]
      rfl
    · intro compilation returned
      rw [processed] at returned
      cases returned

/-- A source with a stray character, a skipped token and a class that breaks off. -/
def brokenClass : String := "@startuml\n) $\nclass class\n@enduml"

/-- The error at the name of the class. -/
def brokenClassError : SyntaxError where
  message := "expected class name, found 'class'"
  position := ⟨3, 7⟩

/-- The reports are seen although the caller receives the error only. -/
theorem broken_class_is_observed :
    parse (scan brokenClass).tokens = .error brokenClassError ∧
      FoundBefore (scan brokenClass).tokens brokenClassError
        [.unrecognizedDeclaration ⟨.closeParen, ")", ⟨2, 1⟩⟩] ∧
      Observed .standard true brokenClass [.unrecognizedDeclaration ⟨.closeParen, ")", ⟨2, 1⟩⟩] [] ∧
      seen isWarning (ofProcess .standard true brokenClass) =
        [(⟨.warn, "unexpected character '$'", [("line", "2"), ("column", "3")]⟩,
            ["process_diagram", "compile", "scan"]),
          (⟨.warn, "unrecognized declaration starting with ')'", [("line", "2"), ("column", "1")]⟩,
            ["process_diagram", "compile", "parse"])] := by
  have failed : parse (scan brokenClass).tokens = .error brokenClassError := by decide +kernel
  have found : reportsFound (scan brokenClass).tokens =
      [.unrecognizedDeclaration ⟨.closeParen, ")", ⟨2, 1⟩⟩] := by decide +kernel
  have observed := (observers_see_the_reports .standard true brokenClass).2 brokenClassError failed
  rw [found] at observed
  exact ⟨failed, observed.1, observed.2, by decide +kernel⟩

end ClassChart.Trace
