import ClassChart.Compilation
import ClassChart.Proofs.Obstacles

/-! The verdict on a source. A syntax error comes before everything else, problems with a diagram
count in a strict run only, and a canvas that cannot be drawn on is the last thing to fail. Every
report belongs to the stage that made it, so the stages can be told apart in the joint list. -/
namespace ClassChart

/-! ## Reports by stage -/

theorem scan_reports_stage (source : String) :
    ∀ report ∈ (scan source).diagnostics, report.stage = .lexical := by
  intro report member
  obtain ⟨placed, -, shows⟩ := List.mem_filterMap.mp member
  rcases PlacedTile.diagnostic?_eq_some_iff.mp shows with ⟨c, -, rfl⟩ | ⟨body, -, rfl⟩ <;> rfl

theorem parse_reports_stage (read : parse tokens = .ok parsed) :
    ∀ report ∈ parsed.diagnostics, report.stage = .syntactic := by
  intro report member
  cases outcome : (readDocument (beforeEnd tokens)).outcome with
  | error obstacle =>
    rw [Grammar.parse_of_obstacle outcome] at read
    cases read
  | ok trailing =>
    rw [Grammar.parse_of_trailing outcome] at read
    cases read
    rw [Diagnostic.stage]
    rcases List.mem_append.mp member with skipped | behind
    · rw [Grammar.unrecognized_reports_kind _ report skipped]
      rfl
    · rw [Grammar.trailing_reports_kind _ report behind]
      rfl

theorem validate_reports_stage (diagram : Diagram) :
    ∀ report ∈ diagram.validate, report.stage = .semantic := by
  intro report member
  rcases List.mem_append.mp member with repeated | undefined
  · obtain ⟨name, -, rfl⟩ := List.mem_map.mp repeated
    rfl
  · obtain ⟨relationship, -, dangling⟩ := List.mem_flatMap.mp undefined
    obtain ⟨name, -, rfl⟩ := List.mem_map.mp dangling
    rfl

private theorem filter_stage_same {reports : List Diagnostic}
    (all : ∀ report ∈ reports, report.stage = stage) :
    reports.filter (·.stage = stage) = reports := by
  rw [List.filter_eq_self]
  simpa using all

private theorem filter_stage_other {reports : List Diagnostic}
    (all : ∀ report ∈ reports, report.stage = stage) (other : stage ≠ wanted) :
    reports.filter (·.stage = wanted) = [] := by
  rw [List.filter_eq_nil_iff]
  intro report member
  simp [all report member, other]

/-- The reports of a compilation, told apart by stage. -/
structure Staged (compilation : Compilation) (ofScan ofParse ofValidation : List Diagnostic) :
    Prop where
  lexical : compilation.diagnosticsAt .lexical = ofScan
  syntactic : compilation.diagnosticsAt .syntactic = ofParse
  semantic : compilation.diagnosticsAt .semantic = ofValidation

/-- The compilation of a source that parses: the reports of the stages one after the other. -/
def checked (source : String) (parsed : Parsed) : Compilation where
  diagram := parsed.diagram
  diagnostics := (scan source).diagnostics ++ parsed.diagnostics ++ parsed.diagram.validate
  svg := none

theorem checked_staged (read : parse (scan source).tokens = .ok parsed) (svg : Option String) :
    Staged { checked source parsed with svg := svg }
      (scan source).diagnostics parsed.diagnostics parsed.diagram.validate := by
  have lexical := scan_reports_stage source
  have syntactic := parse_reports_stage read
  have semantic := validate_reports_stage parsed.diagram
  constructor <;> rw [Compilation.diagnosticsAt, checked, List.filter_append, List.filter_append]
  · rw [filter_stage_same lexical, filter_stage_other syntactic (by decide),
      filter_stage_other semantic (by decide), List.append_nil, List.append_nil]
  · rw [filter_stage_other lexical (by decide), filter_stage_same syntactic,
      filter_stage_other semantic (by decide), List.nil_append, List.append_nil]
  · rw [filter_stage_other lexical (by decide), filter_stage_other syntactic (by decide),
      filter_stage_same semantic, List.nil_append, List.nil_append]

theorem checked_semantic_count (read : parse (scan source).tokens = .ok parsed) :
    (checked source parsed).semanticCount = parsed.diagram.validate.length :=
  congrArg List.length (checked_staged read none).semantic

/-! ## Compiling -/

theorem check_of_parse (read : parse (scan source).tokens = .ok parsed) :
    check source = .ok (checked source parsed) := by
  rw [check, read]
  rfl

theorem check_of_error (failed : parse (scan source).tokens = .error error) :
    check source = .error error := by
  rw [check, failed]
  rfl

/-- A strict run does not accept a diagram with problems. -/
def Rejects (strict : Bool) (diagram : Diagram) : Prop :=
  strict = true ∧ diagram.validate ≠ []

theorem lenient_accepts (diagram : Diagram) : ¬ Rejects false diagram := by
  simp [Rejects]

/-- What a strict run accepts has no problems. -/
theorem strict_accepts (accepts : ¬ Rejects true diagram) : diagram.validate = [] := by
  simpa [Rejects] using accepts

theorem compile_of_rejection (read : parse (scan source).tokens = .ok parsed)
    (rejects : Rejects strict parsed.diagram) :
    compile strict source = .error (.rejected parsed.diagram.validate.length) := by
  obtain ⟨rfl, problems⟩ := rejects
  have counted := List.length_pos_iff.mpr problems
  rw [compile, check_of_parse read]
  simp [checked_semantic_count read, counted]

theorem compile_of_acceptance (read : parse (scan source).tokens = .ok parsed)
    (accepts : ¬ Rejects strict parsed.diagram) :
    compile strict source = .ok (checked source parsed) := by
  have harmless : (strict && 0 < (checked source parsed).semanticCount) = false := by
    rw [checked_semantic_count read]
    simpa [Rejects, List.length_pos_iff] using accepts
  rw [compile, check_of_parse read]
  simp [harmless]

theorem compile_of_error (failed : parse (scan source).tokens = .error error) :
    compile strict source = .error (.malformed error) := by
  rw [compile, check_of_error failed]

/-! ## Drawing -/

/-- A canvas without width or height, or one for boxes without width. -/
def Degenerate (geometry : Geometry) : Prop :=
  geometry.width = 0 ∨ geometry.height = 0 ∨ geometry.boxWidth = 0

theorem refusal_of_degenerate (degenerate : Degenerate geometry) :
    ∃ refusal, geometry.refusal? = some refusal := by
  unfold Geometry.refusal?
  by_cases empty : geometry.width = 0 ∨ geometry.height = 0
  · exact ⟨.emptyCanvas geometry.width geometry.height, by simp [empty]⟩
  · have flat : geometry.boxWidth = 0 := by
      rcases degenerate with noWidth | noHeight | flat
      · exact absurd (.inl noWidth) empty
      · exact absurd (.inr noHeight) empty
      · exact flat
    exact ⟨.emptyBox, by simp [empty, flat]⟩

theorem no_refusal_of_sound (sound : ¬ Degenerate geometry) : geometry.refusal? = none := by
  simp only [Degenerate, not_or] at sound
  obtain ⟨width, height, box⟩ := sound
  simp [Geometry.refusal?, width, height, box]

theorem render_of_degenerate (degenerate : Degenerate geometry) (diagram : Diagram) :
    ∃ refusal, geometry.render diagram = .error refusal := by
  obtain ⟨refusal, refused⟩ := refusal_of_degenerate degenerate
  exact ⟨refusal, by rw [Geometry.render, Geometry.layout, refused]; rfl⟩

/-- On every other canvas every diagram is drawn. -/
theorem render_of_sound (sound : ¬ Degenerate geometry) (diagram : Diagram) :
    ∃ svg, geometry.render diagram = .ok svg := by
  rw [Geometry.render, Geometry.layout, no_refusal_of_sound sound]
  exact ⟨_, rfl⟩

theorem standard_is_sound : ¬ Degenerate .standard := by
  simp [Degenerate, Geometry.standard]

theorem process_of_failure (geometry : Geometry) (failed : compile strict source = .error reason) :
    process geometry strict source = .error reason := by
  rw [process, failed]
  rfl

theorem process_of_refusal (compiled : compile strict source = .ok compilation)
    (refused : geometry.render compilation.diagram = .error refusal) :
    process geometry strict source = .error (.layout refusal.reason) := by
  have failed : geometry.draw compilation.diagram = .error (.known (.layout refusal.reason)) := by
    rw [Geometry.draw, refused]
    rfl
  rw [process, compiled]
  simp [bind, Except.bind, failed, Except.mapError, RenderError.failure]

theorem process_of_drawing (compiled : compile strict source = .ok compilation)
    (drawn : geometry.render compilation.diagram = .ok svg) :
    process geometry strict source = .ok { compilation with svg := some svg } := by
  have answered : geometry.draw compilation.diagram = .ok svg := by
    rw [Geometry.draw, drawn]
    rfl
  rw [process, compiled]
  simp [bind, Except.bind, answered, Except.mapError, pure, Except.pure]

/-- The ways in which a run can end, with what leads to each of them. -/
inductive Ends (geometry : Geometry) (strict : Bool) (source : String) :
    Except Failure Compilation → Prop where
  | malformed (failed : parse (scan source).tokens = .error error) :
      Ends geometry strict source (.error (.malformed error))
  | rejected (read : parse (scan source).tokens = .ok parsed)
      (rejects : Rejects strict parsed.diagram) :
      Ends geometry strict source (.error (.rejected parsed.diagram.validate.length))
  | refused (read : parse (scan source).tokens = .ok parsed)
      (accepts : ¬ Rejects strict parsed.diagram)
      (refused : geometry.render parsed.diagram = .error refusal) :
      Ends geometry strict source (.error (.layout refusal.reason))
  | drawn (read : parse (scan source).tokens = .ok parsed)
      (accepts : ¬ Rejects strict parsed.diagram)
      (drawn : geometry.render parsed.diagram = .ok svg) :
      Ends geometry strict source (.ok { checked source parsed with svg := some svg })

theorem process_ends (geometry : Geometry) (strict : Bool) (source : String) :
    Ends geometry strict source (process geometry strict source) := by
  cases read : parse (scan source).tokens with
  | error error =>
    rw [process_of_failure geometry (compile_of_error read)]
    exact .malformed read
  | ok parsed =>
    by_cases rejects : Rejects strict parsed.diagram
    · rw [process_of_failure geometry (compile_of_rejection read rejects)]
      exact .rejected read rejects
    · have compiled := compile_of_acceptance read rejects
      cases drawn : geometry.render parsed.diagram with
      | error refusal =>
        rw [process_of_refusal compiled drawn]
        exact .refused read rejects drawn
      | ok svg =>
        rw [process_of_drawing compiled drawn]
        exact .drawn read rejects drawn

/-- A full run that ends well has a drawing. -/
theorem drawing_of_process (processed : process geometry strict source = .ok compilation) :
    ∃ svg, compilation.svg = some svg := by
  have ends := process_ends geometry strict source
  rw [processed] at ends
  cases ends with
  | drawn read accepts drawn => exact ⟨_, rfl⟩

/-! ## Verdicts -/

/-- Every entry point fails with the same syntax error. -/
structure FailsWith (geometry : Geometry) (strict : Bool) (source : String) (error : SyntaxError) :
    Prop where
  compiles : compile strict source = .error (.malformed error)
  processes : process geometry strict source = .error (.malformed error)
  reads : readDiagram source = .error (.malformed error)
  compilesLeniently : compile false source = .error (.malformed error)
  draws : drawSource source = .error (.malformed error)

/-- What the entry points make of a source that parses. Only a strict run rejects, with the number
of problems; what is not rejected compiles, and a full run then fails on a degenerate canvas only. -/
structure Decides (geometry : Geometry) (strict : Bool) (source : String) (parsed : Parsed) :
    Prop where
  compileRejects : ∀ count, compile strict source = .error (.rejected count) ↔
    Rejects strict parsed.diagram ∧ count = parsed.diagram.validate.length
  processRejects : ∀ count, process geometry strict source = .error (.rejected count) ↔
    Rejects strict parsed.diagram ∧ count = parsed.diagram.validate.length
  compiles : ¬ Rejects strict parsed.diagram → compile strict source = .ok (checked source parsed)
  refuses : ¬ Rejects strict parsed.diagram →
    ((∃ reason, process geometry strict source = .error (.layout reason)) ↔ Degenerate geometry)
  processes : ¬ Rejects strict parsed.diagram → ¬ Degenerate geometry →
    ∃ svg, geometry.render parsed.diagram = .ok svg ∧
      process geometry strict source = .ok { checked source parsed with svg := some svg }
  reads : readDiagram source = .ok parsed.diagram
  compilesLeniently : compile false source = .ok (checked source parsed)
  draws : ∃ svg, Geometry.standard.render parsed.diagram = .ok svg ∧ drawSource source = .ok svg
  staged : ∀ compilation, compile strict source = .ok compilation ∨
      process geometry strict source = .ok compilation →
    Staged compilation (scan source).diagnostics parsed.diagnostics parsed.diagram.validate

theorem fails_with (failed : parse (scan source).tokens = .error error) :
    FailsWith geometry strict source error where
  compiles := compile_of_error failed
  processes := process_of_failure _ (compile_of_error failed)
  reads := by rw [readDiagram, failed]
  compilesLeniently := compile_of_error failed
  draws := by
    rw [drawSource, process_of_failure _ (compile_of_error failed)]
    rfl

section Parses
variable {source : String} {parsed : Parsed} (read : parse (scan source).tokens = .ok parsed)
include read

theorem compile_rejects_iff (strict : Bool) (count : Nat) :
    compile strict source = .error (.rejected count) ↔
      Rejects strict parsed.diagram ∧ count = parsed.diagram.validate.length := by
  by_cases rejects : Rejects strict parsed.diagram
  · simp [compile_of_rejection read rejects, rejects, eq_comm]
  · simp [compile_of_acceptance read rejects, rejects]

theorem process_refuses (accepts : ¬ Rejects strict parsed.diagram)
    (degenerate : Degenerate geometry) :
    ∃ reason, process geometry strict source = .error (.layout reason) := by
  obtain ⟨refusal, refused⟩ := render_of_degenerate degenerate parsed.diagram
  exact ⟨refusal.reason, process_of_refusal (compile_of_acceptance read accepts) refused⟩

theorem process_draws (accepts : ¬ Rejects strict parsed.diagram) (sound : ¬ Degenerate geometry) :
    ∃ svg, geometry.render parsed.diagram = .ok svg ∧
      process geometry strict source = .ok { checked source parsed with svg := some svg } := by
  obtain ⟨svg, drawn⟩ := render_of_sound sound parsed.diagram
  exact ⟨svg, drawn, process_of_drawing (compile_of_acceptance read accepts) drawn⟩

theorem process_rejects_iff (geometry : Geometry) (strict : Bool) (count : Nat) :
    process geometry strict source = .error (.rejected count) ↔
      Rejects strict parsed.diagram ∧ count = parsed.diagram.validate.length := by
  by_cases rejects : Rejects strict parsed.diagram
  · have processed := process_of_failure geometry (compile_of_rejection read rejects)
    simp [processed, rejects, eq_comm]
  · by_cases degenerate : Degenerate geometry
    · obtain ⟨reason, refused⟩ := process_refuses read rejects degenerate
      simp [refused, rejects]
    · obtain ⟨svg, -, drawn⟩ := process_draws read rejects degenerate
      simp [drawn, rejects]

theorem process_refuses_iff (accepts : ¬ Rejects strict parsed.diagram) :
    (∃ reason, process geometry strict source = .error (.layout reason)) ↔ Degenerate geometry := by
  constructor
  · rintro ⟨reason, refused⟩
    by_contra sound
    obtain ⟨svg, -, drawn⟩ := process_draws read accepts sound
    rw [drawn] at refused
    cases refused
  · exact process_refuses read accepts

theorem draw_of_parse :
    ∃ svg, Geometry.standard.render parsed.diagram = .ok svg ∧ drawSource source = .ok svg := by
  obtain ⟨svg, drawn, processed⟩ := process_draws read (lenient_accepts _) standard_is_sound
  refine ⟨svg, drawn, ?_⟩
  rw [drawSource, processed]
  rfl

/-- Whatever an entry point returns has the reports of each stage. -/
theorem returned_staged (returned : compile strict source = .ok compilation ∨
      process geometry strict source = .ok compilation) :
    Staged compilation (scan source).diagnostics parsed.diagnostics parsed.diagram.validate := by
  by_cases rejects : Rejects strict parsed.diagram
  · have rejected := compile_of_rejection read rejects
    rw [process_of_failure _ rejected, rejected] at returned
    rcases returned with returned | returned <;> cases returned
  · rcases returned with compiled | processed
    · rw [compile_of_acceptance read rejects] at compiled
      cases compiled
      exact checked_staged read none
    · by_cases degenerate : Degenerate geometry
      · obtain ⟨reason, refused⟩ := process_refuses read rejects degenerate
        rw [refused] at processed
        cases processed
      · obtain ⟨svg, -, drawn⟩ := process_draws read rejects degenerate
        rw [drawn] at processed
        cases processed
        exact checked_staged read (some svg)

theorem decides (geometry : Geometry) (strict : Bool) : Decides geometry strict source parsed where
  compileRejects := compile_rejects_iff read strict
  processRejects := process_rejects_iff read geometry strict
  compiles := compile_of_acceptance read
  refuses := process_refuses_iff read
  processes := process_draws read
  reads := by rw [readDiagram, read]
  compilesLeniently := compile_of_acceptance read (lenient_accepts _)
  draws := draw_of_parse read
  staged _ := returned_staged read

end Parses

/-- Every entry point answers by the same table: the syntax error of a source that does not parse,
and otherwise a rejection, a refused canvas or the drawing, in this order. -/
theorem entry_points_agree (geometry : Geometry) (strict : Bool) (source : String) :
    (∀ error, parse (scan source).tokens = .error error → FailsWith geometry strict source error) ∧
      (∀ parsed, parse (scan source).tokens = .ok parsed → Decides geometry strict source parsed) ∧
      ((∃ svg, drawSource source = .ok svg) ↔ ∃ diagram, readDiagram source = .ok diagram) := by
  refine ⟨fun error failed => fails_with failed, fun parsed read => decides read geometry strict, ?_⟩
  cases read : parse (scan source).tokens with
  | error error =>
    have fails : FailsWith geometry strict source error := fails_with read
    simp [fails.draws, fails.reads]
  | ok parsed =>
    have decided := decides read geometry strict
    obtain ⟨svg, -, drawn⟩ := decided.draws
    simp [drawn, decided.reads]

/-- A source with a problem for every stage. -/
def troubled : String := "@startuml\nclass A ?\nclass A )\nA --> Ghost\n@enduml"

def troubledParsed : Parsed where
  diagram := ⟨none, [.empty "A", .empty "A"], [⟨"A", "Ghost", .association, ""⟩]⟩
  diagnostics := [.unrecognizedDeclaration ⟨.closeParen, ")", ⟨3, 9⟩⟩]

/-- A strict run rejects it before it looks at the canvas, and only a lenient run sees that the
canvas is empty; the reports of a lenient run fall apart by stage. -/
theorem rejection_comes_before_refusal :
    process (Geometry.standard.withSize 0 0) true troubled = .error (.rejected 2) ∧
      (∃ reason, process (Geometry.standard.withSize 0 0) false troubled = .error (.layout reason)) ∧
      (∃ svg, process .standard false troubled =
        .ok { checked troubled troubledParsed with svg := some svg }) ∧
      (∃ svg, drawSource troubled = .ok svg) ∧
      Staged (checked troubled troubledParsed) [.unexpectedCharacter '?' ⟨2, 9⟩]
        [.unrecognizedDeclaration ⟨.closeParen, ")", ⟨3, 9⟩⟩]
        [.duplicateClass "A", .undefinedClass ⟨"A", "Ghost", .association, ""⟩ "Ghost"] := by
  have read : parse (scan troubled).tokens = .ok troubledParsed := by decide +kernel
  have lexical : (scan troubled).diagnostics = [.unexpectedCharacter '?' ⟨2, 9⟩] := by decide +kernel
  have problems : troubledParsed.diagram.validate =
      [.duplicateClass "A", .undefinedClass ⟨"A", "Ghost", .association, ""⟩ "Ghost"] := by
    decide +kernel
  have lenient := lenient_accepts troubledParsed.diagram
  have empty : Degenerate (Geometry.standard.withSize 0 0) := .inl rfl
  obtain ⟨-, strictly, drawn⟩ := entry_points_agree (Geometry.standard.withSize 0 0) true troubled
  obtain ⟨-, leniently, -⟩ := entry_points_agree (Geometry.standard.withSize 0 0) false troubled
  obtain ⟨-, usually, -⟩ := entry_points_agree .standard false troubled
  obtain ⟨svg, -, processed⟩ := (usually _ read).processes lenient standard_is_sound
  have staged := (usually _ read).staged _ (.inl ((usually _ read).compiles lenient))
  rw [lexical, problems] at staged
  refine ⟨?_, ?_, ⟨svg, processed⟩, ?_, staged⟩
  · exact ((strictly _ read).processRejects 2).mpr ⟨⟨rfl, by simp [problems]⟩, by simp [problems]⟩
  · exact ((leniently _ read).refuses lenient).mpr empty
  · exact drawn.mpr ⟨_, (usually _ read).reads⟩

end ClassChart
