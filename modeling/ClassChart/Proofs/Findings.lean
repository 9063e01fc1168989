import ClassChart.Trace

/-! What the stages log and what they keep. Scanning and validating do both by separate statements on
their way, tile by tile and check by check. The tokens and reports that they keep are those of the
scan and of the validation, and no statement is forgotten: what is kept has been logged. -/
namespace ClassChart.Trace

/-! ## Sorts of events -/

/-- Warnings. -/
def isWarning (happened : Event) : Bool :=
  happened.level = .warn

/-- Errors. -/
def isError (happened : Event) : Bool :=
  happened.level = .error

/-- Tokens that scanning has found. -/
def isToken (happened : Event) : Bool :=
  happened.level = .trace && happened.message = "Token"

/-- The event of a token. -/
def tokenEvent (token : Token) : Event :=
  ⟨.trace, "Token",
    [("kind", token.kind.name), ("lexeme", token.lexeme)] ++ positionFields token.position⟩

/-! ## Scanning -/

theorem read_tile_keeps (state : Scanning) (placed : PlacedTile) :
    (state.readTile placed).tokens = state.tokens ++ placed.token?.toList ∧
      (state.readTile placed).found.reports =
        state.found.reports ++ placed.diagnostic?.toList := by
  obtain ⟨position, tile⟩ := placed
  cases tile with
  | token kind lexeme => exact ⟨rfl, (List.append_nil _).symm⟩
  | unexpected c => exact ⟨(List.append_nil _).symm, rfl⟩
  | unterminated body => exact ⟨(List.append_nil _).symm, rfl⟩
  | spacing c => exact ⟨(List.append_nil _).symm, (List.append_nil _).symm⟩
  | comment body => exact ⟨(List.append_nil _).symm, (List.append_nil _).symm⟩
  | dropped arrowHead => exact ⟨(List.append_nil _).symm, (List.append_nil _).symm⟩

theorem read_tiles_keep (state : Scanning) (row : List PlacedTile) :
    (state.readTiles row).tokens = state.tokens ++ row.filterMap PlacedTile.token? ∧
      (state.readTiles row).found.reports =
        state.found.reports ++ row.filterMap PlacedTile.diagnostic? := by
  induction row generalizing state with
  | nil => exact ⟨(List.append_nil _).symm, (List.append_nil _).symm⟩
  | cons placed row ih =>
    have here := read_tile_keeps state placed
    have later := ih (state.readTile placed)
    rw [here.1, here.2] at later
    refine ⟨later.1.trans ?_, later.2.trans ?_⟩
    · rw [List.append_assoc]
      cases held : placed.token? <;> simp [held]
    · rw [List.append_assoc]
      cases held : placed.diagnostic? <;> simp [held]

/-- Reading all tiles keeps the tokens of the scan but for the end of input, and its reports. -/
theorem scanning_keeps_scan (source : String) :
    (Scanning.ofSource source).tokens = (scan source).tokens.dropLast ∧
      (Scanning.ofSource source).found.reports = (scan source).diagnostics := by
  obtain ⟨tokens, reports⟩ := read_tiles_keep .start (placedTiles source)
  refine ⟨tokens.trans ?_, reports⟩
  rw [scan, List.dropLast_concat]
  rfl

/-- What has been logged and what has been kept are the same tokens and problems, in the same
order. -/
structure Scanning.Tells (state : Scanning) : Prop where
  warnings : state.found.events.filter isWarning = state.found.reports.map reportEvent
  errors : state.found.events.filter isError = []
  tokens : state.found.events.filter isToken = state.tokens.map tokenEvent

section Tells
variable {state : Scanning} (tells : state.Tells)
include tells

theorem push_tells (token : Token) : (state.push token).Tells where
  warnings := by
    simpa [Scanning.push, Scanning.log, Findings.log, isWarning] using tells.warnings
  errors := by simpa [Scanning.push, Scanning.log, Findings.log, isError] using tells.errors
  tokens := by
    simpa [Scanning.push, Scanning.log, Findings.log, isToken, tokenEvent] using tells.tokens

theorem note_tells (report : Diagnostic) :
    ({ state with found := state.found.note report } : Scanning).Tells where
  warnings := by
    simpa [Findings.note, Findings.log, Findings.keep, isWarning, reportEvent]
      using tells.warnings
  errors := by simpa [Findings.note, Findings.log, Findings.keep, isError] using tells.errors
  tokens := by simpa [Findings.note, Findings.log, Findings.keep, isToken] using tells.tokens

/-- An event of no consequence may be logged alone. -/
theorem log_tells (low : happened.level = .trace) (other : happened.message ≠ "Token") :
    (state.log happened).Tells where
  warnings := by simpa [Scanning.log, Findings.log, isWarning, low] using tells.warnings
  errors := by simpa [Scanning.log, Findings.log, isError, low] using tells.errors
  tokens := by simpa [Scanning.log, Findings.log, isToken, other] using tells.tokens

theorem read_tile_tells (placed : PlacedTile) : (state.readTile placed).Tells := by
  obtain ⟨position, tile⟩ := placed
  cases tile with
  | token kind lexeme => exact push_tells tells _
  | unexpected c => exact note_tells tells _
  | unterminated body => exact note_tells tells _
  | spacing c => exact tells
  | comment body => exact tells
  | dropped arrowHead =>
    refine log_tells tells rfl ?_
    rw [arrowHeadEvent]
    dsimp only
    split <;> decide

theorem read_tiles_tell (row : List PlacedTile) : (state.readTiles row).Tells := by
  induction row generalizing state with
  | nil => exact tells
  | cons placed row ih => exact ih (read_tile_tells tells placed)

end Tells

theorem scanning_tells (source : String) : (Scanning.ofSource source).Tells :=
  read_tiles_tell ⟨rfl, rfl, rfl⟩ _

/-! ## Validating -/

/-- Every report that is kept has been logged, and nothing else has. -/
def Findings.Told (found : Findings) : Prop :=
  found.events = found.reports.map reportEvent

theorem note_told (told : Findings.Told found) (report : Diagnostic) :
    (found.note report).Told := by
  rw [Findings.Told] at told ⊢
  rw [Findings.note, Findings.log, Findings.keep, told, List.map_append]
  rfl

/-- What some checks add to what has been found: the reports, each of them logged as well. -/
structure Adds (before after : Findings) (reports : List Diagnostic) : Prop where
  kept : after.reports = before.reports ++ reports
  told : before.Told → after.Told

theorem adds_nothing (found : Findings) : Adds found found [] where
  kept := (List.append_nil _).symm
  told := id

theorem adds_note (found : Findings) (report : Diagnostic) :
    Adds found (found.note report) [report] where
  kept := rfl
  told told := note_told told report

theorem adds_trans (first : Adds before between reports) (second : Adds between after others) :
    Adds before after (reports ++ others) where
  kept := by rw [second.kept, first.kept, List.append_assoc]
  told told := second.told (first.told told)

/-- From the class on that has it, a name is taken. -/
theorem check_classes (state : Validating) (nodes : List ClassNode) :
    Adds state.found (nodes.foldl Validating.checkClass state).found
        ((repeatedNames state.declared (nodes.map (·.name))).map .duplicateClass) ∧
      ∀ name, name ∈ (nodes.foldl Validating.checkClass state).declared ↔
        name ∈ state.declared ∨ name ∈ nodes.map (·.name) := by
  induction nodes generalizing state with
  | nil => exact ⟨adds_nothing _, by simp⟩
  | cons node nodes ih =>
    obtain ⟨adds, names⟩ := ih (state.checkClass node)
    rw [List.foldl_cons, List.map_cons, repeatedNames]
    by_cases taken : state.declared.contains node.name = true
    · have step : state.checkClass node =
          { state with found := state.found.note (.duplicateClass node.name) } := if_pos taken
      have listed : node.name ∈ state.declared := List.contains_iff_mem.mp taken
      rw [step] at adds names ⊢
      rw [if_pos taken]
      refine ⟨adds_trans (adds_note _ _) adds, fun name => ?_⟩
      have known : name = node.name → name ∈ state.declared := fun same => same ▸ listed
      rw [names, List.mem_cons, ← or_assoc, or_iff_left_of_imp known]
    · have step : state.checkClass node =
          { state with declared := node.name :: state.declared } := if_neg taken
      rw [step] at adds names ⊢
      rw [if_neg taken]
      refine ⟨adds, fun name => ?_⟩
      rw [names, List.mem_cons, List.mem_cons, or_assoc, or_left_comm]

theorem check_endpoints (relationship : Relationship) (state : Validating) (names : List String) :
    Adds state.found (names.foldl (Validating.checkEndpoint relationship) state).found
        ((names.filter fun name => !state.declared.contains name).map
          (.undefinedClass relationship)) ∧
      (names.foldl (Validating.checkEndpoint relationship) state).declared = state.declared := by
  induction names generalizing state with
  | nil => exact ⟨adds_nothing _, rfl⟩
  | cons name names ih =>
    obtain ⟨adds, kept⟩ := ih (state.checkEndpoint relationship name)
    rw [List.foldl_cons]
    by_cases declared : state.declared.contains name = true
    · have step : state.checkEndpoint relationship name = state := if_pos declared
      rw [step] at adds kept ⊢
      rw [List.filter_cons_of_neg (by simpa using declared)]
      exact ⟨adds, kept⟩
    · have step : state.checkEndpoint relationship name =
          { state with found := state.found.note (.undefinedClass relationship name) } :=
        if_neg declared
      rw [step] at adds kept ⊢
      rw [List.filter_cons_of_pos (by simpa using declared)]
      exact ⟨adds_trans (adds_note _ _) adds, kept⟩

theorem check_relationships (state : Validating) (relationships : List Relationship) :
    Adds state.found (relationships.foldl Validating.checkRelationship state).found
      (relationships.flatMap fun relationship =>
        (relationship.endpoints.filter fun name => !state.declared.contains name).map
          (.undefinedClass relationship)) := by
  induction relationships generalizing state with
  | nil => exact adds_nothing _
  | cons relationship relationships ih =>
    obtain ⟨adds, kept⟩ := check_endpoints relationship state relationship.endpoints
    have later := ih (state.checkRelationship relationship)
    rw [Validating.checkRelationship, kept] at later
    exact adds_trans adds later

/-- Checking a diagram finds what its validation reports, and logs all of it. -/
theorem check_diagram (diagram : Diagram) :
    Adds .empty (Validating.start.checkDiagram diagram).found diagram.validate := by
  obtain ⟨repeated, names⟩ := check_classes .start diagram.classes
  have declared (name : String) :
      (diagram.classes.foldl Validating.checkClass .start).declared.contains name =
        diagram.declares name := by
    rw [Bool.eq_iff_iff, List.contains_iff_mem, names, Diagram.declares]
    simp [Validating.start]
  have undefined := check_relationships (diagram.classes.foldl Validating.checkClass .start)
    diagram.relationships
  simp only [declared] at undefined
  exact adds_trans repeated undefined

theorem validating_keeps_validate (diagram : Diagram) :
    (Validating.start.checkDiagram diagram).found.reports = diagram.validate :=
  (check_diagram diagram).kept

theorem validating_tells (diagram : Diagram) :
    (Validating.start.checkDiagram diagram).found.events = diagram.validate.map reportEvent := by
  rw [(check_diagram diagram).told rfl, validating_keeps_validate]

end ClassChart.Trace
