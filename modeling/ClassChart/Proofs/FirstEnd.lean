import ClassChart.Proofs.CursorDocuments

/-! The first end of input is the last token that is looked at. A run over a sequence sees nothing
behind it, for the cursor never gets behind it and the token after the cursor is seen only where a
name is under the cursor. So sequences that look alike up to the first end of input make the run
visit the same states, and where there is no end of input one is taken to stand behind the sequence.
Main statement: what comes behind an end of input is not read, and a missing one is harmless. -/
namespace ClassChart.Cursor

open Grammar (tokenAt)
open StateTransition (Reaches mem_eval)

/-! ## Sequences that look alike -/

/-- No reading tells these tokens apart: they are the same, or both end the input at one place. -/
def Alike (token other : Token) : Prop :=
  other = token ∨ token.isEnd = true ∧ other.isEnd = true ∧ other.position = token.position

theorem alike_same (alike : Alike token other) (goesOn : token.isEnd = false) : other = token := by
  rcases alike with same | ⟨isEnd, -, -⟩
  · exact same
  · rw [goesOn] at isEnd
    cases isEnd

theorem alike_kind (alike : Alike token other) : other.kind = token.kind := by
  rcases alike with rfl | ⟨isEnd, alsoEnd, -⟩
  · rfl
  · simp_all [Token.isEnd]

theorem alike_error (alike : Alike token other) (expected : Expectation) :
    errorOn expected other = errorOn expected token := by
  rcases alike with rfl | ⟨isEnd, alsoEnd, place⟩
  · rfl
  · have named : other.describe = token.describe := by
      simp_all [Token.isEnd, Token.describe]
    simp [errorOn, Obstacle.error, Obstacle.found, named, place]

/-- Another sequence with tokens alike up to the first end of input. -/
def AlikeToEnd (tokens others : List Token) : Prop :=
  ∀ index ≤ reach tokens, Alike (tokenAt tokens index) (tokenAt others index)

/-! ## Steps are alike -/

section Stepping
variable {tokens others : List Token} {cursor : Nat} {state : State}

theorem advance_alike (alike : AlikeToEnd tokens others) (inReach : cursor ≤ reach tokens) :
    advance others cursor = advance tokens cursor := by
  simp [advance, Token.isEnd, alike_kind (alike cursor inReach)]

theorem pass_over_alike (alike : AlikeToEnd tokens others) (inReach : cursor ≤ reach tokens)
    (accepts : TokenKind → Bool) : passOver others accepts cursor = passOver tokens accepts cursor := by
  simp [passOver, alike_kind (alike cursor inReach), advance_alike alike inReach]

theorem declare_alike (alike : AlikeToEnd tokens others) (inReach : cursor ≤ reach tokens)
    (declaration : Declaration) :
    state.declare others declaration cursor = state.declare tokens declaration cursor := by
  simp [State.declare, pass_over_alike alike inReach]

theorem hold_alike (alike : AlikeToEnd tokens others) (inReach : cursor ≤ reach tokens)
    (opened : ClassDeclaration) (member : Member) :
    state.hold others opened member cursor = state.hold tokens opened member cursor := by
  simp [State.hold, pass_over_alike alike inReach]

theorem require_alike (alike : AlikeToEnd tokens others) (inReach : cursor ≤ reach tokens)
    (needs : accepts .endOfInput = false) {next other : Token → Nat → State}
    (goes : ∀ token, other token (advance tokens cursor) = next token (advance tokens cursor)) :
    state.require others accepts expected cursor other =
      state.require tokens accepts expected cursor next := by
  have here := alike cursor inReach
  unfold State.require
  simp only [alike_kind here, advance_alike alike inReach]
  by_cases accepted : accepts (tokenAt tokens cursor).kind = true
  · have goesOn : (tokenAt tokens cursor).isEnd = false := by
      by_contra isEnd
      have isEnd : (tokenAt tokens cursor).kind = .endOfInput := by simpa [Token.isEnd] using isEnd
      rw [isEnd, needs] at accepted
      cases accepted
    rw [if_pos accepted, if_pos accepted, alike_same here goesOn, goes]
  · rw [if_neg accepted, if_neg accepted, State.fail, State.fail, alike_error here]

theorem typed_alike (alike : AlikeToEnd tokens others) (inReach : cursor ≤ reach tokens)
    {next other : String → Nat → State}
    (goes : ∀ type behind, behind ≤ reach tokens → other type behind = next type behind) :
    state.typed others expected usual cursor other = state.typed tokens expected usual cursor next := by
  have behind := advance_in_reach inReach
  unfold State.typed
  rw [alike_kind (alike cursor inReach), advance_alike alike inReach]
  split
  · exact require_alike alike behind rfl fun word => goes _ _ (advance_in_reach behind)
  · exact goes _ _ inReach

theorem open_class_alike (alike : AlikeToEnd tokens others) (inReach : cursor ≤ reach tokens)
    (isAbstract : Bool) :
    state.openClass others isAbstract cursor = state.openClass tokens isAbstract cursor := by
  have behind := advance_in_reach inReach
  refine require_alike alike inReach rfl fun name => ?_
  rw [alike_kind (alike _ behind), advance_alike alike behind, declare_alike alike behind]

theorem connect_alike (alike : AlikeToEnd tokens others) (inReach : cursor ≤ reach tokens)
    (source : Token) : state.connect others source cursor = state.connect tokens source cursor := by
  have here := alike cursor inReach
  have behind := advance_in_reach inReach
  have afterTarget := advance_in_reach behind
  unfold State.connect
  dsimp only
  rw [alike_kind here, advance_alike alike inReach]
  cases connects : (tokenAt tokens cursor).kind.relationship? with
  | none => rw [State.fail, State.fail, alike_error here]
  | some kind =>
    have goesOn : (tokenAt tokens cursor).isEnd = false := by
      cases isKind : (tokenAt tokens cursor).kind <;>
        simp_all [TokenKind.relationship?, Token.isEnd]
    rw [alike_same here goesOn]
    refine require_alike alike behind rfl fun target => ?_
    rw [alike_kind (alike _ afterTarget), advance_alike alike afterTarget,
      declare_alike alike afterTarget]

theorem declaration_alike (alike : AlikeToEnd tokens others) (inReach : state.cursor ≤ reach tokens)
    (goesOn : (tokenAt tokens state.cursor).isEnd = false) :
    state.declaration others = state.declaration tokens := by
  have behind := advance_in_reach inReach
  have next : (tokenAt others (state.cursor + 1)).kind = (tokenAt tokens (state.cursor + 1)).kind := by
    refine alike_kind (alike _ ?_)
    have moved := lt_advance goesOn
    omega
  unfold State.declaration
  dsimp only
  rw [alike_same (alike _ inReach) goesOn, advance_alike alike inReach, next,
    open_class_alike alike behind, connect_alike alike behind, pass_over_alike alike behind,
    open_class_alike alike (pass_over_in_reach _ behind)]

theorem member_alike (alike : AlikeToEnd tokens others) (inReach : state.cursor ≤ reach tokens)
    (opened : ClassDeclaration) : state.member others opened = state.member tokens opened := by
  have behindMark := pass_over_in_reach (·.visibility?.isSome) inReach
  have behind := advance_in_reach behindMark
  unfold State.member
  rw [alike_kind (alike _ inReach), pass_over_alike alike inReach]
  refine require_alike alike behindMark rfl fun name => ?_
  unfold State.memberTail
  rw [alike_kind (alike _ behind), advance_alike alike behind]
  split
  · rfl
  · exact typed_alike alike behind fun type behind inReach => hold_alike alike inReach _ _

/-- From a state within reach, both sequences make the same step. -/
theorem step_alike (alike : AlikeToEnd tokens others) (inReach : state.cursor ≤ reach tokens) :
    step others state = step tokens state := by
  have here := alike state.cursor inReach
  have behind := advance_in_reach inReach
  have sameKind := alike_kind here
  have sameLine : (tokenAt others state.cursor).isNewline = (tokenAt tokens state.cursor).isNewline := by
    simp [Token.isNewline, sameKind]
  have sameEnd : (tokenAt others state.cursor).isEnd = (tokenAt tokens state.cursor).isEnd := by
    simp [Token.isEnd, sameKind]
  have sameAdvance := advance_alike alike inReach
  unfold step
  dsimp only
  rw [sameKind, sameLine, sameEnd, sameAdvance]
  cases state.place with
  | beforeStart =>
    dsimp only
    rw [require_alike alike inReach rfl fun _ => rfl]
  | atDeclaration =>
    have counted : state.count.cursor ≤ reach tokens := inReach
    dsimp only
    split
    · rw [require_alike alike inReach rfl fun _ => rfl]
    · rename_i goesOn
      simp only [not_or, Bool.not_eq_true] at goesOn
      rw [declaration_alike alike counted goesOn.2]
  | atMember opened =>
    have counted : state.count.cursor ≤ reach tokens := inReach
    dsimp only
    rw [declare_alike alike behind, member_alike alike counted, State.fail, State.fail,
      alike_error here]
  | inParameters opened visibility name =>
    dsimp only
    rw [typed_alike alike behind fun type behind inReach => hold_alike alike inReach _ _, State.fail,
      State.fail, alike_error here]
  | inLine use words =>
    dsimp only
    rw [declare_alike alike inReach]
    split
    · rfl
    · rename_i goesOn
      simp only [not_or, Bool.not_eq_true] at goesOn
      rw [alike_same here goesOn.2]
  | behindEnd =>
    dsimp only
    cases isEnd : (tokenAt tokens state.cursor).isEnd with
    | true => rfl
    | false => rw [alike_same here isEnd]
  | beforeMember _ | failed _ | finished _ => rfl

theorem runs_alike (alike : AlikeToEnd tokens others) :
    Reaches (step others) start state ↔ Reaches (step tokens) start state := by
  constructor
  · intro run
    induction run with
    | refl => exact .refl
    | @tail before after _ stepped reached =>
      have stepped : step others before = some after := stepped
      rw [step_alike alike (paid_reached reached).inReach] at stepped
      exact reached.tail stepped
  · intro run
    induction run with
    | refl => exact .refl
    | @tail before after earlier stepped reached =>
      have stepped : step tokens before = some after := stepped
      rw [← step_alike alike (paid_reached earlier).inReach] at stepped
      exact reached.tail stepped

/-- Sequences alike up to the first end of input parse alike. -/
theorem parse_alike (alike : AlikeToEnd tokens others) : parse others = parse tokens := by
  obtain ⟨final, ends, result⟩ := run_parses tokens
  obtain ⟨other, otherEnds, otherResult⟩ := run_parses others
  have reached := (runs_alike alike).mpr (mem_eval.mp ends).1
  have alsoEnds := mem_eval.mpr ⟨reached, step_of_result result⟩
  rw [Part.mem_unique otherEnds alsoEnds, result] at otherResult
  exact (Option.some.inj otherResult).symm

end Stepping

/-! ## What comes behind an end of input, and a missing end -/

theorem reach_lt_length {tokens : List Token} (ends : ∃ token ∈ tokens, token.isEnd = true) :
    reach tokens < tokens.length := by
  refine Nat.lt_of_le_of_ne (reach_le_length tokens) fun same => ?_
  obtain ⟨token, member, isEnd⟩ := ends
  have whole : beforeEnd tokens = tokens := (List.takeWhile_prefix _).eq_of_length same
  rw [← whole] at member
  rw [Grammar.before_end_goes_on member] at isEnd
  cases isEnd

/-- What stands behind an end of input changes no token up to the first one. -/
theorem alike_append {tokens : List Token} (ends : ∃ token ∈ tokens, token.isEnd = true)
    (others : List Token) : AlikeToEnd tokens (tokens ++ others) := by
  intro index inReach
  have inside : index < tokens.length := Nat.lt_of_le_of_lt inReach (reach_lt_length ends)
  refine .inl ?_
  rw [tokenAt, tokenAt, List.getElem?_append_left inside]

/-- An end of input stands where a missing one is taken to stand. -/
theorem alike_missing {tokens : List Token} (endless : ∀ token ∈ tokens, token.isEnd = false)
    (lexeme : String) : AlikeToEnd (tokens ++ [⟨.endOfInput, lexeme, ⟨1, 1⟩⟩]) tokens := by
  intro index inReach
  have length : reach (tokens ++ [⟨.endOfInput, lexeme, ⟨1, 1⟩⟩]) = tokens.length := by
    rw [reach, Grammar.before_end_append endless]
    simp [beforeEnd, Token.isEnd]
  rw [length] at inReach
  rcases Nat.lt_or_eq_of_le inReach with inside | rfl
  · refine .inl ?_
    rw [tokenAt, tokenAt, List.getElem?_append_left inside]
  · refine .inr ?_
    simp [tokenAt, missingEnd, Token.isEnd, Position.start]

/-- Two sequences that are read alike: they parse to the same, and runs over them visit the same
states. -/
structure ReadAlike (tokens others : List Token) : Prop where
  parsed : parse others = parse tokens
  visited : ∀ state, Reaches (step others) start state ↔ Reaches (step tokens) start state

theorem alike_read {tokens others : List Token} (alike : AlikeToEnd tokens others) : ReadAlike tokens others :=
  ⟨parse_alike alike, fun _ => runs_alike alike⟩

/-- Nothing at or behind the first end of input is read, and a missing one is harmless: whatever is
appended behind an end of input, the sequence is read as before, and a sequence without an end of
input is read as if one stood behind it, at line 1 and column 1. -/
theorem end_of_input_is_last (tokens : List Token) :
    ((∃ token ∈ tokens, token.isEnd = true) → ∀ others, ReadAlike tokens (tokens ++ others)) ∧
      ((∀ token ∈ tokens, token.isEnd = false) → ∀ lexeme,
        ReadAlike (tokens ++ [⟨.endOfInput, lexeme, ⟨1, 1⟩⟩]) tokens) :=
  ⟨fun ends others => alike_read (alike_append ends others),
    fun endless lexeme => alike_read (alike_missing endless lexeme)⟩

/-- A class whose body breaks off. -/
def openBody : List Token :=
  [⟨.startMarker, "@startuml", ⟨1, 1⟩⟩, ⟨.classWord, "class", ⟨2, 1⟩⟩, ⟨.identifier, "A", ⟨2, 7⟩⟩,
    ⟨.openBrace, "\x7b", ⟨2, 9⟩⟩]

/-- An end of input inside the body of a class. -/
def strayEnd : List Token :=
  openBody ++ [⟨.endOfInput, "", ⟨3, 1⟩⟩]

/-- What would close the body, and the document. -/
def closing : List Token :=
  [⟨.closeBrace, "\x7d", ⟨4, 1⟩⟩, ⟨.newline, "\n", ⟨4, 2⟩⟩, ⟨.endMarker, "@enduml", ⟨5, 1⟩⟩]

/-- The error at an open body, for an end of input at this position. -/
def openBodyError (position : Position) : SyntaxError where
  message := "expected '\x7d' to close class 'A', found end of input"
  position := position

theorem open_body_ends : (∃ token ∈ strayEnd, token.isEnd = true) ∧
    ReadAlike strayEnd (strayEnd ++ closing) ∧ parse strayEnd = .error (openBodyError ⟨3, 1⟩) ∧
    (∀ token ∈ openBody, token.isEnd = false) ∧
    ReadAlike (openBody ++ [⟨.endOfInput, "", ⟨1, 1⟩⟩]) openBody ∧
    parse openBody = .error (openBodyError ⟨1, 1⟩) := by
  have ends : ∃ token ∈ strayEnd, token.isEnd = true := by decide
  have endless : ∀ token ∈ openBody, token.isEnd = false := by decide
  exact ⟨ends, (end_of_input_is_last strayEnd).1 ends closing, by decide +kernel, endless,
    (end_of_input_is_last openBody).2 endless "", by decide +kernel⟩

end ClassChart.Cursor
