import ClassChart.Proofs.CursorDocuments

/-! Headway on every sequence of tokens, however malformed. Each round of each loop moves the cursor
or ends the run, each call that reads a declaration or a member comes back further on or fails, and
the run ends after no more rounds than there are tokens. Main statement: a run keeps moving. -/
namespace ClassChart.Cursor

open Grammar (tokenAt)
open StateTransition (Reaches Reaches₁ eval mem_eval reaches_eval reaches₁_fwd)

/-! ## Loops -/

/-- Where a loop is left, the run stands at the head of another one or has ended. -/
theorem exit_leaves_loop {place after : Place} (exits : place.Exit after) :
    after.loop? ≠ place.loop? := by
  cases place with
  | beforeStart | atDeclaration | beforeMember _ | inLine _ _ => cases exits; simp [Place.loop?]
  | inParameters opened visibility name | behindEnd =>
    obtain ⟨_, rfl⟩ := exits
    simp [Place.loop?]
  | atMember _ | failed _ | finished _ => cases exits

theorem failed_leaves_loop {place : Place} (failed : place.hasFailed = true) : place.loop? = none := by
  cases place <;> simp_all [Place.hasFailed, Place.loop?]

section Moving
variable {tokens : List Token} {before after state : State}

/-- A step from the head of a loop back to it is a round of the loop, and moves the cursor. -/
theorem looping_moves (paid : Paid tokens before) (stepped : step tokens before = some after)
    (looping : before.place.loop?.isSome) (same : after.place.loop? = before.place.loop?) :
    before.rounds < after.rounds ∧ before.cursor < after.cursor := by
  have progress := step_progress stepped paid.inReach
  have goesOn : ¬ after.place.hasFailed = true := by
    intro failed
    rw [← same, failed_leaves_loop failed] at looping
    cases looping
  rcases progress.placed with failed | exits | ⟨-, counted⟩
  · exact absurd failed goesOn
  · exact absurd same (exit_leaves_loop exits)
  · exact ⟨counted, (progress.moved counted).resolve_left goesOn⟩

/-! ## Calls -/

/-- A call that begins in a state comes back to such a place or fails, and whenever the run is at such
a place later on, the cursor is further on. -/
structure Returns (tokens : List Token) (before : State) (home : Place → Prop) : Prop where
  comes : ∃ after, Reaches₁ (step tokens) before after ∧
    (after.place.hasFailed = true ∨ home after.place)
  further : ∀ after, Reaches₁ (step tokens) before after → home after.place →
    before.cursor < after.cursor

/-- At the head of a loop a run goes on. -/
theorem loop_goes_on (looping : state.place.loop?.isSome) : step tokens state ≠ none := by
  intro ended
  unfold step at ended
  cases here : state.place with
  | failed _ | finished _ =>
    rw [here] at looping
    cases looping
  | atMember _ | inParameters _ _ _ =>
    simp only [here] at ended
    split at ended
    · cases ended
    · split at ended <;> cases ended
  | _ =>
    simp only [here] at ended
    split at ended <;> cases ended

theorem failed_stays (failed : before.place.hasFailed = true)
    (run : Reaches (step tokens) before after) : after = before := by
  rcases Relation.ReflTransGen.cases_head run with rfl | ⟨next, stepped, -⟩
  · rfl
  · have stepped : step tokens before = some next := stepped
    cases place : before.place <;> simp_all [Place.hasFailed, step]

/-- The places of a call: a step from one of them leads to another or home, unless it fails. -/
def Encloses (inside home : Place → Prop) : Prop :=
  ∀ place, inside place → place.loop?.isSome ∧
    ∀ after : Place, place.Exit after ∨ place.Round after → home after ∨ inside after

/-- From inside a call every run that ends comes home or fails. -/
theorem comes_home (encloses : Encloses inside home) (paid : Paid tokens state)
    (run : Reaches (step tokens) state final) (ended : step tokens final = none)
    (begun : state.place.hasFailed = true ∨ home state.place ∨ inside state.place) :
    Gets tokens state fun after => after.place.hasFailed = true ∨ home after.place := by
  induction run using Relation.ReflTransGen.head_induction_on with
  | refl =>
    rcases begun with failed | isHome | isInside
    · exact gets_here (.inl failed)
    · exact gets_here (.inr isHome)
    · exact absurd ended (loop_goes_on (encloses _ isInside).1)
  | @head state next stepped rest ih =>
    rcases begun with failed | isHome | isInside
    · exact gets_here (.inl failed)
    · exact gets_here (.inr isHome)
    · have stepped : step tokens state = some next := stepped
      have progress := step_progress stepped paid.inReach
      have leads := (encloses _ isInside).2 next.place
      have begun : next.place.hasFailed = true ∨ home next.place ∨ inside next.place :=
        progress.placed.imp_right fun placed => leads (placed.imp_right And.left)
      exact (ih (paid.step stepped) begun).of_step stepped

/-- A call that moves the cursor with its first step returns. -/
theorem call_returns (encloses : Encloses inside home)
    (apart : ∀ place, home place → place.hasFailed = false) (paid : Paid tokens state)
    (run : Reaches (step tokens) state final) (ended : step tokens final = none)
    (stepped : step tokens state = some next)
    (moves : Moves tokens state.count state.cursor (fun place => home place ∨ inside place) next) :
    Returns tokens state home where
  comes := by
    have rest : Reaches (step tokens) next final := by
      rcases Relation.ReflTransGen.cases_head run with rfl | ⟨other, first, rest⟩
      · rw [stepped] at ended
        cases ended
      · cases Option.some.inj (stepped.symm.trans first)
        exact rest
    obtain ⟨after, goesOn, comes⟩ := comes_home encloses (paid.step stepped) rest ended moves.placed
    exact ⟨after, .head' stepped goesOn, comes⟩
  further := by
    intro after later isHome
    have run := reaches₁_fwd later stepped
    rcases moves.moved with failed | moved
    · rw [failed_stays failed run] at isHome
      rw [apart _ isHome] at failed
      cases failed
    · have onward := (run_onward (paid.step stepped) run).2
      exact Nat.lt_of_lt_of_le moved onward

theorem declaration_encloses : Encloses (·.inDeclaration = true) (· = .atDeclaration) := by
  intro place isInside
  cases place with
  | beforeMember opened =>
    refine ⟨rfl, ?_⟩
    rintro after (rfl | rfl)
    · exact .inr rfl
    · exact .inr rfl
  | atMember opened =>
    refine ⟨rfl, ?_⟩
    rintro after (exits | (⟨member, rfl⟩ | ⟨visibility, name, rfl⟩) | rfl)
    · cases exits
    · exact .inr rfl
    · exact .inr rfl
    · exact .inl rfl
  | inParameters opened visibility name =>
    refine ⟨rfl, ?_⟩
    rintro after (⟨member, rfl⟩ | rfl)
    · exact .inr rfl
    · exact .inr rfl
  | inLine use words =>
    refine ⟨rfl, ?_⟩
    rintro after (rfl | ⟨words, rfl⟩)
    · exact .inl rfl
    · exact .inr rfl
  | _ => cases isInside

theorem member_encloses (opened : ClassDeclaration) :
    Encloses (fun place => ∃ visibility name, place = .inParameters opened visibility name)
      (Place.BehindMember opened) := by
  rintro _ ⟨visibility, name, rfl⟩
  refine ⟨rfl, ?_⟩
  rintro after (held | rfl)
  · exact .inl held
  · exact .inr ⟨visibility, name, rfl⟩

theorem declaration_returns (paid : Paid tokens state) (run : Reaches (step tokens) state final)
    (ended : step tokens final = none) (place : state.place = .atDeclaration)
    (goesOn : (tokenAt tokens state.cursor).kind ∉ [TokenKind.endMarker, .endOfInput]) :
    Returns tokens state (· = .atDeclaration) := by
  simp only [List.mem_cons, List.not_mem_nil, or_false, not_or] at goesOn
  have noEnd : (tokenAt tokens state.cursor).isEnd = false := by simp [Token.isEnd, goesOn]
  have stepped : step tokens state = some (state.count.declaration tokens) := by
    simp [step, place, goesOn, noEnd]
  have begun : state.count.cursor ≤ reach tokens := paid.inReach
  have moves := (declaration_leads state.count begun).moves (lt_advance noEnd)
  exact call_returns declaration_encloses (by rintro _ rfl; rfl) paid run ended stepped moves

theorem member_returns (paid : Paid tokens state) (run : Reaches (step tokens) state final)
    (ended : step tokens final = none) (place : state.place = .atMember opened)
    (goesOn : (tokenAt tokens state.cursor).kind ∉ [TokenKind.closeBrace, .endMarker, .endOfInput]) :
    Returns tokens state (Place.BehindMember opened) := by
  simp only [List.mem_cons, List.not_mem_nil, or_false, not_or] at goesOn
  have stepped : step tokens state = some (state.count.member tokens opened) := by
    simp [step, place, goesOn, Token.isEnd]
  have begun : state.count.cursor ≤ reach tokens := paid.inReach
  have apart : ∀ place, Place.BehindMember opened place → place.hasFailed = false := by
    rintro _ ⟨member, rfl⟩
    rfl
  exact call_returns (member_encloses opened) apart paid run ended stepped (member_moves _ begun)

end Moving

/-! ## Whole runs -/

/-- What it means that a run keeps moving: the cursor stays in range, steps from the head of a loop
back to it and rounds that do not fail move it, so do the calls that read a declaration or a member
unless they fail, and the run ends with what the sequence parses to, after no more rounds of all
loops together than there are tokens. -/
structure KeepsMoving (tokens : List Token) : Prop where
  inRange : ∀ state, Reaches (step tokens) start state → state.cursor ≤ tokens.length
  loops : ∀ before after, Reaches (step tokens) start before → step tokens before = some after →
    before.place.loop?.isSome → after.place.loop? = before.place.loop? →
    before.rounds < after.rounds ∧ before.cursor < after.cursor
  rounds : ∀ before after, Reaches (step tokens) start before → step tokens before = some after →
    before.rounds < after.rounds → after.place.hasFailed = true ∨ before.cursor < after.cursor
  declarations : ∀ state, Reaches (step tokens) start state → state.place = .atDeclaration →
    (tokenAt tokens state.cursor).kind ∉ [TokenKind.endMarker, .endOfInput] →
    Returns tokens state (· = .atDeclaration)
  members : ∀ state opened, Reaches (step tokens) start state → state.place = .atMember opened →
    (tokenAt tokens state.cursor).kind ∉ [TokenKind.closeBrace, .endMarker, .endOfInput] →
    Returns tokens state (Place.BehindMember opened)
  ends : ∃ final ∈ eval (step tokens) start,
    final.result? = some (parse tokens) ∧ final.rounds ≤ tokens.length

/-- However malformed the sequence, a run over it keeps moving. -/
theorem every_run_keeps_moving (tokens : List Token) : KeepsMoving tokens := by
  obtain ⟨final, ends, result⟩ := run_parses tokens
  obtain ⟨run, ended⟩ := mem_eval.mp ends
  have paid : ∀ state, Reaches (step tokens) start state → Paid tokens state :=
    fun state reached => paid_reached reached
  have toFinal : ∀ state, Reaches (step tokens) start state → Reaches (step tokens) state final := by
    intro state reached
    rw [reaches_eval reached] at ends
    exact (mem_eval.mp ends).1
  exact {
    inRange := fun state reached => Nat.le_trans (paid state reached).inReach (reach_le_length tokens)
    loops := fun before after reached => looping_moves (paid before reached)
    rounds := fun before after reached stepped counted =>
      (step_progress stepped (paid before reached).inReach).moved counted
    declarations := fun state reached =>
      declaration_returns (paid state reached) (toFinal state reached) ended
    members := fun state opened reached =>
      member_returns (paid state reached) (toFinal state reached) ended
    ends := by
      have covered := (paid final run).paid
      have inReach := (paid final run).inReach
      have bound := reach_le_length tokens
      exact ⟨final, ends, result, by omega⟩ }

end ClassChart.Cursor
