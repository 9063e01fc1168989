import ClassChart.Proofs.Cursor

/-! A cursor moves on. It never moves back and never gets behind the first end of input, and every
round of a loop moves it over a token that no other round moves it over, unless the run fails in that
round. Main statements: what one step does, and from it what holds of every state that a run gets to. -/
namespace ClassChart.Cursor

open Grammar (tokenAt)
open StateTransition (Reaches)

/-! ## The cursor moves on -/

/-- How many tokens stand before the first end of input. -/
def reach (tokens : List Token) : Nat :=
  (beforeEnd tokens).length

theorem reach_le_length (tokens : List Token) : reach tokens ≤ tokens.length :=
  (List.takeWhile_sublist _).length_le

theorem first_end_is_end (tokens : List Token) : (firstEnd tokens).isEnd = true := by
  rw [Grammar.first_end_eq]
  cases begins : (Grammar.fromEnd tokens).head? with
  | none => rfl
  | some token => exact Grammar.from_end_begins begins

theorem token_at_reach (tokens : List Token) : tokenAt tokens (reach tokens) = firstEnd tokens := by
  have front : beforeEnd tokens = beforeEnd tokens ++ (Obstacle.mk .endMarker []).rest :=
    (List.append_nil _).symm
  exact (Grammar.token_at_obstacle front).2

section Moving
variable {tokens : List Token} {cursor : Nat} {state : State} {place : Place}

theorem le_advance (tokens : List Token) (cursor : Nat) : cursor ≤ advance tokens cursor := by
  unfold advance
  split <;> omega

theorem lt_advance (goesOn : (tokenAt tokens cursor).isEnd = false) :
    cursor < advance tokens cursor := by
  simp [advance, goesOn]

/-- At the first end of input the cursor stays, so it never gets behind it. -/
theorem advance_in_reach (inReach : cursor ≤ reach tokens) :
    advance tokens cursor ≤ reach tokens := by
  unfold advance
  split
  · exact inReach
  · rename_i goesOn
    have before : cursor ≠ reach tokens := by
      rintro rfl
      rw [token_at_reach, first_end_is_end] at goesOn
      exact goesOn rfl
    omega

theorem le_pass_over (tokens : List Token) (accepts : TokenKind → Bool) (cursor : Nat) :
    cursor ≤ passOver tokens accepts cursor := by
  unfold passOver
  split
  · exact le_advance tokens cursor
  · exact Nat.le_refl cursor

theorem pass_over_in_reach (accepts : TokenKind → Bool) (inReach : cursor ≤ reach tokens) :
    passOver tokens accepts cursor ≤ reach tokens := by
  unfold passOver
  split
  · exact advance_in_reach inReach
  · exact inReach

/-- A state in the same round, with the cursor here or further on, and at a place of this sort unless
the run has failed. -/
structure Leads (tokens : List Token) (state : State) (cursor : Nat) (sort : Place → Prop)
    (after : State) : Prop where
  onward : cursor ≤ after.cursor
  inReach : after.cursor ≤ reach tokens
  sameRound : after.rounds = state.rounds
  placed : after.place.hasFailed = true ∨ sort after.place

theorem Leads.from_earlier (leads : Leads tokens state behind sort after) (earlier : cursor ≤ behind) :
    Leads tokens state cursor sort after :=
  { leads with onward := Nat.le_trans earlier leads.onward }

theorem Leads.weaken (leads : Leads tokens state cursor sort after)
    (wider : ∀ place, sort place → wide place) : Leads tokens state cursor wide after :=
  { leads with placed := leads.placed.imp_right (wider after.place) }

/-- The same, with the cursor further on unless the run has failed. -/
structure Moves (tokens : List Token) (state : State) (cursor : Nat) (sort : Place → Prop)
    (after : State) : Prop extends Leads tokens state cursor sort after where
  moved : after.place.hasFailed = true ∨ cursor < after.cursor

theorem Leads.moves (leads : Leads tokens state behind sort after) (later : cursor < behind) :
    Moves tokens state cursor sort after :=
  ⟨leads.from_earlier (Nat.le_of_lt later), .inr (Nat.lt_of_lt_of_le later leads.onward)⟩

theorem Moves.weaken (moves : Moves tokens state cursor sort after)
    (wider : ∀ place, sort place → wide place) : Moves tokens state cursor wide after :=
  ⟨moves.toLeads.weaken wider, moves.moved⟩

theorem leads_go (inReach : cursor ≤ reach tokens) (here : sort place) :
    Leads tokens state cursor sort (state.go place cursor) :=
  ⟨Nat.le_refl cursor, inReach, rfl, .inr here⟩

theorem leads_fail (inReach : cursor ≤ reach tokens) :
    Leads tokens state cursor sort (state.fail expected token cursor) :=
  ⟨Nat.le_refl cursor, inReach, rfl, .inl rfl⟩

theorem leads_declare (inReach : cursor ≤ reach tokens) (here : sort .atDeclaration) :
    Leads tokens state cursor sort (state.declare tokens declaration cursor) :=
  ⟨le_pass_over tokens (· = .newline) cursor, pass_over_in_reach (· = .newline) inReach, rfl, .inr here⟩

/-- A required token is there and is taken, or the run fails at the token in its place. -/
theorem require_cases {motive : State → Prop} {next : Token → Nat → State}
    (takes : accepts (tokenAt tokens cursor).kind = true →
      motive (next (tokenAt tokens cursor) (advance tokens cursor)))
    (fails : motive (state.fail expected (tokenAt tokens cursor) cursor)) :
    motive (state.require tokens accepts expected cursor next) := by
  unfold State.require
  dsimp only
  split
  · exact takes ‹_›
  · exact fails

theorem leads_require {next : Token → Nat → State} (inReach : cursor ≤ reach tokens)
    (goes : ∀ token, Leads tokens state (advance tokens cursor) sort
      (next token (advance tokens cursor))) :
    Leads tokens state cursor sort (state.require tokens accepts expected cursor next) := by
  refine require_cases (fun _ => ?_) (leads_fail inReach)
  exact (goes _).from_earlier (le_advance tokens cursor)

theorem leads_typed {next : String → Nat → State} (inReach : cursor ≤ reach tokens)
    (goes : ∀ type behind, behind ≤ reach tokens → Leads tokens state behind sort (next type behind)) :
    Leads tokens state cursor sort (state.typed tokens expected usual cursor next) := by
  have colon := advance_in_reach inReach
  unfold State.typed
  split
  · refine (leads_require colon fun token => ?_).from_earlier (le_advance tokens cursor)
    exact goes _ _ (advance_in_reach colon)
  · exact goes _ _ inReach

/-! ## Calls -/

/-- Where the call that reads a declaration may lead. -/
def Place.OfDeclaration (place : Place) : Prop :=
  place = .atDeclaration ∨ place.inDeclaration = true

/-- Where the call that reads a member of this class leads, once it is complete. -/
def Place.BehindMember (opened : ClassDeclaration) (place : Place) : Prop :=
  ∃ member, place = .beforeMember { opened with members := opened.members ++ [member] }

/-- Where the call that reads a member of this class may lead. -/
def Place.OfMember (opened : ClassDeclaration) (place : Place) : Prop :=
  place.BehindMember opened ∨ ∃ visibility name, place = .inParameters opened visibility name

theorem open_class_leads (inReach : cursor ≤ reach tokens) :
    Leads tokens state cursor Place.OfDeclaration (state.openClass tokens isAbstract cursor) := by
  have behind := advance_in_reach inReach
  refine leads_require inReach fun name => ?_
  split
  · exact (leads_go (advance_in_reach behind) (.inr rfl)).from_earlier (le_advance tokens _)
  · exact leads_declare behind (.inl rfl)

theorem connect_leads (inReach : cursor ≤ reach tokens) :
    Leads tokens state cursor Place.OfDeclaration (state.connect tokens source cursor) := by
  have behind := advance_in_reach inReach
  have afterTarget := advance_in_reach behind
  refine Leads.from_earlier ?_ (le_advance tokens cursor)
  unfold State.connect
  dsimp only
  split
  · exact leads_fail behind
  · refine leads_require behind fun target => ?_
    split
    · exact (leads_go (advance_in_reach afterTarget) (.inr rfl)).from_earlier (le_advance tokens _)
    · exact leads_declare afterTarget (.inl rfl)

/-- Every declaration begins by moving the cursor over its first token. -/
theorem declaration_leads (state : State) (inReach : state.cursor ≤ reach tokens) :
    Leads tokens state (advance tokens state.cursor) Place.OfDeclaration
      (state.declaration tokens) := by
  have behind := advance_in_reach inReach
  have passes : ∀ token, Leads tokens state (advance tokens state.cursor) Place.OfDeclaration
      (state.stray token (advance tokens state.cursor)) :=
    fun token => ⟨Nat.le_refl _, behind, rfl, .inr (.inl rfl)⟩
  unfold State.declaration
  dsimp only
  split
  · exact leads_go behind (.inl rfl)
  · exact open_class_leads behind
  · exact (open_class_leads (pass_over_in_reach _ behind)).from_earlier (le_pass_over tokens _ _)
  · exact leads_go behind (.inr rfl)
  · split
    · exact connect_leads behind
    · exact passes _
  · exact passes _

theorem held_leads (inReach : cursor ≤ reach tokens) (member : Member) :
    Leads tokens state cursor (Place.BehindMember opened) (state.hold tokens opened member cursor) :=
  ⟨le_pass_over tokens (· = .newline) cursor, pass_over_in_reach (· = .newline) inReach, rfl,
    .inr ⟨member, rfl⟩⟩

theorem member_tail_leads (inReach : cursor ≤ reach tokens) :
    Leads tokens state cursor (Place.OfMember opened)
      (state.memberTail tokens opened visibility name cursor) := by
  unfold State.memberTail
  split
  · refine (leads_go (advance_in_reach inReach) (.inr ⟨_, _, rfl⟩)).from_earlier ?_
    exact le_advance tokens cursor
  · exact leads_typed inReach fun type behind inReach => (held_leads inReach _).weaken fun _ => .inl

theorem word_is_no_end {token : Token} (word : token.kind.isMemberWord = true) :
    token.isEnd = false := by
  cases kind : token.kind <;> simp_all [TokenKind.isMemberWord, Token.isEnd]

/-- A member moves the cursor over its name. -/
theorem member_moves (state : State) (inReach : state.cursor ≤ reach tokens) :
    Moves tokens state state.cursor (Place.OfMember opened) (state.member tokens opened) := by
  have onward := le_pass_over tokens (·.visibility?.isSome) state.cursor
  have here := pass_over_in_reach (·.visibility?.isSome) inReach
  unfold State.member
  dsimp only
  refine require_cases (fun word => ?_) ?_
  · have moved := lt_advance (word_is_no_end word)
    exact (member_tail_leads (advance_in_reach here)).moves (Nat.lt_of_le_of_lt onward moved)
  · exact ⟨(leads_fail here).from_earlier onward, .inl rfl⟩

end Moving

/-! ## Rounds are paid with tokens -/

/-- How many tokens a run has moved over at this place beyond those that its rounds have cost. The
start marker costs nothing, and a failure or an end may use it up. -/
def Place.spare : Place → Nat
  | .atDeclaration | .beforeMember _ | .atMember _ | .inParameters .. | .inLine .. => 1
  | .beforeStart | .behindEnd | .failed _ | .finished _ => 0

theorem spare_le_one (place : Place) : place.spare ≤ 1 := by
  cases place <;> simp [Place.spare]

theorem spare_of_failed {place : Place} (failed : place.hasFailed = true) : place.spare = 0 := by
  cases place <;> simp_all [Place.hasFailed, Place.spare]

/-- The place behind a loop whose test has failed. -/
def Place.Exit : Place → Place → Prop
  | .beforeStart, after => after = .atDeclaration
  | .atDeclaration, after => after = .behindEnd
  | .beforeMember opened, after => after = .atMember opened
  | .inParameters opened _ _, after => after.BehindMember opened
  | .inLine _ _, after => after = .atDeclaration
  | .behindEnd, after => ∃ trailing, after = .finished trailing
  | .atMember _, _ | .failed _, _ | .finished _, _ => False

/-- The places that a round of a loop may lead to: its own head, the head of a loop inside, or for a
class body the place behind it. -/
def Place.Round : Place → Place → Prop
  | .beforeStart, after => after = .beforeStart
  | .atDeclaration, after => after.OfDeclaration
  | .beforeMember opened, after => after = .beforeMember opened
  | .atMember opened, after => after.OfMember opened ∨ after = .atDeclaration
  | .inParameters opened visibility name, after => after = .inParameters opened visibility name
  | .inLine use _, after => ∃ words, after = .inLine use words
  | .behindEnd, after => after = .behindEnd
  | .failed _, _ | .finished _, _ => False

/-- What one step does: the cursor moves on within reach, a loop is left or a round of it is begun, a
round moves the cursor unless the run fails in it, and its cost is covered by the move. -/
structure Progress (tokens : List Token) (before after : State) : Prop where
  onward : before.cursor ≤ after.cursor
  inReach : after.cursor ≤ reach tokens
  placed : after.place.hasFailed = true ∨ before.place.Exit after.place ∨
    before.place.Round after.place ∧ before.rounds < after.rounds
  moved : before.rounds < after.rounds →
    after.place.hasFailed = true ∨ before.cursor < after.cursor
  paid : after.rounds + after.place.spare + before.cursor ≤
    after.cursor + before.rounds + before.place.spare

section Stepping
variable {tokens : List Token} {before after : State} {place : Place}

/-- A loop is left for nothing where the run has a token to spare or moves. -/
theorem Leads.progress (leads : Leads tokens before before.cursor before.place.Exit after)
    (free : before.place.spare = 1 ∨ after.place.spare = 0 ∨ before.cursor < after.cursor) :
    Progress tokens before after := by
  obtain ⟨onward, inReach, sameRound, placed⟩ := leads
  have bound := spare_le_one after.place
  exact ⟨onward, inReach, placed.imp_right .inl, by omega, by omega⟩

/-- A round pays for itself by moving, or in failing by the token to spare. -/
theorem Moves.progress (moves : Moves tokens before.count before.cursor before.place.Round after)
    (free : before.place.spare = 1 ∨ after.place.spare = 0 ∧ after.place.hasFailed = false) :
    Progress tokens before after := by
  obtain ⟨⟨onward, inReach, sameRound, placed⟩, moved⟩ := moves
  have begun : after.rounds = before.rounds + 1 := sameRound
  have bound := spare_le_one after.place
  refine ⟨onward, inReach, placed.imp_right fun round => .inr ⟨round, by omega⟩, fun _ => moved, ?_⟩
  rcases moved with failed | moved
  · have none := spare_of_failed failed
    rcases free with free | ⟨-, goesOn⟩
    · omega
    · rw [failed] at goesOn
      cases goesOn
  · omega

/-- A round that goes on behind the token under the cursor. -/
theorem round_moves (inReach : before.cursor ≤ reach tokens)
    (goesOn : (tokenAt tokens before.cursor).isEnd = false) (next : before.place.Round place) :
    Moves tokens before.count before.cursor before.place.Round
      (before.count.go place (advance tokens before.cursor)) :=
  (leads_go (advance_in_reach inReach) next).moves (lt_advance goesOn)

/-- A round that fails at the token under the cursor. -/
theorem round_fails (inReach : before.cursor ≤ reach tokens) :
    Moves tokens before.count before.cursor before.place.Round
      (before.count.fail expected token before.cursor) :=
  ⟨leads_fail inReach, .inl rfl⟩

theorem kind_is_no_end {token : Token} (isKind : token.kind = kind) (other : kind ≠ .endOfInput) :
    token.isEnd = false := by
  simp [Token.isEnd, isKind, other]

theorem newline_is_no_end {token : Token} (line : token.isNewline = true) : token.isEnd = false :=
  kind_is_no_end (of_decide_eq_true line) (by simp)

theorem step_progress (stepped : step tokens before = some after)
    (inReach : before.cursor ≤ reach tokens) : Progress tokens before after := by
  obtain ⟨place, cursor, rounds, declared⟩ := before
  have behind := advance_in_reach inReach
  cases place with
  | beforeStart =>
    simp only [step] at stepped
    split at stepped <;> cases stepped
    · exact (round_moves inReach (newline_is_no_end ‹_›) rfl).progress (.inr ⟨rfl, rfl⟩)
    · refine require_cases (fun starts => ?_) ?_
      · have moved := lt_advance (kind_is_no_end (of_decide_eq_true starts) (by simp))
        refine Leads.progress (Leads.from_earlier ?_ (Nat.le_of_lt moved)) (.inr (.inr moved))
        exact leads_go behind rfl
      · exact (leads_fail inReach).progress (.inr (.inl rfl))
  | atDeclaration =>
    simp only [step] at stepped
    split at stepped <;> cases stepped
    · refine Leads.progress ?_ (.inl rfl)
      exact leads_require inReach fun _ => leads_go behind rfl
    · rename_i goesOn
      have goesOn : (tokenAt tokens cursor).isEnd = false := by simp_all
      have begun : (State.count ⟨.atDeclaration, cursor, rounds, declared⟩).cursor ≤ reach tokens :=
        inReach
      exact Moves.progress ((declaration_leads _ begun).moves (lt_advance goesOn)) (.inl rfl)
  | beforeMember opened =>
    simp only [step] at stepped
    split at stepped <;> cases stepped
    · exact (round_moves inReach (newline_is_no_end ‹_›) rfl).progress (.inl rfl)
    · exact Leads.progress (leads_go inReach rfl) (.inl rfl)
  | atMember opened =>
    simp only [step] at stepped
    split at stepped
    · cases stepped
      rename_i closes
      have moved := lt_advance (kind_is_no_end closes (by simp))
      exact Moves.progress ((leads_declare behind (.inr rfl)).moves moved) (.inl rfl)
    · split at stepped <;> cases stepped
      · exact (round_fails inReach).progress (.inl rfl)
      · have begun : (State.count ⟨.atMember opened, cursor, rounds, declared⟩).cursor ≤ reach tokens :=
          inReach
        exact Moves.progress ((member_moves _ begun).weaken fun _ calls => .inl calls) (.inl rfl)
  | inParameters opened visibility name =>
    simp only [step] at stepped
    split at stepped
    · cases stepped
      refine Leads.progress (Leads.from_earlier ?_ (le_advance tokens cursor)) (.inl rfl)
      exact leads_typed behind fun type behind inReach => held_leads inReach _
    · split at stepped <;> cases stepped
      · exact (round_fails inReach).progress (.inl rfl)
      · rename_i goesOn
        exact (round_moves inReach (by simpa using goesOn) rfl).progress (.inl rfl)
  | inLine use words =>
    simp only [step] at stepped
    split at stepped <;> cases stepped
    · exact Leads.progress (leads_declare inReach rfl) (.inl rfl)
    · rename_i goesOn
      have goesOn : (tokenAt tokens cursor).isEnd = false := by simp_all
      exact (round_moves inReach goesOn ⟨_, rfl⟩).progress (.inl rfl)
  | behindEnd =>
    simp only [step] at stepped
    split at stepped <;> cases stepped
    · exact (round_moves inReach (newline_is_no_end ‹_›) rfl).progress (.inr ⟨rfl, rfl⟩)
    · exact Leads.progress (leads_go inReach ⟨_, rfl⟩) (.inr (.inl rfl))
  | failed error => cases stepped
  | finished trailing => cases stepped

/-! ## Runs -/

/-- What holds of every state that a run gets to. -/
structure Paid (tokens : List Token) (state : State) : Prop where
  inReach : state.cursor ≤ reach tokens
  paid : state.rounds + state.place.spare ≤ state.cursor

theorem paid_start (tokens : List Token) : Paid tokens start :=
  ⟨Nat.zero_le _, Nat.le_refl 0⟩

theorem Paid.step (paid : Paid tokens before) (stepped : step tokens before = some after) :
    Paid tokens after := by
  have progress := step_progress stepped paid.inReach
  have before := paid.paid
  have covered := progress.paid
  exact ⟨progress.inReach, by omega⟩

/-- The cursor never moves back. -/
theorem run_onward (paid : Paid tokens before) (run : Reaches (step tokens) before after) :
    Paid tokens after ∧ before.cursor ≤ after.cursor := by
  induction run with
  | refl => exact ⟨paid, Nat.le_refl _⟩
  | tail _ stepped reached =>
    obtain ⟨paid, onward⟩ := reached
    have progress := step_progress stepped paid.inReach
    exact ⟨paid.step stepped, Nat.le_trans onward progress.onward⟩

theorem paid_reached (run : Reaches (step tokens) start state) : Paid tokens state :=
  (run_onward (paid_start tokens) run).1

end Stepping

end ClassChart.Cursor
