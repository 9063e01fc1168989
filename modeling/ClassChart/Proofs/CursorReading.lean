import ClassChart.Proofs.CursorProgress

/-! A cursor reads members as their reader does. Wherever a run stands in front of some tokens, it
goes on as the reader for that place does on those tokens: it fails with the error at the obstacle
where the reader stops, and else it comes to the tokens that the reader leaves, but for a line break
in front of them. Main statements: what a loop comes to, and that a run holds the member read. -/
namespace ClassChart.Cursor

open Grammar (tokenAt)
open StateTransition (Reaches)

section Reading
variable {tokens rest : List Token} {cursor rounds : Nat} {declared : List Declaration}
  {place : Place} {before after state : State} {goal : State → Prop}

/-! ## In front of tokens -/

/-- The cursor stands in front of these tokens, and behind them is the first end of input. -/
def Stands (tokens : List Token) (cursor : Nat) (rest : List Token) : Prop :=
  ∃ taken, beforeEnd tokens = taken ++ rest ∧ taken.length = cursor

theorem stands_start (tokens : List Token) : Stands tokens 0 (beforeEnd tokens) :=
  ⟨[], rfl, rfl⟩

theorem stands_found (stands : Stands tokens cursor rest) :
    tokenAt tokens cursor = rest.head?.getD (firstEnd tokens) := by
  obtain ⟨taken, front, rfl⟩ := stands
  have here : beforeEnd tokens = taken ++ (Obstacle.mk .endMarker rest).rest := front
  exact (Grammar.token_at_obstacle here).2

theorem stands_token (stands : Stands tokens cursor (token :: rest)) :
    tokenAt tokens cursor = token ∧ token.isEnd = false := by
  refine ⟨stands_found stands, ?_⟩
  obtain ⟨taken, front, -⟩ := stands
  exact Grammar.before_end_goes_on (front ▸ List.mem_append_right _ List.mem_cons_self)

theorem stands_end (stands : Stands tokens cursor []) :
    (tokenAt tokens cursor).kind = .endOfInput := by
  rw [stands_found stands]
  exact of_decide_eq_true (first_end_is_end tokens)

theorem stands_advance (stands : Stands tokens cursor (token :: rest)) :
    advance tokens cursor = cursor + 1 := by
  obtain ⟨here, goesOn⟩ := stands_token stands
  simp [advance, here, goesOn]

theorem stands_behind (stands : Stands tokens cursor (token :: rest)) :
    Stands tokens (advance tokens cursor) rest := by
  rw [stands_advance stands]
  obtain ⟨taken, front, rfl⟩ := stands
  exact ⟨taken ++ [token], by simp [front], by simp⟩

/-- What is seen behind the token under the cursor. -/
theorem stands_next (stands : Stands tokens cursor (token :: rest)) :
    tokenAt tokens (cursor + 1) = rest.head?.getD (firstEnd tokens) := by
  rw [← stands_advance stands]
  exact stands_found (stands_behind stands)

/-! ## Single tokens -/

theorem stands_expected (stands : Stands tokens cursor rest)
    (read : expect accepts expected rest = .ok (token, later)) :
    tokenAt tokens cursor = token ∧ accepts token.kind = true ∧
      Stands tokens (advance tokens cursor) later := by
  obtain ⟨rfl, accepted⟩ := expect_eq_ok.mp read
  exact ⟨(stands_token stands).1, accepted, stands_behind stands⟩

/-- The error at a token is the error at the obstacle in front of it. -/
theorem error_on_found (stands : Stands tokens cursor rest) (expected : Expectation) :
    errorOn expected (tokenAt tokens cursor) =
      (Obstacle.mk expected rest).error (firstEnd tokens) := by
  rw [stands_found stands]
  rfl

theorem stands_unexpected (stands : Stands tokens cursor rest)
    (needs : accepts .endOfInput = false)
    (fails : expect accepts expected rest = .error obstacle) :
    accepts (tokenAt tokens cursor).kind = false ∧
      errorOn expected (tokenAt tokens cursor) = obstacle.error (firstEnd tokens) := by
  rw [error_on_found stands]
  cases rest with
  | nil =>
    rw [stands_end stands]
    cases fails
    exact ⟨needs, rfl⟩
  | cons token later =>
    rw [(stands_token stands).1]
    by_cases accepted : accepts token.kind = true
    · simp [expect, accepted] at fails
    · simp only [expect, accepted, Bool.false_eq_true, if_false, Except.error.injEq] at fails
      exact ⟨by simpa using accepted, by rw [← fails]⟩

theorem stands_given (stands : Stands tokens cursor rest) (given : behind? kind rest = some later) :
    (tokenAt tokens cursor).kind = kind ∧ Stands tokens (advance tokens cursor) later := by
  obtain ⟨token, rfl, isKind⟩ := behind?_eq_some.mp given
  exact ⟨by rw [(stands_token stands).1, isKind], stands_behind stands⟩

theorem stands_missing (stands : Stands tokens cursor rest) (other : kind ≠ .endOfInput)
    (missing : behind? kind rest = none) : (tokenAt tokens cursor).kind ≠ kind := by
  cases rest with
  | nil =>
    rw [stands_end stands]
    exact other.symm
  | cons token later =>
    rw [(stands_token stands).1]
    simpa [behind?] using missing

/-- A token that may be missing is passed over where it stands. -/
theorem stands_passed (stands : Stands tokens cursor rest) (other : kind ≠ .endOfInput) :
    Stands tokens (passOver tokens (· = kind) cursor) ((behind? kind rest).getD rest) := by
  unfold passOver
  cases given : behind? kind rest with
  | none => simpa [stands_missing stands other given] using stands
  | some later =>
    obtain ⟨isKind, behind⟩ := stands_given stands given
    simpa [isKind] using behind

/-! ## What runs get to -/

/-- A run from a state gets to one of these states. -/
def Gets (tokens : List Token) (state : State) (goal : State → Prop) : Prop :=
  ∃ after, Reaches (step tokens) state after ∧ goal after

theorem gets_here (arrived : goal state) : Gets tokens state goal :=
  ⟨state, .refl, arrived⟩

theorem Gets.of_run (gets : Gets tokens after goal) (run : Reaches (step tokens) before after) :
    Gets tokens before goal := by
  obtain ⟨final, goesOn, arrived⟩ := gets
  exact ⟨final, run.trans goesOn, arrived⟩

theorem Gets.of_step (gets : Gets tokens after goal) (stepped : step tokens before = some after) :
    Gets tokens before goal :=
  gets.of_run (.single stepped)

/-- At a place in front of these tokens. -/
def InFront (tokens : List Token) (place : Place) (rest : List Token) (declared : List Declaration)
    (state : State) : Prop :=
  ∃ cursor rounds, Stands tokens cursor rest ∧ state = ⟨place, cursor, rounds, declared⟩

theorem in_front (stands : Stands tokens cursor rest) :
    InFront tokens place rest declared ⟨place, cursor, rounds, declared⟩ :=
  ⟨cursor, rounds, stands, rfl⟩

/-- Failed with the error at an obstacle. -/
def FailedAt (tokens : List Token) (obstacle : Obstacle) (state : State) : Prop :=
  state.place = .failed (obstacle.error (firstEnd tokens))

/-- A failure at the token under the cursor is one at the obstacle in front of it. -/
theorem fails_here (stands : Stands tokens cursor rest) (state : State) (expected : Expectation) :
    Gets tokens (state.fail expected (tokenAt tokens cursor) cursor) (FailedAt tokens ⟨expected, rest⟩) :=
  gets_here (congrArg Place.failed (error_on_found stands expected))

/-- At these places a loop goes on over tokens of one sort, round by round. The place may keep the
tokens. -/
def Loops (tokens : List Token) (declared : List Declaration) (place : List Token → Place)
    (goesOn : Token → Bool) : Prop :=
  ∀ words cursor rounds, goesOn (tokenAt tokens cursor) = true →
    (tokenAt tokens cursor).isEnd = false →
    step tokens ⟨place words, cursor, rounds, declared⟩ =
      some ⟨place (words ++ [tokenAt tokens cursor]), advance tokens cursor, rounds + 1, declared⟩

/-- A loop comes to the first token that is not of its sort. -/
theorem loop_arrives {place : List Token → Place} (loops : Loops tokens declared place goesOn)
    (words : List Token) (stands : Stands tokens cursor rest) (rounds : Nat) :
    Gets tokens ⟨place words, cursor, rounds, declared⟩
      (InFront tokens (place (words ++ rest.takeWhile goesOn)) (rest.dropWhile goesOn) declared) := by
  induction rest generalizing words cursor rounds with
  | nil => simpa using gets_here (in_front stands)
  | cons token rest ih =>
    obtain ⟨here, noEnd⟩ := stands_token stands
    by_cases more : goesOn token = true
    · have stepped := loops words cursor rounds (here ▸ more) (here ▸ noEnd)
      rw [here] at stepped
      have gets := ih (words ++ [token]) (stands_behind stands) (rounds + 1)
      rw [List.append_assoc, List.singleton_append] at gets
      rw [List.takeWhile_cons_of_pos more, List.dropWhile_cons_of_pos more]
      exact gets.of_step stepped
    · rw [List.takeWhile_cons_of_neg more, List.dropWhile_cons_of_neg more, List.append_nil]
      exact gets_here (in_front stands)

theorem loop_stops (here : Stands tokens cursor (rest.dropWhile goesOn)) :
    goesOn (tokenAt tokens cursor) = false ∨ (tokenAt tokens cursor).isEnd = true := by
  cases found : rest.dropWhile goesOn with
  | nil =>
    rw [found] at here
    exact .inr (by simp [Token.isEnd, stands_end here])
  | cons token later =>
    rw [found] at here
    have stops := List.head?_dropWhile_not goesOn rest
    rw [found] at stops
    exact .inl (by simpa [(stands_token here).1] using stops)

/-! ## Members -/

/-- The same tokens, or those behind the line break that they begin with. -/
def PastBreak (rest left : List Token) : Prop :=
  left = rest ∨ ∃ lineEnd, lineEnd.kind = .newline ∧ rest = lineEnd :: left

theorem past_break_length (past : PastBreak rest left) : left.length ≤ rest.length := by
  rcases past with rfl | ⟨lineEnd, -, rfl⟩
  · exact Nat.le_refl _
  · simp

theorem past_break_members (past : PastBreak rest left) (className : String) :
    readMembers className rest = readMembers className left := by
  rcases past with rfl | ⟨lineEnd, line, rfl⟩
  · rfl
  · exact Grammar.read_members_newline line

theorem past_break_declarations (past : PastBreak rest left) :
    readDeclarations rest = readDeclarations left := by
  rcases past with rfl | ⟨lineEnd, line, rfl⟩
  · rfl
  · exact Grammar.read_declarations_newline line

/-- Passing over a line break leaves the tokens behind it. -/
theorem stands_past_break (stands : Stands tokens cursor rest) :
    ∃ left, PastBreak rest left ∧ Stands tokens (passOver tokens (· = .newline) cursor) left := by
  have passed : Stands tokens (passOver tokens (· = .newline) cursor) _ :=
    stands_passed stands (by simp)
  refine ⟨_, ?_, passed⟩
  cases given : behind? .newline rest with
  | none => exact .inl rfl
  | some later =>
    obtain ⟨lineEnd, rfl, line⟩ := behind?_eq_some.mp given
    exact .inr ⟨lineEnd, line, rfl⟩

/-- In front of what a member leaves, with the member among those of its class, or failed where no
member could be read. -/
def Held (tokens : List Token) (opened : ClassDeclaration) (declared : List Declaration)
    (reading : Except Obstacle (Member × List Token)) (state : State) : Prop :=
  match reading with
  | .error obstacle => FailedAt tokens obstacle state
  | .ok (member, rest) => ∃ left, PastBreak rest left ∧
      InFront tokens (.beforeMember { opened with members := opened.members ++ [member] }) left declared
        state

variable {opened : ClassDeclaration}

theorem fails_unexpected (stands : Stands tokens cursor rest) (needs : accepts .endOfInput = false)
    (fails : expect accepts expected rest = .error obstacle) (next : Token → Nat → State) :
    Gets tokens (state.require tokens accepts expected cursor next) (FailedAt tokens obstacle) := by
  obtain ⟨refused, same⟩ := stands_unexpected stands needs fails
  refine gets_here ?_
  simp [FailedAt, State.require, refused, State.fail, State.go, same]

theorem require_expected (stands : Stands tokens cursor rest)
    (read : expect accepts expected rest = .ok (token, later)) (next : Token → Nat → State) :
    state.require tokens accepts expected cursor next = next token (advance tokens cursor) := by
  obtain ⟨here, accepted, -⟩ := stands_expected stands read
  simp [State.require, here, accepted]

theorem holds_member (stands : Stands tokens cursor rest) (member : Member) :
    Gets tokens (state.hold tokens opened member cursor)
      (Held tokens opened state.declared (.ok (member, rest))) := by
  obtain ⟨left, past, behind⟩ := stands_past_break stands
  exact gets_here ⟨left, past, in_front behind⟩

/-- A type is read, and the member that it completes is held. -/
theorem typed_holds (stands : Stands tokens cursor rest) (member : String → Member) :
    Gets tokens
      (state.typed tokens expected usual cursor fun type => state.hold tokens opened (member type))
      (Held tokens opened state.declared
        ((readType expected usual rest).map fun (type, later) => (member type, later))) := by
  unfold State.typed readType
  cases colon : behind? .colon rest with
  | none =>
    rw [if_neg (stands_missing stands (by simp) colon)]
    exact holds_member stands (member usual)
  | some typeOn =>
    obtain ⟨isColon, behind⟩ := stands_given stands colon
    rw [if_pos isColon]
    dsimp only
    cases word : expect TokenKind.isMemberWord expected typeOn with
    | error obstacle => exact fails_unexpected behind rfl word _
    | ok result =>
      obtain ⟨named, later⟩ := result
      rw [require_expected behind word]
      exact holds_member (stands_expected behind word).2.2 (member named.lexeme)

/-- The parameters are passed over, and the method that they belong to is held. -/
theorem parameters_hold (stands : Stands tokens cursor rest) :
    Gets tokens ⟨.inParameters opened visibility name, cursor, rounds, declared⟩
      (Held tokens opened declared (readParameters name rest >>= fun behind =>
        (readType .returnType defaultReturnType behind).map fun (type, later) =>
          (.ofMethod ⟨visibility, name, type⟩, later))) := by
  have loops : Loops tokens declared (fun _ => .inParameters opened visibility name)
      (·.kind ≠ .closeParen) := by
    intro words cursor rounds inside goesOn
    have inside : (tokenAt tokens cursor).kind ≠ .closeParen := of_decide_eq_true inside
    simp [step, inside, goesOn, State.count, State.go]
  obtain ⟨_, run, closing, rounds, here, rfl⟩ := loop_arrives loops [] stands rounds
  have stops := loop_stops here
  refine Gets.of_run ?_ run
  unfold readParameters
  cases found : rest.dropWhile (·.kind ≠ .closeParen) with
  | nil =>
    rw [found] at here
    have stepped : step tokens ⟨.inParameters opened visibility name, closing, rounds, declared⟩ =
        some (State.fail ⟨.inParameters opened visibility name, closing, rounds + 1, declared⟩
          (.closingParen name) (tokenAt tokens closing) closing) := by
      simp [step, stands_end here, Token.isEnd, State.count]
    exact (fails_here here _ _).of_step stepped
  | cons mark later =>
    rw [found] at here
    obtain ⟨isMark, goesOn⟩ := stands_token here
    have closes : mark.kind = .closeParen := by
      simpa [isMark, goesOn] using stops
    have stepped : step tokens ⟨.inParameters opened visibility name, closing, rounds, declared⟩ =
        some (State.typed tokens ⟨.inParameters opened visibility name, closing, rounds, declared⟩
          .returnType defaultReturnType (advance tokens closing) fun type =>
            State.hold tokens ⟨.inParameters opened visibility name, closing, rounds, declared⟩ opened
              (.ofMethod ⟨visibility, name, type⟩)) := by
      simp [step, isMark, closes]
    exact (typed_holds (stands_behind here) _).of_step stepped

theorem read_member_tail_eq (visibility : Option Visibility) (name : String) (rest : List Token) :
    readMemberTail visibility name rest =
      match behind? .openParen rest with
      | some parameters => readParameters name parameters >>= fun behind =>
          (readType .returnType defaultReturnType behind).map fun (type, later) =>
            (.ofMethod ⟨visibility, name, type⟩, later)
      | none => (readType .attributeType defaultAttributeType rest).map fun (type, later) =>
          (.ofAttribute ⟨visibility, name, type⟩, later) := by
  unfold readMemberTail
  cases behind? .openParen rest <;> rfl

theorem member_tail_holds (stands : Stands tokens cursor rest) (name : Token) :
    Gets tokens (state.memberTail tokens opened visibility name.lexeme cursor)
      (Held tokens opened state.declared (readMemberTail visibility name.lexeme rest)) := by
  rw [read_member_tail_eq]
  unfold State.memberTail
  cases opens : behind? .openParen rest with
  | none =>
    rw [if_neg (stands_missing stands (by simp) opens)]
    exact typed_holds stands _
  | some parameters =>
    obtain ⟨isOpen, behind⟩ := stands_given stands opens
    rw [if_pos isOpen]
    exact parameters_hold behind

/-- Past a visibility mark. -/
theorem stands_marked (stands : Stands tokens cursor rest) :
    (tokenAt tokens cursor).kind.visibility? = (readVisibility rest).1 ∧
      Stands tokens (passOver tokens (·.visibility?.isSome) cursor) (readVisibility rest).2 := by
  unfold passOver
  cases rest with
  | nil =>
    rw [stands_end stands]
    exact ⟨rfl, stands⟩
  | cons token later =>
    have behind := stands_behind stands
    rw [(stands_token stands).1]
    cases mark : token.kind.visibility? with
    | none => simpa [readVisibility, mark] using stands
    | some visibility => simpa [readVisibility, mark] using behind

/-- A member is read, and held. -/
theorem member_holds (stands : Stands tokens state.cursor rest) :
    Gets tokens (state.member tokens opened) (Held tokens opened state.declared (readMember rest)) := by
  obtain ⟨visibility, behindMark⟩ := stands_marked stands
  unfold State.member readMember
  rw [visibility]
  dsimp only
  cases named : expect TokenKind.isMemberWord .memberName (readVisibility rest).2 with
  | error obstacle => exact fails_unexpected behindMark rfl named _
  | ok result =>
    obtain ⟨name, later⟩ := result
    rw [require_expected behindMark named]
    exact member_tail_holds (stands_expected behindMark named).2.2 name

end Reading

end ClassChart.Cursor
