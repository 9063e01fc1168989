import ClassChart.Proofs.CursorReading

/-! A cursor reads documents as their reader does, declaration by declaration. Main statement: the
run over a sequence ends, with what the sequence parses to. -/
namespace ClassChart.Cursor

open Grammar (tokenAt)
open StateTransition (Reaches eval mem_eval)

section Reading
variable {tokens rest : List Token} {cursor rounds : Nat} {declared : List Declaration}
  {opened : ClassDeclaration} {state : State}

/-! ## Declarations -/

/-- In front of what a reader leaves, with what it has read declared, or failed at the obstacle where
the reader stops. -/
def Declared (tokens : List Token) (declared : List Declaration) (reading : ClassChart.Step)
    (state : State) : Prop :=
  match reading.outcome with
  | .error obstacle => FailedAt tokens obstacle state
  | .ok rest => ∃ left, PastBreak rest left ∧
      InFront tokens .atDeclaration left (declared ++ reading.read) state

theorem declares_here (stands : Stands tokens cursor rest) (declaration : Declaration) :
    Gets tokens (state.declare tokens declaration cursor)
      (Declared tokens state.declared ⟨[declaration], .ok rest⟩) := by
  obtain ⟨left, past, behind⟩ := stands_past_break stands
  exact gets_here ⟨left, past, in_front behind⟩

/-- The class that members complete. -/
def withMembers (opened : ClassDeclaration) (members : List Member) : ClassDeclaration :=
  { opened with members := opened.members ++ members }

theorem with_members_append (opened : ClassDeclaration) (member : Member) (members : List Member) :
    withMembers (withMembers opened [member]) members = withMembers opened (member :: members) := by
  simp [withMembers]

/-- Behind the line breaks before a member the run is at the member. -/
theorem enters_member (other : (tokenAt tokens cursor).isNewline = false) :
    Reaches (step tokens) ⟨.beforeMember opened, cursor, rounds, declared⟩
      ⟨.atMember opened, cursor, rounds, declared⟩ :=
  .single (by simp [step, other, State.go])

theorem body_ends (stands : Stands tokens cursor (token :: rest)) (closes : token.kind = .closeBrace) :
    Gets tokens ⟨.atMember opened, cursor, rounds, declared⟩
      (Declared tokens declared ⟨[.ofClass opened], .ok rest⟩) := by
  have stepped : step tokens ⟨.atMember opened, cursor, rounds, declared⟩ =
      some (State.declare tokens ⟨.atMember opened, cursor, rounds + 1, declared⟩
        (.ofClass opened) (advance tokens cursor)) := by
    simp [step, (stands_token stands).1, closes, State.count]
  exact (declares_here (stands_behind stands) _).of_step stepped

theorem body_breaks_off (stands : Stands tokens cursor rest)
    (stops : (tokenAt tokens cursor).kind = .endOfInput ∨ (tokenAt tokens cursor).kind = .endMarker) :
    Gets tokens ⟨.atMember opened, cursor, rounds, declared⟩
      (FailedAt tokens ⟨.closingBrace opened.name, rest⟩) := by
  have stepped : step tokens ⟨.atMember opened, cursor, rounds, declared⟩ =
      some (State.fail ⟨.atMember opened, cursor, rounds + 1, declared⟩
        (.closingBrace opened.name) (tokenAt tokens cursor) cursor) := by
    rcases stops with stops | stops <;> simp [step, stops, Token.isEnd, State.count]
  exact (fails_here stands _ _).of_step stepped

theorem body_goes_on (stands : Stands tokens cursor (token :: rest))
    (inside : token.kind ∉ [TokenKind.newline, .closeBrace, .endMarker]) :
    Gets tokens ⟨.atMember opened, cursor, rounds, declared⟩
      (Held tokens opened declared (readMember (token :: rest))) := by
  obtain ⟨here, goesOn⟩ := stands_token stands
  simp only [List.mem_cons, List.not_mem_nil, or_false, not_or] at inside
  have stepped : step tokens ⟨.atMember opened, cursor, rounds, declared⟩ =
      some (State.member tokens ⟨.atMember opened, cursor, rounds + 1, declared⟩ opened) := by
    simp [step, here, inside, goesOn, State.count]
  exact (member_holds stands).of_step stepped

/-- A class body is read up to its closing brace. -/
theorem body_declares (stands : Stands tokens cursor rest) (rounds : Nat) :
    Gets tokens ⟨.beforeMember opened, cursor, rounds, declared⟩
      (Declared tokens declared ⟨[.ofClass (withMembers opened (readMembers opened.name rest).1)],
        (readMembers opened.name rest).2⟩) := by
  -- A member may leave its line break standing, so the body is followed by length.
  induction size : rest.length using Nat.strong_induction_on generalizing rest opened cursor rounds with
  | _ bound ih =>
  cases rest with
  | nil =>
    have isEnd := stands_end stands
    have read : readMembers opened.name [] = ([], .error ⟨.closingBrace opened.name, []⟩) := by
      rw [readMembers]
    rw [read]
    refine Gets.of_run ?_ (enters_member (by simp [Token.isNewline, isEnd]))
    exact body_breaks_off stands (.inl isEnd)
  | cons token later =>
    obtain ⟨here, -⟩ := stands_token stands
    by_cases line : token.kind = .newline
    · rw [Grammar.read_members_newline line]
      have stepped : step tokens ⟨.beforeMember opened, cursor, rounds, declared⟩ =
          some ⟨.beforeMember opened, advance tokens cursor, rounds + 1, declared⟩ := by
        simp [step, here, line, Token.isNewline, State.count, State.go]
      have shorter : later.length < bound := by simp [← size]
      exact (ih _ shorter (stands_behind stands) (rounds + 1) rfl).of_step stepped
    refine Gets.of_run ?_ (enters_member (by simp [here, line, Token.isNewline]))
    by_cases closes : token.kind = .closeBrace
    · rw [Grammar.read_members_close closes, withMembers, List.append_nil]
      exact body_ends stands closes
    by_cases marker : token.kind = .endMarker
    · rw [Grammar.read_members_marker marker]
      exact body_breaks_off stands (.inr (by rw [here, marker]))
    have inside : token.kind ∉ [TokenKind.newline, .closeBrace, .endMarker] := by
      simp [line, closes, marker]
    have holds : Gets tokens ⟨.atMember opened, cursor, rounds, declared⟩ (Held tokens opened declared _) :=
      body_goes_on stands inside
    cases read : readMember (token :: later) with
    | error obstacle =>
      rw [read] at holds
      rw [Grammar.read_members_stop inside read]
      exact holds
    | ok result =>
      obtain ⟨member, behindMember⟩ := result
      rw [read] at holds
      obtain ⟨_, run, left, past, cursor, rounds, standsBehind, rfl⟩ := holds
      have shorter : left.length < bound := by
        have shortens := readMember_length read
        have shortensBreak := past_break_length past
        omega
      have others : Gets tokens ⟨.beforeMember (withMembers opened [member]), cursor, rounds, declared⟩
          (Declared tokens declared _) :=
        ih _ shorter standsBehind rounds rfl
      rw [Grammar.read_members_member inside read, past_break_members past,
        ← with_members_append]
      exact others.of_run run

/-- A class is read from its name on. -/
theorem class_declares (stands : Stands tokens cursor rest) (isAbstract : Bool) :
    Gets tokens (state.openClass tokens isAbstract cursor)
      (Declared tokens state.declared (readClass isAbstract rest)) := by
  unfold State.openClass readClass
  cases named : expect (· = .identifier) .className rest with
  | error obstacle => exact fails_unexpected stands rfl named _
  | ok result =>
    obtain ⟨name, later⟩ := result
    rw [require_expected stands named]
    obtain ⟨-, -, behind⟩ := stands_expected stands named
    dsimp only
    cases opens : behind? .openBrace later with
    | none =>
      rw [if_neg (stands_missing behind (by simp) opens)]
      exact declares_here behind _
    | some body =>
      obtain ⟨isOpen, inside⟩ := stands_given behind opens
      rw [if_pos isOpen]
      exact body_declares inside state.rounds

/-- Free text is read up to the line break. -/
theorem line_declares (stands : Stands tokens cursor rest) (use : LineUse) (rounds : Nat) :
    Gets tokens ⟨.inLine use [], cursor, rounds, declared⟩
      (Declared tokens declared ⟨[use.declaration (lineTokens rest)], .ok (behindLine rest)⟩) := by
  have loops : Loops tokens declared (.inLine use) (!·.isNewline) := by
    intro words cursor rounds inside goesOn
    simp only [Bool.not_eq_true'] at inside
    simp [step, inside, goesOn, State.count, State.go]
  obtain ⟨_, run, ending, rounds, here, rfl⟩ := loop_arrives loops [] stands rounds
  have stops : (tokenAt tokens ending).isNewline = true ∨ (tokenAt tokens ending).isEnd = true := by
    simpa using loop_stops here
  have stepped : step tokens ⟨.inLine use (lineTokens rest), ending, rounds, declared⟩ =
      some (State.declare tokens ⟨.inLine use (lineTokens rest), ending, rounds, declared⟩
        (use.declaration (lineTokens rest)) ending) := by
    simp [step, stops]
  exact ((declares_here here _).of_step stepped).of_run run

/-- A relationship is read from its operator on. -/
theorem connection_declares (stands : Stands tokens cursor (operator :: rest))
    (connects : operator.kind = .operator kind) (source : Token) :
    Gets tokens (state.connect tokens source cursor)
      (Declared tokens state.declared (readRelationship source operator kind rest)) := by
  have behindOperator := stands_behind stands
  have denotes : operator.kind.relationship? = some kind := by simp [connects, TokenKind.relationship?]
  unfold State.connect readRelationship
  simp only [(stands_token stands).1, denotes]
  cases named : expect (· = .identifier) (.target operator.lexeme) rest with
  | error obstacle => exact fails_unexpected behindOperator rfl named _
  | ok result =>
    obtain ⟨target, later⟩ := result
    rw [require_expected behindOperator named]
    obtain ⟨-, -, behind⟩ := stands_expected behindOperator named
    dsimp only
    cases colon : behind? .colon later with
    | none =>
      rw [if_neg (stands_missing behind (by simp) colon)]
      exact declares_here behind _
    | some text =>
      obtain ⟨isColon, inside⟩ := stands_given behind colon
      rw [if_pos isColon]
      exact line_declares inside (.label source.lexeme target.lexeme kind) state.rounds

/-- A token that starts no declaration is passed over. -/
theorem stray_declares (behind : Stands tokens cursor rest) (token : Token) :
    Gets tokens (state.stray token cursor)
      (Declared tokens state.declared ⟨[.unrecognized token], .ok rest⟩) :=
  gets_here ⟨rest, .inl rfl, in_front behind⟩

/-- The next token is seen to be an operator where it is one. -/
theorem stands_operator (stands : Stands tokens cursor (token :: rest)) :
    (tokenAt tokens (cursor + 1)).kind.isOperator = nextIsOperator rest := by
  rw [stands_next stands]
  cases rest with
  | nil =>
    have isEnd : (firstEnd tokens).kind = .endOfInput := of_decide_eq_true (first_end_is_end tokens)
    simp [nextIsOperator, isEnd, TokenKind.isOperator, TokenKind.relationship?]
  | cons next later => rfl

theorem declaration_declares (stands : Stands tokens state.cursor (token :: rest)) :
    Gets tokens (state.declaration tokens)
      (Declared tokens state.declared (readDeclaration token rest)) := by
  have behind := stands_behind stands
  unfold State.declaration readDeclaration
  simp only [(stands_token stands).1, stands_operator stands]
  cases word : token.kind with
  | newline =>
    refine gets_here ⟨rest, .inl rfl, ?_⟩
    rw [List.append_nil]
    exact in_front behind
  | classWord => exact class_declares behind false
  | abstractWord =>
    have passed : Stands tokens _ ((behind? .classWord rest).getD rest) :=
      stands_passed behind (by simp)
    exact class_declares passed true
  | titleWord => exact line_declares behind .title state.rounds
  | identifier =>
    dsimp only
    by_cases follows : nextIsOperator rest = true
    · obtain ⟨operator, later, kind, rfl, connects⟩ := Grammar.next_is_operator_iff.mp follows
      rw [if_pos follows, if_pos follows, Grammar.read_connection_operator connects]
      exact connection_declares behind connects token
    · rw [if_neg follows, if_neg follows]
      exact stray_declares behind token
  | _ => exact stray_declares behind token

/-! ## Documents -/

/-- Behind the end marker, in front of what a reader leaves and with what it has read declared, or
failed at the obstacle where the reader stops. -/
def Completed (tokens : List Token) (declared : List Declaration) (reading : ClassChart.Step)
    (state : State) : Prop :=
  match reading.outcome with
  | .error obstacle => FailedAt tokens obstacle state
  | .ok rest => InFront tokens .behindEnd rest (declared ++ reading.read) state

/-- What was declared first counts as read. -/
theorem completed_append (tokens : List Token) (declared first : List Declaration)
    (reading : ClassChart.Step) :
    Completed tokens declared ⟨first ++ reading.read, reading.outcome⟩ =
      Completed tokens (declared ++ first) reading := by
  funext state
  simp [Completed]

/-- Declarations are read up to the end marker. -/
theorem declarations_complete (stands : Stands tokens cursor rest) (rounds : Nat) :
    Gets tokens ⟨.atDeclaration, cursor, rounds, declared⟩
      (Completed tokens declared (readDeclarations rest)) := by
  -- A declaration may leave its line break standing, so the run is followed by length.
  induction size : rest.length using Nat.strong_induction_on
    generalizing rest cursor rounds declared with
  | _ bound ih =>
  cases rest with
  | nil =>
    have isEnd := stands_end stands
    have read : readDeclarations [] = ⟨[], .error ⟨.endMarker, []⟩⟩ := by rw [readDeclarations]
    have stepped : step tokens ⟨.atDeclaration, cursor, rounds, declared⟩ =
        some (State.fail ⟨.atDeclaration, cursor, rounds, declared⟩ .endMarker
          (tokenAt tokens cursor) cursor) := by
      simp [step, isEnd, Token.isEnd, State.require]
    rw [read]
    exact (fails_here stands _ _).of_step stepped
  | cons token later =>
    obtain ⟨here, goesOn⟩ := stands_token stands
    by_cases ends : token.kind = .endMarker
    · have stepped : step tokens ⟨.atDeclaration, cursor, rounds, declared⟩ =
          some ⟨.behindEnd, advance tokens cursor, rounds, declared⟩ := by
        simp [step, here, ends, State.require, State.go]
      rw [Grammar.read_declarations_end ends]
      have arrived : Completed tokens declared ⟨[], .ok later⟩
          ⟨.behindEnd, advance tokens cursor, rounds, declared⟩ := by
        simpa [Completed] using in_front (stands_behind stands)
      exact (gets_here arrived).of_step stepped
    have stepped : step tokens ⟨.atDeclaration, cursor, rounds, declared⟩ =
        some (State.declaration tokens ⟨.atDeclaration, cursor, rounds + 1, declared⟩) := by
      simp [step, here, ends, goesOn, State.count]
    have declares : Gets tokens ⟨.atDeclaration, cursor, rounds, declared⟩
        (Declared tokens declared (readDeclaration token later)) :=
      (declaration_declares stands).of_step stepped
    unfold Declared at declares
    cases read : (readDeclaration token later).outcome with
    | error obstacle =>
      rw [read] at declares
      rw [Grammar.read_declarations_stop ends read]
      exact declares
    | ok behind =>
      rw [read] at declares
      obtain ⟨_, run, left, past, cursor, rounds, standsBehind, rfl⟩ := declares
      have shorter : left.length < bound := by
        have shortens := readDeclaration_length read
        have shortensBreak := past_break_length past
        simp only [List.length_cons] at size
        omega
      rw [Grammar.read_declarations_step ends read, past_break_declarations past, completed_append]
      exact (ih _ shorter standsBehind rounds rfl).of_run run

/-- An end of input is no line break either. -/
theorem skip_stops (here : Stands tokens cursor (rest.dropWhile (·.isNewline))) :
    (tokenAt tokens cursor).isNewline = false := by
  rcases loop_stops here with other | isEnd
  · exact other
  · have isEnd : (tokenAt tokens cursor).kind = .endOfInput := of_decide_eq_true isEnd
    simp [Token.isNewline, isEnd]

/-- A document is read from its line breaks above to behind its end marker. -/
theorem document_completes (tokens : List Token) :
    Gets tokens start (Completed tokens [] (readDocument (beforeEnd tokens))) := by
  have loops : Loops tokens [] (fun _ => .beforeStart) (·.isNewline) := by
    intro words cursor rounds line goesOn
    simp [step, line, State.count, State.go]
  obtain ⟨_, run, cursor, rounds, here, rfl⟩ := loop_arrives loops [] (stands_start tokens) 0
  have other := skip_stops here
  have stepped : step tokens ⟨.beforeStart, cursor, rounds, []⟩ =
      some (State.require tokens ⟨.beforeStart, cursor, rounds, []⟩ (· = .startMarker) .startMarker
        cursor fun _ => State.go ⟨.beforeStart, cursor, rounds, []⟩ .atDeclaration) := by
    simp [step, other]
  refine Gets.of_run (Gets.of_step ?_ stepped) run
  unfold readDocument skipNewlines
  cases starts : expect (· = .startMarker) .startMarker
      ((beforeEnd tokens).dropWhile (·.isNewline)) with
  | error obstacle => exact fails_unexpected here rfl starts _
  | ok result =>
    obtain ⟨marker, later⟩ := result
    rw [require_expected here starts]
    exact declarations_complete (stands_expected here starts).2.2 rounds

/-- Behind the end marker line breaks are passed over, and the first other token is reported. -/
theorem trailing_ends (stands : Stands tokens cursor rest) (rounds : Nat) :
    Gets tokens ⟨.behindEnd, cursor, rounds, declared⟩
      (·.result? = some (.ok (.ofReading declared rest))) := by
  have loops : Loops tokens declared (fun _ => .behindEnd) (·.isNewline) := by
    intro words cursor rounds line goesOn
    simp [step, line, State.count, State.go]
  obtain ⟨_, run, cursor, rounds, here, rfl⟩ := loop_arrives loops [] stands rounds
  have other := skip_stops here
  have stepped : step tokens ⟨.behindEnd, cursor, rounds, declared⟩ =
      some ⟨.finished (trailingReports rest), cursor, rounds, declared⟩ := by
    have reports : (if (tokenAt tokens cursor).isEnd then []
        else [Diagnostic.trailingContent (tokenAt tokens cursor)]) = trailingReports rest := by
      unfold trailingReports skipNewlines
      cases found : rest.dropWhile (·.isNewline) with
      | nil =>
        rw [found] at here
        simp [Token.isEnd, stands_end here]
      | cons token later =>
        rw [found] at here
        obtain ⟨isToken, goesOn⟩ := stands_token here
        simp [isToken, goesOn]
    simp [step, other, State.go, ← reports]
  refine Gets.of_run (Gets.of_step (gets_here ?_) stepped) run
  rfl

end Reading

/-! ## Whole runs -/

/-- A run that has come to a result has ended. -/
theorem step_of_result {state : State} (ended : state.result? = some result) :
    step tokens state = none := by
  unfold State.result? at ended
  unfold step
  cases place : state.place <;> simp_all

/-- The run over a sequence ends, and with what the sequence parses to. -/
theorem run_parses (tokens : List Token) :
    ∃ final ∈ eval (step tokens) start, final.result? = some (parse tokens) := by
  have completes := document_completes tokens
  unfold Completed at completes
  cases outcome : (readDocument (beforeEnd tokens)).outcome with
  | error obstacle =>
    rw [outcome] at completes
    obtain ⟨final, run, failed⟩ := completes
    have result : final.result? = some (parse tokens) := by
      rw [Grammar.parse_of_obstacle outcome, State.result?, failed]
    exact ⟨final, mem_eval.mpr ⟨run, step_of_result result⟩, result⟩
  | ok trailing =>
    rw [outcome, List.nil_append] at completes
    obtain ⟨_, run, cursor, rounds, stands, rfl⟩ := completes
    obtain ⟨final, goesOn, result⟩ := trailing_ends stands rounds
    rw [← Grammar.parse_of_trailing outcome] at result
    exact ⟨final, mem_eval.mpr ⟨run.trans goesOn, step_of_result result⟩, result⟩

end ClassChart.Cursor
