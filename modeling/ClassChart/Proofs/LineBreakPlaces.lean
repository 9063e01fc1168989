import ClassChart.Proofs.Obstacles

/-! Where line breaks stand. A reader takes a line break by its kind and keeps nothing of it, so
moving line breaks to other places changes neither what is read nor any report. It can only show in
an error, and only where the offending token is itself a line break. -/
namespace ClassChart.Grammar

/-- Line breaks may be moved and stay line breaks; every other token stays as it is. -/
structure MovesLineBreaks (move : Token → Token) : Prop where
  stays : ∀ token, token.kind = .newline → (move token).kind = .newline
  fixed : ∀ token, token.kind ≠ .newline → move token = token

theorem moved_kind (moves : MovesLineBreaks move) (token : Token) :
    (move token).kind = token.kind := by
  by_cases line : token.kind = .newline
  · rw [moves.stays token line, line]
  · rw [moves.fixed token line]

theorem moved_newline (moves : MovesLineBreaks move) (token : Token) :
    (move token).isNewline = token.isNewline := by
  rw [Token.isNewline, Token.isNewline, moved_kind moves]

theorem moved_end (moves : MovesLineBreaks move) (token : Token) :
    (move token).isEnd = token.isEnd := by
  rw [Token.isEnd, Token.isEnd, moved_kind moves]

/-- A token is named by its kind alone where it is a line break. -/
theorem moved_describe (moves : MovesLineBreaks move) (token : Token) :
    (move token).describe = token.describe := by
  by_cases line : token.kind = .newline
  · simp [Token.describe, moves.stays token line, line]
  · rw [moves.fixed token line]

/-! ## Readers of single values -/

/-- An obstacle in front of moved tokens. -/
def movedObstacle (move : Token → Token) (obstacle : Obstacle) : Obstacle :=
  ⟨obstacle.expected, obstacle.rest.map move⟩

/-- A result in front of moved tokens. -/
def carry (move : Token → Token) (result : Except Obstacle (α × List Token)) :
    Except Obstacle (α × List Token) :=
  match result with
  | .ok (value, rest) => .ok (value, rest.map move)
  | .error obstacle => .error (movedObstacle move obstacle)

/-- The reader comes to the same value in front of moved tokens. -/
def Commutes (move : Token → Token) (read : List Token → Except Obstacle (α × List Token)) : Prop :=
  ∀ tokens, read (tokens.map move) = carry move (read tokens)

theorem commutes_ok (move : Token → Token) (value : α) :
    Commutes move fun tokens => .ok (value, tokens) :=
  fun _ => rfl

/-- One reader after the other. -/
theorem commutes_bind {read : List Token → Except Obstacle (α × List Token)}
    (next : α → List Token → Except Obstacle (β × List Token))
    (first : Commutes move read) (second : ∀ value, Commutes move (next value)) :
    Commutes move fun tokens => read tokens >>= fun result => next result.1 result.2 := by
  intro tokens
  simp only [first tokens]
  cases read tokens with
  | error obstacle => rfl
  | ok result => exact second result.1 result.2

/-- Tokens left, moved, or an obstacle in front of moved tokens. -/
def carryRest (move : Token → Token) (outcome : Except Obstacle (List Token)) :
    Except Obstacle (List Token) :=
  match outcome with
  | .ok rest => .ok (rest.map move)
  | .error obstacle => .error (movedObstacle move obstacle)

/-- The same has been read, in front of moved tokens. -/
def movedStep (move : Token → Token) (step : Step) : Step :=
  ⟨step.read, carryRest move step.outcome⟩

section Moved
variable {move : Token → Token} (moves : MovesLineBreaks move)
include moves

theorem behind_moved (kind : TokenKind) (tokens : List Token) :
    behind? kind (tokens.map move) = (behind? kind tokens).map (List.map move) := by
  cases tokens with
  | nil => rfl
  | cons token tokens =>
    simp only [List.map_cons, behind?, moved_kind moves]
    split <;> rfl

/-- A reader that goes one way behind a token of this kind, and the other way without one. -/
theorem commutes_behind (kind : TokenKind)
    {read inside outside : List Token → Except Obstacle (α × List Token)}
    (given : Commutes move inside) (omitted : Commutes move outside)
    (opens : ∀ (mark : Token) rest, mark.kind = kind → read (mark :: rest) = inside rest)
    (stays : ∀ tokens, behind? kind tokens = none → read tokens = outside tokens) :
    Commutes move read := by
  intro tokens
  have seen := behind_moved moves kind tokens
  cases found : behind? kind tokens with
  | none =>
    rw [found] at seen
    rw [stays _ seen, stays _ found]
    exact omitted tokens
  | some rest =>
    obtain ⟨mark, rfl, isMark⟩ := behind?_eq_some.mp found
    rw [List.map_cons, opens _ _ ((moved_kind moves mark).trans isMark), opens _ _ isMark]
    exact given rest

/-- A reader that takes no line break takes the same token. -/
theorem commutes_expect (other : accepts .newline = false) (expected : Expectation) :
    Commutes move (expect accepts expected) := by
  intro tokens
  cases tokens with
  | nil => simp [expect, carry, movedObstacle]
  | cons token tokens =>
    simp only [List.map_cons, expect, moved_kind moves]
    by_cases accepted : accepts token.kind = true
    · have plain : token.kind ≠ .newline := by
        intro line
        rw [line, other] at accepted
        cases accepted
      simp [accepted, carry, moves.fixed token plain]
    · simp [accepted, carry, movedObstacle]

theorem commutes_type (expected : Expectation) (usual : String) :
    Commutes move (readType expected usual) := by
  have word : Commutes move fun tokens => expect TokenKind.isMemberWord expected tokens >>=
      fun result => .ok (result.1.lexeme, result.2) :=
    commutes_bind (fun token rest => .ok (token.lexeme, rest)) (commutes_expect moves rfl expected)
      fun token => commutes_ok move token.lexeme
  refine commutes_behind moves .colon word (commutes_ok move usual) ?_ ?_
  · intro mark rest isColon
    simp only [readType, behind?, isColon, if_true]
    cases expect TokenKind.isMemberWord expected rest <;> rfl
  · intro tokens none
    simp [readType, none]

theorem commutes_parameters (methodName : String) :
    Commutes move fun tokens => (readParameters methodName tokens).map fun rest => ((), rest) := by
  intro tokens
  have same : (fun token : Token => decide (token.kind ≠ .closeParen)) ∘ move =
      fun token : Token => decide (token.kind ≠ .closeParen) := by
    funext token
    simp [moved_kind moves]
  simp only [readParameters, List.dropWhile_map, same]
  cases tokens.dropWhile (·.kind ≠ .closeParen) with
  | nil => simp [carry, Except.map, movedObstacle]
  | cons closing rest => rfl

theorem commutes_visibility : Commutes move fun tokens => .ok (readVisibility tokens) := by
  intro tokens
  cases tokens with
  | nil => rfl
  | cons token tokens =>
    simp only [List.map_cons, readVisibility, moved_kind moves]
    cases token.kind.visibility? <;> rfl

theorem commutes_member_tail (visibility : Option Visibility) (name : String) :
    Commutes move (readMemberTail visibility name) := by
  have asMethod : Commutes move fun tokens =>
      ((readParameters name tokens).map fun rest => ((), rest)) >>= fun result =>
        readType .returnType defaultReturnType result.2 >>= fun result =>
          .ok (Member.ofMethod ⟨visibility, name, result.1⟩, result.2) :=
    commutes_bind _ (commutes_parameters moves name) fun _ =>
      commutes_bind (fun type rest => .ok (Member.ofMethod ⟨visibility, name, type⟩, rest))
        (commutes_type moves _ _) fun type => commutes_ok move _
  have asAttribute : Commutes move fun tokens =>
      readType .attributeType defaultAttributeType tokens >>= fun result =>
        .ok (Member.ofAttribute ⟨visibility, name, result.1⟩, result.2) :=
    commutes_bind (fun type rest => .ok (Member.ofAttribute ⟨visibility, name, type⟩, rest))
      (commutes_type moves _ _) fun type => commutes_ok move _
  refine commutes_behind moves .openParen asMethod asAttribute ?_ ?_
  · intro mark rest isOpen
    simp only [readMemberTail, behind?, isOpen, if_true]
    cases readParameters name rest <;> rfl
  · intro tokens none
    simp only [readMemberTail, none]
    rfl

theorem commutes_member : Commutes move readMember :=
  commutes_bind
    (fun visibility tokens => expect TokenKind.isMemberWord .memberName tokens >>= fun result =>
      readMemberTail visibility result.1.lexeme result.2)
    (commutes_visibility moves) fun visibility =>
      commutes_bind (fun name => readMemberTail visibility name.lexeme)
        (commutes_expect moves rfl .memberName) fun name =>
          commutes_member_tail moves visibility name.lexeme

/-! ## Class bodies -/

theorem members_moved (className : String) (tokens : List Token) :
    readMembers className (tokens.map move) =
      ((readMembers className tokens).1, carryRest move (readMembers className tokens).2) := by
  fun_induction readMembers className tokens with
  | case1 =>
    rw [List.map_nil, readMembers]
    rfl
  | case2 token rest newline ih =>
    have line : (move token).kind = .newline :=
      moves.stays token (by simpa [Token.isNewline] using newline)
    rw [List.map_cons, read_members_newline line, ih]
  | case3 token rest newline closes =>
    rw [List.map_cons, read_members_close ((moved_kind moves token).trans closes)]
    rfl
  | case4 token rest newline open_ marker =>
    rw [List.map_cons, read_members_marker ((moved_kind moves token).trans marker)]
    rfl
  | case5 token rest newline open_ goesOn obstacle fails =>
    have inside : (move token).kind ∉ [TokenKind.newline, .closeBrace, .endMarker] := by
      rw [moved_kind moves]
      simp_all [Token.isNewline]
    have stuck : readMember (move token :: rest.map move) =
        .error (movedObstacle move obstacle) := by
      have same := commutes_member moves (token :: rest)
      rwa [fails] at same
    rw [List.map_cons, read_members_stop inside stuck]
    rfl
  | case6 token rest newline open_ goesOn member behindMember taken members outcome same ih =>
    have inside : (move token).kind ∉ [TokenKind.newline, .closeBrace, .endMarker] := by
      rw [moved_kind moves]
      simp_all [Token.isNewline]
    have read : readMember (move token :: rest.map move) = .ok (member, behindMember.map move) := by
      have same := commutes_member moves (token :: rest)
      rwa [taken] at same
    rw [List.map_cons, read_members_member inside read, ih, same]

/-! ## Declarations -/

/-- A class is read alike from moved tokens. -/
theorem class_moved (isAbstract : Bool) (tokens : List Token) :
    readClass isAbstract (tokens.map move) = movedStep move (readClass isAbstract tokens) := by
  have named : Commutes move (expect (· = .identifier) .className) := commutes_expect moves rfl _
  unfold readClass
  rw [named tokens]
  cases expect (· = .identifier) .className tokens with
  | error obstacle => rfl
  | ok result =>
    simp only [carry, behind_moved moves]
    cases behind? .openBrace result.2 with
    | none => rfl
    | some body => simp [members_moved moves, movedStep]

theorem line_moved (tokens : List Token) :
    lineTokens (tokens.map move) = lineTokens tokens ∧
      behindLine (tokens.map move) = (behindLine tokens).map move := by
  have same : (fun token : Token => !token.isNewline) ∘ move =
      fun token : Token => !token.isNewline := by
    funext token
    simp [moved_newline moves]
  rw [lineTokens, lineTokens, behindLine, behindLine, List.takeWhile_map, List.dropWhile_map, same]
  refine ⟨(List.map_congr_left fun token member => ?_).trans (List.map_id _), rfl⟩
  apply moves.fixed
  simpa [Token.isNewline] using List.mem_takeWhile_imp member

theorem relationship_moved (source operator : Token) (kind : RelationshipKind)
    (tokens : List Token) :
    readRelationship source operator kind (tokens.map move) =
      movedStep move (readRelationship source operator kind tokens) := by
  have named : Commutes move (expect (· = .identifier) (.target operator.lexeme)) :=
    commutes_expect moves rfl _
  unfold readRelationship
  rw [named tokens]
  cases expect (· = .identifier) (.target operator.lexeme) tokens with
  | error obstacle => rfl
  | ok result =>
    simp only [carry, behind_moved moves]
    cases behind? .colon result.2 with
    | none => rfl
    | some text => simp [line_moved moves text, movedStep, carryRest]

theorem connection_moved (source : Token) (tokens : List Token) :
    readConnection source (tokens.map move) = movedStep move (readConnection source tokens) := by
  cases tokens with
  | nil => simp [readConnection, movedStep, carryRest, movedObstacle]
  | cons operator tokens =>
    simp only [List.map_cons, readConnection, moved_kind moves]
    cases connects : operator.kind.relationship? with
    | none => rfl
    | some kind =>
      have other : operator.kind ≠ .newline := by
        intro line
        rw [line] at connects
        cases connects
      rw [moves.fixed operator other]
      exact relationship_moved moves source operator kind tokens

theorem next_is_operator_moved (tokens : List Token) :
    nextIsOperator (tokens.map move) = nextIsOperator tokens := by
  cases tokens with
  | nil => rfl
  | cons token tokens => simp [nextIsOperator, moved_kind moves]

/-- The token that starts a declaration is no line break, or it declares nothing. -/
theorem declaration_moved (token : Token) (tokens : List Token) :
    readDeclaration (move token) (tokens.map move) =
      movedStep move (readDeclaration token tokens) := by
  by_cases line : token.kind = .newline
  · simp [readDeclaration, line, moves.stays token line, movedStep, carryRest]
  · rw [moves.fixed token line]
    cases word : token.kind with
    | newline => exact absurd word line
    | classWord => simpa [readDeclaration, word] using class_moved moves false tokens
    | abstractWord =>
      simp only [readDeclaration, word, behind_moved moves]
      cases behind? .classWord tokens with
      | none => exact class_moved moves true tokens
      | some later => exact class_moved moves true later
    | titleWord => simp [readDeclaration, word, line_moved moves tokens, movedStep, carryRest]
    | identifier =>
      simp only [readDeclaration, word, next_is_operator_moved moves]
      split
      · exact connection_moved moves token tokens
      · rfl
    | _ => simp [readDeclaration, word, movedStep, carryRest]

theorem declarations_moved (tokens : List Token) :
    readDeclarations (tokens.map move) = movedStep move (readDeclarations tokens) := by
  fun_induction readDeclarations tokens with
  | case1 => simp [readDeclarations, movedStep, carryRest, movedObstacle]
  | case2 token rest ends =>
    rw [List.map_cons, read_declarations_end ((moved_kind moves token).trans ends)]
    rfl
  | case3 token rest goesOn obstacle fails =>
    have first := declaration_moved moves token rest
    have stops : (readDeclaration (move token) (rest.map move)).outcome =
        .error (movedObstacle move obstacle) := by
      rw [first, movedStep, fails]
      rfl
    rw [List.map_cons, read_declarations_stop (by rwa [moved_kind moves]) stops, first]
    rfl
  | case4 token rest goesOn later taken step ih =>
    have first := declaration_moved moves token rest
    have passes :
        (readDeclaration (move token) (rest.map move)).outcome = .ok (later.map move) := by
      rw [first, movedStep, taken]
      rfl
    rw [List.map_cons, read_declarations_step (by rwa [moved_kind moves]) passes, first, ih]
    rfl

/-! ## Documents -/

theorem skip_newlines_moved (tokens : List Token) :
    skipNewlines (tokens.map move) = (skipNewlines tokens).map move := by
  have same : (fun token : Token => token.isNewline) ∘ move =
      fun token : Token => token.isNewline := by
    funext token
    simp [moved_newline moves]
  rw [skipNewlines, List.dropWhile_map, same]
  rfl

theorem document_moved (tokens : List Token) :
    readDocument (tokens.map move) = movedStep move (readDocument tokens) := by
  have started : Commutes move (expect (· = .startMarker) .startMarker) :=
    commutes_expect moves rfl _
  unfold readDocument
  rw [skip_newlines_moved moves, started (skipNewlines tokens)]
  cases expect (· = .startMarker) .startMarker (skipNewlines tokens) with
  | error obstacle => rfl
  | ok result => exact declarations_moved moves result.2

theorem before_end_moved (tokens : List Token) :
    beforeEnd (tokens.map move) = (beforeEnd tokens).map move := by
  have same : (fun token : Token => !token.isEnd) ∘ move = fun token : Token => !token.isEnd := by
    funext token
    simp [moved_end moves]
  rw [beforeEnd, List.takeWhile_map, same]
  rfl

theorem first_end_moved (tokens : List Token) : firstEnd (tokens.map move) = firstEnd tokens := by
  have same : (fun token : Token => token.isEnd) ∘ move = fun token : Token => token.isEnd := by
    funext token
    simp [moved_end moves]
  rw [firstEnd, firstEnd, List.find?_map, same]
  cases found : tokens.find? (·.isEnd) with
  | none => rfl
  | some token =>
    have ends := List.find?_some found
    exact moves.fixed token (by simp_all [Token.isEnd])

/-- No line break is reported behind the end marker. -/
theorem trailing_reports_moved (tokens : List Token) :
    trailingReports (tokens.map move) = trailingReports tokens := by
  have stops := List.head?_dropWhile_not (fun token : Token => token.isNewline) tokens
  rw [trailingReports, trailingReports, skip_newlines_moved moves, List.head?_map]
  cases first : (skipNewlines tokens).head? with
  | none => rfl
  | some token =>
    rw [skipNewlines] at first
    rw [first] at stops
    rw [Option.map_some, moves.fixed token (by simpa [Token.isNewline] using stops)]

/-- The error at an obstacle, when the offending token has been moved. -/
theorem error_moved (obstacle : Obstacle) (stop : Token) :
    (movedObstacle move obstacle).error stop = obstacle.error stop ∨
      ∃ token ∈ obstacle.rest, token.kind = .newline ∧ ∃ message,
        obstacle.error stop = ⟨message, token.position⟩ ∧
          (movedObstacle move obstacle).error stop = ⟨message, (move token).position⟩ := by
  obtain ⟨expected, rest⟩ := obstacle
  cases rest with
  | nil => exact .inl rfl
  | cons token rest =>
    by_cases line : token.kind = .newline
    · refine .inr ⟨token, by simp, line, _, rfl, ?_⟩
      simp [Obstacle.error, Obstacle.found, movedObstacle, moved_describe moves]
    · left
      simp [Obstacle.error, Obstacle.found, movedObstacle, moves.fixed token line]

/-- Moving line breaks changes no result of parsing but the place of an error at a line break. -/
theorem parse_moved (tokens : List Token) :
    parse (tokens.map move) = parse tokens ∨
      ∃ token ∈ tokens, token.kind = .newline ∧ ∃ message,
        parse tokens = .error ⟨message, token.position⟩ ∧
          parse (tokens.map move) = .error ⟨message, (move token).position⟩ := by
  have reading : readDocument (beforeEnd (tokens.map move)) =
      movedStep move (readDocument (beforeEnd tokens)) := by
    rw [before_end_moved moves, document_moved moves]
  cases outcome : (readDocument (beforeEnd tokens)).outcome with
  | ok trailing =>
    have same : (readDocument (beforeEnd (tokens.map move))).outcome = .ok (trailing.map move) := by
      rw [reading, movedStep, outcome]
      rfl
    left
    rw [parse_of_trailing outcome, parse_of_trailing same, reading, Parsed.ofReading,
      Parsed.ofReading,
      trailing_reports_moved moves]
    rfl
  | error obstacle =>
    have same : (readDocument (beforeEnd (tokens.map move))).outcome =
        .error (movedObstacle move obstacle) := by
      rw [reading, movedStep, outcome]
      rfl
    obtain ⟨said, stuck, settled⟩ := document_settles (beforeEnd tokens)
    obtain ⟨taken, split, -⟩ := settled_error settled outcome
    rw [parse_of_obstacle outcome, parse_of_obstacle same, first_end_moved moves]
    rcases error_moved moves obstacle (firstEnd tokens) with
      equal | ⟨token, member, line, message, here, there⟩
    · exact .inl (congrArg Except.error equal)
    · have inside : token ∈ beforeEnd tokens := by
        rw [split]
        exact List.mem_append_right taken member
      have front : (beforeEnd tokens).Sublist tokens := List.takeWhile_sublist _
      exact .inr ⟨token, front.subset inside, line, message, congrArg _ here, congrArg _ there⟩

end Moved

end ClassChart.Grammar
