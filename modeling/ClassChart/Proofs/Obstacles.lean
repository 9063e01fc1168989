import ClassChart.Proofs.Lookahead
import ClassChart.Proofs.Recovery

/-! Where parsing fails. The first obstacle ends the work, the error describes the token that
stands there, and no reader has looked behind that token. So once an offending token is written,
nothing that is written later can change the error. -/
namespace ClassChart.Grammar

/-! ## The end of a sequence -/

/-- The tokens from the first end of input on. -/
def fromEnd (tokens : List Token) : List Token :=
  tokens.dropWhile (!·.isEnd)

theorem before_end_append_from_end (tokens : List Token) :
    beforeEnd tokens ++ fromEnd tokens = tokens :=
  List.takeWhile_append_dropWhile

theorem first_end_eq (tokens : List Token) :
    firstEnd tokens = (fromEnd tokens).head?.getD missingEnd := by
  rw [firstEnd, fromEnd, List.find?_eq_head?_dropWhile_not]

theorem from_end_begins (begins : (fromEnd tokens).head? = some token) : token.isEnd = true := by
  have stops := List.head?_dropWhile_not (fun token : Token => !token.isEnd) tokens
  rw [fromEnd] at begins
  rw [begins] at stops
  simpa using stops

/-- What is written behind a sequence without an end of input is read with it. -/
theorem before_end_append (endless : ∀ token ∈ tokens, token.isEnd = false) (others : List Token) :
    beforeEnd (tokens ++ others) = tokens ++ beforeEnd others := by
  rw [beforeEnd, List.takeWhile_append_of_pos (by simpa using endless)]
  rfl

/-! ## What is required at an obstacle -/

/-- A reader that stops does not ask for the operator of a relationship. -/
def AsksNoOperator (outcome : Except Obstacle α) : Prop :=
  ∀ obstacle, outcome = .error obstacle → obstacle.expected ≠ .relationshipOperator

theorem asks_nothing (value : α) : AsksNoOperator (.ok value) := by
  intro obstacle stops
  cases stops

theorem asks_other (other : expected ≠ .relationshipOperator) (rest : List Token) :
    AsksNoOperator (.error ⟨expected, rest⟩ : Except Obstacle α) := by
  intro obstacle stops
  cases stops
  exact other

/-- An obstacle that one reader stops at is passed on by another. -/
theorem asks_passed_on {step : Except Obstacle α} (asks : AsksNoOperator step)
    (stops : step = .error obstacle) : AsksNoOperator (.error obstacle : Except Obstacle β) := by
  intro stuck same
  cases same
  exact asks obstacle stops

theorem asks_bind {step : Except Obstacle α} {next : α → Except Obstacle β}
    (first : AsksNoOperator step) (second : ∀ value, AsksNoOperator (next value)) :
    AsksNoOperator (step >>= next) := by
  cases step with
  | error obstacle => exact asks_passed_on first rfl
  | ok value => exact second value

theorem asks_expect (other : expected ≠ .relationshipOperator) (tokens : List Token) :
    AsksNoOperator (expect accepts expected tokens) := by
  unfold expect
  split
  · exact asks_other other _
  · split
    · exact asks_nothing _
    · exact asks_other other _

theorem asks_type (other : expected ≠ .relationshipOperator) (tokens : List Token) :
    AsksNoOperator (readType expected usual tokens) := by
  unfold readType
  split
  · exact asks_nothing _
  · exact asks_bind (asks_expect other _) fun _ => asks_nothing _

theorem asks_parameters (name : String) (tokens : List Token) :
    AsksNoOperator (readParameters name tokens) := by
  unfold readParameters
  split
  · exact asks_other (by simp) _
  · exact asks_nothing _

theorem asks_member_tail (visibility : Option Visibility) (name : String) (tokens : List Token) :
    AsksNoOperator (readMemberTail visibility name tokens) := by
  have returns : ∀ rest, AsksNoOperator (readType .returnType defaultReturnType rest) :=
    asks_type (by simp)
  have declares : AsksNoOperator (readType .attributeType defaultAttributeType tokens) :=
    asks_type (by simp) tokens
  unfold readMemberTail
  split
  · exact asks_bind (asks_parameters name _) fun rest => asks_bind (returns rest) fun _ => asks_nothing _
  · exact asks_bind declares fun _ => asks_nothing _

theorem asks_member (tokens : List Token) : AsksNoOperator (readMember tokens) :=
  asks_bind (asks_expect (by simp) _) fun _ => asks_member_tail _ _ _

theorem asks_members (className : String) (tokens : List Token) :
    AsksNoOperator (readMembers className tokens).2 := by
  fun_induction readMembers className tokens with
  | case1 => exact asks_other (by simp) _
  | case2 token rest newline ih => exact ih
  | case3 token rest newline closes => exact asks_nothing _
  | case4 token rest newline stays marker => exact asks_other (by simp) _
  | case5 token rest newline stays goesOn obstacle fails =>
    exact asks_passed_on (asks_member (token :: rest)) fails
  | case6 token rest newline stays goesOn member behind taken members outcome same ih =>
    rw [same] at ih
    exact ih

theorem asks_class (isAbstract : Bool) (tokens : List Token) :
    AsksNoOperator (readClass isAbstract tokens).outcome := by
  have named : AsksNoOperator (expect (· = .identifier) .className tokens) :=
    asks_expect (by simp) tokens
  unfold readClass
  split
  · rename_i obstacle fails
    exact asks_passed_on named fails
  · split
    · exact asks_nothing _
    · exact asks_members _ _

theorem asks_relationship (source operator : Token) (kind : RelationshipKind) (tokens : List Token) :
    AsksNoOperator (readRelationship source operator kind tokens).outcome := by
  have named : AsksNoOperator (expect (· = .identifier) (.target operator.lexeme) tokens) :=
    asks_expect (by simp) tokens
  unfold readRelationship
  split
  · rename_i obstacle fails
    exact asks_passed_on named fails
  · split <;> exact asks_nothing _

/-- A relationship is read only where its operator has been seen. -/
theorem asks_declaration (token : Token) (tokens : List Token) :
    AsksNoOperator (readDeclaration token tokens).outcome := by
  unfold readDeclaration
  split
  · exact asks_nothing _
  · exact asks_class _ _
  · exact asks_class _ _
  · exact asks_nothing _
  · by_cases follows : nextIsOperator tokens = true
    · obtain ⟨operator, later, kind, rfl, connects⟩ := next_is_operator_iff.mp follows
      rw [if_pos follows, read_connection_operator connects]
      exact asks_relationship token operator kind later
    · rw [if_neg follows]
      exact asks_nothing _
  · exact asks_nothing _

theorem asks_declarations (tokens : List Token) :
    AsksNoOperator (readDeclarations tokens).outcome := by
  fun_induction readDeclarations tokens with
  | case1 => exact asks_other (by simp) _
  | case2 token rest ends => exact asks_nothing _
  | case3 token rest goesOn obstacle fails =>
    exact asks_passed_on (asks_declaration token rest) fails
  | case4 token rest goesOn later taken step ih => exact ih

theorem asks_document (tokens : List Token) : AsksNoOperator (readDocument tokens).outcome := by
  have started : AsksNoOperator (expect (· = .startMarker) .startMarker (skipNewlines tokens)) :=
    asks_expect (by simp) _
  unfold readDocument
  split
  · rename_i obstacle fails
    exact asks_passed_on started fails
  · exact asks_declarations _

/-! ## Errors -/

/-- The token at an index; behind the last one an end of input is taken to stand, at line 1 and
column 1. -/
def tokenAt (tokens : List Token) (index : Nat) : Token :=
  tokens[index]?.getD missingEnd

/-- A sequence parses as its tokens before the end of input are read. -/
theorem parse_of_trailing (outcome : (readDocument (beforeEnd tokens)).outcome = .ok trailing) :
    parse tokens = .ok (.ofReading (readDocument (beforeEnd tokens)).read trailing) := by
  simp [parse, outcome]

theorem parse_of_obstacle (outcome : (readDocument (beforeEnd tokens)).outcome = .error obstacle) :
    parse tokens = .error (obstacle.error (firstEnd tokens)) := by
  simp [parse, outcome]

/-- How the text of an expectation begins, whatever name it goes on with. -/
def messageOpening : Expectation → String
  | .startMarker => "expected '@startuml'"
  | .endMarker => "expected '@enduml'"
  | .className => "expected class name"
  | .closingBrace _ => "expected '\x7d' to close class '"
  | .memberName => "expected member name"
  | .closingParen _ => "expected ')' to close parameters of '"
  | .returnType => "expected return type"
  | .attributeType => "expected attribute type"
  | .relationshipOperator => "expected relationship operator"
  | .target _ => "expected target class after '"

theorem message_opening (expected : Expectation) :
    ∃ rest, expected.message = messageOpening expected ++ rest := by
  cases expected with
  | closingBrace name | closingParen name | target name =>
    exact ⟨name ++ "'", String.append_assoc⟩
  | _ => exact ⟨"", String.append_empty.symm⟩

theorem opening_is_no_operator {expected : Expectation}
    (other : expected ≠ .relationshipOperator) :
    ¬ "expected relationship operator".toList <+: (messageOpening expected).toList ∧
      ¬ (messageOpening expected).toList <+: "expected relationship operator".toList := by
  cases expected with
  | relationshipOperator => exact absurd rfl other
  | _ => simp only [messageOpening]; decide

/-- The message about a missing operator begins like no other message. -/
theorem expectation_is_no_operator {expected : Expectation}
    (other : expected ≠ .relationshipOperator) (found : String) :
    ¬ "expected relationship operator".toList <+: (expected.message ++ found).toList := by
  intro asks
  obtain ⟨rest, message⟩ := message_opening expected
  have begins : (messageOpening expected).toList <+: (expected.message ++ found).toList := by
    rw [message, String.append_assoc, String.toList_append]
    exact List.prefix_append _ _
  obtain ⟨noShorter, noLonger⟩ := opening_is_no_operator other
  rcases List.prefix_or_prefix_of_prefix asks begins with shorter | longer
  · exact noShorter shorter
  · exact noLonger longer

/-- Reading has stopped at an index, and the error is about the token there. -/
structure StopsAt (tokens : List Token) (error : SyntaxError) (index : Nat) : Prop where
  beforeEnd : ∀ token ∈ tokens.take index, token.isEnd = false
  located : error.position = (tokenAt tokens index).position
  named : (", found " ++ (tokenAt tokens index).describe).toList <:+ error.message.toList
  final : ∀ token, tokens[index]? = some token → token.isEnd = false →
    ∀ others, parse (tokens.take (index + 1) ++ others) = .error error

section Obstructed
variable {tokens taken : List Token} {obstacle : Obstacle}

/-- The token that an obstacle stands at, counted from the beginning of the sequence. -/
theorem token_at_obstacle (front : beforeEnd tokens = taken ++ obstacle.rest) :
    tokens = taken ++ (obstacle.rest ++ fromEnd tokens) ∧
      tokenAt tokens taken.length = obstacle.found (firstEnd tokens) := by
  have split : tokens = taken ++ (obstacle.rest ++ fromEnd tokens) := by
    rw [← List.append_assoc, ← front, before_end_append_from_end]
  refine ⟨split, ?_⟩
  have here : tokens[taken.length]? = (obstacle.rest ++ fromEnd tokens).head? := by
    conv => lhs; rw [split]
    rw [List.getElem?_append_right (Nat.le_refl _), Nat.sub_self, List.head?_eq_getElem?]
  rw [tokenAt, here, Obstacle.found, first_end_eq]
  cases obstacle.rest <;> simp

/-- Behind an offending token that is not the end of input, anything else may stand. -/
theorem obstacle_is_final (front : beforeEnd tokens = taken ++ obstacle.rest)
    (stops : ∀ other, nextKind other = nextKind obstacle.rest →
      (readDocument (taken ++ other)).outcome = .error ⟨obstacle.expected, other⟩)
    (found : tokens[taken.length]? = some token) (goesOn : token.isEnd = false)
    (others : List Token) :
    parse (tokens.take (taken.length + 1) ++ others) = .error (obstacle.error (firstEnd tokens)) := by
  obtain ⟨split, -⟩ := token_at_obstacle front
  have here : (obstacle.rest ++ fromEnd tokens).head? = some token := by
    rw [split, List.getElem?_append_right (Nat.le_refl _), Nat.sub_self] at found
    rwa [List.head?_eq_getElem?]
  cases left : obstacle.rest with
  | nil =>
    rw [left, List.nil_append] at here
    have isEnd := from_end_begins here
    rw [goesOn] at isEnd
    cases isEnd
  | cons first more =>
    obtain rfl : first = token := by simpa [left] using here
    have takes : tokens.take (taken.length + 1) = taken ++ [first] := by
      rw [split, left, List.take_length_add_append]
      simp
    have endless : ∀ token ∈ taken ++ [first], token.isEnd = false := by
      intro token member
      have inFront : token ∈ beforeEnd tokens := by
        rw [front, left]
        rcases List.mem_append.mp member with member | member
        · exact List.mem_append_left _ member
        · exact List.mem_append_right _ (by simp [List.mem_singleton.mp member])
      exact before_end_goes_on inFront
    have same : nextKind (first :: beforeEnd others) = nextKind obstacle.rest := by rw [left]; rfl
    have again := stops _ same
    have reading : beforeEnd (taken ++ [first] ++ others) = taken ++ first :: beforeEnd others := by
      rw [before_end_append endless, List.append_assoc, List.singleton_append]
    rw [← reading] at again
    rw [takes, parse_of_obstacle again]
    simp [Obstacle.error, Obstacle.found, left]

end Obstructed

/-- The first obstacle is final and lies at the offending token: no end of input stands before that
token, the error names it and its place, and unless it is an end of input the same error comes
whatever follows it. No error asks for the operator of a relationship. -/
theorem first_obstacle_is_final (failed : parse tokens = .error error) :
    (∃ index, StopsAt tokens error index) ∧
      ¬ "expected relationship operator".toList <+: error.message.toList := by
  cases outcome : (readDocument (beforeEnd tokens)).outcome with
  | ok trailing =>
    rw [parse_of_trailing outcome] at failed
    cases failed
  | error obstacle =>
    rw [parse_of_obstacle outcome] at failed
    cases failed
    obtain ⟨said, stuck, settled⟩ := document_settles (beforeEnd tokens)
    obtain ⟨taken, front, stops⟩ := settled_error settled outcome
    obtain ⟨split, found⟩ := token_at_obstacle front
    have again : ∀ other, nextKind other = nextKind obstacle.rest →
        (readDocument (taken ++ other)).outcome = .error ⟨obstacle.expected, other⟩ := by
      intro other same
      rw [stops other same]
    have message : (obstacle.error (firstEnd tokens)).message =
        obstacle.expected.message ++ (", found " ++ (obstacle.found (firstEnd tokens)).describe) := by
      simp [Obstacle.error, toString, String.append_assoc]
    refine ⟨⟨taken.length, ?_, ?_, ?_, ?_⟩, ?_⟩
    · intro token member
      rw [split, List.take_left] at member
      exact before_end_goes_on (front ▸ List.mem_append_left _ member)
    · rw [found]
      rfl
    · rw [found, message]
      exact ⟨obstacle.expected.message.toList, String.toList_append.symm⟩
    · intro token here goesOn others
      exact obstacle_is_final front again here goesOn others
    · rw [message]
      exact expectation_is_no_operator (asks_document _ obstacle outcome) _

/-- A stray name, and a class with a quoted text for the type of a member. -/
def quotedType : List Token :=
  [⟨.startMarker, "@startuml", ⟨1, 1⟩⟩, ⟨.identifier, "A", ⟨1, 11⟩⟩, ⟨.classWord, "class", ⟨1, 13⟩⟩,
    ⟨.identifier, "B", ⟨1, 19⟩⟩, ⟨.openBrace, "\x7b", ⟨1, 21⟩⟩, ⟨.identifier, "m", ⟨1, 23⟩⟩,
    ⟨.colon, ":", ⟨1, 25⟩⟩, ⟨.stringLiteral, "T", ⟨1, 27⟩⟩, ⟨.closeBrace, "\x7d", ⟨1, 31⟩⟩]

/-- The error at the quoted text, which is no type. -/
def quotedTypeError : SyntaxError where
  message := "expected attribute type, found string literal 'T'"
  position := ⟨1, 27⟩

theorem quoted_type_is_final : parse quotedType = .error quotedTypeError ∧
    (∃ index, StopsAt quotedType quotedTypeError index) ∧
      ¬ "expected relationship operator".toList <+: quotedTypeError.message.toList := by
  have failed : parse quotedType = .error quotedTypeError := by decide +kernel
  exact ⟨failed, first_obstacle_is_final failed⟩

end ClassChart.Grammar
