import ClassChart.Declaration
import ClassChart.Failure
import ClassChart.Unicode.Blank

/-!
Reading declarations from tokens. Each reader takes the tokens before it and leaves a strictly
shorter rest, or stops at an obstacle: what was expected, and the tokens from the offending one
on. What was read before an obstacle is kept. Nothing at or behind the first end of input is ever
looked at. Main statements: every reader that goes on leaves fewer tokens than it was given.
-/
namespace ClassChart

/-- What a place in the grammar requires. -/
inductive Expectation where
  | startMarker
  | endMarker
  | className
  | closingBrace (name : String)
  | memberName
  | closingParen (name : String)
  | returnType
  | attributeType
  | relationshipOperator
  | target (operator : String)
  deriving DecidableEq, Repr

/-- What is required, in words. -/
def Expectation.message : Expectation → String
  | .startMarker => "expected '@startuml'"
  | .endMarker => "expected '@enduml'"
  | .className => "expected class name"
  | .closingBrace name => s!"expected '\x7d' to close class '{name}'"
  | .memberName => "expected member name"
  | .closingParen name => s!"expected ')' to close parameters of '{name}'"
  | .returnType => "expected return type"
  | .attributeType => "expected attribute type"
  | .relationshipOperator => "expected relationship operator"
  | .target operator => s!"expected target class after '{operator}'"

/-- A place where reading cannot go on; the offending token is the first of `rest`, or the end
of input when there is none. -/
structure Obstacle where
  expected : Expectation
  rest : List Token
  deriving DecidableEq, Repr

namespace Obstacle

/-- The offending token, where `stop` ends the input. -/
def found (obstacle : Obstacle) (stop : Token) : Token :=
  obstacle.rest.head?.getD stop

/-- The error at an obstacle: what was expected, what was found, and where. -/
def error (obstacle : Obstacle) (stop : Token) : SyntaxError where
  message := s!"{obstacle.expected.message}, found {(obstacle.found stop).describe}"
  position := (obstacle.found stop).position

end Obstacle

/-! ## Single tokens and lines -/

/-- Takes one token of an accepted kind. -/
def expect (accepts : TokenKind → Bool) (expected : Expectation) :
    List Token → Except Obstacle (Token × List Token)
  | [] => .error ⟨expected, []⟩
  | token :: rest =>
    if accepts token.kind then .ok (token, rest) else .error ⟨expected, token :: rest⟩

/-- The tokens behind a token of this kind, if they begin with one. -/
def behind? (kind : TokenKind) : List Token → Option (List Token)
  | [] => none
  | token :: rest => if token.kind = kind then some rest else none

/-- The tokens up to the next line break. -/
def lineTokens (tokens : List Token) : List Token :=
  tokens.takeWhile (!·.isNewline)

/-- The tokens from the next line break on. -/
def behindLine (tokens : List Token) : List Token :=
  tokens.dropWhile (!·.isNewline)

/-- Free text: the lexemes with single spaces between them, trimmed. -/
def freeText (tokens : List Token) : String :=
  String.ofList (Unicode.trim ([' '].intercalate (tokens.map (·.lexeme.toList))))

/-- The tokens without line breaks at the beginning. -/
def skipNewlines (tokens : List Token) : List Token :=
  tokens.dropWhile (·.isNewline)

/-! ## Members -/

/-- Reads a colon and a type; without a colon the type is `default`. -/
def readType (expected : Expectation) (default : String) (tokens : List Token) :
    Except Obstacle (String × List Token) :=
  match behind? .colon tokens with
  | none => .ok (default, tokens)
  | some rest => (expect TokenKind.isMemberWord expected rest).map fun (word, rest) =>
      (word.lexeme, rest)

/-- Reads a parameter list from behind its opening parenthesis; the parameters are not kept. -/
def readParameters (methodName : String) (tokens : List Token) : Except Obstacle (List Token) :=
  match tokens.dropWhile (·.kind ≠ .closeParen) with
  | [] => .error ⟨.closingParen methodName, []⟩
  | _ :: rest => .ok rest

/-- Reads a visibility mark, if there is one. -/
def readVisibility (tokens : List Token) : Option Visibility × List Token :=
  match tokens with
  | [] => (none, [])
  | token :: rest =>
    match token.kind.visibility? with
    | some visibility => (some visibility, rest)
    | none => (none, token :: rest)

/-- Reads what follows the name of a member. -/
def readMemberTail (visibility : Option Visibility) (name : String) (tokens : List Token) :
    Except Obstacle (Member × List Token) :=
  match behind? .openParen tokens with
  | some parameters => do
    let rest ← readParameters name parameters
    let (returnType, rest) ← readType .returnType defaultReturnType rest
    return (.ofMethod ⟨visibility, name, returnType⟩, rest)
  | none => do
    let (declaredType, rest) ← readType .attributeType defaultAttributeType tokens
    return (.ofAttribute ⟨visibility, name, declaredType⟩, rest)

/-- Reads one member of a class body. -/
def readMember (tokens : List Token) : Except Obstacle (Member × List Token) := do
  let (visibility, rest) := readVisibility tokens
  let (name, rest) ← expect TokenKind.isMemberWord .memberName rest
  readMemberTail visibility name.lexeme rest

/-! ## Readers leave less than they are given -/

theorem expect_eq_ok {accepts : TokenKind → Bool} {expected : Expectation}
    {tokens rest : List Token} {token : Token} :
    expect accepts expected tokens = .ok (token, rest) ↔
      tokens = token :: rest ∧ accepts token.kind := by
  cases tokens with
  | nil => simp [expect]
  | cons first later =>
    by_cases accepted : accepts first.kind = true
    · simp only [expect, accepted, if_true, Except.ok.injEq, Prod.mk.injEq, List.cons.injEq]
      constructor
      · rintro ⟨rfl, rfl⟩; exact ⟨⟨rfl, rfl⟩, accepted⟩
      · rintro ⟨⟨rfl, rfl⟩, _⟩; exact ⟨rfl, rfl⟩
    · simp only [expect, accepted, List.cons.injEq]
      constructor
      · intro read; simp at read
      · rintro ⟨⟨rfl, rfl⟩, taken⟩; exact absurd taken accepted

theorem behind?_eq_some {kind : TokenKind} {tokens rest : List Token} :
    behind? kind tokens = some rest ↔ ∃ token, tokens = token :: rest ∧ token.kind = kind := by
  cases tokens with
  | nil => simp [behind?]
  | cons first later =>
    simp only [behind?, Option.ite_none_right_eq_some, Option.some.injEq, List.cons.injEq]
    constructor
    · rintro ⟨same, rfl⟩; exact ⟨first, ⟨rfl, rfl⟩, same⟩
    · rintro ⟨token, ⟨rfl, rfl⟩, same⟩; exact ⟨same, rfl⟩

theorem readType_length {expected : Expectation} {default : String} {tokens rest : List Token}
    {type : String} (read : readType expected default tokens = .ok (type, rest)) :
    rest.length ≤ tokens.length := by
  unfold readType at read
  split at read
  · simp_all
  · rename_i after colon
    obtain ⟨mark, rfl, _⟩ := behind?_eq_some.mp colon
    cases word : expect TokenKind.isMemberWord expected after with
    | error obstacle => simp [word, Except.map] at read
    | ok result =>
      obtain ⟨token, later⟩ := result
      obtain ⟨rfl, _⟩ := expect_eq_ok.mp word
      simp only [word, Except.map, Except.ok.injEq, Prod.mk.injEq] at read
      simp only [List.length_cons, ← read.2]
      omega

theorem readParameters_length {methodName : String} {tokens rest : List Token}
    (read : readParameters methodName tokens = .ok rest) : rest.length < tokens.length := by
  unfold readParameters at read
  split at read
  · simp at read
  · rename_i mark later found
    have bound := (List.dropWhile_suffix (fun token : Token => token.kind ≠ .closeParen)
      (l := tokens)).length_le
    simp only [Except.ok.injEq] at read
    rw [found, List.length_cons, read] at bound
    omega

theorem readVisibility_length (tokens : List Token) :
    (readVisibility tokens).2.length ≤ tokens.length := by
  unfold readVisibility
  split
  · simp
  · split <;> simp

theorem readMemberTail_length {visibility : Option Visibility} {name : String}
    {tokens rest : List Token} {member : Member}
    (read : readMemberTail visibility name tokens = .ok (member, rest)) :
    rest.length ≤ tokens.length := by
  unfold readMemberTail at read
  split at read
  · rename_i parameters opened
    obtain ⟨mark, rfl, _⟩ := behind?_eq_some.mp opened
    cases closed : readParameters name parameters with
    | error obstacle => simp [closed, bind, Except.bind] at read
    | ok later =>
      have shorter := readParameters_length closed
      cases typed : readType .returnType defaultReturnType later with
      | error obstacle => simp [closed, typed, bind, Except.bind] at read
      | ok result =>
        obtain ⟨type, behindType⟩ := result
        have bound := readType_length typed
        simp only [closed, typed, bind, Except.bind, pure, Except.pure, Except.ok.injEq,
          Prod.mk.injEq] at read
        simp only [List.length_cons, ← read.2]
        omega
  · cases typed : readType .attributeType defaultAttributeType tokens with
    | error obstacle => simp [typed, bind, Except.bind] at read
    | ok result =>
      obtain ⟨type, behindType⟩ := result
      have bound := readType_length typed
      simp only [typed, bind, Except.bind, pure, Except.pure, Except.ok.injEq,
        Prod.mk.injEq] at read
      simpa [← read.2] using bound

/-- A member takes at least one token. -/
theorem readMember_length {tokens rest : List Token} {member : Member}
    (read : readMember tokens = .ok (member, rest)) : rest.length < tokens.length := by
  unfold readMember at read
  have bound := readVisibility_length tokens
  cases named : expect TokenKind.isMemberWord .memberName (readVisibility tokens).2 with
  | error obstacle => simp [named, bind, Except.bind] at read
  | ok result =>
    obtain ⟨name, later⟩ := result
    obtain ⟨split, _⟩ := expect_eq_ok.mp named
    simp only [named, bind, Except.bind] at read
    have shorter := readMemberTail_length read
    rw [split, List.length_cons] at bound
    omega

/-! ## Classes -/

/-- Reads members up to the closing brace. -/
def readMembers (className : String) :
    List Token → List Member × Except Obstacle (List Token)
  | [] => ([], .error ⟨.closingBrace className, []⟩)
  | token :: rest =>
    if token.isNewline then readMembers className rest
    else if token.kind = .closeBrace then ([], .ok rest)
    else if token.kind = .endMarker then ([], .error ⟨.closingBrace className, token :: rest⟩)
    else
      match _ : readMember (token :: rest) with
      | .error obstacle => ([], .error obstacle)
      | .ok (member, later) =>
        let (members, outcome) := readMembers className later
        (member :: members, outcome)
termination_by tokens => tokens.length
decreasing_by
  · simp
  · exact readMember_length ‹_›

/-- What a reader has read, and the tokens it leaves or the obstacle it stopped at. A class whose
body breaks off counts as read, with the members before the obstacle. -/
structure Step where
  read : List Declaration
  outcome : Except Obstacle (List Token)

/-- Reads a class from its name on. -/
def readClass (isAbstract : Bool) (tokens : List Token) : Step :=
  match expect (· = .identifier) .className tokens with
  | .error obstacle => ⟨[], .error obstacle⟩
  | .ok (name, rest) =>
    match behind? .openBrace rest with
    | none => ⟨[.ofClass ⟨name.lexeme, isAbstract, []⟩], .ok rest⟩
    | some body =>
      let (members, outcome) := readMembers name.lexeme body
      ⟨[.ofClass ⟨name.lexeme, isAbstract, members⟩], outcome⟩

/-! ## Declarations -/

/-- Reads a relationship from behind its operator. -/
def readRelationship (source operator : Token) (kind : RelationshipKind) (tokens : List Token) :
    Step :=
  match expect (· = .identifier) (.target operator.lexeme) tokens with
  | .error obstacle => ⟨[], .error obstacle⟩
  | .ok (target, rest) =>
    match behind? .colon rest with
    | none => ⟨[.ofRelationship ⟨source.lexeme, target.lexeme, kind, ""⟩], .ok rest⟩
    | some text =>
      ⟨[.ofRelationship ⟨source.lexeme, target.lexeme, kind, freeText (lineTokens text)⟩],
        .ok (behindLine text)⟩

/-- Reads a relationship from behind its first name. -/
def readConnection (source : Token) : List Token → Step
  | [] => ⟨[], .error ⟨.relationshipOperator, []⟩⟩
  | operator :: rest =>
    match operator.kind.relationship? with
    | none => ⟨[], .error ⟨.relationshipOperator, operator :: rest⟩⟩
    | some kind => readRelationship source operator kind rest

/-- The next token is an operator between two class names. -/
def nextIsOperator (tokens : List Token) : Bool :=
  tokens.head?.any (·.kind.isOperator)

/-- Reads the declaration that `token` starts. A line break declares nothing; a token that
starts no declaration is passed over. -/
def readDeclaration (token : Token) (rest : List Token) : Step :=
  match token.kind with
  | .newline => ⟨[], .ok rest⟩
  | .classWord => readClass false rest
  | .abstractWord => readClass true ((behind? .classWord rest).getD rest)
  | .titleWord => ⟨[.ofTitle (freeText (lineTokens rest))], .ok (behindLine rest)⟩
  | .identifier =>
    if nextIsOperator rest then readConnection token rest
    else ⟨[.unrecognized token], .ok rest⟩
  | _ => ⟨[.unrecognized token], .ok rest⟩

theorem readMembers_length (className : String) (tokens : List Token) {rest : List Token}
    (read : (readMembers className tokens).2 = .ok rest) : rest.length < tokens.length := by
  fun_induction readMembers className tokens with
  | case1 => simp at read
  | case2 token later newline ih => simpa using Nat.lt_succ_of_lt (ih read)
  | case3 token later => simp_all
  | case4 => simp at read
  | case5 => simp at read
  | case6 token later _ _ _ member behindMember taken members outcome same ih =>
    have shorter := readMember_length taken
    have := ih (by simpa [same] using read)
    simp only [List.length_cons] at *
    omega

theorem readClass_length {isAbstract : Bool} {tokens rest : List Token}
    (read : (readClass isAbstract tokens).outcome = .ok rest) : rest.length < tokens.length := by
  unfold readClass at read
  split at read
  · simp at read
  · rename_i name later named
    obtain ⟨rfl, _⟩ := expect_eq_ok.mp named
    split at read
    · simp only [Except.ok.injEq] at read
      simp [read]
    · rename_i body opened
      obtain ⟨mark, rfl, _⟩ := behind?_eq_some.mp opened
      have := readMembers_length _ _ read
      simp only [List.length_cons]
      omega

theorem behindLine_length (tokens : List Token) : (behindLine tokens).length ≤ tokens.length :=
  (List.dropWhile_suffix _).length_le

theorem readRelationship_length {source operator : Token} {kind : RelationshipKind}
    {tokens rest : List Token}
    (read : (readRelationship source operator kind tokens).outcome = .ok rest) :
    rest.length < tokens.length := by
  unfold readRelationship at read
  split at read
  · simp at read
  · rename_i target later named
    obtain ⟨rfl, _⟩ := expect_eq_ok.mp named
    split at read
    · simp only [Except.ok.injEq] at read
      simp [read]
    · rename_i text colon
      obtain ⟨mark, rfl, _⟩ := behind?_eq_some.mp colon
      simp only [Except.ok.injEq] at read
      have := behindLine_length text
      simp only [List.length_cons, ← read]
      omega

theorem readConnection_length {source : Token} {tokens rest : List Token}
    (read : (readConnection source tokens).outcome = .ok rest) : rest.length < tokens.length := by
  unfold readConnection at read
  split at read
  · simp at read
  · split at read
    · simp at read
    · have := readRelationship_length read
      simp only [List.length_cons]
      omega

/-- A declaration takes at least its first token. -/
theorem readDeclaration_length {token : Token} {tokens rest : List Token}
    (read : (readDeclaration token tokens).outcome = .ok rest) :
    rest.length ≤ tokens.length := by
  unfold readDeclaration at read
  split at read
  · simp_all
  · exact Nat.le_of_lt (readClass_length read)
  · have shorter := readClass_length read
    cases word : behind? .classWord tokens with
    | none => simpa [word] using Nat.le_of_lt shorter
    | some later =>
      obtain ⟨mark, rfl, _⟩ := behind?_eq_some.mp word
      simp only [word, Option.getD_some] at shorter
      simp only [List.length_cons]
      omega
  · simp only [Except.ok.injEq] at read
    simpa [← read] using behindLine_length tokens
  · split at read
    · exact Nat.le_of_lt (readConnection_length read)
    · simp_all
  · simp_all

/-- Reads declarations up to the end marker; the tokens left are those behind it. -/
def readDeclarations : List Token → Step
  | [] => ⟨[], .error ⟨.endMarker, []⟩⟩
  | token :: rest =>
    if token.kind = .endMarker then ⟨[], .ok rest⟩
    else
      match _ : (readDeclaration token rest).outcome with
      | .error obstacle => ⟨(readDeclaration token rest).read, .error obstacle⟩
      | .ok later =>
        let step := readDeclarations later
        ⟨(readDeclaration token rest).read ++ step.read, step.outcome⟩
termination_by tokens => tokens.length
decreasing_by exact Nat.lt_succ_of_le (readDeclaration_length ‹_›)

/-- Reads a whole document: blank lines, the start marker, and declarations up to the end
marker. -/
def readDocument (tokens : List Token) : Step :=
  match expect (· = .startMarker) .startMarker (skipNewlines tokens) with
  | .error obstacle => ⟨[], .error obstacle⟩
  | .ok (_, rest) => readDeclarations rest

end ClassChart
