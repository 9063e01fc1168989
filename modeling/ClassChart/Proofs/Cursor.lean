import ClassChart.Proofs.Obstacles
import Mathlib.Computability.StateTransition

/-! Reading with a cursor. A run moves a cursor over a whole sequence of tokens, from loop to loop and
round by round. It sees the token under the cursor, and behind a name the one after that; nothing
tells it beforehand where the input ends. That it comes to what `parse` says is shown further on. -/
namespace ClassChart.Cursor

open Grammar (tokenAt)

/-! ## Places of a run -/

/-- What the rest of a line completes. -/
inductive LineUse where
  | title
  | label (source target : String) (kind : RelationshipKind)

/-- The declaration that a line completes. -/
def LineUse.declaration (use : LineUse) (words : List Token) : Declaration :=
  match use with
  | .title => .ofTitle (freeText words)
  | .label source target kind => .ofRelationship ⟨source, target, kind, freeText words⟩

/-- Where a run stands. Up to its end it stands at the head of a loop, with what has been read of the
declaration that the loop belongs to. -/
inductive Place where
  /-- Line breaks before the start marker are passed over. -/
  | beforeStart
  /-- Declarations are read up to the end marker. -/
  | atDeclaration
  /-- Line breaks before a member are passed over. -/
  | beforeMember (opened : ClassDeclaration)
  /-- Members are read up to the closing brace. -/
  | atMember (opened : ClassDeclaration)
  /-- Parameters are passed over up to the closing parenthesis. -/
  | inParameters (opened : ClassDeclaration) (visibility : Option Visibility) (name : String)
  /-- Free text is read up to the line break. -/
  | inLine (use : LineUse) (words : List Token)
  /-- Line breaks behind the end marker are passed over. -/
  | behindEnd
  | failed (error : SyntaxError)
  | finished (trailing : List Diagnostic)

/-- The loops of a run. -/
inductive Loop where
  | linesAboveStart | declarations | linesAboveMember | members | parameters | line | linesBelowEnd

/-- The loop at whose head a run stands; where it has ended there is none. -/
def Place.loop? : Place → Option Loop
  | .beforeStart => some .linesAboveStart
  | .atDeclaration => some .declarations
  | .beforeMember _ => some .linesAboveMember
  | .atMember _ => some .members
  | .inParameters .. => some .parameters
  | .inLine .. => some .line
  | .behindEnd => some .linesBelowEnd
  | .failed _ | .finished _ => none

/-- The run has failed. -/
def Place.hasFailed : Place → Bool
  | .failed _ => true
  | _ => false

/-- A declaration has been begun and is not complete. -/
def Place.inDeclaration : Place → Bool
  | .beforeMember _ | .atMember _ | .inParameters .. | .inLine .. => true
  | _ => false

/-- A state of a run. The rounds of all loops are counted together. -/
structure State where
  place : Place
  cursor : Nat
  rounds : Nat
  declared : List Declaration

/-- The state in which a run begins. -/
def start : State := ⟨.beforeStart, 0, 0, []⟩

/-- What a run has come to, once it has ended. -/
def State.result? (state : State) : Option (Except SyntaxError Parsed) :=
  match state.place with
  | .failed error => some (.error error)
  | .finished trailing =>
    some (.ok ⟨.ofDeclarations state.declared, unrecognizedReports state.declared ++ trailing⟩)
  | _ => none

/-! ## Moving the cursor -/

/-- The cursor moved over one token. It does not move over an end of input. -/
def advance (tokens : List Token) (cursor : Nat) : Nat :=
  if (tokenAt tokens cursor).isEnd then cursor else cursor + 1

/-- The cursor moved over a token of an accepted kind, if one is there. -/
def passOver (tokens : List Token) (accepts : TokenKind → Bool) (cursor : Nat) : Nat :=
  if accepts (tokenAt tokens cursor).kind then advance tokens cursor else cursor

/-- The error at a token that is not what was expected. -/
def errorOn (expected : Expectation) (token : Token) : SyntaxError :=
  (Obstacle.mk expected [token]).error missingEnd

namespace State

variable (tokens : List Token) (state : State)

/-- One more round of a loop begins. -/
def count : State :=
  { state with rounds := state.rounds + 1 }

/-- The run goes on at another place. -/
def go (place : Place) (cursor : Nat) : State :=
  { state with place := place, cursor := cursor }

/-- The run fails at a token. -/
def fail (expected : Expectation) (token : Token) (cursor : Nat) : State :=
  state.go (.failed (errorOn expected token)) cursor

/-- Takes one token of an accepted kind, or fails at it. -/
def require (accepts : TokenKind → Bool) (expected : Expectation) (cursor : Nat)
    (next : Token → Nat → State) : State :=
  let token := tokenAt tokens cursor
  if accepts token.kind then next token (advance tokens cursor)
  else state.fail expected token cursor

/-- A declaration is complete; the line break at its end belongs to it. -/
def declare (declaration : Declaration) (cursor : Nat) : State :=
  { state with
    place := .atDeclaration
    cursor := passOver tokens (· = .newline) cursor
    declared := state.declared ++ [declaration] }

/-- A token that starts no declaration is passed over. -/
def stray (token : Token) (cursor : Nat) : State :=
  { state with
    place := .atDeclaration
    cursor := cursor
    declared := state.declared ++ [.unrecognized token] }

/-- A member is complete; the line break at its end belongs to it. -/
def hold (opened : ClassDeclaration) (member : Member) (cursor : Nat) : State :=
  state.go (.beforeMember { opened with members := opened.members ++ [member] })
    (passOver tokens (· = .newline) cursor)

/-! ## Declarations and members -/

/-- Reads a class from its name on, up to its body. -/
def openClass (isAbstract : Bool) (cursor : Nat) : State :=
  state.require tokens (· = .identifier) .className cursor fun name behind =>
    if (tokenAt tokens behind).kind = .openBrace then
      state.go (.beforeMember ⟨name.lexeme, isAbstract, []⟩) (advance tokens behind)
    else state.declare tokens (.ofClass ⟨name.lexeme, isAbstract, []⟩) behind

/-- Reads a relationship from its operator on, up to its label. -/
def connect (source : Token) (cursor : Nat) : State :=
  let operator := tokenAt tokens cursor
  let behind := advance tokens cursor
  match operator.kind.relationship? with
  | none => state.fail .relationshipOperator operator behind
  | some kind =>
    state.require tokens (· = .identifier) (.target operator.lexeme) behind fun target behind =>
      if (tokenAt tokens behind).kind = .colon then
        state.go (.inLine (.label source.lexeme target.lexeme kind) []) (advance tokens behind)
      else
        state.declare tokens (.ofRelationship ⟨source.lexeme, target.lexeme, kind, ""⟩) behind

/-- Reads the declaration under the cursor, up to the first loop in it. -/
def declaration : State :=
  let token := tokenAt tokens state.cursor
  let behind := advance tokens state.cursor
  match token.kind with
  | .newline => state.go .atDeclaration behind
  | .classWord => state.openClass tokens false behind
  | .abstractWord => state.openClass tokens true (passOver tokens (· = .classWord) behind)
  | .titleWord => state.go (.inLine .title []) behind
  | .identifier =>
    if (tokenAt tokens (state.cursor + 1)).kind.isOperator then state.connect tokens token behind
    else state.stray token behind
  | _ => state.stray token behind

/-- Reads a colon and a type; without a colon the type is `usual`. -/
def typed (expected : Expectation) (usual : String) (cursor : Nat) (next : String → Nat → State) :
    State :=
  if (tokenAt tokens cursor).kind = .colon then
    state.require tokens TokenKind.isMemberWord expected (advance tokens cursor) fun word =>
      next word.lexeme
  else next usual cursor

/-- Reads a member from behind its name, up to its parameters. -/
def memberTail (opened : ClassDeclaration) (visibility : Option Visibility) (name : String)
    (cursor : Nat) : State :=
  if (tokenAt tokens cursor).kind = .openParen then
    state.go (.inParameters opened visibility name) (advance tokens cursor)
  else
    state.typed tokens .attributeType defaultAttributeType cursor fun type =>
      state.hold tokens opened (.ofAttribute ⟨visibility, name, type⟩)

/-- Reads the member under the cursor, up to its parameters. -/
def member (opened : ClassDeclaration) : State :=
  let visibility := (tokenAt tokens state.cursor).kind.visibility?
  state.require tokens TokenKind.isMemberWord .memberName (passOver tokens (·.visibility?.isSome) state.cursor)
    fun name => state.memberTail tokens opened visibility name.lexeme

end State

/-! ## Steps -/

/-- Goes on from the head of a loop: through one round of it, up to the head of the next loop inside,
or behind it where its test fails. Every round is counted. On the way the cursor moves by `advance`
only, so what bounds it at the end of a step bounds it within the step. -/
def step (tokens : List Token) (state : State) : Option State :=
  let token := tokenAt tokens state.cursor
  let behind := advance tokens state.cursor
  match state.place with
  | .beforeStart =>
    if token.isNewline then some (state.count.go .beforeStart behind)
    else
      some (state.require tokens (· = .startMarker) .startMarker state.cursor fun _ =>
        state.go .atDeclaration)
  | .atDeclaration =>
    if token.kind = .endMarker ∨ token.isEnd then
      some (state.require tokens (· = .endMarker) .endMarker state.cursor fun _ =>
        state.go .behindEnd)
    else some (state.count.declaration tokens)
  | .beforeMember opened =>
    if token.isNewline then some (state.count.go (.beforeMember opened) behind)
    else some (state.go (.atMember opened) state.cursor)
  | .atMember opened =>
    if token.kind = .closeBrace then some (state.count.declare tokens (.ofClass opened) behind)
    else if token.isEnd ∨ token.kind = .endMarker then
      some (state.count.fail (.closingBrace opened.name) token state.cursor)
    else some (state.count.member tokens opened)
  | .inParameters opened visibility name =>
    if token.kind = .closeParen then
      some (state.typed tokens .returnType defaultReturnType behind fun type =>
        state.hold tokens opened (.ofMethod ⟨visibility, name, type⟩))
    else if token.isEnd then some (state.count.fail (.closingParen name) token state.cursor)
    else some (state.count.go (.inParameters opened visibility name) behind)
  | .inLine use words =>
    if token.isNewline ∨ token.isEnd then
      some (state.declare tokens (use.declaration words) state.cursor)
    else some (state.count.go (.inLine use (words ++ [token])) behind)
  | .behindEnd =>
    if token.isNewline then some (state.count.go .behindEnd behind)
    else
      some (state.go (.finished (if token.isEnd then [] else [.trailingContent token])) state.cursor)
  | .failed _ | .finished _ => none

end ClassChart.Cursor
