import ClassChart.Diagram
import ClassChart.Position

/-!
Tokens of the diagram language: their kinds, the words reserved as keywords, and the texts that
name them in messages and listings.
-/
namespace ClassChart

/-- The kinds of tokens. -/
inductive TokenKind where
  | startMarker
  | endMarker
  | classWord
  | abstractWord
  | titleWord
  | openBrace
  | closeBrace
  | openParen
  | closeParen
  | colon
  | comma
  | greaterThan
  | visibilityMark (visibility : Visibility)
  | operator (kind : RelationshipKind)
  | identifier
  | stringLiteral
  | newline
  | endOfInput
  deriving DecidableEq, Repr

namespace TokenKind

/-- Every kind of token, in the order in which listings of kinds give them. -/
def all : List TokenKind :=
  [.startMarker, .endMarker, .classWord, .abstractWord, .titleWord, .openBrace, .closeBrace,
    .openParen, .closeParen, .colon, .comma, .greaterThan,
    .visibilityMark .publicMember, .visibilityMark .privateMember,
    .visibilityMark .protectedMember, .visibilityMark .packageMember,
    .operator .inheritance, .operator .realization, .operator .association,
    .operator .aggregation, .operator .composition, .operator .link,
    .identifier, .stringLiteral, .newline, .endOfInput]

/-- The name of the kind in a token listing. -/
def name : TokenKind → String
  | .startMarker => "StartUml"
  | .endMarker => "EndUml"
  | .classWord => "Class"
  | .abstractWord => "Abstract"
  | .titleWord => "Title"
  | .openBrace => "OpenBrace"
  | .closeBrace => "CloseBrace"
  | .openParen => "OpenParen"
  | .closeParen => "CloseParen"
  | .colon => "Colon"
  | .comma => "Comma"
  | .greaterThan => "GreaterThan"
  | .visibilityMark .publicMember => "Public"
  | .visibilityMark .privateMember => "Private"
  | .visibilityMark .protectedMember => "Protected"
  | .visibilityMark .packageMember => "Package"
  | .operator .inheritance => "Inheritance"
  | .operator .realization => "Realization"
  | .operator .association => "Association"
  | .operator .aggregation => "Aggregation"
  | .operator .composition => "Composition"
  | .operator .link => "Link"
  | .identifier => "Identifier"
  | .stringLiteral => "StringLiteral"
  | .newline => "Newline"
  | .endOfInput => "Eof"

/-- The kind with this name in token listings. -/
def ofName? (name : String) : Option TokenKind :=
  all.find? (·.name = name)

/-- How a kind of token is named in a message: a fixed text in quotes, or what it stands for. -/
def describe : TokenKind → String
  | .startMarker => "'@startuml'"
  | .endMarker => "'@enduml'"
  | .classWord => "'class'"
  | .abstractWord => "'abstract'"
  | .titleWord => "'title'"
  | .openBrace => "'\x7b'"
  | .closeBrace => "'\x7d'"
  | .openParen => "'('"
  | .closeParen => "')'"
  | .colon => "':'"
  | .comma => "','"
  | .greaterThan => "'>'"
  | .visibilityMark visibility => s!"'{visibility.mark}'"
  | .operator kind => s!"'{kind.operator}'"
  | .identifier => "identifier"
  | .stringLiteral => "string literal"
  | .newline => "newline"
  | .endOfInput => "end of input"

/-- The kind of relationship that an operator denotes. -/
def relationship? : TokenKind → Option RelationshipKind
  | .operator kind => some kind
  | _ => none

/-- An operator between two class names. -/
def isOperator (kind : TokenKind) : Bool :=
  kind.relationship?.isSome

/-- The visibility that a mark denotes. -/
def visibility? : TokenKind → Option Visibility
  | .visibilityMark visibility => some visibility
  | _ => none

/-- Tokens that can name a member or a type inside a class body. The keywords of declarations
have no meaning there, so they are words as well. -/
def isMemberWord : TokenKind → Bool
  | .identifier | .classWord | .abstractWord | .titleWord => true
  | _ => false

end TokenKind

/-- The reserved words and the tokens they make. -/
def keywords : List (String × TokenKind) :=
  [("@startuml", .startMarker), ("@enduml", .endMarker), ("class", .classWord),
    ("abstract", .abstractWord), ("title", .titleWord)]

/-- The token that a word makes when it is reserved. -/
def keyword? (word : String) : Option TokenKind :=
  (keywords.find? (·.1 = word)).map (·.2)

/-- A token with the text it was read from and the position of its first character. The lexeme
of a string literal is the text between its quotes. -/
structure Token where
  kind : TokenKind
  lexeme : String
  position : Position
  deriving DecidableEq, Repr

namespace Token

/-- The end of input. -/
def isEnd (token : Token) : Bool :=
  token.kind = .endOfInput

/-- A line break. -/
def isNewline (token : Token) : Bool :=
  token.kind = .newline

/-- How a token is named in a message: names and texts are shown, other tokens by their kind. -/
def describe (token : Token) : String :=
  match token.kind with
  | .identifier | .stringLiteral => s!"{token.kind.describe} '{token.lexeme}'"
  | kind => kind.describe

end Token

end ClassChart
