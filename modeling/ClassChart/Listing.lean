import ClassChart.Text.JsonString
import ClassChart.Text.Quoted
import ClassChart.Token

/-!
Listings of tokens, in two formats: one row per token with its position, kind and quoted lexeme, or
a JSON array of records. Both show every token in full.
-/
namespace ClassChart.Listing

/-- The digits of a natural number. -/
def natural (n : Nat) : List Char := Nat.toDigits 10 n

/-- The row of a token: position, kind and quoted lexeme, with tabulators between them. -/
def row (token : Token) : List Char :=
  natural token.position.line ++ ':' :: natural token.position.column ++
    '\t' :: token.kind.name.toList ++ '\t' :: Text.Quoted.encode token.lexeme.toList

/-- One row per token. -/
def rows (tokens : List Token) : List Char :=
  ['\n'].intercalate (tokens.map row)

/-- A member of a record, on a line of its own. -/
def recordMember (name : String) (value : List Char) : List Char :=
  "    ".toList ++ Text.JsonString.encode name.toList ++ ':' :: ' ' :: value

/-- The record of a token. -/
def record (token : Token) : List Char :=
  "  \x7b\n".toList ++
    [',', '\n'].intercalate
      [recordMember "kind" (Text.JsonString.encode token.kind.name.toList),
        recordMember "lexeme" (Text.JsonString.encode token.lexeme.toList),
        recordMember "line" (natural token.position.line),
        recordMember "column" (natural token.position.column)] ++
    "\n  \x7d".toList

/-- An array of records. -/
def records (tokens : List Token) : List Char :=
  if tokens.isEmpty then ['[', ']']
  else '[' :: '\n' :: [',', '\n'].intercalate (tokens.map record) ++ ['\n', ']']

/-- The listing of tokens, as an array of records or as rows. -/
def format (json : Bool) (tokens : List Token) : String :=
  String.ofList (if json then records tokens else rows tokens)

end ClassChart.Listing
