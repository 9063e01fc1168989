/-!
JSON strings. Quotes, backslashes and the characters below the space are escaped, five of them by
a letter and the others by four hexadecimal digits; everything else stands for itself.
-/
namespace ClassChart.Text.JsonString

/-- The escape of a control character by its code point, in four hexadecimal digits. -/
def pointEscape (c : Char) : List Char :=
  ['\\', 'u', '0', '0', Nat.digitChar (c.toNat / 16), Nat.digitChar (c.toNat % 16)]

/-- A character inside the quotes. -/
def escape (c : Char) : List Char :=
  match c with
  | '"' => ['\\', '"']
  | '\\' => ['\\', '\\']
  | '\x08' => ['\\', 'b']
  | '\x0c' => ['\\', 'f']
  | '\n' => ['\\', 'n']
  | '\r' => ['\\', 'r']
  | '\t' => ['\\', 't']
  | c => if c.toNat < 0x20 then pointEscape c else [c]

/-- A text as a string. -/
def encode (text : List Char) : List Char :=
  '"' :: text.flatMap escape ++ ['"']

end ClassChart.Text.JsonString
