import ClassChart.Unicode.Printable

/-!
Texts in double quotes. Quotes, backslashes and five control characters have short escapes, other
characters that cannot be shown are written by their code point in braces, and everything else
stands for itself; a quoted text therefore holds no line break.
-/
namespace ClassChart.Text.Quoted

/-- The digits of a number in base sixteen, without leading zeros. -/
def hexDigits (n : Nat) : List Char := Nat.toDigits 16 n

/-- The escape of a character by its code point. -/
def pointEscape (c : Char) : List Char :=
  ['\\', 'u', '\x7b'] ++ hexDigits c.toNat ++ ['\x7d']

/-- A character inside the quotes. -/
def escape (c : Char) : List Char :=
  match c with
  | '"' => ['\\', '"']
  | '\\' => ['\\', '\\']
  | '\n' => ['\\', 'n']
  | '\r' => ['\\', 'r']
  | '\t' => ['\\', 't']
  | '\x00' => ['\\', '0']
  | c => if Unicode.isPrintable c then [c] else pointEscape c

/-- A text in double quotes. -/
def encode (text : List Char) : List Char :=
  '"' :: text.flatMap escape ++ ['"']

end ClassChart.Text.Quoted
