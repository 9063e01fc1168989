/-!
Positions in a source text. Lines and columns are counted from one, and a column counts code
points; a line feed ends its line, every other character moves one column on.
-/
namespace ClassChart

/-- A line and a column of a source text. -/
structure Position where
  line : Nat
  column : Nat
  deriving DecidableEq, Repr

namespace Position

/-- The position of the first character of a text. -/
def start : Position := ⟨1, 1⟩

/-- The position behind the character `c`. -/
def advance (position : Position) (c : Char) : Position :=
  if c = '\n' then ⟨position.line + 1, 1⟩ else ⟨position.line, position.column + 1⟩

/-- The position behind a piece of text. -/
def after (position : Position) (text : List Char) : Position :=
  text.foldl advance position

/-- How a position is named in a message. -/
def describe (position : Position) : String :=
  s!"line {position.line}, column {position.column}"

@[simp] theorem after_nil (position : Position) : position.after [] = position := rfl

@[simp] theorem after_cons (position : Position) (c : Char) (text : List Char) :
    position.after (c :: text) = (position.advance c).after text := rfl

@[simp] theorem after_append (position : Position) (first second : List Char) :
    position.after (first ++ second) = (position.after first).after second :=
  List.foldl_append

end Position

end ClassChart
