import ClassChart.Unicode.RangeSet

/-!
White space in the sense of the Unicode property White_Space, and the trimming of a text by it.
The set is small, so it is also given as the list of its characters' ranges; the zero-width
characters are not in it.
-/
namespace ClassChart.Unicode

/-- Code points with the property White_Space. -/
def blankSet : RangeSet := ⟨[
    (0x9, 0xD), (0x20, 0x20), (0x85, 0x85), (0xA0, 0xA0), (0x1680, 0x1680), (0x2000, 0x200A),
    (0x2028, 0x2029), (0x202F, 0x202F), (0x205F, 0x205F), (0x3000, 0x3000)]⟩

/-- A character with the property White_Space. -/
def isBlank (c : Char) : Bool :=
  blankSet.contains c

/-- The text without the white space at its beginning. -/
def trimStart (text : List Char) : List Char :=
  text.dropWhile isBlank

/-- The text without the white space at its end. -/
def trimEnd (text : List Char) : List Char :=
  (text.reverse.dropWhile isBlank).reverse

/-- The text without the white space at both ends. -/
def trim (text : List Char) : List Char :=
  trimEnd (trimStart text)

end ClassChart.Unicode
