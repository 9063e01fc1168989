/-!
Sets of code points. A character class of the Unicode standard is kept as ascending, inclusive
ranges, and a character belongs to the class when its code point lies in one of them.
-/
namespace ClassChart.Unicode

/-- A set of code points, written as inclusive ranges in ascending order. -/
structure RangeSet where
  ranges : List (Nat × Nat)

/-- A code point belongs to the set when some range holds it. -/
def RangeSet.holds (set : RangeSet) (point : Nat) : Bool :=
  set.ranges.any fun range => range.1 ≤ point && point ≤ range.2

/-- A character belongs to the set when its code point does. -/
def RangeSet.contains (set : RangeSet) (c : Char) : Bool :=
  set.holds c.toNat

/-- The first code point after the ASCII block. -/
def asciiEnd : Nat := 0x80

end ClassChart.Unicode
