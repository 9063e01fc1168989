import ClassChart.Tile
import ClassChart.Unicode.Blank
import Mathlib.Data.List.DropRight

/-! Trimming. A trimmed text has no white space at its ends, and a text without white space there is
trimmed already. Words hold no white space at all, whatever letters and digits they are made of. -/
namespace ClassChart.Unicode

/-- No white space at the beginning and none at the end. -/
def Trimmed (text : List Char) : Prop :=
  (∀ c ∈ text.head?, isBlank c = false) ∧ ∀ c ∈ text.getLast?, isBlank c = false

theorem trim_of_trimmed (trimmed : Trimmed text) : trim text = text := by
  have front : trimStart text = text := by
    cases text with
    | nil => rfl
    | cons c text => exact List.dropWhile_cons_of_neg (by simp [trimmed.1 c rfl])
  have back : text.rdropWhile isBlank = text := by
    rw [List.rdropWhile_eq_self_iff]
    intro nonempty
    simp [trimmed.2 _ (List.getLast?_eq_some_getLast nonempty)]
  rw [trim, front]
  exact back

/-- What trimming leaves is a beginning of the text behind the white space. -/
theorem trim_isPrefix (text : List Char) : trim text <+: trimStart text :=
  List.rdropWhile_prefix isBlank (trimStart text)

theorem trim_trimmed (text : List Char) : Trimmed (trim text) := by
  constructor
  · intro c first
    obtain ⟨rest, split⟩ := trim_isPrefix text
    have starts : (trimStart text).head? = some c := by
      rw [← split, List.head?_append, Option.mem_def.mp first]
      rfl
    have front := List.head?_dropWhile_not isBlank text
    rw [trimStart] at starts
    rwa [starts] at front
  · intro c last
    have nonempty : trim text ≠ [] := by
      intro nothing
      simp [nothing] at last
    have ends := List.rdropWhile_last_not isBlank (trimStart text) nonempty
    obtain rfl : (trim text).getLast nonempty = c := by
      simpa [List.getLast?_eq_some_getLast nonempty] using last
    exact Bool.eq_false_iff.mpr ends

/-- Trimming twice is trimming once. -/
theorem trim_trim (text : List Char) : trim (trim text) = trim text :=
  trim_of_trimmed (trim_trimmed text)

/-- Whatever stands between two trimmed texts, they keep it from the ends. -/
theorem trimmed_around (first : Trimmed front) (last : Trimmed back) (nonempty : front ≠ [])
    (nonemptyBack : back ≠ []) (between : List Char) : Trimmed (front ++ (between ++ back)) := by
  constructor
  · intro c head
    rw [List.head?_append_of_ne_nil _ nonempty] at head
    exact first.1 c head
  · intro c end_
    rw [← List.append_assoc, List.getLast?_append_of_ne_nil _ nonemptyBack] at end_
    exact last.2 c end_

theorem mem_of_mem_trim (member : c ∈ trim text) : c ∈ text :=
  (List.dropWhile_suffix isBlank).subset ((trim_isPrefix text).subset member)

/-! ## White space and words -/

/-- No range of the first set meets one of the second. -/
def RangeSet.apart (first second : RangeSet) : Bool :=
  first.ranges.all fun range => second.ranges.all fun other => range.2 < other.1 || other.2 < range.1

theorem not_contains_of_apart {first second : RangeSet} (apart : first.apart second = true)
    (member : first.contains c = true) : second.contains c = false := by
  simp only [RangeSet.apart, RangeSet.contains, RangeSet.holds, List.all_eq_true, List.any_eq_true,
    List.any_eq_false, Bool.or_eq_true, Bool.and_eq_true, decide_eq_true_eq] at apart member ⊢
  obtain ⟨range, listed, inside⟩ := member
  intro other otherListed insideOther
  have := apart range listed other otherListed
  omega

theorem blanks_apart_from_letters : blankSet.apart alphabeticSet = true := by
  decide +kernel

theorem blanks_apart_from_numbers : blankSet.apart numericSet = true := by
  decide +kernel

/-- White space neither begins a word nor continues one. -/
theorem blank_in_no_word (blank : isBlank c = true) : isWordStart c = false ∧ isWordPart c = false := by
  by_cases ascii : c.toNat < asciiEnd
  · have every : ∀ point < asciiEnd, blankSet.holds point = true →
        isWordStart (Char.ofNat point) = false ∧ isWordPart (Char.ofNat point) = false := by
      decide +kernel
    simpa [Char.ofNat_toNat] using every c.toNat ascii blank
  · have letter : isAlphabetic c = false := by
      rw [isAlphabetic, if_neg ascii]
      exact not_contains_of_apart blanks_apart_from_letters blank
    have number : isNumeric c = false := by
      rw [isNumeric, if_neg ascii]
      exact not_contains_of_apart blanks_apart_from_numbers blank
    have others : c ≠ '_' ∧ c ≠ '@' := by
      constructor <;> (rintro rfl; exact ascii (by decide))
    simp [isWordStart, isWordPart, isAlphanumeric, letter, number, others]

end ClassChart.Unicode
