import ClassChart.Decimal
import Mathlib.Tactic.Ring

/-! The text of whole numbers. On a grid of whole numbers only one point reads back as a whole
number whose neighbours in its format are no farther than one away, and that is the number itself,
so it is written with its decimal digits. -/
namespace ClassChart

namespace Decimal

/-! ## Points that read back -/

/-- The magnitude is that of a natural number, and it differs from the next ones by one at most. -/
structure Magnitude.IsWhole (number : Magnitude) (whole : Nat) : Prop where
  positive : 0 < whole
  fine : number.exponent ≤ 0
  equal : number.significand = whole * 2 ^ (-number.exponent).toNat
  bounded : number.significand < 2 ^ 64

/-- What lies within two of so many units, which are no smaller than four, is as many units. -/
theorem units_within_iff {unit : Nat} (large : 4 ≤ unit) (other whole : Nat) :
    (other * unit ≤ whole * unit + 2 ∧ whole * unit ≤ other * unit + 2) ↔ other = whole := by
  constructor
  · rintro ⟨above, below⟩
    rcases Nat.lt_trichotomy other whole with less | equal | more
    · have apart := Nat.mul_le_mul_right unit (Nat.succ_le_of_lt less)
      rw [Nat.succ_mul] at apart
      omega
    · exact equal
    · have apart := Nat.mul_le_mul_right unit (Nat.succ_le_of_lt more)
      rw [Nat.succ_mul] at apart
      omega
  · rintro rfl
    omega

/-- It does not matter whether the ends of the interval belong to it, or whether the lower end is
closer. -/
theorem reads_back_iff {unit : Nat} (large : 4 ≤ unit) (positive : 0 < whole) (other : Nat)
    (even : Prop) [Decidable even] (closeBelow : Bool) :
    (if even then
        decide ((whole * unit - if closeBelow then 1 else 2) ≤ other * unit) &&
          decide (other * unit ≤ whole * unit + 2)
      else
        decide ((whole * unit - if closeBelow then 1 else 2) < other * unit) &&
          decide (other * unit < whole * unit + 2)) = decide (other = whole) := by
  have within := units_within_iff large other whole
  have room := Nat.mul_le_mul positive large
  by_cases equal : other = whole
  · subst equal
    by_cases even <;> cases closeBelow <;> simp [*] <;> omega
  · have outside : ¬ (other * unit ≤ whole * unit + 2 ∧ whole * unit ≤ other * unit + 2) :=
      fun inside => equal (within.mp inside)
    by_cases even <;> cases closeBelow <;> simp [*] <;> omega

section Whole
variable {number : Magnitude} {whole : Nat} (isWhole : number.IsWhole whole)
include isWhole

/-- On a grid of whole numbers only the number itself reads back. -/
theorem at_place_of_whole {place : Int} (onWholes : 0 ≤ place) :
    number.atPlace? place =
      if whole / 10 ^ place.toNat * 10 ^ place.toNat = whole then
        some ⟨whole / 10 ^ place.toNat, place⟩
      else none := by
  obtain ⟨positive, fine, equal, -⟩ := isWhole
  -- counted in quarters of the last bit, one is `unit` and a step of the grid is `width` ones
  have noScale : (number.exponent - 2).toNat = 0 ∧ (-place).toNat = 0 := by omega
  have steps : (2 - number.exponent).toNat = (-number.exponent).toNat + 2 := by omega
  generalize (-number.exponent).toNat = depth at equal steps
  generalize grid : 10 ^ place.toNat = width
  have large : 4 ≤ 2 ^ (depth + 2) := by
    rw [Nat.pow_add]
    exact Nat.le_mul_of_pos_left 4 (Nat.two_pow_pos depth)
  have value : 4 * number.significand = whole * 2 ^ (depth + 2) := by
    rw [equal, Nat.pow_add]
    ring
  generalize isUnit : 2 ^ (depth + 2) = unit at large value
  have below : whole * unit / (unit * width) = whole / width := by
    rw [Nat.mul_comm whole, Nat.mul_div_mul_left _ _ (by omega)]
  have inUnits (digits : Nat) : digits * (unit * width) = digits * width * unit := by ring
  have reads (digits : Nat) := reads_back_iff large positive (digits * width)
    (number.significand % 2 = 0) number.closeBelow
  have above : (whole / width + 1) * width ≠ whole := by
    have widthPositive : 0 < width := grid ▸ Nat.pow_pos (by decide)
    rw [Nat.mul_comm]
    exact (Nat.lt_mul_div_succ whole widthPositive).ne'
  simp only [Magnitude.atPlace?, noScale, steps, Nat.pow_eq, pow_zero, mul_one, grid, isUnit, value,
    below, inUnits, reads, above, decide_false]
  by_cases reached : whole / width * width = whole
  · simp [reached]
  · simp [reached]

/-- From a place that is not too high, the search stops at the number itself. -/
theorem search_finds_whole {place steps : Nat} (near : place ≤ steps) :
    ∃ digits zeros : Nat, number.searchDown steps place = ⟨digits, zeros⟩ ∧
      digits * 10 ^ zeros = whole := by
  -- at place zero the number is found at the latest, and every step comes one place closer
  induction steps generalizing place with
  | zero =>
    obtain rfl : place = 0 := Nat.le_zero.mp near
    refine ⟨whole, 0, ?_, by simp⟩
    simp [Magnitude.searchDown, at_place_of_whole isWhole]
  | succ steps ih =>
    rw [Magnitude.searchDown, at_place_of_whole isWhole (Int.natCast_nonneg place),
      Int.toNat_natCast]
    by_cases reached : whole / 10 ^ place * 10 ^ place = whole
    · rw [if_pos reached]
      exact ⟨_, place, rfl, reached⟩
    · rw [if_neg reached]
      cases place with
      | zero => simp at reached
      | succ place =>
        obtain ⟨digits, zeros, found, product⟩ := ih (Nat.le_of_succ_le_succ near)
        refine ⟨digits, zeros, ?_, product⟩
        rw [← found]
        simp

/-- The search starts on whole numbers, and few enough steps above the number itself. -/
theorem top_place_of_whole : ∃ place : Nat, number.topPlace = place ∧ place ≤ 25 := by
  obtain ⟨positive, fine, equal, bounded⟩ := isWhole
  have reaches : 2 ^ (-number.exponent).toNat ≤ number.significand := by
    rw [equal]
    exact Nat.le_mul_of_pos_left _ positive
  have nonzero : number.significand ≠ 0 := by
    have := Nat.two_pow_pos (-number.exponent).toNat
    omega
  have above := (Nat.le_log2 nonzero).mpr reaches
  have below := (Nat.log2_lt nonzero).mpr bounded
  refine ⟨number.topPlace.toNat, ?_, ?_⟩ <;> rw [Magnitude.topPlace] <;> omega

end Whole

/-! ## Decimal digits -/

theorem digits_of_shifted (positive : 0 < n) (zeros : Nat) :
    natDigits (n * 10 ^ zeros) = natDigits n ++ List.replicate zeros '0' := by
  induction zeros with
  | zero => simp
  | succ zeros ih =>
    have shifted : 0 < n * 10 ^ zeros := Nat.mul_pos positive (Nat.pow_pos (by decide))
    have next := Nat.toDigits_append_toDigits (by decide : 1 < 10) shifted (by decide : 0 < 10)
    rw [Nat.pow_succ, ← Nat.mul_assoc, Nat.mul_comm _ 10, List.replicate_succ', ← List.append_assoc,
      ← ih]
    exact next.symm

/-- A whole number is written with its digits. -/
theorem positional_of_whole {number : Magnitude} (isWhole : number.IsWhole whole) :
    number.shortest.positional = natDigits whole := by
  obtain ⟨place, top, near⟩ := top_place_of_whole isWhole
  obtain ⟨digits, zeros, found, product⟩ := search_finds_whole isWhole near
  have positive : 0 < digits := by
    refine Nat.pos_of_ne_zero ?_
    rintro rfl
    have := isWhole.positive
    omega
  rw [Magnitude.shortest, top, found, ← product, digits_of_shifted positive]
  simp [GridPoint.positional]

/-- The text of a whole number is its decimal text. -/
theorem chars_of_whole {number : Magnitude} {whole : Int} (isWhole : number.IsWhole whole.natAbs) :
    String.ofList (Value.finite (decide (whole < 0)) number).chars = toString whole := by
  rw [Value.chars, positional_of_whole isWhole]
  cases whole with
  | ofNat whole => rfl
  | negSucc whole => simp [signed, natDigits, toString, Int.repr, Nat.repr]

end Decimal

end ClassChart
