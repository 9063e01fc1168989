import ClassChart.Drawing
import ClassChart.Proofs.WholeNumbers
import Mathlib

/-! Whole coordinates. A 32-bit number has twenty-four bits, so whole numbers below `2 ^ 24` are
held, added and subtracted without loss, and each is written with its decimal digits. -/
namespace ClassChart

open Float.Model (Format UnpackedFloat totalExponent)
open Float.Model.UnpackedFloat Float.Model.Format

/-! ## Bit patterns -/

theorem implicit_bit (fraction : BitVec width) :
    (1#1 ++ fraction).toNat = 2 ^ width + fraction.toNat := by
  rw [BitVec.toNat_append, ← Nat.shiftLeft_add_eq_or_of_lt fraction.isLt]
  simp [Nat.shiftLeft_eq]

section Patterns
variable {spec : Format} (bits : BitVec spec.numBits)

theorem mantissa_to_nat :
    (unpackMantissa bits).toNat = bits.toNat % 2 ^ spec.mantissaBitsWithoutImplicit := by
  have := spec.hm
  have width : spec.mantissaBitsWithoutImplicit - 1 + 1 = spec.mantissaBitsWithoutImplicit := by
    omega
  simp [unpackMantissa, width]

theorem exponent_to_nat :
    (unpackExponent bits).toNat =
      bits.toNat / 2 ^ spec.mantissaBitsWithoutImplicit % 2 ^ spec.exponentBits := by
  have := spec.he
  have width : spec.mantissaBitsWithoutImplicit + spec.exponentBits - 1 -
      spec.mantissaBitsWithoutImplicit + 1 = spec.exponentBits := by
    omega
  simp [unpackExponent, Nat.shiftRight_eq_div_pow, width]

theorem sign_to_nat :
    (unpackSign bits).toNat =
      bits.toNat / 2 ^ (spec.mantissaBitsWithoutImplicit + spec.exponentBits) % 2 := by
  simp [unpackSign, Nat.shiftRight_eq_div_pow]

theorem sign_is_negative : (Sign.ofBitVec (unpackSign bits) == .negative) = decide
    (bits.toNat / 2 ^ (spec.mantissaBitsWithoutImplicit + spec.exponentBits) % 2 = 1) := by
  rw [← sign_to_nat]
  rcases BitVec.eq_zero_or_eq_one (unpackSign bits) with isZero | isOne
  · rw [isZero]
    rfl
  · rw [isOne]
    rfl

/-- An unpacked number and its value. -/
inductive Stands : UnpackedFloat → Decimal.Value → Prop
  | notANumber : Stands .notANumber .notANumber
  | infinity : Stands (.infinity sign) (.infinite (sign == .negative))
  | zero : Stands (.zero sign) (.zero (sign == .negative))
  | finite : Stands (.finite sign significand exponent positive)
      (.finite (sign == .negative) ⟨significand, exponent, closeBelow⟩)

theorem stands_finite (sameSignificand : significand = found) (sameExponent : exponent = scale) :
    Stands (.finite sign significand exponent positive)
      (.finite (sign == .negative) ⟨found, scale, closeBelow⟩) := by
  subst sameSignificand sameExponent
  exact .finite

theorem lowest_exponent (spec : Format) : (2 : Int) - (2 ^ (spec.exponentBits - 1) : Nat) -
    spec.mantissaBitsWithoutImplicit =
      1 - ((spec.exponentBias : Int) + spec.mantissaBitsWithoutImplicit) := by
  have positive := Nat.two_pow_pos (spec.exponentBits - 1)
  rw [exponentBias]
  omega

/-- Bit patterns are read as their format says. -/
theorem decode_stands : Stands (unpack spec bits) (Decimal.BinaryFormat.decode
    ⟨spec.mantissaBitsWithoutImplicit, spec.exponentBits⟩ bits.toNat) := by
  have full : unpackExponent bits = -1#_ ↔ bits.toNat / 2 ^ spec.mantissaBitsWithoutImplicit %
      2 ^ spec.exponentBits = 2 ^ spec.exponentBits - 1 := by
    rw [← exponent_to_nat, ← BitVec.toNat_inj]
    simp [BitVec.neg_one_eq_allOnes]
  have empty : unpackExponent bits = 0#_ ↔ bits.toNat / 2 ^ spec.mantissaBitsWithoutImplicit %
      2 ^ spec.exponentBits = 0 := by
    rw [← exponent_to_nat, ← BitVec.toNat_inj]
    simp
  have noFraction : unpackMantissa bits = 0#_ ↔
      bits.toNat % 2 ^ spec.mantissaBitsWithoutImplicit = 0 := by
    rw [← mantissa_to_nat, ← BitVec.toNat_inj]
    simp
  simp only [Decimal.BinaryFormat.decode, Nat.pow_eq, ← full, ← empty, ← noFraction,
    ← sign_is_negative]
  rw [unpack]
  split
  case isTrue =>
    split
    · exact .infinity
    · exact .notANumber
  case isFalse =>
    split
    case isTrue =>
      split
      · exact .zero
      · refine stands_finite (mantissa_to_nat bits) ?_
        rename_i isEmpty _
        rw [lowest_exponent, isEmpty]
        simp
        omega
    case isFalse =>
      refine stands_finite ?_ ?_
      · rw [implicit_bit, mantissa_to_nat]
      · rw [lowest_exponent, exponent_to_nat]
        omega

end Patterns

/-! ## Exact rounding -/

theorem log2_of_shifted (positive : 0 < n) (places : Nat) :
    (n * 2 ^ places).log2 = n.log2 + places := by
  have scale := Nat.two_pow_pos places
  have bounds := (Nat.log2_eq_iff positive.ne').mp rfl
  refine (Nat.log2_eq_iff (Nat.mul_pos positive scale).ne').mpr ⟨?_, ?_⟩
  · rw [Nat.pow_add]
    exact Nat.mul_le_mul_right _ bounds.1
  · rw [Nat.add_right_comm, Nat.pow_add]
    exact Nat.mul_lt_mul_of_pos_right bounds.2 scale

/-- Places that hold no bit are dropped without loss. -/
theorem shift_right_exact (mantissa places : Nat) :
    (⟨mantissa * 2 ^ places, false, false⟩ : ExtendedMantissa) >>> places =
      ⟨mantissa, false, false⟩ := by
  change Nat.repeat ExtendedMantissa.shiftRightOne places _ = _
  induction places generalizing mantissa with
  | zero => simp [Nat.repeat]
  | succ places ih =>
    rw [Nat.pow_succ', ← Nat.mul_assoc, Nat.repeat, ih]
    simp [ExtendedMantissa.shiftRightOne]

section Rounding
variable (full : mantissa.log2 = 23) (positive : 0 < mantissa) (least : -149 ≤ exponent)
include full positive least

theorem shift_full (places : Nat) :
    shiftToTargetExponent binary32 (mantissa * 2 ^ places) (exponent - places) .exact =
      (⟨mantissa, false, false⟩, exponent) := by
  have target : binary32.targetExponent
      (totalExponent (mantissa * 2 ^ places) (exponent - places)) = exponent := by
    rw [totalExponent, log2_of_shifted positive, full, targetExponent]
    simp [mantissaBits, minExponent]
    omega
  simp [shiftToTargetExponent, shiftToExponent, target,
    ExtendedMantissa.ofMantissaAndAccuracy, shift_right_exact]

/-- A number whose bits are all in use is only shifted. -/
theorem round_full (sign : Sign) (places : Nat) :
    roundWithAccuracy binary32 sign (mantissa * 2 ^ places) (exponent - places) .exact =
      .finite sign mantissa exponent positive := by
  have again : shiftToTargetExponent binary32 mantissa exponent .exact =
      (⟨mantissa, false, false⟩, exponent) := by
    simpa using shift_full full positive least 0
  have kept : (⟨mantissa, false, false⟩ : ExtendedMantissa).roundedMantissa = mantissa := rfl
  rw [roundWithAccuracy, shift_full full positive least]
  simp only [kept, again]
  rw [dif_neg positive.ne']

end Rounding

/-- The number of a sign and a magnitude, with all bits of its format in use. -/
def spread (sign : Sign) (magnitude : Nat) (positive : 0 < magnitude) : UnpackedFloat :=
  .finite sign (magnitude * 2 ^ (23 - magnitude.log2)) (magnitude.log2 - 23)
    (Nat.mul_pos positive (Nat.two_pow_pos _))

section Magnitudes
variable (positive : 0 < magnitude) (small : magnitude < 2 ^ 24)
include positive small

theorem log2_of_small : magnitude.log2 ≤ 23 :=
  Nat.le_of_lt_succ ((Nat.log2_lt positive.ne').mpr small)

theorem log2_of_spread : (magnitude * 2 ^ (23 - magnitude.log2)).log2 = 23 := by
  have few := log2_of_small positive small
  rw [log2_of_shifted positive]
  omega

/-- A magnitude that has too many places is exactly its spread. -/
theorem round_shifted (sign : Sign) {places : Nat} (many : 23 ≤ magnitude.log2 + places) :
    roundWithAccuracy binary32 sign (magnitude * 2 ^ places) (-places) .exact =
      spread sign magnitude positive := by
  have few := log2_of_small positive small
  have rounded := round_full (log2_of_spread positive small)
    (Nat.mul_pos positive (Nat.two_pow_pos _)) (by omega : -149 ≤ (magnitude.log2 : Int) - 23) sign
    (magnitude.log2 + places - 23)
  rw [Nat.mul_assoc, ← Nat.pow_add] at rounded
  have samePlaces : 23 - magnitude.log2 + (magnitude.log2 + places - 23) = places := by omega
  have sameExponent :
      (magnitude.log2 : Int) - 23 - (magnitude.log2 + places - 23 : Nat) = -places := by
    omega
  rw [samePlaces, sameExponent] at rounded
  exact rounded

/-- Rounding spreads a magnitude, however many places are given. -/
theorem round_magnitude (sign : Sign) (places : Nat) :
    UnpackedFloat.round binary32 sign (magnitude * 2 ^ places) (-places) =
      spread sign magnitude positive := by
  have few := log2_of_small positive small
  have target : binary32.targetExponent (totalExponent (magnitude * 2 ^ places) (-places)) =
      magnitude.log2 - 23 := by
    rw [totalExponent, log2_of_shifted positive, targetExponent]
    simp [mantissaBits, minExponent]
    omega
  simp only [UnpackedFloat.round, target, decreaseExponent]
  -- missing places are filled with zeros first; then there are too many, or just enough
  have many : 23 ≤ magnitude.log2 + (places + (-places - ((magnitude.log2 : Int) - 23)).toNat) := by
    omega
  generalize (-places - ((magnitude.log2 : Int) - 23)).toNat = missing at many ⊢
  have rounded := round_shifted positive small sign many
  rw [Nat.pow_add, ← Nat.mul_assoc] at rounded
  rw [Nat.shiftLeft_eq, ← rounded]
  congr 1
  omega

end Magnitudes

/-! ## Whole numbers -/

/-- Every other whole number is a sign and a magnitude. -/
theorem zero_or_signed (whole : Int) : whole = 0 ∨
    ∃ (sign : Sign) (magnitude : Nat), 0 < magnitude ∧ whole = sign.apply magnitude := by
  rcases Int.lt_trichotomy whole 0 with less | rfl | more
  · exact .inr ⟨.negative, whole.natAbs, by omega, by rw [Sign.apply]; omega⟩
  · exact .inl rfl
  · exact .inr ⟨.positive, whole.natAbs, by omega, by rw [Sign.apply]; omega⟩

theorem normalize_signed {magnitude : Nat} (positive : 0 < magnitude) (sign : Sign) (exponent : Int)
    (zeroSign : Sign) : UnpackedFloat.normalize binary32 (sign.apply magnitude) exponent zeroSign =
      UnpackedFloat.round binary32 sign magnitude exponent := by
  cases sign with
  | negative =>
    have below : compare (-(magnitude : Int)) 0 = .lt := compare_lt_iff_lt.mpr (by omega)
    simp [Sign.apply, UnpackedFloat.normalize, below]
  | positive =>
    have above : compare (magnitude : Int) 0 = .gt := compare_gt_iff_gt.mpr (by omega)
    simp [Sign.apply, UnpackedFloat.normalize, above]

theorem apply_shifted (sign : Sign) (magnitude places : Nat) :
    sign.apply magnitude * 2 ^ places = sign.apply ((magnitude * 2 ^ places : Nat) : Int) := by
  cases sign <;> simp [Sign.apply]

theorem apply_opposite (sign : Sign) (whole : Int) : (-sign).apply whole = -sign.apply whole := by
  cases sign with
  | negative => exact (Int.neg_neg whole).symm
  | positive => rfl

theorem of_signed {magnitude : Nat} (positive : 0 < magnitude) (small : magnitude < 2 ^ 24)
    (sign : Sign) : ofInt binary32 (sign.apply magnitude) = spread sign magnitude positive := by
  have unscaled := round_magnitude positive small sign 0
  rw [ofInt, normalize_signed positive]
  simpa using unscaled

/-- A whole number is zero, or its sign and its magnitude spread over the format. -/
theorem zero_or_spread (small : whole.natAbs < 2 ^ 24) :
    whole = 0 ∨ ∃ (sign : Sign) (magnitude : Nat) (positive : 0 < magnitude),
      magnitude < 2 ^ 24 ∧ whole = sign.apply magnitude ∧
        ofInt binary32 whole = spread sign magnitude positive := by
  rcases zero_or_signed whole with rfl | ⟨sign, magnitude, positive, rfl⟩
  · exact .inl rfl
  · have bounded : magnitude < 2 ^ 24 := by
      cases sign <;> simpa [Sign.apply] using small
    exact .inr ⟨sign, magnitude, positive, bounded, rfl, of_signed positive bounded sign⟩

/-- A whole number is rounded to itself, however many places are given. -/
theorem normalize_shifted (small : whole.natAbs < 2 ^ 24) (places : Nat) :
    UnpackedFloat.normalize binary32 (whole * 2 ^ places) (-places) .positive =
      ofInt binary32 whole := by
  rcases zero_or_spread small with rfl | ⟨sign, magnitude, positive, bounded, rfl, same⟩
  · rw [Int.zero_mul]
    rfl
  · have scaled : 0 < magnitude * 2 ^ places := Nat.mul_pos positive (Nat.two_pow_pos places)
    rw [apply_shifted, normalize_signed scaled, round_magnitude positive bounded, same]

theorem aligned (positive : 0 < magnitude) (small : magnitude < 2 ^ 24) (places : Nat)
    (many : 23 ≤ magnitude.log2 + places) :
    (decreaseExponent (magnitude * 2 ^ (23 - magnitude.log2)) (magnitude.log2 - 23) (-places)).1 =
      magnitude * 2 ^ places := by
  have few := log2_of_small positive small
  have samePlaces :
      23 - magnitude.log2 + ((magnitude.log2 : Int) - 23 - -places).toNat = places := by
    omega
  rw [decreaseExponent, Nat.shiftLeft_eq, Nat.mul_assoc, ← Nat.pow_add, samePlaces]

/-- Places that hold both magnitudes. -/
theorem common_places (first second : Nat) (few : first ≤ 23) (also : second ≤ 23) :
    ∃ places : Nat, min ((first : Int) - 23) (second - 23) = -places ∧
      23 ≤ first + places ∧ 23 ≤ second + places :=
  ⟨max (23 - first) (23 - second), by omega, by omega, by omega⟩

section Sums
variable {first second : Int} (small : first.natAbs < 2 ^ 24) (also : second.natAbs < 2 ^ 24)
include small also

theorem add_whole (sum : (first + second).natAbs < 2 ^ 24) :
    UnpackedFloat.add binary32 (ofInt binary32 first) (ofInt binary32 second) =
      ofInt binary32 (first + second) := by
  rcases zero_or_spread small with rfl | ⟨sign, magnitude, positive, bounded, isFirst, same⟩ <;>
    rcases zero_or_spread also with rfl | ⟨sign', magnitude', positive', bounded', isSecond, same'⟩
  · rfl
  · rw [Int.zero_add, same']
    rfl
  · rw [Int.add_zero, same]
    rfl
  -- at the smaller exponent both are whole multiples, and so is their sum
  · obtain ⟨places, exponent, many, many'⟩ := common_places magnitude.log2 magnitude'.log2
      (log2_of_small positive bounded) (log2_of_small positive' bounded')
    rw [same, same', spread, spread, UnpackedFloat.add, exponent,
      ← normalize_shifted sum places, Int.add_mul, isFirst, isSecond, apply_shifted, apply_shifted,
      ← aligned positive bounded places many, ← aligned positive' bounded' places many']

theorem sub_whole (difference : (first - second).natAbs < 2 ^ 24) :
    UnpackedFloat.sub binary32 (ofInt binary32 first) (ofInt binary32 second) =
      ofInt binary32 (first - second) := by
  rcases zero_or_spread small with rfl | ⟨sign, magnitude, positive, bounded, isFirst, same⟩ <;>
    rcases zero_or_spread also with rfl | ⟨sign', magnitude', positive', bounded', isSecond, same'⟩
  · rfl
  · rw [same', Int.zero_sub, isSecond, ← apply_opposite, of_signed positive' bounded']
    rfl
  · rw [Int.sub_zero, same]
    rfl
  · obtain ⟨places, exponent, many, many'⟩ := common_places magnitude.log2 magnitude'.log2
      (log2_of_small positive bounded) (log2_of_small positive' bounded')
    rw [same, same', spread, spread, UnpackedFloat.sub, exponent,
      ← normalize_shifted difference places, Int.sub_mul, isFirst, isSecond, apply_shifted, apply_shifted,
      ← aligned positive bounded places many, ← aligned positive' bounded' places many']

end Sums

/-! ## Packing -/

section Packing
variable {magnitude : Nat} (positive : 0 < magnitude) (small : magnitude < 2 ^ 24) (sign : Sign)
include small

theorem pack_spread : pack binary32 (spread sign magnitude positive) =
    packComponents binary32 sign (BitVec.ofNat 8 (magnitude.log2 + 127))
      (BitVec.ofNat 23 (magnitude * 2 ^ (23 - magnitude.log2))) := by
  have few := log2_of_small positive small
  have full := log2_of_spread positive small
  have biased : ((magnitude.log2 : Int) - 23 + (2 ^ (8 - 1) - 1 : Nat) + (23 : Nat)).toNat =
      magnitude.log2 + 127 := by
    omega
  rw [spread, pack]
  simp only [full, mantissaBits, exponentBias, biased]
  rw [if_neg (by omega), if_pos trivial]

theorem unpack_spread : unpack binary32 (pack binary32 (spread sign magnitude positive)) =
    spread sign magnitude positive := by
  have few := log2_of_small positive small
  have full := (Nat.log2_eq_iff (Nat.mul_pos positive (Nat.two_pow_pos _)).ne').mp
    (log2_of_spread positive small)
  have exponent : (BitVec.ofNat 8 (magnitude.log2 + 127)).toNat = magnitude.log2 + 127 := by
    rw [BitVec.toNat_ofNat]
    omega
  have mantissa : (1#1 ++ BitVec.ofNat 23 (magnitude * 2 ^ (23 - magnitude.log2))).toNat =
      magnitude * 2 ^ (23 - magnitude.log2) := by
    rw [implicit_bit, BitVec.toNat_ofNat]
    omega
  have scale : ((magnitude.log2 + 127 : Nat) : Int) - ((binary32.exponentBias : Int) + (23 : Nat)) =
      magnitude.log2 - 23 := by
    have bias : binary32.exponentBias = 127 := rfl
    omega
  have notFull : BitVec.ofNat 8 (magnitude.log2 + 127) ≠ -1#8 := by
    rw [ne_eq, ← BitVec.toNat_inj, exponent]
    simp
    omega
  have notEmpty : BitVec.ofNat 8 (magnitude.log2 + 127) ≠ 0#8 := by
    rw [ne_eq, ← BitVec.toNat_inj, exponent]
    simp
  rw [pack_spread positive small, unpack]
  simp only [unpackExponent_packComponents, unpackMantissa_packComponents,
    unpackSign_packComponents, Sign.ofBitVec_toBitVec, notFull, notEmpty, if_false, mantissa,
    exponent, scale, spread]

end Packing

/-- Packing keeps a whole number. -/
theorem unpack_pack_whole (small : whole.natAbs < 2 ^ 24) :
    unpack binary32 (pack binary32 (ofInt binary32 whole)) = ofInt binary32 whole := by
  rcases zero_or_spread small with rfl | ⟨sign, magnitude, positive, bounded, -, same⟩
  · rfl
  · rw [same, unpack_spread positive bounded]

/-! ## Coordinates -/

/-- A coordinate that is this whole number. -/
structure IsWhole (x : Float32) (whole : Int) : Prop where
  unpacked : x.toModel.unpack = ofInt binary32 whole
  small : whole.natAbs < 2 ^ 24

theorem IsWhole.add (isFirst : IsWhole x first) (isSecond : IsWhole y second)
    (small : (first + second).natAbs < 2 ^ 24) : IsWhole (x + y) (first + second) := by
  refine ⟨?_, small⟩
  change unpack binary32 (pack binary32
    (UnpackedFloat.add binary32 x.toModel.unpack y.toModel.unpack)) = _
  rw [isFirst.unpacked, isSecond.unpacked, add_whole isFirst.small isSecond.small small,
    unpack_pack_whole small]

theorem IsWhole.sub (isFirst : IsWhole x first) (isSecond : IsWhole y second)
    (small : (first - second).natAbs < 2 ^ 24) : IsWhole (x - y) (first - second) := by
  refine ⟨?_, small⟩
  change unpack binary32 (pack binary32
    (UnpackedFloat.sub binary32 x.toModel.unpack y.toModel.unpack)) = _
  rw [isFirst.unpacked, isSecond.unpacked, sub_whole isFirst.small isSecond.small small,
    unpack_pack_whole small]

theorem mul_one_whole (small : whole.natAbs < 2 ^ 24) :
    UnpackedFloat.mul binary32 (ofInt binary32 whole) (ofInt binary32 1) =
      ofInt binary32 whole := by
  have one : ofInt binary32 1 = spread .positive 1 (by decide) := rfl
  rcases zero_or_spread small with rfl | ⟨sign, magnitude, positive, bounded, -, same⟩
  · rfl
  · have few := log2_of_small positive bounded
    have sameSign : sign * .positive = sign := by cases sign <;> rfl
    have product : magnitude * 2 ^ (23 - magnitude.log2) * (1 * 2 ^ (23 - Nat.log2 1)) =
        magnitude * 2 ^ (46 - magnitude.log2) := by
      rw [Nat.one_mul, Nat.mul_assoc, ← Nat.pow_add]
      congr 2
      have : Nat.log2 1 = 0 := rfl
      omega
    have exponents : (magnitude.log2 : Int) - 23 + ((Nat.log2 1 : Nat) - 23) =
        -(46 - magnitude.log2 : Nat) := by
      have : Nat.log2 1 = 0 := rfl
      omega
    rw [same, one, spread, spread, UnpackedFloat.mul, sameSign, product, exponents,
      round_shifted positive bounded sign (by omega), spread]

theorem ten_to_zero :
    Float32.exactlyRepresentablePowersOfTen[0].toModel.unpack = ofInt binary32 1 := rfl

theorem of_scientific_whole (positive : 0 < n) (small : n < 2 ^ 24) :
    UnpackedFloat.ofScientific binary32 n 0 = ofInt binary32 n := by
  have few := log2_of_small positive small
  have product : n <<< 24 * 10 ^ (0 : Int).toNat = n * 2 ^ 24 := by
    rw [Nat.shiftLeft_eq, Int.toNat_zero, Nat.pow_zero, Nat.mul_one]
  have range : (0 : Int) < 2 ^ binary32.exponentBits := by decide
  rw [UnpackedFloat.ofScientific, dif_neg positive.ne', if_neg (by decide), if_neg (by omega),
    if_pos (by decide), UnpackedFloat.mul]
  have rounded := round_shifted positive small (.positive * .positive) (by omega : 23 ≤ n.log2 + 24)
  rw [← product] at rounded
  exact rounded.trans (of_signed positive small .positive).symm

/-- A natural number is the coordinate of that number. -/
theorem whole_of_nat (small : n < 2 ^ 24) : IsWhole (Float32.ofNat n) n := by
  have bounded : (n : Int).natAbs < 2 ^ 24 := small
  refine ⟨?_, bounded⟩
  rw [Float32.ofNat, OfScientific.ofScientific, instOfScientificFloat32]
  simp only [Float32.ofScientific]
  -- small numbers are converted and multiplied by one, larger ones rounded from their digits
  split
  case isTrue =>
    rw [if_neg (by decide)]
    have same : n.toUInt64.toFloat32.toModel.unpack = ofInt binary32 n := by
      change unpack binary32 (pack binary32 (ofInt binary32 n.toUInt64.toNat)) = _
      rw [Nat.toUInt64_eq, UInt64.toNat_ofNat', Nat.mod_eq_of_lt (by omega),
        unpack_pack_whole bounded]
    change unpack binary32 (pack binary32 (UnpackedFloat.mul binary32
      n.toUInt64.toFloat32.toModel.unpack
      Float32.exactlyRepresentablePowersOfTen[0].toModel.unpack)) = _
    rw [same, ten_to_zero, mul_one_whole bounded, unpack_pack_whole bounded]
  case isFalse large =>
    change unpack binary32 (pack binary32 (UnpackedFloat.ofScientific binary32 n 0)) = _
    rw [of_scientific_whole (by omega) small, unpack_pack_whole bounded]

theorem spread_is_whole {magnitude : Nat} (positive : 0 < magnitude) (small : magnitude < 2 ^ 24)
    (closeBelow : Bool) : Decimal.Magnitude.IsWhole
      ⟨magnitude * 2 ^ (23 - magnitude.log2), magnitude.log2 - 23, closeBelow⟩ magnitude := by
  have few := log2_of_small positive small
  have scaled := Nat.mul_pos positive (Nat.two_pow_pos (23 - magnitude.log2))
  have full := (Nat.log2_eq_iff scaled.ne').mp (log2_of_spread positive small)
  have depth : (-((magnitude.log2 : Int) - 23)).toNat = 23 - magnitude.log2 := by omega
  refine ⟨positive, ?_, ?_, ?_⟩
  · dsimp only
    omega
  · rw [depth]
  · dsimp only
    omega

theorem negative_iff {magnitude : Nat} (positive : 0 < magnitude) (sign : Sign) :
    (sign == .negative) = decide (sign.apply magnitude < 0) := by
  cases sign with
  | negative => exact (decide_eq_true (Int.neg_neg_of_pos (Int.natCast_pos.mpr positive))).symm
  | positive => exact (decide_eq_false (Int.not_lt.mpr (Int.natCast_nonneg magnitude))).symm

/-- A whole coordinate is written with its decimal digits. -/
theorem coordinate_of_whole (isWhole : IsWhole x whole) : coordinate x = toString whole := by
  have stands : Stands x.toModel.unpack (Decimal.single.decode x.toBits.toNat) :=
    @decode_stands binary32 x.toModel.toBits.toBitVec
  rw [coordinate, Decimal.ofFloat32]
  rw [isWhole.unpacked] at stands
  generalize Decimal.single.decode x.toBits.toNat = value at stands ⊢
  rcases zero_or_spread isWhole.small with
    rfl | ⟨sign, magnitude, positive, bounded, isSigned, same⟩
  · cases stands
    rfl
  · rw [same] at stands
    cases stands
    rw [negative_iff positive, ← isSigned]
    refine Decimal.chars_of_whole ?_
    have sameMagnitude : whole.natAbs = magnitude := by
      rw [isSigned]
      cases sign <;> simp [Sign.apply]
    rw [sameMagnitude]
    exact spread_is_whole positive bounded _

example : coordinate (40 + 15) = "55" := by decide +kernel

end ClassChart
