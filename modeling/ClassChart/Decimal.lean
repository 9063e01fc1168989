/-!
Decimal text of binary floating-point numbers. A number is written with the fewest digits that
read back as the same number of its format, the nearest such digits where there are several, and
always in positional notation: zeros fill the places up to the decimal point. The search works
in exact natural-number arithmetic on the significand and exponent of the number.
-/
namespace ClassChart.Decimal

/-- A binary interchange format. -/
structure BinaryFormat where
  fractionBits : Nat
  exponentBits : Nat

/-- The format of 32-bit numbers. -/
def single : BinaryFormat := ⟨23, 8⟩

/-- The format of 64-bit numbers. -/
def double : BinaryFormat := ⟨52, 11⟩

/-- A positive number `significand * 2 ^ exponent`. `closeBelow` holds when the next smaller number
of the format is only half as far away as the next larger one. -/
structure Magnitude where
  significand : Nat
  exponent : Int
  closeBelow : Bool

/-- What a bit pattern stands for. -/
inductive Value where
  | notANumber
  | infinite (negative : Bool)
  | zero (negative : Bool)
  | finite (negative : Bool) (magnitude : Magnitude)

namespace BinaryFormat

/-- Reads a bit pattern of the format. -/
def decode (format : BinaryFormat) (bits : Nat) : Value :=
  let fraction := bits % Nat.pow 2 format.fractionBits
  let exponent := bits / Nat.pow 2 format.fractionBits % Nat.pow 2 format.exponentBits
  let negative := bits / Nat.pow 2 (format.fractionBits + format.exponentBits) % 2 = 1
  let lowest : Int := 2 - Nat.pow 2 (format.exponentBits - 1) - format.fractionBits
  if exponent = Nat.pow 2 format.exponentBits - 1 then
    if fraction = 0 then .infinite negative else .notANumber
  else if exponent = 0 then
    if fraction = 0 then .zero negative else .finite negative ⟨fraction, lowest, false⟩
  else
    .finite negative
      ⟨Nat.pow 2 format.fractionBits + fraction, lowest + (exponent - 1), fraction = 0 && 1 < exponent⟩

end BinaryFormat

/-- A point of a decimal grid: `digits * 10 ^ place`. -/
structure GridPoint where
  digits : Nat
  place : Int

namespace Magnitude

/-- The point of the grid with this place that reads back as the number, the nearer one of two,
and the larger one of two that are equally near. In units of `2 ^ (exponent - 2)` the number is
`4 * significand`, and what reads back as it lies within two units of it, or one unit on a close
side; the ends of that interval belong to it when the significand is even. -/
def atPlace? (number : Magnitude) (place : Int) : Option GridPoint :=
  let scale := Nat.pow 2 (number.exponent - 2).toNat * Nat.pow 10 (-place).toNat
  let step := Nat.pow 2 (2 - number.exponent).toNat * Nat.pow 10 place.toNat
  let value := 4 * number.significand * scale
  let low := (4 * number.significand - if number.closeBelow then 1 else 2) * scale
  let high := (4 * number.significand + 2) * scale
  let readsBack (digits : Nat) : Bool :=
    if number.significand % 2 = 0 then low ≤ digits * step && digits * step ≤ high
    else low < digits * step && digits * step < high
  let below := value / step
  let above := below + 1
  match readsBack below, readsBack above with
  | true, true =>
    some ⟨if 2 * (value - below * step) < step then below else above, place⟩
  | true, false => some ⟨below, place⟩
  | false, true => some ⟨above, place⟩
  | false, false => none

/-- A place above the first digit of the number: three digits are fewer than ten bits. -/
def topPlace (number : Magnitude) : Int :=
  ((number.significand.log2 + 1 : Int) + number.exponent) * 30103 / 100000 + 2

/-- The first place, from `place` down, on whose grid a point reads back as the number. -/
def searchDown (number : Magnitude) : (steps : Nat) → (place : Int) → GridPoint
  | 0, place => (number.atPlace? place).getD ⟨0, place⟩
  | steps + 1, place =>
    (number.atPlace? place).getD (number.searchDown steps (place - 1))

/-- The shortest decimal that reads back as the number. No number of a supported format needs
more than seventeen digits. -/
def shortest (number : Magnitude) : GridPoint :=
  number.searchDown 25 number.topPlace

end Magnitude

/-- The digits of a natural number. -/
def natDigits (n : Nat) : List Char := Nat.toDigits 10 n

/-- A grid point in positional notation. -/
def GridPoint.positional (point : GridPoint) : List Char :=
  let digits := natDigits point.digits
  if 0 ≤ point.place then digits ++ List.replicate point.place.toNat '0'
  else
    let places := (-point.place).toNat
    if places < digits.length then
      digits.take (digits.length - places) ++ '.' :: digits.drop (digits.length - places)
    else '0' :: '.' :: (List.replicate (places - digits.length) '0' ++ digits)

/-- A sign for negative numbers only. -/
def signed (negative : Bool) (text : List Char) : List Char :=
  if negative then '-' :: text else text

/-- The text of a value. The value that is not a number has no sign. -/
def Value.chars : Value → List Char
  | .notANumber => ['N', 'a', 'N']
  | .infinite negative => signed negative ['i', 'n', 'f']
  | .zero negative => signed negative ['0']
  | .finite negative magnitude => signed negative magnitude.shortest.positional

/-- The text of a 32-bit number. -/
def ofFloat32 (x : Float32) : String :=
  String.ofList (single.decode x.toBits.toNat).chars

/-- The text of a 64-bit number. -/
def ofFloat (x : Float) : String :=
  String.ofList (double.decode x.toBits.toNat).chars

end ClassChart.Decimal
