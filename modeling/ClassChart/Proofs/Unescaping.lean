import ClassChart.Listing
import ClassChart.Proofs.MarkupRoundTrip

/-! Readers of quoted texts. A quoted text ends at the first quote that no backslash escapes, and a
manner of quoting says which characters stand for themselves and what its escapes mean. What is
written with escapes that the reader understands is read back, whatever stands behind it. The two
manners of quoting that listings use are both read this way. -/
namespace ClassChart.Unescaping

open MarkupReading (cutAt? cut_append cut_shorter)

/-! ## Hexadecimal numbers -/

/-- The value of a hexadecimal digit. -/
def hexDigit? (c : Char) : Option Nat :=
  if c.isDigit then some (c.toNat - '0'.toNat)
  else if 'a' ≤ c && c ≤ 'f' then some (c.toNat - 'a'.toNat + 10)
  else if 'A' ≤ c && c ≤ 'F' then some (c.toNat - 'A'.toNat + 10)
  else none

/-- The number that has `value` before one more digit. -/
def appendDigit? (value : Nat) (c : Char) : Option Nat :=
  (hexDigit? c).map (16 * value + ·)

/-- The number that hexadecimal digits write. -/
def hexNumber? (digits : List Char) : Option Nat :=
  if digits = [] then none else digits.foldlM appendDigit? 0

theorem hex_digit_char (small : n < 16) : hexDigit? (Nat.digitChar n) = some n := by
  revert n
  decide

theorem append_digit_char (value : Nat) (small : n < 16) :
    appendDigit? value (Nat.digitChar n) = some (16 * value + n) := by
  rw [appendDigit?, hex_digit_char small, Option.map_some]

theorem fold_hex_digits (n : Nat) : (Nat.toDigits 16 n).foldlM appendDigit? 0 = some n := by
  induction n using Nat.strongRecOn with
  | _ n ih =>
    rw [Nat.toDigits_eq_if (by decide)]
    split
    case isTrue small =>
      rw [List.foldlM_cons, append_digit_char 0 small]
      simp
    case isFalse large =>
      have higher := ih (n / 16) (Nat.div_lt_self (by omega) (by decide))
      rw [List.foldlM_append, higher, Option.bind_eq_bind, Option.bind_some, List.foldlM_cons,
        append_digit_char _ (Nat.mod_lt n (by decide)), Nat.div_add_mod]
      rfl

theorem hex_number_digits (n : Nat) : hexNumber? (Text.Quoted.hexDigits n) = some n := by
  rw [hexNumber?, Text.Quoted.hexDigits, if_neg Nat.toDigits_ne_nil, fold_hex_digits]

/-- A character that is no digit does not stand in a number. -/
theorem hex_digits_free (other : ∀ digit, Nat.digitChar digit ≠ c) (n : Nat) :
    c ∉ Text.Quoted.hexDigits n := by
  rw [Text.Quoted.hexDigits]
  induction n using Nat.strongRecOn with
  | _ n ih =>
    rw [Nat.toDigits_eq_if (by decide)]
    split
    case isTrue small => simpa using (other n).symm
    case isFalse large =>
      have higher := ih (n / 16) (Nat.div_lt_self (by omega) (by decide))
      simpa [higher] using (other (n % 16)).symm

/-! ## Quoted texts -/

/-- A manner of quoting: the characters that stand for themselves, and what the text behind a
backslash begins with. An escape is never empty. -/
structure Quotation where
  isPlain : Char → Bool
  readEscape : List Char → Option (Char × List Char)
  shorter : ∀ {text c behind}, readEscape text = some (c, behind) → behind.length < text.length

namespace Quotation

variable (quotation : Quotation)

/-- The text up to the closing quote, and what stands behind that. -/
def read : List Char → Option (List Char × List Char)
  | [] => none
  | c :: rest =>
    if c = '"' then some ([], rest)
    else if c = '\\' then
      match _ : quotation.readEscape rest with
      | none => none
      | some (meant, behind) => (read behind).map fun (content, later) => (meant :: content, later)
    else if quotation.isPlain c then
      (read rest).map fun (content, later) => (c :: content, later)
    else none
termination_by text => text.length
decreasing_by
  · have shorter := quotation.shorter ‹_›
    simp only [List.length_cons]
    omega
  · simp

theorem read_end (rest : List Char) : quotation.read ('"' :: rest) = some ([], rest) := by
  rw [read]
  simp

theorem read_plain (plain : quotation.isPlain c = true) (noQuote : c ≠ '"') (noEscape : c ≠ '\\')
    (rest : List Char) :
    quotation.read (c :: rest) =
      (quotation.read rest).map fun (content, later) => (c :: content, later) := by
  rw [read]
  simp [plain, noQuote, noEscape]

theorem read_escape (means : quotation.readEscape rest = some (c, behind)) :
    quotation.read ('\\' :: rest) =
      (quotation.read behind).map fun (content, later) => (c :: content, later) := by
  rw [read]
  simp only [show ('\\' : Char) ≠ '"' by decide, if_false, if_true]
  split
  case h_1 none => simp [none] at means
  case h_2 meant later some =>
    rw [some] at means
    cases means
    rfl

theorem read_shorter {text : List Char} (closed : quotation.read text = some (content, behind)) :
    behind.length < text.length := by
  fun_induction quotation.read text generalizing content with
  | case1 => cases closed
  | case2 rest =>
    cases closed
    simp
  | case3 => cases closed
  | case4 rest meant later escapes _ ih =>
    obtain ⟨⟨inner, last⟩, deeper, same⟩ := Option.map_eq_some_iff.mp closed
    cases same
    have shorter := quotation.shorter escapes
    have within := ih deeper
    simp only [List.length_cons]
    omega
  | case5 c rest noQuote noEscape plain ih =>
    obtain ⟨⟨inner, last⟩, deeper, same⟩ := Option.map_eq_some_iff.mp closed
    cases same
    have within := ih deeper
    simp only [List.length_cons]
    omega
  | case6 => cases closed

/-- The written form of a character: the character itself where it is plain, and otherwise an escape
that means it in front of any other text. -/
inductive Means : List Char → Char → Prop where
  | plain (plain : quotation.isPlain c = true) (noQuote : c ≠ '"') (noEscape : c ≠ '\\') : Means [c] c
  | escape (means : ∀ rest, quotation.readEscape (letters ++ rest) = some (c, rest)) :
    Means ('\\' :: letters) c

theorem read_written (means : quotation.Means written c) (rest : List Char) :
    quotation.read (written ++ rest) =
      (quotation.read rest).map fun (content, later) => (c :: content, later) := by
  cases means with
  | plain plain noQuote noEscape => exact quotation.read_plain plain noQuote noEscape rest
  | escape means => exact quotation.read_escape (means rest)

/-- A text written character by character is read back. -/
theorem read_text {write : Char → List Char} (means : ∀ c, quotation.Means (write c) c)
    (text rest : List Char) : quotation.read (text.flatMap write ++ '"' :: rest) = some (text, rest) := by
  induction text with
  | nil => exact quotation.read_end rest
  | cons c text ih =>
    rw [List.flatMap_cons, List.append_assoc, quotation.read_written (means c), ih]
    rfl

end Quotation

/-- An escape of one letter. -/
def readLetter? (letters : List (Char × Char)) : List Char → Option (Char × List Char)
  | [] => none
  | letter :: rest => (letters.lookup letter).map fun meant => (meant, rest)

theorem letter_shorter (read : readLetter? letters text = some (c, behind)) :
    behind.length < text.length := by
  cases text with
  | nil => cases read
  | cons letter rest =>
    obtain ⟨meant, -, same⟩ := Option.map_eq_some_iff.mp read
    cases same
    simp

/-! ## Quotation of lexemes in rows -/

/-- The letters that stand for a character behind a backslash. -/
def quotedLetters : List (Char × Char) :=
  [('"', '"'), ('\\', '\\'), ('n', '\n'), ('r', '\r'), ('t', '\t'), ('0', '\x00')]

/-- A code point in braces. -/
def readPoint? (text : List Char) : Option (Char × List Char) :=
  match cutAt? '\x7d' text with
  | none => none
  | some (digits, behind) =>
    match hexNumber? digits with
    | none => none
    | some point => if point.isValidChar then some (Char.ofNat point, behind) else none

theorem point_shorter (read : readPoint? text = some (c, behind)) :
    behind.length < text.length := by
  unfold readPoint? at read
  split at read
  case h_1 => cases read
  case h_2 digits later cut =>
    split at read
    case h_1 => cases read
    case h_2 point written =>
      split at read <;> cases read
      exact cut_shorter cut

/-- What an escape in a quoted lexeme means. -/
def readQuotedEscape : List Char → Option (Char × List Char)
  | 'u' :: '\x7b' :: rest => readPoint? rest
  | text => readLetter? quotedLetters text

theorem quoted_escape_shorter (read : readQuotedEscape text = some (c, behind)) :
    behind.length < text.length := by
  unfold readQuotedEscape at read
  split at read
  case h_1 rest =>
    have shorter := point_shorter read
    simp only [List.length_cons]
    omega
  case h_2 => exact letter_shorter read

/-- The quotation of lexemes in rows. -/
def quoted : Quotation where
  isPlain := Unicode.isPrintable
  readEscape := readQuotedEscape
  shorter := quoted_escape_shorter

theorem read_point_escape (c : Char) (rest : List Char) :
    readPoint? (Text.Quoted.hexDigits c.toNat ++ '\x7d' :: rest) = some (c, rest) := by
  have valid : c.toNat.isValidChar := c.valid
  rw [readPoint?, cut_append (hex_digits_free (fun _ => Nat.digitChar_ne '\x7d' (by decide)) _)]
  simp [hex_number_digits, valid]

theorem quoted_means (c : Char) : quoted.Means (Text.Quoted.escape c) c := by
  unfold Text.Quoted.escape
  split
  case h_7 noQuote noEscape _ _ _ _ =>
    split
    case isTrue shown => exact .plain shown noQuote noEscape
    case isFalse =>
      refine .escape fun rest => ?_
      have reads := read_point_escape c rest
      simpa [quoted, readQuotedEscape] using reads
  all_goals exact .escape fun rest => rfl

/-! ## JSON strings -/

/-- The letters that stand for a character behind a backslash. -/
def jsonLetters : List (Char × Char) :=
  [('"', '"'), ('\\', '\\'), ('/', '/'), ('b', '\x08'), ('f', '\x0c'), ('n', '\n'), ('r', '\r'),
    ('t', '\t')]

/-- A unit of a code point, in four digits. -/
def readUnit? : List Char → Option (Nat × List Char)
  | a :: b :: c :: d :: rest => (hexNumber? [a, b, c, d]).map fun unit => (unit, rest)
  | _ => none

theorem unit_shorter (read : readUnit? text = some (unit, behind)) :
    behind.length < text.length := by
  unfold readUnit? at read
  split at read
  case h_1 a b c d rest =>
    obtain ⟨value, -, same⟩ := Option.map_eq_some_iff.mp read
    cases same
    simp only [List.length_cons]
    omega
  case h_2 => cases read

/-- The code point that the two halves of a pair write. -/
def pairPoint (high low : Nat) : Nat :=
  0x10000 + (high - 0xD800) * 0x400 + (low - 0xDC00)

/-- The second half of a code point beyond the first plane, whose first half was `high`. -/
def readLowHalf? (high : Nat) : List Char → Option (Char × List Char)
  | '\\' :: 'u' :: rest =>
    match readUnit? rest with
    | none => none
    | some (low, behind) =>
      if 0xDC00 ≤ low ∧ low < 0xE000 then some (Char.ofNat (pairPoint high low), behind) else none
  | _ => none

theorem low_half_shorter (read : readLowHalf? high text = some (c, behind)) :
    behind.length < text.length := by
  unfold readLowHalf? at read
  split at read
  case h_1 rest =>
    split at read
    case h_1 => cases read
    case h_2 low later unit =>
      obtain ⟨-, same⟩ := Option.ite_none_right_eq_some.mp read
      obtain ⟨-, rfl⟩ := Prod.mk.inj (Option.some.inj same)
      have shorter := unit_shorter unit
      simp only [List.length_cons]
      omega
  case h_2 => cases read

/-- A code point in one unit, or in the two halves of a pair. -/
def readUnits? (text : List Char) : Option (Char × List Char) :=
  match readUnit? text with
  | none => none
  | some (unit, behind) =>
    if unit.isValidChar then some (Char.ofNat unit, behind)
    else if unit < 0xDC00 then readLowHalf? unit behind
    else none

theorem units_shorter (read : readUnits? text = some (c, behind)) :
    behind.length < text.length := by
  unfold readUnits? at read
  split at read
  case h_1 => cases read
  case h_2 unit later first =>
    have shorter := unit_shorter first
    split at read
    case isTrue =>
      cases read
      exact shorter
    case isFalse =>
      split at read
      case isTrue =>
        have half := low_half_shorter read
        omega
      case isFalse => cases read

/-- What an escape in a string means. -/
def readJsonEscape : List Char → Option (Char × List Char)
  | 'u' :: rest => readUnits? rest
  | text => readLetter? jsonLetters text

theorem json_escape_shorter (read : readJsonEscape text = some (c, behind)) :
    behind.length < text.length := by
  unfold readJsonEscape at read
  split at read
  case h_1 rest =>
    have shorter := units_shorter read
    simp only [List.length_cons]
    omega
  case h_2 => exact letter_shorter read

/-- The quotation of JSON strings. -/
def jsonString : Quotation where
  isPlain c := 0x20 ≤ c.toNat
  readEscape := readJsonEscape
  shorter := json_escape_shorter

theorem hex_number_pair (low : n < 0x20) :
    hexNumber? ['0', '0', Nat.digitChar (n / 16), Nat.digitChar (n % 16)] = some n := by
  have zero : appendDigit? 0 '0' = some 0 := rfl
  have high := append_digit_char 0 (show n / 16 < 16 by omega)
  have last := append_digit_char (16 * 0 + n / 16) (Nat.mod_lt n (show 0 < 16 by decide))
  have value : 16 * (16 * 0 + n / 16) + n % 16 = n := by omega
  rw [hexNumber?, if_neg (List.cons_ne_nil _ _)]
  simp only [List.foldlM_cons, zero, high, last, value, Option.bind_eq_bind, Option.bind_some]
  rfl

theorem read_control_escape (control : c.toNat < 0x20) (rest : List Char) :
    readUnits? ('0' :: '0' :: Nat.digitChar (c.toNat / 16) :: Nat.digitChar (c.toNat % 16) :: rest) =
      some (c, rest) := by
  have valid : c.toNat.isValidChar := c.valid
  rw [readUnits?, readUnit?, hex_number_pair control]
  simp [valid]

theorem json_means (c : Char) : jsonString.Means (Text.JsonString.escape c) c := by
  unfold Text.JsonString.escape
  split
  case h_8 noQuote noEscape _ _ _ _ _ =>
    split
    case isTrue control => exact .escape (read_control_escape control)
    case isFalse shown => exact .plain (by simpa [jsonString] using shown) noQuote noEscape
  all_goals exact .escape fun rest => rfl

end ClassChart.Unescaping
