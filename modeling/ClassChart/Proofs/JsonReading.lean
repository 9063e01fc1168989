import ClassChart.Proofs.Unescaping

/-! A reader of JSON texts that is independent of how listings are written. It cuts a text into
marks, which are scalars and punctuation with blanks between them, and builds the value that the
marks nest. Every text that is written by marks in a row is read as that row, whatever follows. -/
namespace ClassChart

/-- A JSON value. The members of an object stay in order, and a number is kept as its sign, its
digits, and the power of ten that they count. -/
inductive Json where
  | null
  | boolean (value : Bool)
  | number (negative : Bool) (digits : Nat) (exponent : Int)
  | string (content : String)
  | array (items : List Json)
  | object (members : List (String × Json))

namespace JsonReading

open Unescaping (jsonString json_means)

/-! ## Numbers -/

/-- The digits at the beginning of a text, and the text behind them; there is at least one. -/
def readDigits? (text : List Char) : Option (List Char × List Char) :=
  if text.takeWhile Char.isDigit = [] then none
  else some (text.takeWhile Char.isDigit, text.dropWhile Char.isDigit)

/-- The digits behind a decimal point, if there is one. -/
def readFraction? : List Char → Option (List Char × List Char)
  | '.' :: rest => readDigits? rest
  | text => some ([], text)

/-- The exponent behind its letter. -/
def readPower? : List Char → Option (Int × List Char)
  | '-' :: rest => (readDigits? rest).map fun (digits, behind) =>
      (-(Nat.ofDigitChars 10 digits 0 : Int), behind)
  | '+' :: rest => (readDigits? rest).map fun (digits, behind) =>
      ((Nat.ofDigitChars 10 digits 0 : Int), behind)
  | text => (readDigits? text).map fun (digits, behind) =>
      ((Nat.ofDigitChars 10 digits 0 : Int), behind)

/-- The exponent, if there is one. -/
def readExponent? : List Char → Option (Int × List Char)
  | 'e' :: rest => readPower? rest
  | 'E' :: rest => readPower? rest
  | text => some (0, text)

/-- A number without its sign. Zero alone may begin with the digit zero. -/
def readMagnitude? (negative : Bool) (text : List Char) : Option (Json × List Char) := do
  let (whole, behind) ← readDigits? text
  if whole.head? = some '0' ∧ whole ≠ ['0'] then none
  else
    let (fraction, behind) ← readFraction? behind
    let (exponent, behind) ← readExponent? behind
    some (.number negative (Nat.ofDigitChars 10 (whole ++ fraction) 0) (exponent - fraction.length),
      behind)

/-- The number at the beginning of a text, and the text behind it. -/
def readNumber? : List Char → Option (Json × List Char)
  | '-' :: rest => readMagnitude? true rest
  | text => readMagnitude? false text

theorem digits_shorter (read : readDigits? text = some (digits, behind)) :
    behind.length < text.length := by
  obtain ⟨nonempty, same⟩ := Option.ite_none_left_eq_some.mp read
  obtain ⟨-, rfl⟩ := Prod.mk.inj (Option.some.inj same)
  have parts := congrArg List.length (List.takeWhile_append_dropWhile (p := Char.isDigit) (l := text))
  have some_ := List.length_pos_iff.mpr nonempty
  rw [List.length_append] at parts
  omega

theorem fraction_no_longer (read : readFraction? text = some (digits, behind)) :
    behind.length ≤ text.length := by
  unfold readFraction? at read
  split at read
  case h_1 rest =>
    have shorter := digits_shorter read
    simp only [List.length_cons]
    omega
  case h_2 =>
    cases read
    exact Nat.le_refl _

theorem power_shorter (read : readPower? text = some (power, behind)) :
    behind.length < text.length := by
  unfold readPower? at read
  split at read
  all_goals
    obtain ⟨⟨digits, later⟩, written, same⟩ := Option.map_eq_some_iff.mp read
    cases same
    have shorter := digits_shorter written
  case h_3 => exact shorter
  all_goals
    rw [List.length_cons]
    omega

theorem exponent_no_longer (read : readExponent? text = some (exponent, behind)) :
    behind.length ≤ text.length := by
  unfold readExponent? at read
  split at read
  case h_3 =>
    cases read
    exact Nat.le_refl _
  all_goals
    have shorter := power_shorter read
    simp only [List.length_cons]
    omega

theorem magnitude_shorter (read : readMagnitude? negative text = some (value, behind)) :
    behind.length < text.length := by
  obtain ⟨⟨whole, first⟩, digits, proper⟩ := Option.bind_eq_some_iff.mp read
  obtain ⟨-, parts⟩ := Option.ite_none_left_eq_some.mp proper
  obtain ⟨⟨fraction, second⟩, afterPoint, parts⟩ := Option.bind_eq_some_iff.mp parts
  obtain ⟨⟨exponent, third⟩, afterLetter, same⟩ := Option.bind_eq_some_iff.mp parts
  cases same
  have := digits_shorter digits
  have := fraction_no_longer afterPoint
  have := exponent_no_longer afterLetter
  omega

theorem number_shorter (read : readNumber? text = some (value, behind)) :
    behind.length < text.length := by
  unfold readNumber? at read
  split at read
  case h_1 rest =>
    have shorter := magnitude_shorter read
    simp only [List.length_cons]
    omega
  case h_2 => exact magnitude_shorter read

/-! ## Marks -/

/-- What a JSON text is a sequence of. -/
inductive Mark where
  | openArray
  | closeArray
  | openObject
  | closeObject
  | comma
  | colon
  | scalar (value : Json)

/-- The characters that are marks by themselves. -/
def punctuation : List (Char × Mark) :=
  [('[', .openArray), (']', .closeArray), ('\x7b', .openObject), ('\x7d', .closeObject),
    (',', .comma), (':', .colon)]

/-- The scalars that are words. -/
def words : List (List Char × Json) :=
  [(['n', 'u', 'l', 'l'], .null), (['t', 'r', 'u', 'e'], .boolean true),
    (['f', 'a', 'l', 's', 'e'], .boolean false)]

/-- The scalar at the beginning of a text, and the text behind it. -/
def readScalar? (text : List Char) : Option (Json × List Char) :=
  match text with
  | '"' :: rest => (jsonString.read rest).map fun (content, behind) =>
      (.string (String.ofList content), behind)
  | text =>
    match words.find? (·.1.isPrefixOf text) with
    | some (word, value) => some (value, text.drop word.length)
    | none => readNumber? text

/-- The first mark of a text that begins with `c`, and the text behind it. -/
def firstMark? (c : Char) (rest : List Char) : Option (Mark × List Char) :=
  match punctuation.lookup c with
  | some mark => some (mark, rest)
  | none => (readScalar? (c :: rest)).map fun (value, behind) => (.scalar value, behind)

/-- The blanks between marks. -/
def isBlank (c : Char) : Bool :=
  [' ', '\n', '\r', '\t'].contains c

theorem scalar_shorter (read : readScalar? (c :: rest) = some (value, behind)) :
    behind.length < (c :: rest).length := by
  unfold readScalar? at read
  split at read
  case h_1 quotedText same =>
    obtain ⟨⟨content, later⟩, closed, alike⟩ := Option.map_eq_some_iff.mp read
    cases same
    cases alike
    have shorter := jsonString.read_shorter closed
    rw [List.length_cons]
    omega
  case h_2 =>
    split at read
    case h_1 word meant found =>
      have nonempty : word ≠ [] := by
        have every : ∀ entry ∈ words.map (·.1), entry ≠ [] := by decide
        exact every _ (List.mem_map_of_mem (List.mem_of_find?_eq_some found))
      have some_ := List.length_pos_iff.mpr nonempty
      cases read
      rw [List.length_drop, List.length_cons]
      omega
    case h_2 => exact number_shorter read

/-- Every mark covers something. -/
theorem mark_covers (read : firstMark? c rest = some (mark, behind)) :
    behind.length < (c :: rest).length := by
  unfold firstMark? at read
  split at read
  case h_1 =>
    cases read
    simp
  case h_2 =>
    obtain ⟨⟨value, later⟩, scalar, same⟩ := Option.map_eq_some_iff.mp read
    cases same
    exact scalar_shorter scalar

/-- The marks of a text. -/
def readMarks : List Char → Option (List Mark)
  | [] => some []
  | c :: rest =>
    if isBlank c then readMarks rest
    else
      match _ : firstMark? c rest with
      | some (mark, behind) => (readMarks behind).map (mark :: ·)
      | none => none
termination_by text => text.length
decreasing_by
  · simp
  · exact mark_covers ‹_›

/-! ## Building the value -/

/-- A value whose end has not been read yet: an array with the items before, or an object with the
members before and the name of the next. -/
inductive OpenValue where
  | array (items : List Json)
  | object (members : List (String × Json)) (name : String)

/-- How far a value has been read, and the values that it stands in. A list that has just been
opened may end at once; behind a comma it may not. -/
inductive Progress where
  | beforeValue (mayEnd : Bool) (around : List OpenValue)
  | beforeName (mayEnd : Bool) (members : List (String × Json)) (around : List OpenValue)
  | behindName (members : List (String × Json)) (name : String) (around : List OpenValue)
  | behindValue (value : Json) (around : List OpenValue)

/-- Reads one more mark. -/
def Progress.step : Progress → Mark → Option Progress
  | .beforeValue _ around, .scalar value => some (.behindValue value around)
  | .beforeValue _ around, .openArray => some (.beforeValue true (.array [] :: around))
  | .beforeValue _ around, .openObject => some (.beforeName true [] around)
  | .beforeValue true (.array [] :: around), .closeArray => some (.behindValue (.array []) around)
  | .beforeName _ members around, .scalar (.string name) => some (.behindName members name around)
  | .beforeName true [] around, .closeObject => some (.behindValue (.object []) around)
  | .behindName members name around, .colon =>
    some (.beforeValue false (.object members name :: around))
  | .behindValue value (.array items :: around), .comma =>
    some (.beforeValue false (.array (items ++ [value]) :: around))
  | .behindValue value (.array items :: around), .closeArray =>
    some (.behindValue (.array (items ++ [value])) around)
  | .behindValue value (.object members name :: around), .comma =>
    some (.beforeName false (members ++ [(name, value)]) around)
  | .behindValue value (.object members name :: around), .closeObject =>
    some (.behindValue (.object (members ++ [(name, value)])) around)
  | _, _ => none

/-- The value of a row of marks. -/
def build (row : List Mark) : Option Json :=
  match row.foldlM Progress.step (.beforeValue false []) with
  | some (.behindValue value []) => some value
  | _ => none

/-- The value that a JSON text stands for. -/
def readJson (text : String) : Option Json :=
  (readMarks text.toList).bind build

example : (["[1,]", "[01]", "[1 2]", "[1]]", ""].map readJson).all Option.isNone = true := by
  decide +kernel

/-! ## Reading what is written -/

theorem marks_blank (blank : isBlank c = true) (rest : List Char) :
    readMarks (c :: rest) = readMarks rest := by
  rw [readMarks, if_pos blank]

theorem marks_go_on (shown : isBlank c = false) (read : firstMark? c rest = some (mark, behind)) :
    readMarks (c :: rest) = (readMarks behind).map (mark :: ·) := by
  rw [readMarks, if_neg (by simp [shown])]
  split
  case h_1 first later found =>
    rw [found] at read
    cases read
    rfl
  case h_2 none =>
    rw [none] at read
    cases read

theorem marks_punctuation (listed : punctuation.lookup c = some mark)
    (shown : isBlank c = false) (rest : List Char) :
    readMarks (c :: rest) = (readMarks rest).map (mark :: ·) :=
  marks_go_on shown (by rw [firstMark?, listed])

theorem marks_string (content rest : List Char) :
    readMarks (Text.JsonString.encode content ++ rest) =
      (readMarks rest).map (.scalar (.string (String.ofList content)) :: ·) := by
  rw [Text.JsonString.encode, List.append_assoc, List.cons_append]
  refine marks_go_on rfl ?_
  have read := jsonString.read_text json_means content rest
  rw [firstMark?, show punctuation.lookup '"' = none from rfl]
  simp only [readScalar?, List.singleton_append, read, Option.map_some]

/-- A positive number does not begin with the digit zero. -/
theorem leading_digit (positive : 0 < n) : (Nat.toDigits 10 n).head? ≠ some '0' := by
  induction n using Nat.strongRecOn with
  | _ n ih =>
    rw [Nat.toDigits_eq_if (by decide)]
    split
    case isTrue small =>
      simp only [List.head?_cons, ne_eq, Option.some.injEq, Nat.digitChar_eq_zero]
      omega
    case isFalse large =>
      rw [List.head?_append_of_ne_nil _ Nat.toDigits_ne_nil]
      exact ih (n / 10) (Nat.div_lt_self (by omega) (by decide)) (by omega)

/-- A character that ends a whole number. -/
def EndsNumber (c : Char) : Prop :=
  c.isDigit = false ∧ c ≠ '.' ∧ c ≠ 'e' ∧ c ≠ 'E'

instance : DecidablePred EndsNumber :=
  fun c => inferInstanceAs (Decidable (c.isDigit = false ∧ c ≠ '.' ∧ c ≠ 'e' ∧ c ≠ 'E'))

theorem read_digits_natural (n : Nat) (ends : c.isDigit = false) (rest : List Char) :
    readDigits? (Listing.natural n ++ c :: rest) = some (Listing.natural n, c :: rest) := by
  have digits : ∀ d ∈ Listing.natural n, d.isDigit = true := fun d listed =>
    Nat.isDigit_of_mem_toDigits (by decide) (by decide) listed
  have front : (Listing.natural n ++ c :: rest).takeWhile Char.isDigit = Listing.natural n := by
    rw [List.takeWhile_append_of_pos digits, List.takeWhile_cons_of_neg (by simp [ends]),
      List.append_nil]
  have back : (Listing.natural n ++ c :: rest).dropWhile Char.isDigit = c :: rest := by
    rw [List.dropWhile_append_of_pos digits, List.dropWhile_cons_of_neg (by simp [ends])]
  have nonempty : Listing.natural n ≠ [] := Nat.toDigits_ne_nil
  rw [readDigits?, front, back, if_neg nonempty]

theorem read_number_natural (n : Nat) (ends : EndsNumber c) (rest : List Char) :
    readMagnitude? false (Listing.natural n ++ c :: rest) = some (.number false n 0, c :: rest) := by
  obtain ⟨noDigit, noPoint, noSmall, noLarge⟩ := ends
  have noZeros : ¬ ((Listing.natural n).head? = some '0' ∧ Listing.natural n ≠ ['0']) := by
    rintro ⟨begins, longer⟩
    cases n with
    | zero => exact longer (Nat.toDigits_zero 10)
    | succ n => exact leading_digit n.succ_pos begins
  have value : Nat.ofDigitChars 10 (Listing.natural n) 0 = n := Nat.ofDigitChars_ten_toDigits
  simp [readMagnitude?, read_digits_natural n noDigit, noZeros, readFraction?, readExponent?, value,
    noPoint, noSmall, noLarge]

/-- A digit begins no mark but a number. -/
theorem first_mark_digit (digit : d.isDigit = true) (rest : List Char) :
    isBlank d = false ∧ firstMark? d rest =
      (readMagnitude? false (d :: rest)).map fun (value, behind) => (.scalar value, behind) := by
  have other : ∀ c : Char, c.isDigit = false → d ≠ c := by
    rintro c noDigit rfl
    rw [digit] at noDigit
    cases noDigit
  have noBlank : isBlank d = false := by
    simp [isBlank, other ' ' rfl, other '\n' rfl, other '\r' rfl, other '\t' rfl]
  have noPunctuation : punctuation.lookup d = none := by
    rw [List.lookup_eq_none_iff]
    simp [punctuation, other '[' rfl, other ']' rfl, other '\x7b' rfl, other '\x7d' rfl,
      other ',' rfl, other ':' rfl]
  have noWord : words.find? (·.1.isPrefixOf (d :: rest)) = none := by
    simp [words, List.isPrefixOf, (other 'n' rfl).symm, (other 't' rfl).symm, (other 'f' rfl).symm]
  have scalar : readScalar? (d :: rest) = readMagnitude? false (d :: rest) := by
    simp [readScalar?, noWord, readNumber?, other '"' rfl, other '-' rfl]
  rw [firstMark?, noPunctuation, scalar]
  exact ⟨noBlank, rfl⟩

theorem marks_natural (n : Nat) (ends : EndsNumber c) (rest : List Char) :
    readMarks (Listing.natural n ++ c :: rest) =
      (readMarks (c :: rest)).map (.scalar (.number false n 0) :: ·) := by
  have read := read_number_natural n ends rest
  obtain ⟨d, later, digits⟩ := List.exists_cons_of_ne_nil (l := Listing.natural n) Nat.toDigits_ne_nil
  have digit : d.isDigit = true := by
    have listed : d ∈ Listing.natural n := by simp [digits]
    exact Nat.isDigit_of_mem_toDigits (by decide) (by decide) listed
  rw [digits, List.cons_append] at read ⊢
  obtain ⟨shown, first⟩ := first_mark_digit digit (later ++ c :: rest)
  rw [read, Option.map_some] at first
  exact marks_go_on shown first

end JsonReading

end ClassChart
