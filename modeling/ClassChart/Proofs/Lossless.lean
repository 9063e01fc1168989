import ClassChart.Proofs.JsonReading

/-! Listings of tokens are lossless. A row is cut at its separators and its quoted lexeme read back;
no row holds a line break, so the lines of a listing are its rows. The records of a JSON listing hold
what the tokens hold, and a reader of JSON finds them. In both formats a listing therefore belongs
to one list of tokens only. -/
namespace ClassChart.Listing

open MarkupReading (cutAt? cut_append)
open Unescaping (quoted quoted_means hex_digits_free)
open JsonReading

/-! ## Rows -/

/-- The number that decimal digits write. -/
def readNatural? (digits : List Char) : Option Nat :=
  if digits ≠ [] ∧ digits.all Char.isDigit then some (Nat.ofDigitChars 10 digits 0) else none

/-- The lexeme that stands in quotes. -/
def readLexeme? : List Char → Option String
  | '"' :: rest =>
    match quoted.read rest with
    | some (lexeme, []) => some (String.ofList lexeme)
    | _ => none
  | _ => none

/-- The token of a row. -/
def readRow? (text : List Char) : Option Token := do
  let (line, rest) ← cutAt? ':' text
  let (column, rest) ← cutAt? '\t' rest
  let (name, rest) ← cutAt? '\t' rest
  let line ← readNatural? line
  let column ← readNatural? column
  let kind ← TokenKind.ofName? (String.ofList name)
  let lexeme ← readLexeme? rest
  some ⟨kind, lexeme, ⟨line, column⟩⟩

theorem natural_free (noDigit : c.isDigit = false) (n : Nat) : c ∉ natural n := by
  intro listed
  have digit : c.isDigit = true := Nat.isDigit_of_mem_toDigits (by decide) (by decide) listed
  rw [digit] at noDigit
  cases noDigit

theorem read_natural (n : Nat) : readNatural? (natural n) = some n := by
  have digits : (natural n).all Char.isDigit = true := by
    rw [List.all_eq_true]
    intro c listed
    exact Nat.isDigit_of_mem_toDigits (by decide) (by decide) listed
  have value : Nat.ofDigitChars 10 (natural n) 0 = n := Nat.ofDigitChars_ten_toDigits
  rw [readNatural?, if_pos ⟨Nat.toDigits_ne_nil, digits⟩, value]

/-- Every kind is known by its name, in which nothing separates. -/
theorem kind_named (kind : TokenKind) : TokenKind.ofName? kind.name = some kind ∧
    '\t' ∉ kind.name.toList ∧ '\n' ∉ kind.name.toList := by
  have every : ∀ kind ∈ TokenKind.all, TokenKind.ofName? kind.name = some kind ∧
      '\t' ∉ kind.name.toList ∧ '\n' ∉ kind.name.toList := by decide
  have listed : kind ∈ TokenKind.all := by
    cases kind with
    | visibilityMark visibility => cases visibility <;> decide
    | operator relationship => cases relationship <;> decide
    | _ => decide
  exact every kind listed

theorem read_lexeme (lexeme : String) :
    readLexeme? (Text.Quoted.encode lexeme.toList) = some lexeme := by
  have read := quoted.read_text quoted_means lexeme.toList []
  simp [readLexeme?, Text.Quoted.encode, read]

theorem read_row (token : Token) : readRow? (row token) = some token := by
  obtain ⟨named, noTab, -⟩ := kind_named token.kind
  have separated : row token = natural token.position.line ++ ':' ::
      (natural token.position.column ++ '\t' ::
        (token.kind.name.toList ++ '\t' :: Text.Quoted.encode token.lexeme.toList)) := by
    simp [row]
  rw [readRow?, separated, cut_append (natural_free rfl _)]
  simp [cut_append (natural_free (c := '\t') rfl _), cut_append noTab, read_natural, named, read_lexeme]

/-- A quoted text holds no line break. -/
theorem quoted_unbroken (text : List Char) : '\n' ∉ Text.Quoted.encode text := by
  have escaped : ∀ c, '\n' ∉ Text.Quoted.escape c := by
    intro c
    unfold Text.Quoted.escape
    split
    case h_7 noBreak _ _ _ =>
      split
      case isTrue => simpa using Ne.symm noBreak
      case isFalse =>
        simp [Text.Quoted.pointEscape, hex_digits_free (fun _ => Nat.digitChar_ne '\n' (by decide))]
    all_goals decide
  simp [Text.Quoted.encode, escaped]

theorem row_unbroken (token : Token) : '\n' ∉ row token := by
  have noBreak := (kind_named token.kind).2.2
  simp [row, natural_free (c := '\n') rfl, noBreak, quoted_unbroken]

/-- The lines of a listing are the rows of its tokens. -/
theorem split_rows (first : Token) (later : List Token) :
    (rows (first :: later)).splitOn '\n' = (first :: later).map row := by
  refine List.splitOn_intercalate '\n' ?_ (by simp)
  intro line listed
  obtain ⟨token, -, rfl⟩ := List.mem_map.mp listed
  exact row_unbroken token

/-! ## Records -/

/-- What a record says about a token. -/
def recordValue (token : Token) : Json :=
  .object [("kind", .string token.kind.name), ("lexeme", .string token.lexeme),
    ("line", .number false token.position.line 0), ("column", .number false token.position.column 0)]

/-- The marks of a record. -/
def recordMarks (token : Token) : List Mark :=
  [.openObject, .scalar (.string "kind"), .colon, .scalar (.string token.kind.name), .comma,
    .scalar (.string "lexeme"), .colon, .scalar (.string token.lexeme), .comma,
    .scalar (.string "line"), .colon, .scalar (.number false token.position.line 0), .comma,
    .scalar (.string "column"), .colon, .scalar (.number false token.position.column 0), .closeObject]

theorem marks_of_record (token : Token) (rest : List Char) :
    readMarks (record token ++ rest) = (readMarks rest).map (recordMarks token ++ ·) := by
  have indent : "    ".toList = [' ', ' ', ' ', ' '] := by decide
  have opening : "  \x7b\n".toList = [' ', ' ', '\x7b', '\n'] := by decide
  have closing : "\n  \x7d".toList = ['\n', ' ', ' ', '\x7d'] := by decide
  have blank : ∀ rest, readMarks (' ' :: rest) = readMarks rest := marks_blank rfl
  have feed : ∀ rest, readMarks ('\n' :: rest) = readMarks rest := marks_blank rfl
  have comma : ∀ rest, readMarks (',' :: rest) = _ := marks_punctuation rfl rfl
  have colon : ∀ rest, readMarks (':' :: rest) = _ := marks_punctuation rfl rfl
  have opens : ∀ rest, readMarks ('\x7b' :: rest) = _ := marks_punctuation rfl rfl
  have closes : ∀ rest, readMarks ('\x7d' :: rest) = _ := marks_punctuation rfl rfl
  have line : EndsNumber ',' := by decide
  have column : EndsNumber '\n' := by decide
  simp only [record, recordMember, indent, opening, closing, List.intercalate, List.intersperse,
    List.flatten_cons, List.flatten_nil, List.append_nil, List.cons_append, List.nil_append, List.append_assoc]
  simp only [blank, feed, comma, colon, opens, closes, marks_string, marks_natural _ line,
    marks_natural _ column, String.ofList_toList]
  cases readMarks rest <;> simp [recordMarks]

/-- The marks of records with commas between them. -/
theorem marks_of_records (first : Token) (later : List Token) (rest : List Char) :
    readMarks ([',', '\n'].intercalate ((first :: later).map record) ++ rest) =
      (readMarks rest).map ([Mark.comma].intercalate ((first :: later).map recordMarks) ++ ·) := by
  induction later generalizing first with
  | nil => simpa using marks_of_record first rest
  | cons next later ih =>
    have feed : ∀ rest, readMarks ('\n' :: rest) = readMarks rest := marks_blank rfl
    have comma : ∀ rest, readMarks (',' :: rest) = _ := marks_punctuation rfl rfl
    simp only [List.map_cons, List.intercalate_cons_cons, List.append_assoc, List.cons_append,
      List.nil_append] at ih ⊢
    rw [marks_of_record, comma, feed, ih]
    cases readMarks rest <;> simp

/-- The marks of a record put its value where a value may stand. -/
theorem step_record (token : Token) (mayEnd : Bool) (around : List OpenValue) :
    (recordMarks token).foldlM Progress.step (.beforeValue mayEnd around) =
      some (.behindValue (recordValue token) around) :=
  rfl

theorem step_records (first : Token) (later : List Token) (mayEnd : Bool) (items : List Json)
    (around : List OpenValue) :
    ([Mark.comma].intercalate ((first :: later).map recordMarks) ++ [Mark.closeArray]).foldlM
        Progress.step (.beforeValue mayEnd (.array items :: around)) =
      some (.behindValue (.array (items ++ (first :: later).map recordValue)) around) := by
  induction later generalizing first mayEnd items with
  | nil =>
    rw [List.map_singleton, List.map_singleton, List.intercalate_singleton, List.foldlM_append,
      step_record]
    rfl
  | cons next later ih =>
    have step := ih next false (items ++ [recordValue first])
    rw [List.map_cons, List.map_cons, List.intercalate_cons_cons, List.append_assoc,
      List.append_assoc, List.foldlM_append, step_record]
    simpa [Progress.step] using step

/-- A JSON listing is an array of what its tokens hold. -/
theorem read_records (tokens : List Token) :
    readJson (String.ofList (records tokens)) = some (.array (tokens.map recordValue)) := by
  have feed : ∀ rest, readMarks ('\n' :: rest) = readMarks rest := marks_blank rfl
  have opens : ∀ rest, readMarks ('[' :: rest) = _ := marks_punctuation rfl rfl
  have closes : ∀ rest, readMarks (']' :: rest) = _ := marks_punctuation rfl rfl
  have ends : readMarks [] = some [] := by rw [readMarks]
  rw [readJson, String.toList_ofList]
  cases tokens with
  | nil =>
    rw [show records [] = ['[', ']'] from rfl, opens, closes, ends]
    rfl
  | cons first later =>
    have spelled : records (first :: later) = '[' :: '\n' ::
        ([',', '\n'].intercalate ((first :: later).map record) ++ ['\n', ']']) := by
      simp [records]
    have built := step_records first later true [] []
    rw [spelled, opens, feed, marks_of_records, feed, closes, ends]
    simp only [Option.map_some, Option.bind_some, build, List.foldlM_cons, Progress.step,
      Option.bind_eq_bind, built, List.nil_append]

/-! ## Different tokens, different listings -/

theorem rows_injective (same : rows tokens = rows others) : tokens = others := by
  have nonempty : ∀ first later, rows (first :: later) ≠ rows [] := by
    intro first later same
    have lines := split_rows first later
    rw [same] at lines
    have blank : row first = [] := (List.cons.inj lines).1.symm
    have read := read_row first
    rw [blank] at read
    cases read
  cases tokens with
  | nil =>
    cases others with
    | nil => rfl
    | cons first later => exact absurd same.symm (nonempty first later)
  | cons first later =>
    cases others with
    | nil => exact absurd same (nonempty first later)
    | cons other more =>
      have lines : (first :: later).map row = (other :: more).map row := by
        rw [← split_rows, ← split_rows, same]
      have read := congrArg (List.map readRow?) lines
      simp only [List.map_map] at read
      have each : readRow? ∘ row = some := funext read_row
      rw [each] at read
      exact List.map_injective_iff.mpr (fun _ _ => Option.some.inj) read

theorem record_value_injective (same : recordValue token = recordValue other) : token = other := by
  obtain ⟨kind, lexeme, line, column⟩ := token
  obtain ⟨otherKind, otherLexeme, otherLine, otherColumn⟩ := other
  simp only [recordValue, Json.object.injEq, List.cons.injEq, Prod.mk.injEq, true_and, and_true,
    Json.string.injEq, Json.number.injEq] at same
  obtain ⟨names, rfl, rfl, rfl⟩ := same
  have named := (kind_named kind).1
  rw [names, (kind_named otherKind).1] at named
  cases named
  rfl

theorem records_injective (same : records tokens = records others) : tokens = others := by
  have read := read_records tokens
  rw [same, read_records others] at read
  simp only [Option.some.injEq, Json.array.injEq] at read
  exact (List.map_injective_iff.mpr fun _ _ => record_value_injective) read.symm

/-- Listings are lossless: in both formats different lists of tokens have different listings. The
lines of a listing in rows are its rows, each of which reads back as its token, and a JSON listing is
read as an array of what the tokens hold. -/
theorem listings_are_lossless :
    (∀ json tokens others, format json tokens = format json others ↔ tokens = others) ∧
      (∀ first later, (format false (first :: later)).toList.splitOn '\n' =
        (first :: later).map row) ∧
      (∀ token, readRow? (row token) = some token) ∧
      ∀ tokens, readJson (format true tokens) = some (.array (tokens.map recordValue)) := by
  refine ⟨?_, ?_, read_row, read_records⟩
  · intro json tokens others
    refine ⟨fun same => ?_, congrArg (format json)⟩
    have written := String.ofList_injective same
    cases json with
    | false => exact rows_injective written
    | true => exact records_injective written
  · intro first later
    rw [format, String.toList_ofList]
    exact split_rows first later

end ClassChart.Listing
