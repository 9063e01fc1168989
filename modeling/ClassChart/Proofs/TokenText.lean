import ClassChart.Scan
import Mathlib.Data.List.Find
import Mathlib.Data.List.TakeWhile

/-! The texts of tokens, and when a token written in front of other text is read back. A token
keeps its shape unless the next character could make it longer, so the only thing that matters is
how the later text begins. -/
namespace ClassChart

/-- The kinds and lexemes of tokens: fixed spellings, words, and texts without a quote. -/
inductive TokenText : TokenKind → List Char → Prop where
  | fixed (listed : (spelling, kind) ∈ fixedSpellings) : TokenText kind spelling
  | word (start : isWordStart c = true) (parts : ∀ d ∈ rest, isWordPart d = true) :
      TokenText (wordKind (c :: rest)) (c :: rest)
  | quoted (inside : quoteMark ∉ lexeme) : TokenText .stringLiteral lexeme

/-- A word is an identifier unless it is reserved. -/
theorem word_kind (word : List Char) :
    wordKind word = .identifier ∨ ∃ entry ∈ keywords, wordKind word = entry.2 := by
  unfold wordKind keyword?
  cases found : keywords.find? (·.1 = String.ofList word) with
  | none => exact .inl rfl
  | some entry => exact .inr ⟨entry, List.mem_of_find?_eq_some found, rfl⟩

/-- The end of input has no text. -/
theorem token_text_kind (text : TokenText kind lexeme) : kind ≠ .endOfInput := by
  cases text with
  | fixed listed =>
    have every : ∀ entry ∈ fixedSpellings, entry.2 ≠ .endOfInput := by decide
    exact every _ listed
  | word start parts =>
    rename_i c rest
    rcases word_kind (c :: rest) with plain | ⟨entry, listed, reserved⟩
    · simp [plain]
    · have every : ∀ entry ∈ keywords, entry.2 ≠ .endOfInput := by decide
      exact reserved ▸ every entry listed
  | quoted inside => simp

/-- No fixed spelling stands at the beginning of the text. -/
def NoSpelling (text : List Char) : Prop :=
  ∀ spelling kind, (spelling, kind) ∈ fixedSpellings → ¬ spelling <+: text

theorem no_spelling_iff : fixedSpelling? text = none ↔ NoSpelling text := by
  simp [fixedSpelling?, NoSpelling, List.find?_eq_none]

/-- A word can begin like one spelling only. -/
theorem spelling_begins_apart (listed : (spelling, kind) ∈ fixedSpellings)
    (start : isWordStart c = true) (begins : spelling.head? = some c) : spelling = ['o', '-', '-'] := by
  have every : ∀ entry ∈ fixedSpellings,
      entry.1 = ['o', '-', '-'] ∨ entry.1.head?.any isWordStart = false := by decide
  rcases every _ listed with same | apart
  · exact same
  · simp [begins, start] at apart

/-- No spelling begins like a word, whatever comes behind the word, unless it is a lone `o`. -/
theorem word_no_spelling (start : isWordStart c = true) (parts : ∀ d ∈ rest, isWordPart d = true)
    (apart : rest = [] → later.head? ≠ some '-') : NoSpelling (c :: (rest ++ later)) := by
  intro spelling kind listed begins
  cases spelling with
  | nil => exact (fixedSpelling_ne_nil listed).1 rfl
  | cons first more =>
    obtain ⟨rfl, tail⟩ := List.cons_prefix_cons.mp begins
    have same := spelling_begins_apart listed start rfl
    simp only [List.cons.injEq] at same
    obtain ⟨-, rfl⟩ := same
    cases rest with
    | nil =>
      obtain ⟨more, front⟩ := tail
      rw [List.nil_append] at front
      exact apart rfl (by rw [← front]; rfl)
    | cons d rest =>
      have dash : '-' = d := (List.cons_prefix_cons.mp tail).1
      have part : isWordPart '-' = true := dash ▸ parts d (by simp)
      exact absurd part (by decide)

/-- The mark of a quoted text begins no spelling. -/
theorem quote_no_spelling : NoSpelling (quoteMark :: rest) := by
  intro spelling kind listed begins
  have every : ∀ entry ∈ fixedSpellings, entry.1 ≠ [] ∧ entry.1.head? ≠ some quoteMark := by decide
  obtain ⟨nonempty, other⟩ := every _ listed
  cases spelling with
  | nil => exact nonempty rfl
  | cons first more => exact other (by simp [(List.cons_prefix_cons.mp begins).1])

/-- A tile that is read at the beginning of its own text with other text behind it. -/
def Tile.Stands (tile : Tile) (later : List Char) : Prop :=
  ∃ c rest, tile.text ++ later = c :: rest ∧ firstTile c rest = tile

theorem tiles_of_stands (stands : tile.Stands later) :
    tiles (tile.text ++ later) = tile :: tiles later := by
  obtain ⟨c, rest, split, first⟩ := stands
  rw [split, tiles_cons, first, ← split, List.drop_left]

/-- Text that no token in front of it can take into itself. -/
def Apart (later : List Char) : Prop :=
  ∀ c ∈ later.head?, isWordPart c = false ∧ c ≠ '-' ∧ c ≠ '>'

/-- Only a dash or an angle makes a spelling longer, so none grows into text that is apart. -/
theorem spelling_prefix_apart (listed : (spelling, kind) ∈ fixedSpellings)
    (other : (longer, otherKind) ∈ fixedSpellings) (apart : Apart later)
    (begins : longer <+: spelling ++ later) : longer <+: spelling := by
  rcases List.prefix_or_prefix_of_prefix begins (List.prefix_append spelling later) with
    inside | ⟨more, rfl⟩
  · exact inside
  · rw [List.prefix_append_right_inj] at begins
    have every : ∀ shorter ∈ fixedSpellings, ∀ entry ∈ fixedSpellings, shorter.1 <+: entry.1 →
        entry.1 = shorter.1 ∨ (entry.1.drop shorter.1.length).head? = some '-' ∨
          (entry.1.drop shorter.1.length).head? = some '>' := by decide
    have grows := every _ listed _ other (List.prefix_append spelling more)
    simp only [List.drop_left] at grows
    cases more with
    | nil => simp
    | cons d more =>
      obtain ⟨rest, rfl⟩ := begins
      have apart := apart d (by simp)
      simp at grows
      simp_all

theorem spelling_stands (listed : (spelling, kind) ∈ fixedSpellings) (apart : Apart later) :
    (Tile.token kind spelling).Stands later := by
  have alone : ∀ entry ∈ fixedSpellings, fixedSpelling? entry.1 = some entry := by decide
  have found : fixedSpelling? (spelling ++ later) = some (spelling, kind) := by
    rw [← alone _ listed]
    refine List.find?_congr fun entry other => ?_
    rw [Bool.eq_iff_iff, List.isPrefixOf_iff_prefix, List.isPrefixOf_iff_prefix]
    exact ⟨spelling_prefix_apart listed other apart, fun inside => inside.trans (List.prefix_append ..)⟩
  obtain ⟨nonempty, plain⟩ := fixedSpelling_ne_nil listed
  cases spelling with
  | nil => exact absurd rfl nonempty
  | cons c rest =>
    refine ⟨c, rest ++ later, by simp [Tile.text, plain], ?_⟩
    rw [List.cons_append] at found
    simp [firstTile, found]

/-- A word is read whole in front of text that does not go on with it. -/
theorem word_read_whole (start : isWordStart c = true) (parts : ∀ d ∈ rest, isWordPart d = true)
    (ends : ∀ d ∈ later.head?, isWordPart d = false) (apart : rest = [] → later.head? ≠ some '-') :
    (Tile.token (wordKind (c :: rest)) (c :: rest)).Stands later := by
  have none : fixedSpelling? (c :: (rest ++ later)) = none :=
    no_spelling_iff.mpr (word_no_spelling start parts apart)
  have noQuote : c ≠ quoteMark := by
    rintro rfl
    exact absurd start (by decide)
  have whole : (rest ++ later).takeWhile isWordPart = rest := by
    rw [List.takeWhile_append_of_pos parts]
    cases later with
    | nil => simp
    | cons d later => simp [ends d rfl]
  refine ⟨c, rest ++ later, by simp [Tile.text, wordKind_ne_stringLiteral], ?_⟩
  simp [firstTile, none, noQuote, start, wordTile, whole]

/-- A word that ends before text that is apart is read whole. -/
theorem word_stands (start : isWordStart c = true) (parts : ∀ d ∈ rest, isWordPart d = true)
    (apart : Apart later) : (Tile.token (wordKind (c :: rest)) (c :: rest)).Stands later :=
  word_read_whole start parts (fun d head => (apart d head).1) fun _ dash => (apart '-' dash).2.1 rfl

/-- A quoted text is read up to its second quote, whatever comes behind. -/
theorem quoted_stands (inside : quoteMark ∉ lexeme) :
    (Tile.token .stringLiteral lexeme).Stands later := by
  have none : fixedSpelling? (quoteMark :: (lexeme ++ quoteMark :: later)) = none :=
    no_spelling_iff.mpr quote_no_spelling
  have whole : (lexeme ++ quoteMark :: later).takeWhile (· != quoteMark) = lexeme := by
    rw [List.takeWhile_append_of_pos (by simpa using fun d member => ne_of_mem_of_not_mem member inside)]
    simp
  refine ⟨quoteMark, lexeme ++ quoteMark :: later, by simp [Tile.text], ?_⟩
  simp [firstTile, none, quotedTile, whole]

/-- A token written in front of text that is apart is read back as it is. -/
theorem token_stands (text : TokenText kind lexeme) (apart : Apart later) :
    (Tile.token kind lexeme).Stands later := by
  cases text with
  | fixed listed => exact spelling_stands listed apart
  | word start parts => exact word_stands start parts apart
  | quoted inside => exact quoted_stands inside

/-! ## Rows -/

/-- A single blank. -/
def blank : Tile := .spacing ' '

/-- The tile that ends a line. -/
def lineFeed : Tile := .token .newline ['\n']

/-- A row of tiles, each of which is read where it stands. -/
def RowStands (later : List Char) : List Tile → Prop
  | [] => True
  | tile :: row => tile.Stands (row.flatMap Tile.text ++ later) ∧ RowStands later row

/-- Tiles that stand are read back as they were put together. -/
theorem tiles_of_row (stands : RowStands later row) :
    tiles (row.flatMap Tile.text ++ later) = row ++ tiles later := by
  induction row with
  | nil => rfl
  | cons tile row ih =>
    rw [List.flatMap_cons, List.append_assoc, tiles_of_stands stands.1, ih stands.2, List.cons_append]

/-- Nothing goes on behind a blank or a line feed, so these are read in front of any text. -/
theorem blank_stands : blank.Stands later := by
  have plain : ' ' ≠ quoteMark ∧ isWordStart ' ' = false ∧ isSpacing ' ' = true := by decide
  refine ⟨' ', later, rfl, ?_⟩
  simp [firstTile, fixedSpelling?, fixedSpellings, plain, blank]

theorem line_feed_stands : lineFeed.Stands later := by
  refine ⟨'\n', later, rfl, ?_⟩
  simp [firstTile, fixedSpelling?, fixedSpellings, lineFeed]

theorem apart_of_head (begins : c ∈ [' ', '\n', '(', ')']) : Apart (c :: later) := by
  have every : [' ', '\n', '(', ')'].all fun d => !isWordPart d && d != '-' && d != '>' := by decide
  intro d head
  obtain rfl : c = d := by simpa using head
  simpa [and_assoc] using List.all_eq_true.mp every c begins

theorem apart_blank : Apart (' ' :: later) :=
  apart_of_head (by simp)

theorem apart_line_feed : Apart ('\n' :: later) :=
  apart_of_head (by simp)

end ClassChart
