import ClassChart.Proofs.SourceText

/-! Tokens written out with blanks between them. Which lexemes belong to a kind is said here kind by
kind, without the table of spellings that scanning goes through. Main statement: whatever belongs
together is read back as it was written, and nothing else is ever scanned, so the tokens of any
source can be written out and scanned again. -/
namespace ClassChart.TokenPrinting
open SourceText

/-! ## What can be written -/

/-- The texts of the kinds that carry a text of their own. An association may be written short. -/
def fixedTexts : TokenKind → List String
  | .startMarker => ["@startuml"]
  | .endMarker => ["@enduml"]
  | .classWord => ["class"]
  | .abstractWord => ["abstract"]
  | .titleWord => ["title"]
  | .openBrace => ["\x7b"]
  | .closeBrace => ["\x7d"]
  | .openParen => ["("]
  | .closeParen => [")"]
  | .colon => [":"]
  | .comma => [","]
  | .greaterThan => [">"]
  | .visibilityMark .publicMember => ["+"]
  | .visibilityMark .privateMember => ["-"]
  | .visibilityMark .protectedMember => ["#"]
  | .visibilityMark .packageMember => ["~"]
  | .operator .inheritance => ["<|--"]
  | .operator .realization => ["<|.."]
  | .operator .association => ["->", "-->"]
  | .operator .aggregation => ["o--"]
  | .operator .composition => ["*--"]
  | .operator .link => ["--"]
  | .newline => ["\n"]
  | .identifier | .stringLiteral | .endOfInput => []

/-- A kind and a lexeme that belong together. The end of input belongs to no lexeme. -/
inductive Printable : TokenKind → String → Prop where
  | fixed (carries : lexeme ∈ fixedTexts kind) : Printable kind lexeme
  | name (named : IsName lexeme) : Printable .identifier lexeme
  | quoted (inside : quoteMark ∉ lexeme.toList) : Printable .stringLiteral lexeme

/-- A reserved word is one of the texts of its kind. -/
theorem reserved_printable (listed : (word, kind) ∈ keywords) : Printable kind word := by
  have every : ∀ entry ∈ keywords, entry.1 ∈ fixedTexts entry.2 := by decide
  exact .fixed (every _ listed)

/-- A word belongs to the kind that it makes, reserved or not. -/
theorem word_printable (lexeme : IsLexeme word) : Printable (wordKind word.toList) word := by
  unfold wordKind
  rw [String.ofList_toList]
  cases reserved : keyword? word with
  | none => exact .name ⟨lexeme, reserved⟩
  | some kind =>
    obtain ⟨entry, found, rfl⟩ := Option.map_eq_some_iff.mp reserved
    have same : entry.1 = word := by simpa using List.find?_some found
    exact reserved_printable (same ▸ List.mem_of_find?_eq_some found)

/-- The text of a token belongs to the kind of the token. -/
theorem printable_of_text (text : TokenText kind lexeme.toList) : Printable kind lexeme := by
  generalize chars : lexeme.toList = characters at text
  obtain rfl : String.ofList characters = lexeme := by rw [← chars, String.ofList_toList]
  cases text with
  | fixed listed =>
    have every : ∀ entry ∈ fixedSpellings, String.ofList entry.1 ∈ fixedTexts entry.2 := by decide
    exact .fixed (every _ listed)
  | word start parts =>
    rename_i c rest
    have lexeme : IsLexeme (String.ofList (c :: rest)) := by
      simpa [IsLexeme, start] using parts
    have printable := word_printable lexeme
    rwa [String.toList_ofList] at printable
  | quoted inside => exact .quoted (by rwa [String.toList_ofList])

/-- What carries a fixed text is spelled in the table or reserved. -/
theorem fixed_text_listed (kind : TokenKind) : ∀ lexeme ∈ fixedTexts kind,
    (lexeme.toList, kind) ∈ fixedSpellings ∨ (lexeme, kind) ∈ keywords := by
  cases kind with
  | visibilityMark visibility => cases visibility <;> decide
  | operator relationship => cases relationship <;> decide
  | _ => decide

theorem text_of_printable (printable : Printable kind lexeme) : TokenText kind lexeme.toList := by
  cases printable with
  | fixed carries =>
    rcases fixed_text_listed kind lexeme carries with spelled | reserved
    · exact .fixed spelled
    · have every : ∀ entry ∈ keywords, IsLexeme entry.1 ∧ wordKind entry.1.toList = entry.2 := by
        decide
      obtain ⟨isLexeme, makes⟩ := every _ reserved
      exact lexeme_text isLexeme makes
  | name named => exact name_text named
  | quoted inside => exact .quoted inside

/-! ## Writing and reading back -/

/-- The kind and the lexeme of a token, wherever it stands. -/
def content (token : Token) : TokenKind × String :=
  (token.kind, token.lexeme)

/-- A lexeme as a source has it: texts of string literals go back between their quotes. -/
def writtenWord (word : TokenKind × String) : String :=
  if word.1 = .stringLiteral then "\"" ++ word.2 ++ "\"" else word.2

/-- Lexemes in a row, with one blank between any two of them. -/
def written (words : List (TokenKind × String)) : String :=
  " ".intercalate (words.map writtenWord)

theorem written_word_covers (word : TokenKind × String) :
    (writtenWord word).toList = (Tile.token word.1 word.2.toList).text := by
  by_cases isQuoted : word.1 = .stringLiteral
  · simp [writtenWord, Tile.text, isQuoted, quoteMark]
  · simp [writtenWord, Tile.text, isQuoted]

theorem reads_word (printable : Printable word.1 word.2) (apart : Apart later) :
    Reads (writtenWord word).toList later (·.map content = [word]) := by
  have stands := token_stands (text_of_printable printable) apart
  refine reads_row [.token word.1 word.2.toList] ?_ ⟨stands, trivial⟩ (fun _ => rfl) ?_
  · simpa using written_word_covers word
  · intro position
    simp [placeTiles, PlacedTile.token?, content]

/-- Words in a row are read one after the other: a blank keeps each from the next. -/
theorem reads_words (printable : ∀ word ∈ words, Printable word.1 word.2) :
    Reads (written words).toList [] (·.map content = words) := by
  induction words with
  | nil => exact reads_nothing rfl
  | cons word words ih =>
    have first : Printable word.1 word.2 := printable word (by simp)
    have others := ih fun other member => printable other (by simp [member])
    cases words with
    | nil =>
      have alone : written [word] = writtenWord word := by simp [written]
      rw [alone]
      exact reads_word first (by simp [Apart])
    | cons next words =>
      have pieces : (written (word :: next :: words)).toList =
          (writtenWord word).toList ++ ([' '] ++ (written (next :: words)).toList) := by
        simp [written]
      rw [pieces]
      refine reads_imp (reads_append (reads_word first apart_blank)
        (reads_append reads_blank others)) ?_
      rintro _ ⟨here, _, rfl, hereReads, _, rest, rfl, rfl, restReads⟩
      rw [List.nil_append, List.map_append, hereReads, restReads]
      rfl

/-- The text scans without a report to these kinds and lexemes and the end of input. -/
def ScansTo (text : String) (words : List (TokenKind × String)) : Prop :=
  (scan text).tokens.map content = words ++ [(.endOfInput, "")] ∧ (scan text).diagnostics = []

theorem scans_of_reads (reads : Reads text.toList [] (·.map content = words)) :
    ScansTo text words := by
  obtain ⟨placed, place, silent, contents⟩ := reads .start
  have whole : placedTiles text = placed := by
    simpa [placedTiles, placeTiles] using place
  constructor
  · rw [scan, List.map_append, whole, contents]
    rfl
  · rw [scan, whole]
    exact silent

theorem written_scans (printable : ∀ word ∈ words, Printable word.1 word.2) :
    ScansTo (written words) words :=
  scans_of_reads (reads_words printable)

/-- Scanning undoes writing: words that can be written are read back as they were, and the tokens of
every source can be written, so written out they scan to the same kinds and lexemes again. -/
theorem scan_undoes_writing :
    (∀ words : List (TokenKind × String), (∀ word ∈ words, Printable word.1 word.2) →
      ScansTo (written words) words) ∧
    ∀ source : String, ∃ words,
      (scan source).tokens.map content = words ++ [(.endOfInput, "")] ∧
      (∀ word ∈ words, Printable word.1 word.2) ∧ ScansTo (written words) words := by
  refine ⟨fun words printable => written_scans printable, fun source => ?_⟩
  let tokens := (placedTiles source).filterMap PlacedTile.token?
  have printable : ∀ word ∈ tokens.map content, Printable word.1 word.2 := by
    intro word member
    obtain ⟨token, scanned, rfl⟩ := List.mem_map.mp member
    exact printable_of_text (scanned_token_text scanned)
  refine ⟨tokens.map content, ?_, printable, written_scans printable⟩
  rw [scan, List.map_append]
  rfl

/-- Words that look like parts of longer ones, of operators, of comments and of quotes. -/
def lookalikes : List (TokenKind × String) :=
  [(.identifier, "o"), (.operator .link, "--"), (.greaterThan, ">"), (.operator .association, "->"),
    (.visibilityMark .privateMember, "-"), (.operator .association, "-->"), (.identifier, "@x"),
    (.classWord, "class"), (.newline, "\n"), (.stringLiteral, "' a\n--"), (.stringLiteral, ""),
    (.startMarker, "@startuml"), (.identifier, "é_1")]

theorem lookalikes_scan_back : (∀ word ∈ lookalikes, Printable word.1 word.2) ∧
    ScansTo (written lookalikes) lookalikes := by
  have printable : ∀ word ∈ lookalikes, Printable word.1 word.2 := by
    simp only [lookalikes, List.forall_mem_cons]
    refine ⟨.name ?_, .fixed ?_, .fixed ?_, .fixed ?_, .fixed ?_, .fixed ?_, .name ?_, .fixed ?_,
      .fixed ?_, .quoted ?_, .quoted ?_, .fixed ?_, .name ?_, by simp⟩ <;> decide +kernel
  exact ⟨printable, scan_undoes_writing.1 lookalikes printable⟩

end ClassChart.TokenPrinting
