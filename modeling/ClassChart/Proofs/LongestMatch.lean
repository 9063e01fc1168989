import ClassChart.Proofs.Appending
import ClassChart.Proofs.TokenPrinting

/-! The longest match. What a token may look like is said here as patterns, with no regard to the
order in which scanning tries them. Main statement: wherever a tile begins, it is the token of the
longest text there that matches a pattern, and it is a tile of another sort only where nothing
matches. -/
namespace ClassChart.LongestMatch
open TokenPrinting

/-! ## Patterns -/

/-- The texts that are tokens as they stand. -/
def fixedPatterns : List String :=
  ["\x7b", "\x7d", "(", ")", ":", ",", "+", "#", "~", ">", "-", "->", "-->", "--", "<|--", "<|..",
    "o--", "*--", "\n"]

/-- The patterns of tokens: fixed texts, words, and texts from a quote to the next one. -/
inductive Pattern : List Char → Prop where
  | fixed (listed : text ∈ fixedPatterns) : Pattern text.toList
  | word (start : isWordStart c = true) (parts : ∀ d ∈ rest, isWordPart d = true) :
      Pattern (c :: rest)
  | quoted (inside : quoteMark ∉ lexeme) : Pattern (quoteMark :: (lexeme ++ [quoteMark]))

/-- The longest text at the beginning of `text` that matches a pattern. -/
structure Longest (match_ text : List Char) : Prop where
  pattern : Pattern match_
  begins : match_ <+: text
  longest : ∀ other, Pattern other → other <+: text → other.length ≤ match_.length

/-- What matches a pattern is what a token covers. -/
theorem pattern_iff :
    Pattern text ↔ ∃ kind lexeme, TokenText kind lexeme ∧ (Tile.token kind lexeme).text = text := by
  constructor
  · intro pattern
    cases pattern with
    | fixed listed =>
      have every : ∀ text ∈ fixedPatterns, ∃ entry ∈ fixedSpellings, entry.1 = text.toList := by
        decide
      obtain ⟨⟨spelling, kind⟩, spelled, rfl⟩ := every _ listed
      exact ⟨kind, _, .fixed spelled, by simp [Tile.text, (fixedSpelling_ne_nil spelled).2]⟩
    | word start parts =>
      exact ⟨_, _, .word start parts, by simp [Tile.text, wordKind_ne_stringLiteral]⟩
    | quoted inside => exact ⟨_, _, .quoted inside, by simp [Tile.text]⟩
  · rintro ⟨kind, lexeme, text, rfl⟩
    cases text with
    | fixed listed =>
      have every : ∀ entry ∈ fixedSpellings, ∃ text ∈ fixedPatterns, text.toList = entry.1 := by
        decide
      obtain ⟨text, known, rfl⟩ := every _ listed
      rw [Tile.text, if_neg (fixedSpelling_ne_nil listed).2]
      exact .fixed known
    | word start parts =>
      rw [Tile.text, if_neg (wordKind_ne_stringLiteral _)]
      exact .word start parts
    | quoted inside => exact .quoted inside

/-! ## The first tile is the longest -/

/-- No spelling is extended by one that stands behind it in the table. -/
theorem longer_spellings_first :
    fixedSpellings.Pairwise fun first second => first.1 <+: second.1 → second.1.length ≤ first.1.length := by
  decide

theorem found_spelling_longest (found : fixedSpelling? text = some (spelling, kind))
    (listed : (other, otherKind) ∈ fixedSpellings) (begins : other <+: text) :
    other.length ≤ spelling.length := by
  obtain ⟨-, before, behind, table, passed⟩ := List.find?_eq_some_iff_append.mp found
  have order := longer_spellings_first
  rw [table] at order listed
  rcases List.mem_append.mp listed with earlier | later
  · have skipped := passed _ earlier
    rw [Bool.not_eq_true', ← Bool.not_eq_true, List.isPrefixOf_iff_prefix] at skipped
    exact absurd begins skipped
  · rcases List.mem_cons.mp later with same | later
    · cases same
      exact Nat.le_refl _
    · rcases Nat.le_total other.length spelling.length with shorter | longer
      · exact shorter
      · have extends_ : spelling <+: other :=
          List.prefix_of_prefix_length_le (fixedSpelling?_isPrefix found) begins longer
        exact List.rel_of_pairwise_cons (List.pairwise_append.mp order).2.1 later extends_

/-- A run of characters is not longer than the run that the text begins with. -/
theorem run_longest {stays : Char → Bool} (parts : ∀ d ∈ run, stays d = true)
    (begins : run <+: rest) : run.length ≤ (rest.takeWhile stays).length := by
  obtain ⟨more, rfl⟩ := begins
  rw [List.takeWhile_append_of_pos parts, List.length_append]
  omega

theorem word_no_longer (start : isWordStart c = true) (parts : ∀ d ∈ run, isWordPart d = true)
    (begins : run <+: rest) : (c :: run).length ≤ (firstTile c rest).text.length := by
  by_cases single : run = []
  · rw [single]
    exact List.length_pos_iff.mpr (firstTile_text_ne_nil c rest)
  · have none : fixedSpelling? (c :: rest) = none := by
      obtain ⟨more, rfl⟩ := begins
      exact no_spelling_iff.mpr (word_no_spelling start parts fun nothing => absurd nothing single)
    have noQuote : c ≠ quoteMark := by
      rintro rfl
      exact absurd start (by decide)
    have longest := run_longest parts begins
    simpa [firstTile, none, noQuote, start, wordTile, Tile.text, wordKind_ne_stringLiteral] using longest

/-- What could be a token at the beginning of a text is not longer than the first tile. -/
theorem token_no_longer (text : TokenText kind lexeme)
    (begins : (Tile.token kind lexeme).text <+: c :: rest) :
    (Tile.token kind lexeme).text.length ≤ (firstTile c rest).text.length := by
  cases text with
  | fixed listed =>
    simp only [Tile.text, (fixedSpelling_ne_nil listed).2, if_false] at begins ⊢
    cases found : fixedSpelling? (c :: rest) with
    | none => exact absurd begins (no_spelling_iff.mp found _ _ listed)
    | some entry =>
      have longest := found_spelling_longest found listed begins
      simpa [firstTile, found, Tile.text, (fixedSpelling_ne_nil (fixedSpelling?_mem found)).2] using longest
  | word start parts =>
    simp only [Tile.text, wordKind_ne_stringLiteral, if_false] at begins ⊢
    obtain ⟨rfl, run⟩ := List.cons_prefix_cons.mp begins
    exact word_no_longer start parts run
  | quoted inside =>
    -- A quoted text is read up to its second quote, so it is the first tile itself.
    obtain ⟨later, covers⟩ := begins
    have stands : (Tile.token .stringLiteral lexeme).Stands later := quoted_stands inside
    obtain ⟨d, behind, split, first⟩ := stands
    obtain ⟨rfl, rfl⟩ := List.cons.inj (split.symm.trans covers)
    rw [first]

/-- Where a pattern matches, the first tile is a token. -/
theorem token_where_matched (pattern : Pattern text) (begins : text <+: c :: rest) :
    (firstTile c rest).sort = .token := by
  obtain ⟨kind, lexeme, isToken, rfl⟩ := pattern_iff.mp pattern
  obtain ⟨later, covers⟩ := begins
  exact token_sort isToken covers

theorem token_longest (text : TokenText kind lexeme) (first : firstTile c rest = .token kind lexeme) :
    Longest (Tile.token kind lexeme).text (c :: rest) := by
  refine ⟨pattern_iff.mpr ⟨_, _, text, rfl⟩, first ▸ firstTile_isPrefix c rest, ?_⟩
  intro other pattern begins
  obtain ⟨otherKind, otherLexeme, isToken, rfl⟩ := pattern_iff.mp pattern
  rw [← first]
  exact token_no_longer isToken begins

/-! ## Every tile of a source -/

/-- What stands in a text from the beginning of one of its tiles on, and that the tile is the first
tile of it. -/
theorem text_from_tile (split : tiles text = front ++ tile :: back) :
    ∃ c rest, text.drop (front.flatMap Tile.text).length = c :: rest ∧ firstTile c rest = tile := by
  have stands := tiles_stand text
  rw [split] at stands
  obtain ⟨c, rest, covers, first⟩ := (row_stands_split stands).2.1
  refine ⟨c, rest, ?_, first⟩
  rw [← flatMap_text_tiles text, split, List.flatMap_append, List.drop_left, ← covers,
    List.flatMap_cons, List.append_nil]

/-- The token of a tile stands behind the tokens of the tiles before it. -/
theorem token_at_tile (split : tiles source.toList = front ++ .token kind lexeme :: back) :
    ∃ others, (scan source).tokens = rowTokens .start front ++
      ⟨kind, String.ofList lexeme, place (front.flatMap Tile.text)⟩ :: others := by
  rw [scan_tokens, split, row_tokens_append, row_tokens_cons, after_start, List.append_assoc]
  exact ⟨_, rfl⟩

/-- At every place where a tile begins, the scanner makes the token of the longest text there that
matches a pattern, with the kind and the lexeme that belong to this text. It drops or reports
something there only if nothing matches. -/
theorem scan_takes_longest_match (split : tiles source.toList = front ++ tile :: back) :
    let before := front.flatMap Tile.text
    let remaining := source.toList.drop before.length
    (∀ text, Pattern text → text <+: remaining →
      ∃ token others, tile = .token token.kind token.lexeme.toList ∧
        (scan source).tokens = rowTokens .start front ++ token :: others ∧
        token.position = place before ∧ Printable token.kind token.lexeme ∧
        Longest (writtenWord (content token)).toList remaining) ∧
    (tile.sort ≠ .token → ∀ text, Pattern text → ¬ text <+: remaining) := by
  intro before remaining
  obtain ⟨c, rest, here, first⟩ := text_from_tile split
  rw [show remaining = c :: rest from here]
  refine ⟨fun text pattern begins => ?_, fun other text pattern begins => ?_⟩
  · have isToken := token_where_matched pattern begins
    rw [first] at isToken
    cases tile with
    | token kind lexeme =>
      have belongs : TokenText kind lexeme := (tiles_fit _ front _ back split).2
      have written : (writtenWord (kind, String.ofList lexeme)).toList = (Tile.token kind lexeme).text := by
        simp [written_word_covers]
      obtain ⟨others, tokens⟩ := token_at_tile split
      exact ⟨_, others, by rw [String.toList_ofList], tokens, rfl,
        printable_of_text (by rwa [String.toList_ofList]), written ▸ token_longest belongs first⟩
    | _ => cases isToken
  · exact other (first ▸ token_where_matched pattern begins)

/-- An arrow head without a tail, an operator that begins like a word, and a quote left open. -/
def tangled : String := "x<|o-->\""

/-- The tile of the operator in it. -/
def tangledOperator : Tile := .token (.operator .aggregation) ['o', '-', '-']

/-- The tiles in front of the operator. -/
def tangledFront : List Tile := [.token .identifier ['x'], .dropped ['<', '|']]

/-- The tiles behind the operator. -/
def tangledBack : List Tile := [.token .greaterThan ['>'], .unterminated []]

theorem operator_outdoes_word : tiles tangled.toList = tangledFront ++ tangledOperator :: tangledBack ∧
    Pattern ['o'] ∧ ['o'] <+: "o-->\"".toList ∧
    (∃ token others, tangledOperator = .token token.kind token.lexeme.toList ∧
      (scan tangled).tokens = rowTokens .start tangledFront ++ token :: others ∧
      token.position = place "x<|".toList ∧ Printable token.kind token.lexeme ∧
      Longest (writtenWord (content token)).toList "o-->\"".toList) ∧
    ∀ text, Pattern text → ¬ text <+: "<|o-->\"".toList := by
  have split : tiles tangled.toList = tangledFront ++ tangledOperator :: tangledBack := by
    decide +kernel
  have splitArrow : tiles tangled.toList =
      [.token .identifier ['x']] ++ .dropped ['<', '|'] :: tangledOperator :: tangledBack := split
  have pattern : Pattern ['o'] := .word (by decide) (by simp)
  have begins : ['o'] <+: "o-->\"".toList := by decide
  obtain ⟨matched, -⟩ := scan_takes_longest_match split
  obtain ⟨-, unmatched⟩ := scan_takes_longest_match splitArrow
  exact ⟨split, pattern, begins, matched _ pattern begins, unmatched (by decide)⟩

end ClassChart.LongestMatch
