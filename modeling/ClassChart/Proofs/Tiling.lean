import ClassChart.Proofs.TokenText

/-! Scanning tiles the source. What may count as a tile is said once more here, sort by sort and
without the scanner's choice of branches, and the place of a tile is counted from all of the text
before it. Main statement: the tiles of a source fit, cover it, and carry exactly its tokens and
reports at exactly counted places. -/
namespace ClassChart

/-! ## Places -/

/-- The place behind a text that starts at the beginning of a source: one line for each line feed,
one column for each character since the last of them. -/
def place (before : List Char) : Position :=
  ⟨1 + before.count '\n', 1 + (before.reverse.takeWhile (· != '\n')).length⟩

theorem place_append_singleton (before : List Char) (c : Char) :
    place (before ++ [c]) = (place before).advance c := by
  by_cases feed : c = '\n'
  · simp [place, Position.advance, feed, Nat.add_comm]
  · simp [place, Position.advance, feed, Nat.add_comm]

/-- Moving on character by character keeps the counted place. -/
theorem after_place (before text : List Char) :
    (place before).after text = place (before ++ text) := by
  induction text generalizing before with
  | nil => simp
  | cons c text ih => rw [Position.after_cons, ← place_append_singleton, ih, List.append_assoc]; rfl

theorem after_start (text : List Char) : Position.start.after text = place text :=
  after_place [] text

/-- The order of positions in a source: by line, and by column within a line. -/
def Position.Before (first second : Position) : Prop :=
  first.line < second.line ∨ (first.line = second.line ∧ first.column < second.column)

theorem before_trans (first : Position.Before a b) (second : Position.Before b c) :
    Position.Before a c := by
  unfold Position.Before at *
  omega

theorem before_irrefl (position : Position) : ¬ position.Before position := by
  unfold Position.Before
  omega

theorem before_advance (position : Position) (c : Char) : position.Before (position.advance c) := by
  unfold Position.Before Position.advance
  split <;> simp

/-- Every character moves the position on. -/
theorem before_after (nonempty : text ≠ []) : Position.Before position (position.after text) := by
  induction text generalizing position with
  | nil => exact absurd rfl nonempty
  | cons c text ih =>
    rw [Position.after_cons]
    by_cases last : text = []
    · simpa [last] using before_advance position c
    · exact before_trans (before_advance position c) (ih last)

/-! ## Tiles that fit -/

/-- What a tile of each sort may be, with `later` as the text behind it. -/
def Tile.Fits (later : List Char) : Tile → Prop
  | .spacing c => c = ' ' ∨ c = '\t' ∨ c = '\r'
  | .comment body => '\n' ∉ body ∧ (later = [] ∨ ∃ rest, later = '\n' :: rest)
  | .dropped arrowHead =>
    (arrowHead = ['<'] ∨ arrowHead = ['<', '|']) ∧ NoSpelling (arrowHead ++ later)
  | .token kind lexeme => TokenText kind lexeme
  | .unexpected c =>
    ¬ (c = ' ' ∨ c = '\t' ∨ c = '\r') ∧ c ≠ commentMark ∧ c ≠ '<' ∧ c ≠ quoteMark ∧
      isWordStart c = false ∧ NoSpelling (c :: later)
  | .unterminated body => quoteMark ∉ body ∧ later = []

theorem quoted_tile_fits (covers : (quotedTile rest).text ++ later = quoteMark :: rest) :
    (quotedTile rest).Fits later := by
  unfold quotedTile at covers ⊢
  split
  · refine .quoted fun inside => ?_
    simpa using List.mem_takeWhile_imp inside
  · rename_i open_
    rw [if_neg open_] at covers
    exact ⟨by simpa using open_, by simpa [Tile.text] using covers⟩

theorem word_tile_fits (start : isWordStart c = true) : (wordTile c rest).Fits later :=
  .word start fun _ part => List.mem_takeWhile_imp part

theorem comment_fits
    (covers : (Tile.comment (rest.takeWhile (· != '\n'))).text ++ later = commentMark :: rest) :
    (Tile.comment (rest.takeWhile (· != '\n'))).Fits later := by
  refine ⟨fun inside => by simpa using List.mem_takeWhile_imp inside, ?_⟩
  have behind : later = rest.dropWhile (· != '\n') := by
    simp only [Tile.text, List.cons_append, List.cons.injEq, true_and] at covers
    exact List.append_cancel_left (covers.trans List.takeWhile_append_dropWhile.symm)
  cases found : later with
  | nil => exact .inl rfl
  | cons d more =>
    have head := List.head?_dropWhile_not (fun c : Char => c != '\n') rest
    rw [← behind, found] at head
    have feed : d = '\n' := by simpa using head
    exact .inr ⟨more, by rw [feed]⟩

theorem is_spacing_iff : isSpacing c = true ↔ c = ' ' ∨ c = '\t' ∨ c = '\r' := by
  simp [isSpacing, or_assoc]

/-- The first tile of a text fits in front of the text that it leaves. -/
theorem first_tile_fits (covers : (firstTile c rest).text ++ later = c :: rest) :
    (firstTile c rest).Fits later := by
  unfold firstTile at covers ⊢
  split
  · rename_i spelling kind found
    exact .fixed (fixedSpelling?_mem found)
  · rename_i none
    have noSpelling := no_spelling_iff.mp none
    simp only [none] at covers
    split
    · rename_i quote
      subst quote
      exact quoted_tile_fits covers
    rename_i noQuote
    split
    · rename_i start
      exact word_tile_fits start
    rename_i noWord
    split
    · rename_i spacing
      exact is_spacing_iff.mp spacing
    rename_i noSpacing
    split
    · rename_i comment
      subst comment
      exact comment_fits (by simpa [noQuote, noWord, noSpacing] using covers)
    rename_i noComment
    split
    · rename_i arrow
      subst arrow
      simp only [noQuote, noWord, noSpacing, noComment, if_false] at covers
      refine ⟨?_, by rw [← covers] at noSpelling; exact noSpelling⟩
      unfold droppedArrowHead
      split <;> simp
    · rename_i noArrow
      refine ⟨fun spacing => noSpacing (is_spacing_iff.mpr spacing), noComment, noArrow, noQuote,
        by simpa using noWord, ?_⟩
      have same : later = rest := by
        simpa [noQuote, noWord, noSpacing, noComment, noArrow, Tile.text] using covers
      rw [same]
      exact noSpelling

/-! ## One sort for each piece of text -/

/-- The sorts of tiles. -/
inductive TileSort where
  | spacing | comment | dropped | token | unexpected | unterminated
  deriving DecidableEq

/-- The sort of a tile. -/
def Tile.sort : Tile → TileSort
  | .spacing _ => .spacing
  | .comment _ => .comment
  | .dropped _ => .dropped
  | .token _ _ => .token
  | .unexpected _ => .unexpected
  | .unterminated _ => .unterminated

theorem spelling_sort (listed : (spelling, kind) ∈ fixedSpellings) (begins : spelling <+: c :: rest) :
    (firstTile c rest).sort = .token := by
  unfold firstTile
  cases found : fixedSpelling? (c :: rest) with
  | none => exact absurd begins (no_spelling_iff.mp found spelling kind listed)
  | some entry => rfl

theorem word_sort (start : isWordStart c = true) : (firstTile c rest).sort = .token := by
  unfold firstTile
  cases fixedSpelling? (c :: rest) with
  | some entry => rfl
  | none =>
    have noQuote : c ≠ quoteMark := by
      rintro rfl
      exact absurd start (by decide)
    simp [noQuote, start, wordTile, Tile.sort]

theorem token_sort (text : TokenText kind lexeme)
    (covers : (Tile.token kind lexeme).text ++ later = c :: rest) :
    (firstTile c rest).sort = .token := by
  cases text with
  | fixed listed =>
    refine spelling_sort listed ⟨later, ?_⟩
    simpa [Tile.text, (fixedSpelling_ne_nil listed).2] using covers
  | word start parts =>
    simp only [Tile.text, wordKind_ne_stringLiteral, if_false, List.cons_append,
      List.cons.injEq] at covers
    obtain ⟨rfl, -⟩ := covers
    exact word_sort start
  | quoted inside =>
    simp only [Tile.text, if_true, List.cons_append, List.cons.injEq] at covers
    obtain ⟨rfl, rfl⟩ := covers
    simp [firstTile, no_spelling_iff.mpr quote_no_spelling, quotedTile, Tile.sort]

/-- Spacing and comments begin like no spelling, no word and no quoted text. -/
theorem blank_begins_nothing (rest : List Char)
    (blank : c ∈ [' ', '\t', '\r', commentMark]) :
    NoSpelling (c :: rest) ∧ c ≠ quoteMark ∧ isWordStart c = false := by
  have spelled : ∀ entry ∈ fixedSpellings, entry.1 ≠ [] ∧
      entry.1.head?.any ([' ', '\t', '\r', commentMark].contains ·) = false := by decide
  have plain : [' ', '\t', '\r', commentMark].all fun d => d != quoteMark && !isWordStart d := by decide
  refine ⟨fun spelling kind listed begins => ?_, by simpa using List.all_eq_true.mp plain c blank⟩
  obtain ⟨nonempty, other⟩ := spelled _ listed
  cases spelling with
  | nil => exact nonempty rfl
  | cons first more =>
    obtain ⟨rfl, -⟩ := List.cons_prefix_cons.mp begins
    simp_all

/-- The beginning of a text alone decides which sort of tile fits there. -/
theorem fits_sort {tile : Tile} (fits : tile.Fits later) (covers : tile.text ++ later = c :: rest) :
    tile.sort = (firstTile c rest).sort := by
  cases tile with
  | token kind lexeme => exact (token_sort fits covers).symm
  | spacing d =>
    obtain ⟨rfl, rfl⟩ : d = c ∧ later = rest := by simpa [Tile.text] using covers
    have blank : d ∈ [' ', '\t', '\r', commentMark] := by rcases fits with rfl | rfl | rfl <;> simp
    obtain ⟨noSpelling, noQuote, noWord⟩ := blank_begins_nothing later blank
    simp [firstTile, no_spelling_iff.mpr noSpelling, noQuote, noWord, is_spacing_iff.mpr fits, Tile.sort]
  | comment body =>
    obtain ⟨rfl, rfl⟩ : commentMark = c ∧ body ++ later = rest := by simpa [Tile.text] using covers
    have blank : commentMark ∈ [' ', '\t', '\r', commentMark] := by simp
    obtain ⟨noSpelling, noQuote, noWord⟩ := blank_begins_nothing (body ++ later) blank
    have noSpacing : isSpacing commentMark = false := by decide
    simp [firstTile, no_spelling_iff.mpr noSpelling, noQuote, noWord, noSpacing, Tile.sort]
  | dropped arrowHead =>
    obtain ⟨shape, noSpelling⟩ := fits
    rw [show arrowHead ++ later = c :: rest from covers] at noSpelling
    obtain rfl : '<' = c := by
      rcases shape with rfl | rfl <;> simpa [Tile.text] using (List.cons.inj covers).1
    have other : '<' ≠ quoteMark ∧ isWordStart '<' = false ∧ isSpacing '<' = false ∧
        '<' ≠ commentMark := by decide
    simp [firstTile, no_spelling_iff.mpr noSpelling, other, Tile.sort]
  | unexpected d =>
    obtain ⟨noSpacing, noComment, noArrow, noQuote, noWord, noSpelling⟩ := fits
    obtain ⟨rfl, rfl⟩ : d = c ∧ later = rest := by simpa [Tile.text] using covers
    rw [← is_spacing_iff] at noSpacing
    simp [firstTile, no_spelling_iff.mpr noSpelling, noQuote, noWord, noSpacing, noComment, noArrow,
      Tile.sort]
  | unterminated body =>
    obtain ⟨inside, rfl⟩ := fits
    obtain ⟨rfl, rfl⟩ : quoteMark = c ∧ body = rest := by simpa [Tile.text] using covers
    simp [firstTile, no_spelling_iff.mpr quote_no_spelling, quotedTile, inside, Tile.sort]

private theorem word_not_listed (start : isWordStart c = true)
    (parts : ∀ d ∈ rest, isWordPart d = true) : (c :: rest, kind) ∉ fixedSpellings := by
  have none : NoSpelling (c :: (rest ++ [])) := word_no_spelling start parts (by simp)
  rw [List.append_nil] at none
  exact fun listed => none _ _ listed List.prefix_rfl

private theorem quoted_not_listed : (quoteMark :: rest, kind) ∉ fixedSpellings :=
  fun listed => quote_no_spelling _ _ listed List.prefix_rfl

/-- The text of a token tells its kind and its lexeme. -/
theorem token_text_unique (first : TokenText kind lexeme) (second : TokenText otherKind otherLexeme)
    (same : (Tile.token kind lexeme).text = (Tile.token otherKind otherLexeme).text) :
    kind = otherKind ∧ lexeme = otherLexeme := by
  have quoteStarts : isWordStart quoteMark = false := by decide
  cases first with
  | fixed listed =>
    have plain := (fixedSpelling_ne_nil listed).2
    cases second with
    | fixed otherListed =>
      have every : ∀ entry ∈ fixedSpellings, ∀ other ∈ fixedSpellings,
          entry.1 = other.1 → entry = other := by decide
      have equal : lexeme = otherLexeme := by
        simpa [Tile.text, plain, (fixedSpelling_ne_nil otherListed).2] using same
      exact ⟨congrArg Prod.snd (every _ listed _ otherListed equal), equal⟩
    | word start parts =>
      simp only [Tile.text, plain, wordKind_ne_stringLiteral, if_false] at same
      exact absurd (same ▸ listed) (word_not_listed start parts)
    | quoted inside =>
      simp only [Tile.text, plain, if_false, if_true] at same
      exact absurd (same ▸ listed) quoted_not_listed
  | word start parts =>
    cases second with
    | fixed otherListed =>
      simp only [Tile.text, (fixedSpelling_ne_nil otherListed).2, wordKind_ne_stringLiteral,
        if_false] at same
      exact absurd (same ▸ otherListed) (word_not_listed start parts)
    | word otherStart otherParts =>
      simp only [Tile.text, wordKind_ne_stringLiteral, if_false] at same
      exact ⟨congrArg wordKind same, same⟩
    | quoted inside =>
      simp only [Tile.text, wordKind_ne_stringLiteral, if_false, if_true, List.cons_append,
        List.cons.injEq] at same
      simp [same.1, quoteStarts] at start
  | quoted inside =>
    cases second with
    | fixed otherListed =>
      simp only [Tile.text, (fixedSpelling_ne_nil otherListed).2, if_false, if_true] at same
      exact absurd (same ▸ otherListed) quoted_not_listed
    | word otherStart otherParts =>
      simp only [Tile.text, wordKind_ne_stringLiteral, if_false, if_true, List.cons_append,
        List.cons.injEq] at same
      simp [← same.1, quoteStarts] at otherStart
    | quoted otherInside =>
      exact ⟨rfl, by simpa [Tile.text] using same⟩

/-- A piece of text is a tile of one sort only, and of that sort in one way only. -/
theorem fits_unique {tile other : Tile} (fits : tile.Fits later) (otherFits : other.Fits later)
    (same : tile.text = other.text) (nonempty : tile.text ≠ []) : tile = other := by
  obtain ⟨c, rest, covers⟩ := List.exists_cons_of_ne_nil
    (List.append_ne_nil_of_left_ne_nil nonempty later)
  have sorts : tile.sort = other.sort :=
    (fits_sort fits covers).trans (fits_sort otherFits (same ▸ covers)).symm
  cases tile <;> cases other <;> try cases sorts
  case token.token kind lexeme otherKind otherLexeme =>
    obtain ⟨rfl, rfl⟩ := token_text_unique fits otherFits same
    rfl
  all_goals simpa [Tile.text] using same

/-! ## The row of tiles -/

/-- A row of tiles at its places, each counted from the text of all tiles before it. -/
def placedRow (row : List Tile) : List PlacedTile :=
  row.mapIdx fun index tile => ⟨place ((row.take index).flatMap Tile.text), tile⟩

/-- Each tile of the row fits in front of the tiles that follow it. -/
def RowFits (row : List Tile) : Prop :=
  ∀ front tile back, row = front ++ tile :: back →
    tile.text ≠ [] ∧ tile.Fits (back.flatMap Tile.text)

theorem place_tiles_counted (before : List Char) (row : List Tile) :
    placeTiles (place before) row =
      row.mapIdx fun index tile => ⟨place (before ++ (row.take index).flatMap Tile.text), tile⟩ := by
  induction row generalizing before with
  | nil => rfl
  | cons tile row ih =>
    rw [placeTiles, after_place, ih, List.mapIdx_cons]
    simp

theorem place_tiles_append (position : Position) (first second : List Tile) :
    placeTiles position (first ++ second) =
      placeTiles position first ++ placeTiles (position.after (first.flatMap Tile.text)) second := by
  induction first generalizing position with
  | nil => rfl
  | cons tile first ih => simp [placeTiles, ih]

/-- Going through the row tile by tile places every tile where counting puts it. -/
theorem placed_tiles_counted (source : String) :
    placedTiles source = placedRow (tiles source.toList) := by
  exact place_tiles_counted [] (tiles source.toList)

theorem tiles_fit (text : List Char) : RowFits (tiles text) := by
  fun_induction tiles text with
  | case1 =>
    intro front tile back split
    simp at split
  | case2 c rest tile ih =>
    intro front other back split
    cases front with
    | nil =>
      obtain ⟨rfl, rfl⟩ := List.cons.inj split
      obtain ⟨later, covers⟩ := firstTile_isPrefix c rest
      have behind : (c :: rest).drop tile.text.length = later := by
        rw [← covers, List.drop_left]
      refine ⟨firstTile_text_ne_nil c rest, ?_⟩
      rw [flatMap_text_tiles, behind]
      exact first_tile_fits covers
    | cons first front => exact ih front other back (List.cons.inj split).2

theorem tile_of_placed (member : placed ∈ placeTiles position row) : placed.tile ∈ row := by
  induction row generalizing position with
  | nil => cases member
  | cons tile row ih =>
    rcases List.mem_cons.mp member with rfl | member
    · exact List.mem_cons_self
    · exact List.mem_cons_of_mem _ (ih member)

/-- The tokens of a source before its end of input have texts of tokens. -/
theorem scanned_token_text
    (member : token ∈ (placedTiles source).filterMap PlacedTile.token?) :
    TokenText token.kind token.lexeme.toList := by
  obtain ⟨placed, inRow, holds⟩ := List.mem_filterMap.mp member
  obtain ⟨front, back, split⟩ := List.append_of_mem (tile_of_placed inRow)
  obtain ⟨-, fits⟩ := tiles_fit _ front placed.tile back split
  obtain ⟨kind, lexeme, isToken, rfl⟩ := PlacedTile.token?_eq_some_iff.mp holds
  rw [isToken] at fits
  rw [String.toList_ofList]
  exact fits

/-! ## Positions increase -/

/-- The positions of the tiles of a row, and the position behind them. -/
def rowPositions (position : Position) (row : List Tile) : List Position :=
  (placeTiles position row).map (·.position) ++ [position.after (row.flatMap Tile.text)]

theorem row_positions_cons (position : Position) (tile : Tile) (row : List Tile) :
    rowPositions position (tile :: row) =
      position :: rowPositions (position.after tile.text) row := by
  simp [rowPositions, placeTiles]

theorem row_positions_from (nonempty : ∀ tile ∈ row, tile.text ≠ []) :
    ∀ other ∈ rowPositions position row, other = position ∨ position.Before other := by
  induction row generalizing position with
  | nil => simp [rowPositions, placeTiles]
  | cons tile row ih =>
    intro other member
    rw [row_positions_cons] at member
    rcases List.mem_cons.mp member with rfl | member
    · exact .inl rfl
    · have moves : position.Before (position.after tile.text) := before_after (nonempty tile (by simp))
      rcases ih (fun tile inRow => nonempty tile (by simp [inRow])) other member with rfl | later
      · exact .inr moves
      · exact .inr (before_trans moves later)

/-- No tile is empty, so each begins strictly behind all those before it. -/
theorem row_positions_increase (position : Position) (nonempty : ∀ tile ∈ row, tile.text ≠ []) :
    (rowPositions position row).Pairwise Position.Before := by
  induction row generalizing position with
  | nil => simp [rowPositions, placeTiles]
  | cons tile row ih =>
    have rest : ∀ tile ∈ row, tile.text ≠ [] := fun tile member => nonempty tile (by simp [member])
    rw [row_positions_cons]
    refine List.pairwise_cons.mpr ⟨fun other member => ?_, ih _ rest⟩
    have moves : position.Before (position.after tile.text) := before_after (nonempty tile (by simp))
    rcases row_positions_from rest other member with rfl | later
    · exact moves
    · exact before_trans moves later

theorem token_position (found : PlacedTile.token? placed = some token) :
    token.position = placed.position := by
  obtain ⟨kind, lexeme, -, rfl⟩ := PlacedTile.token?_eq_some_iff.mp found
  rfl

theorem token_positions_sublist (placed : List PlacedTile) :
    ((placed.filterMap PlacedTile.token?).map (·.position)).Sublist (placed.map (·.position)) := by
  induction placed with
  | nil => simp
  | cons first placed ih =>
    cases found : first.token? with
    | none => simpa [List.filterMap_cons, found] using ih.cons first.position
    | some token => simpa [List.filterMap_cons, found, token_position found] using ih

/-- The positions of the tokens of a source increase strictly, up to the end of input. -/
theorem scan_positions_increase (source : String) :
    ((scan source).tokens.map (·.position)).Pairwise Position.Before := by
  have nonempty : ∀ tile ∈ tiles source.toList, tile.text ≠ [] := by
    intro tile member
    obtain ⟨front, back, split⟩ := List.append_of_mem member
    exact (tiles_fit _ front tile back split).1
  refine (row_positions_increase Position.start nonempty).sublist ?_
  simp only [scan, rowPositions, List.map_append, flatMap_text_tiles]
  exact (token_positions_sublist _).append (List.Sublist.refl _)

/-- The source is a row of tiles, each fitting in front of what follows it and being of one sort
only. The tokens are the token tiles and the end of input, the reports are the tiles that belong to
no token, and all stand at the places counted from the text before them, which increase. -/
theorem scan_tiles_source (source : String) :
    ∃ row : List Tile, row.flatMap Tile.text = source.toList ∧ RowFits row ∧
      (∀ front tile back, row = front ++ tile :: back →
        ∀ other : Tile, other.Fits (back.flatMap Tile.text) → other.text = tile.text → other = tile) ∧
      (scan source).tokens = (placedRow row).filterMap PlacedTile.token? ++
        [⟨.endOfInput, "", place source.toList⟩] ∧
      (scan source).diagnostics = (placedRow row).filterMap PlacedTile.diagnostic? ∧
      ((scan source).tokens.map (·.position)).Pairwise Position.Before := by
  refine ⟨tiles source.toList, flatMap_text_tiles _, tiles_fit _, ?_, ?_, ?_,
    scan_positions_increase source⟩
  · intro front tile back split other otherFits same
    obtain ⟨nonempty, fits⟩ := tiles_fit _ front tile back split
    exact fits_unique otherFits fits same (same ▸ nonempty)
  · rw [← placed_tiles_counted, ← after_start]
    rfl
  · rw [← placed_tiles_counted]
    rfl

end ClassChart
