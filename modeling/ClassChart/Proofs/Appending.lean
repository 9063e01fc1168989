import ClassChart.Proofs.Tiling

/-! Text written behind a source. A tile is decided by the text that it covers and at most three
characters more, so a tile with text behind it stays as it is whatever is appended, and the last one
stays unless the appended text goes on with it. A source can therefore be cut at any place that no
tile reaches over. -/
namespace ClassChart

/-! ## Spellings -/

/-- Text that goes on with no word and no spelling. -/
def Foreign (more : List Char) : Prop :=
  ∀ c ∈ more.head?, isWordPart c = false ∧ c ∉ ['|', '-', '.', '>']

theorem foreign_of_head (begins : c ∈ ['\n', ' ', '\t', '\r', commentMark, quoteMark]) :
    Foreign (c :: more) := by
  have every : ['\n', ' ', '\t', '\r', commentMark, quoteMark].all fun d =>
      !isWordPart d && !(['|', '-', '.', '>'].contains d) := by decide
  intro d head
  obtain rfl : c = d := by simpa using head
  simpa using List.all_eq_true.mp every c begins

/-- A spelling does not reach over into text that is foreign to it. -/
theorem spelling_before_foreign (listed : (spelling, kind) ∈ fixedSpellings) (nonempty : text ≠ [])
    (foreign : Foreign more) (begins : spelling <+: text ++ more) : spelling <+: text := by
  rcases List.prefix_or_prefix_of_prefix begins (List.prefix_append text more) with
    inside | ⟨beyond, rfl⟩
  · exact inside
  · rw [List.prefix_append_right_inj] at begins
    cases beyond with
    | nil => simp
    | cons d beyond =>
      obtain ⟨rest, rfl⟩ := begins
      have every : ∀ entry ∈ fixedSpellings,
          entry.1.tail.all fun d => ['|', '-', '.', '>'].contains d := by decide
      have inTail : d ∈ (text ++ d :: beyond).tail := by
        cases text with
        | nil => exact absurd rfl nonempty
        | cons first text => simp
      have reserved : d ∈ ['|', '-', '.', '>'] := by
        simpa using List.all_eq_true.mp (every _ listed) d inTail
      exact absurd reserved (foreign d rfl).2

/-- A spelling is four characters long at most. -/
theorem spelling_within_reach (listed : (spelling, kind) ∈ fixedSpellings) (long : 4 ≤ text.length)
    (begins : spelling <+: text ++ more) : spelling <+: text := by
  have every : ∀ entry ∈ fixedSpellings, entry.1.length ≤ 4 := by decide
  have short : spelling.length ≤ 4 := every _ listed
  exact List.prefix_of_prefix_length_le begins (List.prefix_append text more) (by omega)

theorem fixed_spelling_append (nonempty : text ≠ []) (reach : 4 ≤ text.length ∨ Foreign more) :
    fixedSpelling? (text ++ more) = fixedSpelling? text := by
  refine List.find?_congr fun entry listed => ?_
  rw [Bool.eq_iff_iff, List.isPrefixOf_iff_prefix, List.isPrefixOf_iff_prefix]
  constructor
  · intro begins
    rcases reach with long | foreign
    · exact spelling_within_reach listed long begins
    · exact spelling_before_foreign listed nonempty foreign begins
  · intro inside
    exact inside.trans (List.prefix_append text more)

/-! ## Tiles -/

/-- A run of characters that ends before the text does, or where other text begins. -/
theorem run_append {stays : Char → Bool} {rest more : List Char}
    (ends : rest.dropWhile stays ≠ [] ∨ ∀ c ∈ more.head?, stays c = false) :
    (rest ++ more).takeWhile stays = rest.takeWhile stays := by
  by_cases whole : rest.dropWhile stays = []
  · have stop : more.takeWhile stays = [] := by
      cases more with
      | nil => rfl
      | cons c more => simp [ends.resolve_left (absurd whole) c rfl]
    have inside : ∀ c ∈ rest, stays c = true := List.dropWhile_eq_nil_iff.mp whole
    rw [List.takeWhile_append_of_pos inside, stop, List.append_nil,
      List.takeWhile_eq_self_iff.mpr inside]
  · have shorter : (rest.takeWhile stays).length ≠ rest.length := by
      intro same
      have split := congrArg List.length (List.takeWhile_append_dropWhile (p := stays) (l := rest))
      rw [List.length_append] at split
      exact whole (List.length_eq_zero_iff.mp (by omega))
    rw [List.takeWhile_append, if_neg shorter]

theorem behind_run {stays : Char → Bool} {rest later : List Char}
    (covers : rest.takeWhile stays ++ later = rest) : rest.dropWhile stays = later :=
  List.append_cancel_left (List.takeWhile_append_dropWhile.trans covers.symm)

theorem quoted_tile_append (closed : (quotedTile rest).sort ≠ .unterminated) :
    quotedTile (rest ++ more) = quotedTile rest := by
  have mark : quoteMark ∈ rest := by
    by_contra none
    simp [quotedTile, none, Tile.sort] at closed
  have ends : rest.dropWhile (· != quoteMark) ≠ [] := by
    intro whole
    simpa using List.dropWhile_eq_nil_iff.mp whole quoteMark mark
  simp [quotedTile, mark, run_append (.inl ends)]

theorem word_tile_append
    (ends : rest.dropWhile isWordPart ≠ [] ∨ ∀ d ∈ more.head?, isWordPart d = false) :
    wordTile c (rest ++ more) = wordTile c rest := by
  rw [wordTile, wordTile, run_append ends]

theorem dropped_arrow_head_append (reach : rest ≠ [] ∨ Foreign more) :
    droppedArrowHead (rest ++ more) = droppedArrowHead rest := by
  cases rest with
  | cons c rest => rfl
  | nil =>
    have foreign := reach.resolve_left (absurd rfl)
    have other : more.head? ≠ some '|' := by
      intro bar
      exact (foreign '|' bar).2 (by decide)
    simp [droppedArrowHead, other]

/-- Where a tile may be followed by more text: behind three characters, or behind fewer when the
text is foreign; and a comment goes up to a line feed. -/
structure Severed (tile : Tile) (later more : List Char) : Prop where
  closed : tile.sort ≠ .unterminated
  reach : 3 ≤ later.length ∨ Foreign more
  ends : later ≠ [] ∨ more.head? = some '\n' ∨ tile.sort ≠ .comment

theorem first_tile_append (covers : (firstTile c rest).text ++ later = c :: rest)
    (severed : Severed (firstTile c rest) later more) :
    firstTile c (rest ++ more) = firstTile c rest := by
  obtain ⟨closed, reach, ends⟩ := severed
  have size := congrArg List.length covers
  have nonempty := List.length_pos_iff.mpr (firstTile_text_ne_nil c rest)
  simp only [List.length_append, List.length_cons] at size
  have long : 3 ≤ later.length → 4 ≤ (c :: rest).length := by
    simp only [List.length_cons]
    omega
  have spellings : fixedSpelling? (c :: (rest ++ more)) = fixedSpelling? (c :: rest) :=
    fixed_spelling_append (by simp) (reach.imp_left long)
  unfold firstTile at covers closed ends ⊢
  rw [spellings]
  split
  · rfl
  · rename_i unspelled
    simp only [unspelled] at covers closed ends
    split
    · rename_i quote
      rw [if_pos quote] at closed
      exact quoted_tile_append closed
    rename_i noQuote
    rw [if_neg noQuote] at covers ends
    split
    · rename_i word
      rw [if_pos word] at covers
      have behind : rest.dropWhile isWordPart = later := by
        apply behind_run
        simpa [wordTile, Tile.text, wordKind_ne_stringLiteral] using covers
      apply word_tile_append
      rw [behind]
      refine reach.imp (fun long none => ?_) fun foreign d head => (foreign d head).1
      simp [none] at long
    rename_i noWord
    rw [if_neg noWord] at covers ends
    split
    · rfl
    rename_i noSpacing
    rw [if_neg noSpacing] at covers ends
    split
    · rename_i comment
      rw [if_pos comment] at covers ends
      have behind : rest.dropWhile (· != '\n') = later := by
        apply behind_run
        simpa [Tile.text, comment] using covers
      have stops : rest.dropWhile (· != '\n') ≠ [] ∨ ∀ d ∈ more.head?, (d != '\n') = false := by
        rw [behind]
        rcases ends with some_left | feed | other
        · exact .inl some_left
        · refine .inr fun d head => ?_
          obtain rfl : '\n' = d := by simpa [feed] using head
          rfl
        · exact absurd rfl other
      rw [run_append stops]
    split
    · refine congrArg Tile.dropped (dropped_arrow_head_append (reach.imp_left fun far none => ?_))
      have := long far
      simp [none] at this
    · rfl

/-! ## Rows of tiles -/

/-- A tile that stands in front of some text stands in front of more of it. -/
theorem stands_append (stands : tile.Stands later) (severed : Severed tile later more) :
    tile.Stands (later ++ more) := by
  obtain ⟨c, rest, covers, rfl⟩ := stands
  refine ⟨c, rest ++ more, ?_, first_tile_append covers severed⟩
  rw [← List.append_assoc, covers]
  rfl

theorem stands_closed {tile : Tile} (stands : tile.Stands later) (goesOn : later ≠ []) :
    tile.sort ≠ .unterminated := by
  obtain ⟨c, rest, covers, rfl⟩ := stands
  intro unclosed
  have fits := first_tile_fits covers
  cases tile : firstTile c rest with
  | unterminated body =>
    rw [tile] at fits
    exact goesOn fits.2
  | _ => simp [tile, Tile.sort] at unclosed

theorem stands_nonempty {tile : Tile} (stands : tile.Stands later) : tile.text ≠ [] := by
  obtain ⟨c, rest, -, rfl⟩ := stands
  exact firstTile_text_ne_nil c rest

/-- The tiles of a text stand where they are. -/
theorem tiles_stand (text : List Char) : RowStands [] (tiles text) := by
  fun_induction tiles text with
  | case1 => trivial
  | case2 c rest tile ih =>
    refine ⟨⟨c, rest, ?_, rfl⟩, ih⟩
    obtain ⟨later, covers⟩ := firstTile_isPrefix c rest
    rw [flatMap_text_tiles, List.append_nil, ← covers, List.drop_left]

/-- A quoted text that is never closed has nothing behind it. -/
theorem row_closed (stands : RowStands later row) (goesOn : later ≠ []) :
    ∀ tile ∈ row, tile.sort ≠ .unterminated := by
  induction row with
  | nil => simp
  | cons tile row ih =>
    intro other member
    rcases List.mem_cons.mp member with rfl | member
    · exact stands_closed stands.1 (List.append_ne_nil_of_right_ne_nil _ goesOn)
    · exact ih stands.2 other member

/-- A row may be followed by more text where its last tile may. -/
structure RowSevered (row : List Tile) (later more : List Char) : Prop where
  closed : ∀ tile ∈ row, tile.sort ≠ .unterminated
  reach : 3 ≤ later.length ∨ Foreign more
  ends : later ≠ [] ∨ more.head? = some '\n' ∨ ∀ tile ∈ row.getLast?, tile.sort ≠ .comment

theorem row_stands_append (stands : RowStands later row) (severed : RowSevered row later more) :
    RowStands (later ++ more) row := by
  obtain ⟨closed, reach, ends⟩ := severed
  induction row with
  | nil => trivial
  | cons tile row ih =>
    obtain ⟨first, others⟩ := stands
    have endsOthers : later ≠ [] ∨ more.head? = some '\n' ∨
        ∀ tile ∈ row.getLast?, tile.sort ≠ .comment := by
      refine ends.imp_right (Or.imp_right fun plain last isLast => plain last ?_)
      cases row with
      | nil => cases isLast
      | cons second row => simpa [List.getLast?_cons_cons] using isLast
    refine ⟨?_, ih others (fun other member => closed other (by simp [member])) endsOthers⟩
    rw [← List.append_assoc]
    refine stands_append first ⟨closed tile (by simp), ?_, ?_⟩
    · refine reach.imp_left fun long => ?_
      simp only [List.length_append]
      omega
    · cases row with
      | nil => simpa using ends
      | cons second row =>
        left
        simp [stands_nonempty others.1]

theorem row_stands_split (stands : RowStands later (first ++ second)) :
    RowStands (second.flatMap Tile.text ++ later) first ∧ RowStands later second := by
  induction first with
  | nil => exact ⟨trivial, stands⟩
  | cons tile first ih =>
    rw [List.cons_append] at stands
    obtain ⟨here, others⟩ := stands
    obtain ⟨front, back⟩ := ih others
    refine ⟨⟨?_, front⟩, back⟩
    rwa [List.flatMap_append, List.append_assoc] at here

/-- The tiles of a text with more text behind it: those that the text severs are the same, and the
rest is read together with the new text. -/
theorem tiles_append (split : tiles text = row ++ others)
    (severed : RowSevered row (others.flatMap Tile.text) more) :
    tiles (text ++ more) = row ++ tiles (others.flatMap Tile.text ++ more) := by
  have covers : row.flatMap Tile.text ++ others.flatMap Tile.text = text := by
    rw [← List.flatMap_append, ← split, flatMap_text_tiles]
  have stands : RowStands (others.flatMap Tile.text) row := by
    have whole := tiles_stand text
    rw [split] at whole
    simpa using (row_stands_split whole).1
  rw [← covers, List.append_assoc]
  exact tiles_of_row (row_stands_append stands severed)

/-! ## What a row holds -/

/-- The tokens of a row whose first tile stands at `position`. -/
def rowTokens (position : Position) (row : List Tile) : List Token :=
  (placeTiles position row).filterMap PlacedTile.token?

/-- The reports of a row whose first tile stands at `position`. -/
def rowReports (position : Position) (row : List Tile) : List Diagnostic :=
  (placeTiles position row).filterMap PlacedTile.diagnostic?

theorem scan_tokens (source : String) :
    (scan source).tokens = rowTokens .start (tiles source.toList) ++ [endToken source] :=
  rfl

theorem scan_reports (source : String) :
    (scan source).diagnostics = rowReports .start (tiles source.toList) :=
  rfl

theorem row_tokens_append (position : Position) (first second : List Tile) :
    rowTokens position (first ++ second) =
      rowTokens position first ++ rowTokens (position.after (first.flatMap Tile.text)) second := by
  rw [rowTokens, place_tiles_append, List.filterMap_append]
  rfl

theorem row_reports_append (position : Position) (first second : List Tile) :
    rowReports position (first ++ second) =
      rowReports position first ++
        rowReports (position.after (first.flatMap Tile.text)) second := by
  rw [rowReports, place_tiles_append, List.filterMap_append]
  rfl

theorem row_tokens_cons (position : Position) (tile : Tile) (row : List Tile) :
    rowTokens position (tile :: row) =
      (PlacedTile.token? ⟨position, tile⟩).toList ++ rowTokens (position.after tile.text) row := by
  rw [rowTokens, placeTiles, List.filterMap_cons]
  cases PlacedTile.token? ⟨position, tile⟩ <;> rfl

theorem row_reports_cons (position : Position) (tile : Tile) (row : List Tile) :
    rowReports position (tile :: row) =
      (PlacedTile.diagnostic? ⟨position, tile⟩).toList ++
        rowReports (position.after tile.text) row := by
  rw [rowReports, placeTiles, List.filterMap_cons]
  cases PlacedTile.diagnostic? ⟨position, tile⟩ <;> rfl

/-- A tile that holds a token is the tile of its kind. -/
theorem tile_of_token (holds : PlacedTile.token? ⟨position, tile⟩ = some token) :
    ∃ lexeme, tile = .token token.kind lexeme ∧
      token = ⟨token.kind, String.ofList lexeme, position⟩ := by
  obtain ⟨kind, lexeme, isToken, rfl⟩ := PlacedTile.token?_eq_some_iff.mp holds
  exact ⟨lexeme, isToken, rfl⟩

/-- A token of a row divides the row into the tiles before it, its own, and those behind it. -/
theorem row_at_token (found : rowTokens position row = taken ++ token :: trailing) :
    ∃ front lexeme back, row = front ++ .token token.kind lexeme :: back ∧
      rowTokens position front = taken ∧
      token = ⟨token.kind, String.ofList lexeme, position.after (front.flatMap Tile.text)⟩ := by
  induction row generalizing position taken with
  | nil => simp [rowTokens, placeTiles] at found
  | cons tile row ih =>
    rw [row_tokens_cons] at found
    cases holds : PlacedTile.token? ⟨position, tile⟩ with
    | none =>
      rw [holds, Option.toList_none, List.nil_append] at found
      obtain ⟨front, lexeme, back, rfl, tokens, same⟩ := ih found
      refine ⟨tile :: front, lexeme, back, rfl, ?_, by simpa using same⟩
      rw [row_tokens_cons, holds, tokens]
      rfl
    | some first =>
      rw [holds, Option.toList_some, List.singleton_append] at found
      cases taken with
      | nil =>
        obtain ⟨rfl, -⟩ := List.cons.inj found
        obtain ⟨lexeme, rfl, same⟩ := tile_of_token holds
        exact ⟨[], lexeme, row, rfl, rfl, same⟩
      | cons other taken =>
        obtain ⟨rfl, others⟩ := List.cons.inj found
        obtain ⟨front, lexeme, back, rfl, tokens, same⟩ := ih others
        refine ⟨tile :: front, lexeme, back, rfl, ?_, by simpa using same⟩
        rw [row_tokens_cons, holds, tokens]
        rfl

end ClassChart
