import ClassChart.Proofs.Appending
import ClassChart.Proofs.LineBreakPlaces
import ClassChart.Proofs.Verdicts

/-! The ends of lines. Spacing and a comment at the end of a line hold no token and no report, and
move nothing but the line break behind them. A source is therefore read alike with and without them,
and so are its versions with and without carriage returns. -/
namespace ClassChart

/-! ## Spacing and comments -/

/-- Spacing, and possibly a comment behind it, all within one line. -/
def Invisible (text : List Char) : Prop :=
  ∃ blanks comment, text = blanks ++ comment ∧ (∀ c ∈ blanks, c = ' ' ∨ c = '\t' ∨ c = '\r') ∧
    (comment = [] ∨ ∃ body, comment = commentMark :: body ∧ '\n' ∉ body)

theorem invisible_within_line (invisible : Invisible text) : '\n' ∉ text := by
  obtain ⟨blanks, comment, rfl, spaced, commented⟩ := invisible
  intro feed
  rcases List.mem_append.mp feed with feed | feed
  · rcases spaced _ feed with same | same | same <;> cases same
  · rcases commented with rfl | ⟨body, rfl, inside⟩
    · cases feed
    · rcases List.mem_cons.mp feed with mark | feed
      · exact absurd mark (by decide)
      · exact inside feed

theorem invisible_foreign (invisible : Invisible text) : Foreign text := by
  obtain ⟨blanks, comment, rfl, spaced, commented⟩ := invisible
  cases blanks with
  | cons c blanks =>
    apply foreign_of_head
    rcases spaced c (by simp) with rfl | rfl | rfl <;> simp
  | nil =>
    rcases commented with rfl | ⟨body, rfl, -⟩
    · intro c head
      cases head
    · apply foreign_of_head
      simp

/-- A blank is a tile of its own in front of any text. -/
theorem spacing_stands (spacing : c = ' ' ∨ c = '\t' ∨ c = '\r') :
    (Tile.spacing c).Stands later := by
  have blank : c ∈ [' ', '\t', '\r', commentMark] := by
    rcases spacing with rfl | rfl | rfl <;> simp
  obtain ⟨noSpelling, noQuote, noWord⟩ := blank_begins_nothing later blank
  refine ⟨c, later, rfl, ?_⟩
  simp [firstTile, no_spelling_iff.mpr noSpelling, noQuote, noWord, is_spacing_iff.mpr spacing]

/-- A comment reaches to the end of a text that is all in one line. -/
theorem comment_stands (inside : '\n' ∉ body) : (Tile.comment body).Stands [] := by
  obtain ⟨noSpelling, noQuote, noWord⟩ :=
    blank_begins_nothing body (c := commentMark) (by simp)
  have noSpacing : isSpacing commentMark = false := by decide
  have whole : body.takeWhile (· != '\n') = body := by
    rw [List.takeWhile_eq_self_iff]
    intro c member
    simpa using ne_of_mem_of_not_mem member inside
  refine ⟨commentMark, body, by simp [Tile.text], ?_⟩
  simp [firstTile, no_spelling_iff.mpr noSpelling, noQuote, noWord, noSpacing, whole]

/-- A tile that holds neither a token nor a report. -/
def Tile.Silent (tile : Tile) : Prop :=
  tile.sort = .spacing ∨ tile.sort = .comment

theorem silent_holds_nothing {tile : Tile} (silent : tile.Silent) (position : Position) :
    PlacedTile.token? ⟨position, tile⟩ = none ∧ PlacedTile.diagnostic? ⟨position, tile⟩ = none := by
  cases tile with
  | spacing c | comment body => exact ⟨rfl, rfl⟩
  | _ => rcases silent with other | other <;> cases other

theorem row_silent (silent : ∀ tile ∈ row, Tile.Silent tile) (position : Position) :
    rowTokens position row = [] ∧ rowReports position row = [] := by
  induction row generalizing position with
  | nil => exact ⟨rfl, rfl⟩
  | cons tile row ih =>
    obtain ⟨noToken, noReport⟩ := silent_holds_nothing (silent tile (by simp)) position
    obtain ⟨tokens, reports⟩ := ih (fun other member => silent other (by simp [member])) _
    rw [row_tokens_cons, row_reports_cons, noToken, noReport, tokens, reports]
    exact ⟨rfl, rfl⟩

theorem comment_tiles (inside : '\n' ∉ body) : tiles (commentMark :: body) = [.comment body] := by
  have whole := tiles_of_stands (comment_stands inside)
  rwa [List.append_nil, tiles_nil] at whole

theorem invisible_tiles (invisible : Invisible text) : ∀ tile ∈ tiles text, tile.Silent := by
  obtain ⟨blanks, comment, rfl, spaced, commented⟩ := invisible
  induction blanks with
  | nil =>
    rcases commented with rfl | ⟨body, rfl, inside⟩
    · simp
    · rw [List.nil_append, comment_tiles inside]
      simp [Tile.Silent, Tile.sort]
  | cons c blanks ih =>
    have first : tiles (c :: (blanks ++ comment)) = .spacing c :: tiles (blanks ++ comment) :=
      tiles_of_stands (spacing_stands (spaced c (by simp)))
    intro tile member
    rw [List.cons_append, first] at member
    rcases List.mem_cons.mp member with rfl | member
    · exact .inl rfl
    · exact ih (fun d inside => spaced d (by simp [inside])) tile member

/-! ## Texts without an open quote -/

/-- Every quote of the text is closed in it. -/
def Closed (text : List Char) : Prop :=
  ∀ tile ∈ tiles text, tile.sort ≠ .unterminated

theorem closed_of_reports
    (closed : ∀ report ∈ rowReports position row, report.kind ≠ .unterminatedString) :
    ∀ tile ∈ row, tile.sort ≠ .unterminated := by
  induction row generalizing position with
  | nil => simp
  | cons tile row ih =>
    rw [row_reports_cons] at closed
    intro other member unclosed
    rcases List.mem_cons.mp member with rfl | member
    · cases other with
      | unterminated body =>
        exact closed (.unterminatedString position) (List.mem_append_left _ (by simp [PlacedTile.diagnostic?])) rfl
      | _ => cases unclosed
    · exact ih (fun report inside => closed report (List.mem_append_right _ inside)) other member unclosed

/-- A text whose quotes are closed can be cut at a line feed behind it. -/
theorem tiles_cut (closed : Closed text) (more : List Char) :
    tiles (text ++ '\n' :: more) = tiles text ++ lineFeed :: tiles more := by
  have foreign : Foreign ('\n' :: more) := foreign_of_head (by simp)
  have severed : RowSevered (tiles text) [] ('\n' :: more) :=
    ⟨closed, .inr foreign, .inr (.inl rfl)⟩
  have cut : tiles (text ++ '\n' :: more) = tiles text ++ tiles ('\n' :: more) :=
    tiles_append (List.append_nil _).symm severed
  have feed : tiles ('\n' :: more) = lineFeed :: tiles more := tiles_of_stands line_feed_stands
  rw [cut, feed]

/-- Rows that hold the same tokens and reports wherever they begin. -/
def HoldSame (row other : List Tile) : Prop :=
  ∀ position, rowTokens position other = rowTokens position row ∧
    rowReports position other = rowReports position row

theorem hold_same_of_silent (front : List Tile) (silent : ∀ tile ∈ back, Tile.Silent tile)
    (silentOther : ∀ tile ∈ other, Tile.Silent tile) :
    HoldSame (front ++ back) (front ++ other) := by
  intro position
  obtain ⟨tokens, reports⟩ := row_silent silent (position.after (front.flatMap Tile.text))
  obtain ⟨tokensOther, reportsOther⟩ :=
    row_silent silentOther (position.after (front.flatMap Tile.text))
  simp only [row_tokens_append, row_reports_append, tokens, reports, tokensOther, reportsOther,
    and_self]

theorem silent_closed {tile : Tile} (silent : tile.Silent) : tile.sort ≠ .unterminated := by
  rcases silent with same | same <;> simp [same]

/-- A comment that is open at the end of a text takes invisible text into itself. -/
theorem invisible_behind_comment (split : tiles text = front ++ [.comment body])
    (closed : Closed text) (invisible : Invisible more) :
    tiles (text ++ more) = front ++ [.comment (body ++ more)] := by
  have inside : '\n' ∉ body ++ more := by
    obtain ⟨-, fits⟩ := tiles_fit text front (.comment body) [] split
    simpa using ⟨fits.1, invisible_within_line invisible⟩
  have severed : RowSevered front ([Tile.comment body].flatMap Tile.text) more := by
    refine ⟨fun tile member => closed tile ?_, .inr (invisible_foreign invisible), .inl ?_⟩
    · rw [split]
      exact List.mem_append_left _ member
    · simp [Tile.text]
  rw [tiles_append split severed]
  congr 1
  simpa [Tile.text] using comment_tiles inside

/-- Behind any other text it falls into tiles of its own. -/
theorem invisible_behind_other (other : ∀ tile ∈ (tiles text).getLast?, tile.sort ≠ .comment)
    (closed : Closed text) (invisible : Invisible more) :
    tiles (text ++ more) = tiles text ++ tiles more := by
  have severed : RowSevered (tiles text) [] more :=
    ⟨closed, .inr (invisible_foreign invisible), .inr (.inr other)⟩
  exact tiles_append (List.append_nil _).symm severed

/-- Invisible text behind a text adds no token, no report and no open quote. -/
theorem invisible_behind (closed : Closed text) (invisible : Invisible more) :
    HoldSame (tiles text) (tiles (text ++ more)) ∧ Closed (text ++ more) := by
  have comments : ∀ body, ∀ tile ∈ [Tile.comment body], Tile.Silent tile := by
    simp [Tile.Silent, Tile.sort]
  by_cases open_ : ∃ front body, tiles text = front ++ [.comment body]
  · obtain ⟨front, body, split⟩ := open_
    have whole := invisible_behind_comment split closed invisible
    constructor
    · rw [whole, split]
      exact hold_same_of_silent front (comments body) (comments (body ++ more))
    · intro tile member
      rw [whole] at member
      rcases List.mem_append.mp member with member | member
      · exact closed tile (by simp [split, member])
      · exact silent_closed (comments _ tile member)
  · have other : ∀ tile ∈ (tiles text).getLast?, tile.sort ≠ .comment := by
      intro tile last same
      obtain ⟨front, split⟩ := List.getLast?_eq_some_iff.mp last
      cases tile with
      | comment body => exact open_ ⟨front, body, split⟩
      | _ => cases same
    have whole := invisible_behind_other other closed invisible
    have silent := invisible_tiles invisible
    constructor
    · have same : HoldSame (tiles text ++ []) (tiles text ++ tiles more) :=
        hold_same_of_silent (tiles text) (by simp) silent
      rw [List.append_nil] at same
      rwa [whole]
    · intro tile member
      rw [whole] at member
      rcases List.mem_append.mp member with member | member
      · exact closed tile member
      · exact silent_closed (silent tile member)

/-! ## Lines -/

/-- The place so many columns further in the same line. -/
def Position.right (position : Position) (columns : Nat) : Position :=
  ⟨position.line, position.column + columns⟩

/-- The place at the beginning of the next line. -/
def Position.below (position : Position) : Position :=
  ⟨position.line + 1, 1⟩

theorem after_within_line (inside : '\n' ∉ text) (position : Position) :
    position.after text = position.right text.length := by
  induction text generalizing position with
  | nil => rfl
  | cons c text ih =>
    have other : c ≠ '\n' := fun same => inside (by simp [same])
    rw [Position.after_cons, ih fun feed => inside (by simp [feed])]
    simp only [Position.advance, other, if_false, Position.right, List.length_cons,
      Position.mk.injEq,
      true_and]
    omega

/-- Every line begins at the first column. -/
theorem after_line_feed (position : Position) (text more : List Char) :
    position.after (text ++ '\n' :: more) = (position.after text).below.after more := by
  rw [Position.after_append]
  rfl

/-- The token of a line feed. -/
def lineBreakAt (position : Position) : Token :=
  ⟨.newline, "\n", position⟩

/-- What a text holds that is cut at a line feed: what stands before, and what stands behind it from
the beginning of the next line on. -/
theorem row_at_line_feed (closed : Closed text) (position : Position) (more : List Char) :
    rowTokens position (tiles (text ++ '\n' :: more)) = rowTokens position (tiles text) ++
        lineBreakAt (position.after text) :: rowTokens (position.after text).below (tiles more) ∧
      rowReports position (tiles (text ++ '\n' :: more)) = rowReports position (tiles text) ++
        rowReports (position.after text).below (tiles more) := by
  rw [tiles_cut closed, row_tokens_append, row_reports_append, flatMap_text_tiles, row_tokens_cons,
    row_reports_cons]
  exact ⟨rfl, rfl⟩

/-- With invisible text at the end of a line, what a text holds is the same but for the place of the
line break. -/
theorem row_at_line_end (closed : Closed text) (invisible : Invisible added) (position : Position)
    (more : List Char) :
    rowTokens position (tiles (text ++ (added ++ '\n' :: more))) =
      rowTokens position (tiles text) ++
        lineBreakAt ((position.after text).right added.length) ::
          rowTokens (position.after text).below (tiles more) ∧
      rowReports position (tiles (text ++ (added ++ '\n' :: more))) =
        rowReports position (tiles (text ++ '\n' :: more)) := by
  obtain ⟨same, still⟩ := invisible_behind closed invisible
  obtain ⟨tokens, reports⟩ := row_at_line_feed still position more
  have place : position.after (text ++ added) = (position.after text).right added.length := by
    rw [Position.after_append, after_within_line (invisible_within_line invisible)]
  have line : (position.after (text ++ added)).below = (position.after text).below := by
    rw [place]
    rfl
  rw [line, (same position).1, place] at tokens
  rw [line, (same position).2, ← (row_at_line_feed closed position more).2] at reports
  rw [← List.append_assoc]
  exact ⟨tokens, reports⟩

/-! ## Carriage returns -/

/-- A text with a carriage return in front of every line feed. -/
def withReturns (text : List Char) : List Char :=
  text.flatMap fun c => if c = '\n' then ['\r', '\n'] else [c]

theorem returns_within_line (inside : '\n' ∉ text) : withReturns text = text := by
  induction text with
  | nil => rfl
  | cons c text ih =>
    have other : c ≠ '\n' := fun same => inside (by simp [same])
    have later := ih fun feed => inside (by simp [feed])
    rw [withReturns] at later ⊢
    simp [other, later]

theorem returns_at_line_feed (inside : '\n' ∉ text) (more : List Char) :
    withReturns (text ++ '\n' :: more) = text ++ ('\r' :: '\n' :: withReturns more) := by
  have first := returns_within_line inside
  rw [withReturns] at first ⊢
  simp [first, withReturns]

/-- The place of the end of a text does not depend on its carriage returns. -/
theorem after_returns (position : Position) (text : List Char) :
    position.after (withReturns text) = position.after text := by
  induction text generalizing position with
  | nil => rfl
  | cons c text ih =>
    have split : withReturns (c :: text) =
        (if c = '\n' then ['\r', '\n'] else [c]) ++ withReturns text :=
      rfl
    rw [split, Position.after_append, ih]
    by_cases feed : c = '\n'
    · subst feed
      rfl
    · rw [if_neg feed]
      rfl

/-- A line break moved one column further, behind the carriage return before it. -/
def pushed (token : Token) : Token :=
  if token.kind = .newline then { token with position := token.position.right 1 } else token

theorem pushed_moves_line_breaks : Grammar.MovesLineBreaks pushed where
  stays token line := by simp [pushed, line]
  fixed token other := by simp [pushed, other]

theorem newline_text (text : TokenText kind lexeme) (line : kind = .newline) : lexeme = ['\n'] := by
  cases text with
  | fixed listed =>
    have every : ∀ entry ∈ fixedSpellings, entry.2 = .newline → entry.1 = ['\n'] := by decide
    exact every _ listed line
  | word start parts =>
    rcases word_kind _ with plain | ⟨entry, listed, reserved⟩
    · rw [plain] at line
      cases line
    · have every : ∀ entry ∈ keywords, entry.2 ≠ .newline := by decide
      exact absurd (reserved.symm.trans line) (every entry listed)
  | quoted inside => cases line

/-- A text within one line holds no line break. -/
theorem no_line_break (inside : '\n' ∉ text) (position : Position) :
    ∀ token ∈ rowTokens position (tiles text), token.kind ≠ .newline := by
  intro token member line
  obtain ⟨taken, trailing, found⟩ := List.append_of_mem member
  obtain ⟨front, lexeme, back, split, -, -⟩ := row_at_token found
  obtain ⟨-, fits⟩ := tiles_fit text front _ back split
  have feed : lexeme = ['\n'] := newline_text fits line
  apply inside
  rw [← flatMap_text_tiles text, split]
  simp [Tile.text, feed, line]

theorem pushed_within_line (inside : '\n' ∉ text) (position : Position) :
    (rowTokens position (tiles text)).map pushed = rowTokens position (tiles text) := by
  refine (List.map_congr_left fun token member => ?_).trans (List.map_id _)
  exact pushed_moves_line_breaks.fixed token (no_line_break inside position token member)

/-- No quoted text of the source reaches over a line break. -/
def WithinLines (text : List Char) : Prop :=
  ∀ lexeme, Tile.token .stringLiteral lexeme ∈ tiles text → '\n' ∉ lexeme

/-- The text holds the same with carriage returns, but for the places of its line breaks. -/
def ReturnsPush (text : List Char) : Prop :=
  ∀ position, rowTokens position (tiles (withReturns text)) =
      (rowTokens position (tiles text)).map pushed ∧
    rowReports position (tiles (withReturns text)) = rowReports position (tiles text)

theorem returns_push_closed (inside : '\n' ∉ text) (closed : Closed text)
    (later : ReturnsPush more) :
    ReturnsPush (text ++ '\n' :: more) := by
  intro position
  have return_ : Invisible ['\r'] := ⟨['\r'], [], rfl, by simp, .inl rfl⟩
  obtain ⟨tokens, reports⟩ := row_at_line_feed closed position more
  obtain ⟨tokensReturn, reportsReturn⟩ := row_at_line_end closed return_ position (withReturns more)
  obtain ⟨tokensLater, reportsLater⟩ := later (position.after text).below
  rw [returns_at_line_feed inside]
  constructor
  · rw [show '\r' :: '\n' :: withReturns more = ['\r'] ++ '\n' :: withReturns more from rfl, tokensReturn,
      tokens, List.map_append, pushed_within_line inside, List.map_cons, tokensLater]
    rfl
  · rw [show '\r' :: '\n' :: withReturns more = ['\r'] ++ '\n' :: withReturns more from rfl, reportsReturn,
      (row_at_line_feed closed position _).2, reports, reportsLater]

/-- An open quote is the last tile of its text. -/
theorem open_quote_last (open_ : ¬ Closed text) :
    ∃ front body, tiles text = front ++ [.unterminated body] ∧ quoteMark ∉ body := by
  simp only [Closed, not_forall, not_not] at open_
  obtain ⟨tile, member, unclosed⟩ := open_
  obtain ⟨front, back, split⟩ := List.append_of_mem member
  have row := tiles_fit text
  cases tile with
  | unterminated body =>
    obtain ⟨-, inside, nothing⟩ := row front _ back split
    cases back with
    | nil => exact ⟨front, body, split, inside⟩
    | cons next back =>
      obtain ⟨nonempty, -⟩ := row (front ++ [.unterminated body]) next back (by simp [split])
      simp [nonempty] at nothing
  | _ => cases unclosed

/-- A text with an open quote goes on with that quote. -/
theorem tiles_behind_open_quote (split : tiles text = front ++ [.unterminated body])
    (foreign : Foreign more) :
    tiles (text ++ more) = front ++ tiles (quoteMark :: (body ++ more)) := by
  have stands : RowStands ([Tile.unterminated body].flatMap Tile.text) front := by
    have whole := tiles_stand text
    rw [split] at whole
    simpa using (row_stands_split whole).1
  have goesOn : [Tile.unterminated body].flatMap Tile.text ≠ [] := by simp [Tile.text]
  rw [tiles_append split ⟨row_closed stands goesOn, .inr foreign, .inl goesOn⟩]
  simp [Tile.text]

theorem quote_first_tile (rest : List Char) : firstTile quoteMark rest = quotedTile rest := by
  simp [firstTile, no_spelling_iff.mpr quote_no_spelling]

theorem open_quote_tiles (inside : quoteMark ∉ rest) :
    tiles (quoteMark :: rest) = [.unterminated rest] := by
  have open_ : quotedTile rest = .unterminated rest := by simp [quotedTile, inside]
  simp [tiles_cons, quote_first_tile, open_, Tile.text]

/-- Where no quoted text reaches over a line break, a quote that is open at a line break is never
closed. -/
theorem open_quote_stays (split : tiles text = front ++ [.unterminated body])
    (plain : quoteMark ∉ body) (within : WithinLines (text ++ '\n' :: more)) :
    quoteMark ∉ more := by
  intro closes
  have foreign : Foreign ('\n' :: more) := foreign_of_head (by simp)
  have quoted : quoteMark ∈ body ++ '\n' :: more := by simp [closes]
  have tile : quotedTile (body ++ '\n' :: more) =
      .token .stringLiteral ((body ++ '\n' :: more).takeWhile (· != quoteMark)) := by
    simp [quotedTile, quoted]
  apply within ((body ++ '\n' :: more).takeWhile (· != quoteMark))
  · rw [tiles_behind_open_quote split foreign, tiles_cons, quote_first_tile, tile]
    simp
  · have stays : ∀ c ∈ body, (c != quoteMark) = true := by
      intro c member
      simpa using ne_of_mem_of_not_mem member plain
    rw [List.takeWhile_append_of_pos stays, List.takeWhile_cons_of_pos (by decide)]
    simp

theorem mem_returns (other : c ≠ '\r') : c ∈ withReturns text ↔ c ∈ text := by
  rw [withReturns, List.mem_flatMap]
  constructor
  · rintro ⟨d, member, same⟩
    by_cases feed : d = '\n'
    · simp only [feed, if_true, List.mem_cons, other, List.not_mem_nil, or_false, false_or] at same
      rwa [same, ← feed]
    · simp only [feed, if_false, List.mem_singleton] at same
      rwa [same]
  · intro member
    refine ⟨c, member, ?_⟩
    split <;> simp_all

/-- What stands behind a quote that is never closed belongs to it. -/
theorem returns_push_open (inside : '\n' ∉ text) (open_ : ¬ Closed text)
    (within : WithinLines (text ++ '\n' :: more)) : ReturnsPush (text ++ '\n' :: more) := by
  obtain ⟨front, body, split, plain⟩ := open_quote_last open_
  have never := open_quote_stays split plain within
  have apart : quoteMark ≠ '\r' ∧ quoteMark ≠ '\n' := by decide
  have whole : ∀ added, Foreign added → quoteMark ∉ added →
      tiles (text ++ added) = front ++ [.unterminated (body ++ added)] := by
    intro added foreign none
    rw [tiles_behind_open_quote split foreign, open_quote_tiles (by simp [plain, none])]
  have here := whole ('\n' :: more) (foreign_of_head (by simp)) (by simp [apart, never])
  have there := whole ('\r' :: '\n' :: withReturns more) (foreign_of_head (by simp))
    (by simp [apart, mem_returns apart.1, never])
  intro position
  have breaks : ∀ token ∈ rowTokens position front, pushed token = token := by
    intro token member
    apply pushed_moves_line_breaks.fixed
    apply no_line_break inside position
    rw [split, row_tokens_append]
    exact List.mem_append_left _ member
  rw [returns_at_line_feed inside, here, there]
  simp only [row_tokens_append, row_reports_append]
  refine ⟨?_, rfl⟩
  rw [List.map_append, List.map_congr_left breaks, List.map_id']
  rfl

theorem returns_push (within : WithinLines text) : ReturnsPush text := by
  induction size : text.length using Nat.strong_induction_on generalizing text with
  | _ bound ih =>
  by_cases feed : '\n' ∈ text
  · obtain ⟨line, more, rfl, inside⟩ := List.eq_append_cons_of_mem feed
    by_cases closed : Closed line
    · apply returns_push_closed inside closed
      have shorter : more.length < bound := by
        rw [← size]
        simp only [List.length_append, List.length_cons]
        omega
      refine ih more.length shorter (fun lexeme member => within lexeme ?_) rfl
      rw [tiles_cut closed]
      simp [member]
    · exact returns_push_open inside closed within
  · intro position
    rw [returns_within_line feed, pushed_within_line feed]
    exact ⟨rfl, rfl⟩

/-! ## Sources -/

/-- The same answer, or the same syntax error at another place. -/
def SameBut (here there : Position) (first second : Except Failure Compilation) : Prop :=
  second = first ∨ ∃ message, first = .error (.malformed ⟨message, here⟩) ∧
    second = .error (.malformed ⟨message, there⟩)

theorem same_at_same_place (same : SameBut here here first second) : second = first := by
  rcases same with equal | ⟨message, failed, failedAgain⟩
  · exact equal
  · rw [failed, failedAgain]

/-- Two sources whose scans differ in the places of line breaks come to the same answer, unless the
error is at a line break. -/
theorem process_moved (moves : Grammar.MovesLineBreaks move)
    (tokens : (scan second).tokens = (scan first).tokens.map move)
    (reports : (scan second).diagnostics = (scan first).diagnostics)
    (geometry : Geometry) (strict : Bool) :
    process geometry strict second = process geometry strict first ∨
      ∃ token ∈ (scan first).tokens, token.kind = .newline ∧
        SameBut token.position (move token).position (process geometry strict first)
          (process geometry strict second) := by
  rcases Grammar.parse_moved moves (scan first).tokens with
    same | ⟨token, member, line, message, here, there⟩
  · left
    have checks : check second = check first := by
      rw [check, check, reports, tokens, same]
    rw [process, process, compile, compile, checks]
  · rw [← tokens] at there
    exact .inr ⟨token, member, line, .inr ⟨message,
      process_of_failure geometry (compile_of_error here),
      process_of_failure geometry (compile_of_error there)⟩⟩

/-- Moves the line break that stands at one place to another place. -/
def moveLineBreak (here there : Position) (token : Token) : Token :=
  if token = lineBreakAt here then lineBreakAt there else token

theorem move_line_break_moves (here there : Position) :
    Grammar.MovesLineBreaks (moveLineBreak here there) where
  stays token line := by
    unfold moveLineBreak
    split
    · rfl
    · exact line
  fixed token other := by
    have elsewhere : token ≠ lineBreakAt here := by
      rintro rfl
      exact other rfl
    simp [moveLineBreak, elsewhere]

/-- No two tokens of a source are the same. -/
theorem scan_distinct (source : String) : (scan source).tokens.Nodup := by
  apply List.Nodup.of_map Token.position
  refine (scan_positions_increase source).imp ?_
  rintro first second before rfl
  exact before_irrefl first before

theorem move_one_line_break (split : (scan source).tokens = front ++ lineBreakAt here :: behind) :
    (scan source).tokens.map (moveLineBreak here there) = front ++ lineBreakAt there :: behind := by
  have distinct := scan_distinct source
  rw [split] at distinct ⊢
  obtain ⟨-, later, apart⟩ := List.nodup_append.mp distinct
  have stays : ∀ token, token ≠ lineBreakAt here → moveLineBreak here there token = token := by
    intro token other
    simp [moveLineBreak, other]
  have before : ∀ token ∈ front, moveLineBreak here there token = token :=
    fun token member => stays token (apart token member _ (by simp))
  have after_ : ∀ token ∈ behind, moveLineBreak here there token = token :=
    fun token member => stays token fun same => (List.nodup_cons.mp later).1 (same ▸ member)
  rw [List.map_append, List.map_cons, List.map_congr_left before, List.map_congr_left after_]
  simp [moveLineBreak]

/-- How two sources scan of which the second has so many columns more in front of a line break. -/
structure ScansAlike (here : Position) (columns : Nat) (first second : String) : Prop where
  tokens : ∃ front behind, (scan first).tokens = front ++ lineBreakAt here :: behind ∧
    (scan second).tokens = front ++ lineBreakAt (here.right columns) :: behind
  reports : (scan second).diagnostics = (scan first).diagnostics

theorem scans_alike (closed : Closed p.toList) (invisible : Invisible w.toList) (q : String) :
    ScansAlike (place p.toList) w.length (p ++ "\n" ++ q) (p ++ w ++ "\n" ++ q) := by
  have without : (p ++ "\n" ++ q).toList = p.toList ++ '\n' :: q.toList := by simp
  have with_ : (p ++ w ++ "\n" ++ q).toList = p.toList ++ (w.toList ++ '\n' :: q.toList) := by simp
  obtain ⟨tokens, -⟩ := row_at_line_feed closed .start q.toList
  obtain ⟨tokensAdded, reports⟩ := row_at_line_end closed invisible .start q.toList
  have ends : endToken (p ++ w ++ "\n" ++ q) = endToken (p ++ "\n" ++ q) := by
    rw [endToken, endToken, without, with_, ← List.append_assoc, after_line_feed, after_line_feed,
      Position.after_append, after_within_line (invisible_within_line invisible)]
    rfl
  refine ⟨⟨rowTokens .start (tiles p.toList),
    rowTokens (Position.start.after p.toList).below (tiles q.toList) ++ [endToken (p ++ "\n" ++ q)],
    ?_, ?_⟩, ?_⟩
  · rw [scan_tokens, without, tokens, ← after_start, List.append_assoc, List.cons_append]
  · rw [scan_tokens, with_, tokensAdded, ends, ← after_start, List.append_assoc, List.cons_append,
      String.length_toList]
  · rw [scan_reports, scan_reports, without, with_, reports]

/-- The source with a carriage return in front of every line feed. -/
def withCarriageReturns (source : String) : String :=
  String.ofList (withReturns source.toList)

/-- Every quoted text of the source ends in the line in which it begins. -/
def TextsWithinLines (source : String) : Prop :=
  ∀ token ∈ (scan source).tokens, token.kind = .stringLiteral → '\n' ∉ token.lexeme.toList

/-- Every token of a row is a token wherever the row begins. -/
theorem token_of_tile (member : Tile.token kind lexeme ∈ row) (position : Position) :
    ∃ place, ⟨kind, String.ofList lexeme, place⟩ ∈ rowTokens position row := by
  obtain ⟨front, back, rfl⟩ := List.append_of_mem member
  refine ⟨position.after (front.flatMap Tile.text), ?_⟩
  rw [row_tokens_append, row_tokens_cons]
  exact List.mem_append_right _ (List.mem_append_left _ (by simp [PlacedTile.token?]))

theorem within_lines_of_texts (texts : TextsWithinLines source) : WithinLines source.toList := by
  intro lexeme member
  obtain ⟨place, token⟩ := token_of_tile member .start
  simpa using texts _ (List.mem_append_left _ token) rfl

theorem scan_with_returns (texts : TextsWithinLines source) :
    (scan (withCarriageReturns source)).tokens = (scan source).tokens.map pushed ∧
      (scan (withCarriageReturns source)).diagnostics = (scan source).diagnostics := by
  obtain ⟨tokens, reports⟩ := returns_push (within_lines_of_texts texts) .start
  have ends : endToken (withCarriageReturns source) = pushed (endToken source) := by
    simp [endToken, withCarriageReturns, after_returns, pushed]
  rw [scan_tokens, scan_tokens, scan_reports, scan_reports, ends, withCarriageReturns,
    String.toList_ofList, tokens, reports, List.map_append]
  exact ⟨rfl, rfl⟩

/-- Two versions of a source, the second with its line breaks one column further to the right. -/
structure SameButLineBreaks (first second : String) : Prop where
  tokens : (scan second).tokens = (scan first).tokens.map pushed
  reports : (scan second).diagnostics = (scan first).diagnostics
  processes : ∀ geometry strict, process geometry strict second = process geometry strict first ∨
    ∃ token ∈ (scan first).tokens, token.kind = .newline ∧
      SameBut token.position (token.position.right 1) (process geometry strict first)
        (process geometry strict second)

theorem same_but_line_breaks (texts : TextsWithinLines source) :
    SameButLineBreaks source (withCarriageReturns source) := by
  obtain ⟨tokens, reports⟩ := scan_with_returns texts
  refine ⟨tokens, reports, fun geometry strict => ?_⟩
  rcases process_moved pushed_moves_line_breaks tokens reports geometry strict with
    same | ⟨token, member, line, differs⟩
  · exact .inl same
  · have place : (pushed token).position = token.position.right 1 := by simp [pushed, line]
    rw [place] at differs
    exact .inr ⟨token, member, line, differs⟩

/-- Spacing and a comment at the end of a line, behind closed quotes, move the line break to the
right and nothing else: the tokens and reports are the same, and so is the answer, unless it is an
error at that line break. Carriage returns at the ends of all lines make no other difference. -/
theorem line_ends_are_invisible
    (closed : ∀ report ∈ (scan p).diagnostics, report.kind ≠ .unterminatedString)
    (invisible : Invisible w.toList) (q : String) :
    ScansAlike (place p.toList) w.length (p ++ "\n" ++ q) (p ++ w ++ "\n" ++ q) ∧
      (∀ geometry strict, SameBut (place p.toList) ((place p.toList).right w.length)
        (process geometry strict (p ++ "\n" ++ q)) (process geometry strict (p ++ w ++ "\n" ++ q))) ∧
      ∀ source, TextsWithinLines source → SameButLineBreaks source (withCarriageReturns source) := by
  have scans := scans_alike (closed_of_reports closed) invisible q
  refine ⟨scans, fun geometry strict => ?_, fun source texts => same_but_line_breaks texts⟩
  obtain ⟨front, behind, split, splitAdded⟩ := scans.tokens
  rw [← move_one_line_break split] at splitAdded
  rcases process_moved (move_line_break_moves _ _) splitAdded scans.reports geometry strict with
    same | ⟨token, -, -, differs⟩
  · exact .inl same
  · by_cases here : token = lineBreakAt (place p.toList)
    · rw [here, moveLineBreak, if_pos rfl] at differs
      exact differs
    · rw [moveLineBreak, if_neg here] at differs
      exact .inl (same_at_same_place differs)

/-- A source that breaks off behind an operator, with a quote in a comment. -/
def brokenOff : String := "@startuml\nclass o 'a \"b\n<| A --"

/-- Spacing and a comment that looks like the rest of an operator and an open quote. -/
def hiddenArrow : String := "\t\r '--> \"B"

theorem hidden_arrow_is_invisible :
    (∀ report ∈ (scan brokenOff).diagnostics, report.kind ≠ .unterminatedString) ∧
      Invisible hiddenArrow.toList ∧
      ScansAlike (place brokenOff.toList) hiddenArrow.length (brokenOff ++ "\n" ++ "B\n@enduml")
        (brokenOff ++ hiddenArrow ++ "\n" ++ "B\n@enduml") ∧
      (∀ geometry strict, SameBut (place brokenOff.toList) ((place brokenOff.toList).right hiddenArrow.length)
        (process geometry strict (brokenOff ++ "\n" ++ "B\n@enduml"))
        (process geometry strict (brokenOff ++ hiddenArrow ++ "\n" ++ "B\n@enduml"))) ∧
      TextsWithinLines brokenOff ∧
      SameButLineBreaks brokenOff (withCarriageReturns brokenOff) := by
  have closed : ∀ report ∈ (scan brokenOff).diagnostics, report.kind ≠ .unterminatedString := by
    decide +kernel
  have invisible : Invisible hiddenArrow.toList :=
    ⟨['\t', '\r', ' '], "'--> \"B".toList, by decide +kernel, by simp,
      .inr ⟨"--> \"B".toList, by decide +kernel, by decide +kernel⟩⟩
  have texts : TextsWithinLines brokenOff := by
    unfold TextsWithinLines
    decide +kernel
  obtain ⟨scans, processes, returns⟩ := line_ends_are_invisible closed invisible "B\n@enduml"
  exact ⟨closed, invisible, scans, processes, texts, returns brokenOff texts⟩

end ClassChart
