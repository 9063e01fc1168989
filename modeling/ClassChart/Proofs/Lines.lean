import ClassChart.Proofs.LineEnds

/-! Lines. A text whose quotes are closed can be cut at a line feed behind it, and what stands below
is scanned as if it stood alone, only further down. So the tokens of a source are found line by line:
an edit within one line keeps all tokens on other lines, unless a quote that was closed at the end of
the line is open there after the edit, or the other way round. -/
namespace ClassChart

/-! ## Further down -/

/-- The same column, so many lines further down. -/
def Position.down (position : Position) (lines : Nat) : Position :=
  ⟨position.line + lines, position.column⟩

/-- The same token, so many lines further down. -/
def Token.down (token : Token) (lines : Nat) : Token :=
  { token with position := token.position.down lines }

/-- The same report, so many lines further down. -/
def Diagnostic.down (report : Diagnostic) (lines : Nat) : Diagnostic :=
  { report with position := report.position.map (·.down lines) }

theorem after_down (position : Position) (lines : Nat) (text : List Char) :
    (position.down lines).after text = (position.after text).down lines := by
  induction text generalizing position with
  | nil => rfl
  | cons c text ih =>
    have moves : (position.down lines).advance c = (position.advance c).down lines := by
      by_cases feed : c = '\n'
      · simp [Position.advance, Position.down, feed, Nat.add_right_comm]
      · simp [Position.advance, Position.down, feed]
    rw [Position.after_cons, moves, ih, Position.after_cons]

theorem row_tokens_down (position : Position) (lines : Nat) (row : List Tile) :
    rowTokens (position.down lines) row = (rowTokens position row).map (·.down lines) := by
  induction row generalizing position with
  | nil => rfl
  | cons tile row ih =>
    rw [row_tokens_cons, row_tokens_cons, after_down, ih, List.map_append]
    cases tile <;> rfl

theorem row_reports_down (position : Position) (lines : Nat) (row : List Tile) :
    rowReports (position.down lines) row = (rowReports position row).map (·.down lines) := by
  induction row generalizing position with
  | nil => rfl
  | cons tile row ih =>
    rw [row_reports_cons, row_reports_cons, after_down, ih, List.map_append]
    cases tile <;> rfl

/-- The line below the text begins so many lines below the first one. -/
theorem below_place (text : List Char) :
    (place text).below = Position.start.down (text.count '\n' + 1) := by
  simp only [place, Position.below, Position.down, Position.start, Position.mk.injEq, and_true]
  omega

/-- What scanning makes of a text with a line feed and more text behind it. -/
structure ScansApart (first second whole : String) : Prop where
  tokens : ∃ tokens, (scan first).tokens = tokens ++ [⟨.endOfInput, "", place first.toList⟩] ∧
    (scan whole).tokens = tokens ++ ⟨.newline, "\n", place first.toList⟩ ::
      (scan second).tokens.map (·.down (first.toList.count '\n' + 1))
  reports : (scan whole).diagnostics = (scan first).diagnostics ++
    (scan second).diagnostics.map (·.down (first.toList.count '\n' + 1))

theorem scans_apart (closed : Closed p.toList) (q : String) : ScansApart p q (p ++ "\n" ++ q) := by
  have pieces : (p ++ "\n" ++ q).toList = p.toList ++ '\n' :: q.toList := by simp
  obtain ⟨tokens, reports⟩ := row_at_line_feed closed .start q.toList
  rw [after_start, below_place] at tokens reports
  have ends : endToken (p ++ "\n" ++ q) = (endToken q).down (p.toList.count '\n' + 1) := by
    rw [endToken, pieces, after_line_feed, after_start, below_place, after_down]
    rfl
  refine ⟨⟨rowTokens .start (tiles p.toList), ?_, ?_⟩, ?_⟩
  · rw [scan_tokens, endToken, after_start]
  · rw [scan_tokens, pieces, tokens, ends, row_tokens_down, scan_tokens q, List.map_append,
      List.append_assoc]
    rfl
  · rw [scan_reports, pieces, reports, row_reports_down]
    rfl

/-! ## Tokens off a line -/

/-- The last line that a token reaches. Of all tokens only quoted texts go on over line feeds. -/
def Token.lastLine (token : Token) : Nat :=
  token.position.line + if token.kind = .stringLiteral then token.lexeme.toList.count '\n' else 0

/-- The tokens that lie on other lines from their beginning to their end. -/
def tokensOff (line : Nat) (tokens : List Token) : List Token :=
  tokens.filter fun token => token.lastLine < line || line < token.position.line

theorem tokens_off_append (line : Nat) (first second : List Token) :
    tokensOff line (first ++ second) = tokensOff line first ++ tokensOff line second :=
  List.filter_append ..

theorem token_on_line {token : Token} (begins : token.position.line ≤ line)
    (reaches : line ≤ token.lastLine) (tokens : List Token) :
    tokensOff line (token :: tokens) = tokensOff line tokens := by
  rw [tokensOff, List.filter_cons_of_neg, tokensOff]
  simp only [Bool.or_eq_true, decide_eq_true_eq]
  omega

/-- A token that begins on a line is not off that line. -/
theorem token_begins_on_line {token : Token} (begins : token.position.line = line)
    (tokens : List Token) : tokensOff line (token :: tokens) = tokensOff line tokens :=
  token_on_line (Nat.le_of_eq begins) (begins ▸ Nat.le_add_right ..) tokens

/-- The tokens of a row that lies on one line are all on that line. -/
theorem row_on_line (within : '\n' ∉ row.flatMap Tile.text) :
    tokensOff position.line (rowTokens position row) = [] := by
  induction row generalizing position with
  | nil => rfl
  | cons tile row ih =>
    simp only [List.flatMap_cons, List.mem_append, not_or] at within
    have same : (position.after tile.text).line = position.line := by
      rw [after_within_line within.1]
      rfl
    rw [row_tokens_cons, tokens_off_append, ← same, ih within.2, List.append_nil, same]
    cases holds : PlacedTile.token? ⟨position, tile⟩ with
    | none => rfl
    | some token => exact token_begins_on_line (congrArg Position.line (token_position holds)) []

/-- The tokens that a text has off a line of its source when it stands at `position` there. -/
def textOff (line : Nat) (position : Position) (text : List Char) : List Token :=
  tokensOff line (rowTokens position (tiles text))

theorem off_nothing (line : Nat) (position : Position) : textOff line position [] = [] := by
  simp [textOff, rowTokens, placeTiles, tokensOff]

theorem line_after (position : Position) (text : List Char) :
    (position.after text).line = position.line + text.count '\n' := by
  induction text generalizing position with
  | nil => rfl
  | cons c text ih =>
    rw [Position.after_cons, ih]
    by_cases feed : c = '\n'
    · simp only [Position.advance, feed, if_true, List.count_cons_self]
      omega
    · simp [Position.advance, feed]

/-- A line feed ends its line, and in which column it stands makes no difference below. -/
theorem off_below (same : first.line = second.line) (begins : ∀ c ∈ below.head?, c = '\n') :
    textOff first.line first below = textOff first.line second below := by
  cases below with
  | nil => rw [off_nothing, off_nothing]
  | cons c below =>
    obtain rfl : c = '\n' := begins c rfl
    have nothing : Closed [] := by simp [Closed]
    have feed : ∀ position : Position, textOff position.line position ('\n' :: below) =
        textOff position.line position.below below := by
      intro position
      obtain ⟨tokens, -⟩ := row_at_line_feed nothing position below
      rw [tiles_nil] at tokens
      rw [textOff, ← List.nil_append ('\n' :: below), tokens]
      exact token_begins_on_line rfl _
    have next : first.below = second.below := by simp [Position.below, same]
    rw [feed first, next, same, feed second]

theorem line_after_quote (position : Position) (quoted : List Char) :
    (position.after (quoteMark :: quoted)).line = position.line + quoted.count '\n' := by
  have other : quoteMark ≠ '\n' := by decide
  rw [line_after, List.count_cons_of_ne other]

theorem quoted_tiles (inside : quoteMark ∉ quoted) :
    tiles (quoteMark :: (quoted ++ quoteMark :: later)) =
      .token .stringLiteral quoted :: tiles later := by
  have stands : (Tile.token .stringLiteral quoted).Stands later := quoted_stands inside
  simpa [Tile.text] using tiles_of_stands stands

/-- A quoted text that begins before the end of a line and ends on it or below is not off that line,
so only what stands behind it counts. -/
theorem off_behind_quote (inside : quoteMark ∉ quoted) (before : position.line ≤ line)
    (reaches : line ≤ (position.after (quoteMark :: quoted)).line) (later : List Char) :
    textOff line position (quoteMark :: (quoted ++ quoteMark :: later)) =
      textOff line (position.after (quoteMark :: quoted ++ [quoteMark])) later := by
  rw [line_after_quote] at reaches
  have covered : line ≤ (Token.mk .stringLiteral (String.ofList quoted) position).lastLine := by
    simpa [Token.lastLine] using reaches
  rw [textOff, quoted_tiles inside, row_tokens_cons]
  exact token_on_line before covered _

/-! ## The end of a line -/

/-- What stands below a line, as far as it lies off that line, depends on the text up to the end of
the line only in whether a quote is open there. -/
structure Settled (line : Nat) (position : Position) (text : List Char) : Prop where
  closed : Closed text → ∀ below : List Char, (∀ c ∈ below.head?, c = '\n') →
    textOff line position (text ++ below) = textOff line ⟨line, 1⟩ below
  opened : ¬ Closed text → ∀ below : List Char, (∀ c ∈ below.head?, c = '\n') →
    textOff line position (text ++ below) = textOff line ⟨line, 1⟩ (quoteMark :: below)

theorem foreign_below (begins : ∀ c ∈ below.head?, c = '\n') : Foreign below := by
  cases below with
  | nil => simp [Foreign]
  | cons c below => exact foreign_of_head (by simp [begins c rfl])

theorem open_quote_unclosed (inside : quoteMark ∉ quoted) : ¬ Closed (quoteMark :: quoted) := by
  simp [Closed, open_quote_tiles inside, Tile.sort]

/-- An open quote goes on to the end of the text. -/
theorem open_quote_covers (split : tiles text = front ++ [.unterminated body]) :
    front.flatMap Tile.text ++ quoteMark :: body = text := by
  rw [← flatMap_text_tiles text, split]
  simp [Tile.text]

theorem closed_behind_quote (inside : quoteMark ∉ quoted) :
    Closed (quoteMark :: (quoted ++ quoteMark :: later)) ↔ Closed later := by
  simp [Closed, quoted_tiles inside, Tile.sort]

/-- A quoted text that is open at the end of a line leaves what stands behind its second quote. -/
theorem off_into_below (inside : quoteMark ∉ quoted) (apart : quoteMark ∉ between)
    (here : (position.after (quoteMark :: quoted)).line = line) (later : List Char) :
    textOff line position (quoteMark :: (quoted ++ '\n' :: (between ++ quoteMark :: later))) =
      textOff line (Position.after ⟨line + 1, 1⟩ (between ++ [quoteMark])) later := by
  have other : quoteMark ≠ '\n' := by decide
  have whole : quoteMark ∉ quoted ++ '\n' :: between := by simp [inside, apart, other]
  have before : position.line ≤ line := by
    rw [← here, line_after]
    exact Nat.le_add_right ..
  have next : (position.after (quoteMark :: quoted)).below = ⟨line + 1, 1⟩ := by
    rw [Position.below, here]
  have reaches : line ≤ (position.after (quoteMark :: (quoted ++ '\n' :: between))).line := by
    rw [← List.cons_append, Position.after_append, line_after, here]
    exact Nat.le_add_right ..
  have left := off_behind_quote whole before reaches later
  rw [List.append_assoc, List.cons_append] at left
  rw [left, ← next, ← after_line_feed]
  simp

/-- A quote that is open at the end of a line goes on to the next quote below. -/
theorem off_open_quote (inside : quoteMark ∉ quoted)
    (here : (position.after (quoteMark :: quoted)).line = line)
    (begins : ∀ c ∈ below.head?, c = '\n') :
    textOff line position (quoteMark :: (quoted ++ below)) =
      textOff line ⟨line, 1⟩ (quoteMark :: below) := by
  -- The quote goes on to the first quote below the line, or to the end of the source.
  by_cases closes : quoteMark ∈ below
  · obtain ⟨between, later, rfl, apart⟩ := List.eq_append_cons_of_mem closes
    cases between with
    | nil => exact absurd (begins quoteMark rfl) (by decide)
    | cons c between =>
      obtain rfl : c = '\n' := begins c rfl
      have alone : (Position.after ⟨line, 1⟩ [quoteMark]).line = line := rfl
      have nothing : quoteMark ∉ ([] : List Char) := by simp
      have apartBelow : quoteMark ∉ between := List.not_mem_of_not_mem_cons apart
      have right := off_into_below nothing apartBelow alone later
      rw [List.cons_append, off_into_below inside apartBelow here]
      exact right.symm
  · have neither : quoteMark ∉ quoted ++ below := by simp [inside, closes]
    rw [textOff, textOff, open_quote_tiles neither, open_quote_tiles closes]
    rfl

/-- A text within a line that begins outside of quotes. -/
theorem settled_line (within : '\n' ∉ text) (here : position.line = line) :
    Settled line position text := by
  subst here
  have stays : (position.after text).line = position.line := by
    rw [after_within_line within]
    rfl
  constructor
  · intro closed below begins
    have alone : tokensOff position.line (rowTokens position (tiles text)) = [] :=
      row_on_line (by rwa [flatMap_text_tiles])
    have moved : textOff position.line ⟨position.line, 1⟩ below =
        textOff position.line (position.after text) below := by
      have same : (Position.mk position.line 1).line = (position.after text).line := stays.symm
      exact off_below same begins
    cases below with
    | nil =>
      rw [List.append_nil, off_nothing]
      exact alone
    | cons c below =>
      obtain rfl : c = '\n' := begins c rfl
      have feed : tiles ('\n' :: below) = lineFeed :: tiles below := tiles_of_stands line_feed_stands
      rw [moved, textOff, tiles_cut closed, row_tokens_append, tokens_off_append, alone,
        flatMap_text_tiles, List.nil_append, textOff, feed]
  · intro unclosed below begins
    obtain ⟨front, body, split, inside⟩ := open_quote_last unclosed
    have covers := open_quote_covers split
    have first : '\n' ∉ front.flatMap Tile.text := by
      intro feed
      exact within (covers ▸ List.mem_append_left _ feed)
    have here : (position.after (front.flatMap Tile.text ++ quoteMark :: body)).line = position.line := by
      rw [covers]
      exact stays
    rw [Position.after_append] at here
    rw [textOff, tiles_behind_open_quote split (foreign_below begins), row_tokens_append,
      tokens_off_append, row_on_line first, List.nil_append]
    exact off_open_quote inside here begins

/-- A text that begins with a quote and goes on to the end of a line. -/
theorem settled_quote (inside : quoteMark ∉ quoted)
    (here : (position.after (quoteMark :: quoted)).line = line) (within : '\n' ∉ text) :
    Settled line position (quoteMark :: (quoted ++ text)) := by
  have stays : ∀ more, '\n' ∉ more → (position.after (quoteMark :: (quoted ++ more))).line = line := by
    intro more without
    rw [← List.cons_append, Position.after_append, after_within_line without]
    exact here
  by_cases closes : quoteMark ∈ text
  · obtain ⟨between, rest, rfl, apart⟩ := List.eq_append_cons_of_mem closes
    simp only [List.mem_append, List.mem_cons, not_or] at within
    have whole : quoteMark ∉ quoted ++ between := by simp [inside, apart]
    have before : position.line ≤ line := by
      rw [← here, line_after]
      exact Nat.le_add_right ..
    have reaches := stays between within.1
    have behind := off_behind_quote whole before (Nat.le_of_eq reaches.symm)
    have next : (position.after (quoteMark :: (quoted ++ between) ++ [quoteMark])).line = line := by
      rw [Position.after_append, after_within_line (by decide)]
      exact reaches
    have rests := settled_line within.2.2 next
    rw [← List.append_assoc]
    constructor
    · intro closed below begins
      have same := rests.closed ((closed_behind_quote whole).mp closed) below begins
      rw [← same, ← behind]
      simp
    · intro unclosed below begins
      have same := rests.opened (fun closed => unclosed ((closed_behind_quote whole).mpr closed)) below begins
      rw [← same, ← behind]
      simp
  · have whole : quoteMark ∉ quoted ++ text := by simp [inside, closes]
    refine ⟨fun closed => absurd closed (open_quote_unclosed whole), fun _ below begins => ?_⟩
    rw [List.cons_append]
    exact off_open_quote whole (stays text within) begins

/-- An open quote is the last tile of a text, so the tiles in front of another one are closed. -/
theorem closed_in_front (split : tiles text = front ++ tile :: back) :
    ∀ other ∈ front, other.sort ≠ .unterminated := by
  have stands := tiles_stand text
  rw [split] at stands
  obtain ⟨first, here, -⟩ := row_stands_split stands
  refine row_closed first ?_
  simp [stands_nonempty here]

/-- Where a line begins: behind a row of tiles, and possibly within a quoted text. -/
theorem line_begins (whole : ∀ c ∈ above.getLast?, c = '\n') :
    ∃ row quoted, (∀ tile ∈ row, tile.sort ≠ .unterminated) ∧
      (∀ more, tiles (above ++ more) = row ++ tiles (quoted ++ more)) ∧
      ∀ text, '\n' ∉ text → Settled (Position.start.after above).line
        (Position.start.after (row.flatMap Tile.text)) (quoted ++ text) := by
  cases last : above.getLast? with
  | none =>
    obtain rfl := List.getLast?_eq_none_iff.mp last
    exact ⟨[], [], by simp, fun _ => rfl, fun text within => settled_line within rfl⟩
  | some c =>
    obtain rfl : c = '\n' := whole c last
    obtain ⟨text, rfl⟩ := List.getLast?_eq_some_iff.mp last
    -- A quote that is open above the line feed takes it in, and the line begins within quotes.
    by_cases closed : Closed text
    · refine ⟨tiles text ++ [lineFeed], [], ?_, fun more => ?_, fun line within => ?_⟩
      · intro tile member
        rcases List.mem_append.mp member with inText | feed
        · exact closed tile inText
        · simp [List.mem_singleton.mp feed, lineFeed, Tile.sort]
      · simp [tiles_cut closed]
      · refine settled_line within ?_
        simp [flatMap_text_tiles, lineFeed, Tile.text]
    · obtain ⟨front, body, split, inside⟩ := open_quote_last closed
      have covers := open_quote_covers split
      have other : quoteMark ≠ '\n' := by decide
      refine ⟨front, quoteMark :: (body ++ ['\n']), closed_in_front split, fun more => ?_,
        fun line within => ?_⟩
      · rw [List.append_assoc, List.singleton_append,
          tiles_behind_open_quote split (foreign_of_head (by simp))]
        simp
      · refine settled_quote (by simp [inside, other]) ?_ within
        rw [← Position.after_append, ← covers]
        simp

/-! ## Edits -/

/-- A source in which one line is replaced. -/
structure LineEdit where
  above : String
  line : String
  replacement : String
  below : String
  /-- The line begins at the beginning of the source or behind a line feed. -/
  begins : ∀ c ∈ above.toList.getLast?, c = '\n'
  /-- The line ends at the end of the source or at a line feed. -/
  ends : ∀ c ∈ below.toList.head?, c = '\n'
  lineWithin : '\n' ∉ line.toList
  replacementWithin : '\n' ∉ replacement.toList

namespace LineEdit

/-- The number of the replaced line. -/
def number (edit : LineEdit) : Nat :=
  (place edit.above.toList).line

/-- The source as it was. -/
def source (edit : LineEdit) : String :=
  edit.above ++ edit.line ++ edit.below

/-- The source with the line replaced. -/
def result (edit : LineEdit) : String :=
  edit.above ++ edit.replacement ++ edit.below

end LineEdit

/-- No quote is open at the end of the source. -/
def EndsClosed (source : String) : Prop :=
  ∀ report ∈ (scan source).diagnostics, report.kind ≠ .unterminatedString

theorem reports_of_closed (closed : ∀ tile ∈ row, tile.sort ≠ .unterminated) :
    ∀ report ∈ rowReports position row, report.kind ≠ .unterminatedString := by
  induction row generalizing position with
  | nil => simp [rowReports, placeTiles]
  | cons tile row ih =>
    intro report member
    rw [row_reports_cons] at member
    rcases List.mem_append.mp member with here | later
    · have plain := closed tile (by simp)
      cases tile with
      | unexpected c =>
        obtain rfl : report = .unexpectedCharacter c position := by
          simpa [PlacedTile.diagnostic?] using here
        simp [Diagnostic.unexpectedCharacter]
      | unterminated body => exact absurd rfl plain
      | _ => simp [PlacedTile.diagnostic?] at here
    · exact ih (fun other inRow => closed other (by simp [inRow])) report later

theorem ends_closed_iff : EndsClosed source ↔ Closed source.toList :=
  ⟨closed_of_reports, reports_of_closed⟩

/-- The end of input that stands below a line does not depend on the columns of that line. -/
theorem end_off {position : Position} (here : position.line = line) (begins : ∀ c ∈ below.head?, c = '\n') :
    tokensOff line [⟨.endOfInput, "", position.after below⟩] =
      tokensOff line [⟨.endOfInput, "", Position.after ⟨line, 1⟩ below⟩] := by
  cases below with
  | nil =>
    have onLine : ∀ start : Position, start.line = line →
        tokensOff line [⟨.endOfInput, "", start⟩] = [] :=
      fun start same => token_begins_on_line same []
    exact (onLine position here).trans (onLine ⟨line, 1⟩ rfl).symm
  | cons c below =>
    obtain rfl : c = '\n' := begins c rfl
    have next : position.below = Position.below ⟨line, 1⟩ := by simp [Position.below, here]
    have feed : ∀ start : Position, start.after ('\n' :: below) = start.below.after below :=
      fun _ => rfl
    rw [feed, feed, next]

theorem closed_append_iff (closed : ∀ tile ∈ row, tile.sort ≠ .unterminated)
    (cut : tiles text = row ++ tiles more) : Closed text ↔ Closed more := by
  rw [Closed, Closed, cut]
  constructor
  · exact fun all tile member => all tile (List.mem_append_right _ member)
  · intro all tile member
    rcases List.mem_append.mp member with inRow | inMore
    · exact closed tile inRow
    · exact all tile inMore

/-- Two lines with the same text above and below them, after both or neither of which a quote is
open, leave the same tokens off the line. -/
theorem lines_leave_same (whole : ∀ c ∈ above.getLast?, c = '\n')
    (begins : ∀ c ∈ below.head?, c = '\n') (within : '\n' ∉ line) (withinOther : '\n' ∉ other)
    (same : Closed (above ++ line) ↔ Closed (above ++ other)) :
    textOff (Position.start.after above).line .start (above ++ (other ++ below)) =
      textOff (Position.start.after above).line .start (above ++ (line ++ below)) := by
  obtain ⟨row, quoted, closed, cut, settles⟩ := line_begins whole
  have settled := settles line within
  have settledOther := settles other withinOther
  rw [closed_append_iff closed (cut line), closed_append_iff closed (cut other)] at same
  have rests : textOff (Position.start.after above).line
        (Position.start.after (row.flatMap Tile.text)) (quoted ++ other ++ below) =
      textOff (Position.start.after above).line
        (Position.start.after (row.flatMap Tile.text)) (quoted ++ line ++ below) := by
    by_cases closes : Closed (quoted ++ line)
    · rw [settled.closed closes below begins, settledOther.closed (same.mp closes) below begins]
    · rw [settled.opened closes below begins, settledOther.opened (closes ∘ same.mpr) below begins]
  rw [textOff, textOff, List.append_assoc, List.append_assoc] at rests
  rw [textOff, textOff, cut, cut, row_tokens_append, row_tokens_append, tokens_off_append,
    tokens_off_append, rests]

theorem edit_keeps_other_lines (edit : LineEdit)
    (same : EndsClosed (edit.above ++ edit.line) ↔ EndsClosed (edit.above ++ edit.replacement)) :
    tokensOff edit.number (scan edit.result).tokens =
      tokensOff edit.number (scan edit.source).tokens := by
  rw [ends_closed_iff, ends_closed_iff, String.toList_append, String.toList_append] at same
  have tokens := lines_leave_same edit.begins edit.ends edit.lineWithin edit.replacementWithin same
  have stays : ∀ text, '\n' ∉ text →
      ((place edit.above.toList).after text).line = (place edit.above.toList).line := by
    intro text inside
    rw [after_within_line inside]
    rfl
  have first := end_off (stays _ edit.lineWithin) edit.ends
  have second := end_off (stays _ edit.replacementWithin) edit.ends
  have pieces : ∀ line, (edit.above ++ line ++ edit.below).toList =
      edit.above.toList ++ (line.toList ++ edit.below.toList) := by simp
  have end_ : ∀ line, endToken (edit.above ++ line ++ edit.below) =
      ⟨.endOfInput, "", ((place edit.above.toList).after line.toList).after edit.below.toList⟩ := by
    intro line
    rw [endToken, pieces, Position.after_append, Position.after_append, after_start]
  rw [after_start] at tokens
  rw [LineEdit.source, LineEdit.result, scan_tokens, scan_tokens, tokens_off_append,
    tokens_off_append, end_, end_, pieces, pieces]
  exact congrArg₂ _ tokens (second.trans first.symm)

/-- A text that leaves no quote open is scanned apart from what stands below it: its tokens and
reports come first, and then, after the token of the line feed, those of the text below, so many lines
further down. An edit of one line therefore keeps all tokens that lie on other lines, unless it opens
or closes a quote at the end of the line. -/
theorem lines_scan_apart (closed : EndsClosed p) (q : String) :
    ScansApart p q (p ++ "\n" ++ q) ∧
      ∀ edit : LineEdit,
        (EndsClosed (edit.above ++ edit.line) ↔ EndsClosed (edit.above ++ edit.replacement)) →
        tokensOff edit.number (scan edit.result).tokens =
          tokensOff edit.number (scan edit.source).tokens :=
  ⟨scans_apart (ends_closed_iff.mp closed) q, edit_keeps_other_lines⟩

/-- A text with a quoted line feed, and with a quote in a comment at its end. -/
def upperLines : String := "o \"a\nb\" ? --'\""

/-- A text that would go on with the last operator, and leaves a quote open. -/
def lowerLines : String := "> @x\n\"y"

/-- An edit of a line that begins and ends within quotes, before and after. -/
def quotedEdit : LineEdit where
  above := "A \"x\n"
  line := "y\" B \"z"
  replacement := "--> '"
  below := "\n\" C\n"
  begins := by simp
  ends := by simp
  lineWithin := by decide +kernel
  replacementWithin := by decide +kernel

theorem comment_ends_above : EndsClosed upperLines ∧
    ScansApart upperLines lowerLines (upperLines ++ "\n" ++ lowerLines) ∧
    ¬ EndsClosed (quotedEdit.above ++ quotedEdit.line) ∧
    ¬ EndsClosed (quotedEdit.above ++ quotedEdit.replacement) ∧
    tokensOff quotedEdit.number (scan quotedEdit.result).tokens =
      tokensOff quotedEdit.number (scan quotedEdit.source).tokens := by
  have closed : EndsClosed upperLines := by
    unfold EndsClosed
    decide +kernel
  have opened : ¬ EndsClosed (quotedEdit.above ++ quotedEdit.line) := by
    unfold EndsClosed
    decide +kernel
  have openedStill : ¬ EndsClosed (quotedEdit.above ++ quotedEdit.replacement) := by
    unfold EndsClosed
    decide +kernel
  obtain ⟨apart, edits⟩ := lines_scan_apart closed lowerLines
  exact ⟨closed, apart, opened, openedStill, edits quotedEdit (iff_of_false opened openedStill)⟩

end ClassChart
