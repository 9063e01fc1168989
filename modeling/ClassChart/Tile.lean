import ClassChart.Token
import ClassChart.Unicode.Letter

/-!
How a source text falls apart. Every text is a row of tiles: tokens, the blanks and comments
between them, arrow heads that are dropped, and pieces that belong to no token. The tile at the
beginning of a text is decided by its first characters alone; the fixed spellings are tried
longest first, then quoted texts and words. Main statements: no tile is empty, and the tiles of a
text, put together again, are the text.
-/
namespace ClassChart

/-- The mark around a quoted text. -/
def quoteMark : Char := '"'

/-- The mark that begins a comment. -/
def commentMark : Char := '\x27'

/-- Tokens with a fixed spelling; a spelling stands before those that it extends. -/
def fixedSpellings : List (List Char × TokenKind) :=
  [(['<', '|', '-', '-'], .operator .inheritance),
    (['<', '|', '.', '.'], .operator .realization),
    (['-', '-', '>'], .operator .association),
    (['o', '-', '-'], .operator .aggregation),
    (['*', '-', '-'], .operator .composition),
    (['-', '>'], .operator .association),
    (['-', '-'], .operator .link),
    (['-'], .visibilityMark .privateMember),
    (['+'], .visibilityMark .publicMember),
    (['#'], .visibilityMark .protectedMember),
    (['~'], .visibilityMark .packageMember),
    (['\x7b'], .openBrace),
    (['\x7d'], .closeBrace),
    (['('], .openParen),
    ([')'], .closeParen),
    ([':'], .colon),
    ([','], .comma),
    (['>'], .greaterThan),
    (['\n'], .newline)]

/-- The longest fixed spelling at the beginning of a text. -/
def fixedSpelling? (text : List Char) : Option (List Char × TokenKind) :=
  fixedSpellings.find? (·.1.isPrefixOf text)

/-- A character that can begin a word. -/
def isWordStart (c : Char) : Bool :=
  Unicode.isAlphabetic c || c = '_' || c = '@'

/-- A character that can continue a word. -/
def isWordPart (c : Char) : Bool :=
  Unicode.isAlphanumeric c || c = '_'

/-- The kind of token that a word makes. -/
def wordKind (word : List Char) : TokenKind :=
  (keyword? (String.ofList word)).getD .identifier

/-- The blanks between tokens; the line feed is a token. -/
def isSpacing (c : Char) : Bool :=
  c = ' ' || c = '\t' || c = '\r'

/-- A piece of a source text. -/
inductive Tile where
  /-- One character of spacing. -/
  | spacing (c : Char)
  /-- A comment mark and the rest of its line. -/
  | comment (body : List Char)
  /-- An arrow head that starts no operator. -/
  | dropped (arrowHead : List Char)
  /-- A token; the lexeme of a string literal is the text between the quotes. -/
  | token (kind : TokenKind) (lexeme : List Char)
  /-- A character that belongs to no token. -/
  | unexpected (c : Char)
  /-- A quote that is never closed and everything after it. -/
  | unterminated (body : List Char)
  deriving DecidableEq, Repr

/-- The characters of the source that a tile covers. -/
def Tile.text : Tile → List Char
  | .spacing c => [c]
  | .comment body => commentMark :: body
  | .dropped arrowHead => arrowHead
  | .token kind lexeme =>
    if kind = .stringLiteral then quoteMark :: lexeme ++ [quoteMark] else lexeme
  | .unexpected c => [c]
  | .unterminated body => quoteMark :: body

/-- The tile that an opening quote begins. -/
def quotedTile (rest : List Char) : Tile :=
  if rest.contains quoteMark then .token .stringLiteral (rest.takeWhile (· != quoteMark))
  else .unterminated rest

/-- The tile of a word that begins with `c`. -/
def wordTile (c : Char) (rest : List Char) : Tile :=
  let word := c :: rest.takeWhile isWordPart
  .token (wordKind word) word

/-- The arrow head dropped at `<`. -/
def droppedArrowHead (rest : List Char) : List Char :=
  if rest.head? = some '|' then ['<', '|'] else ['<']

/-- The tile at the beginning of the text `c :: rest`. -/
def firstTile (c : Char) (rest : List Char) : Tile :=
  match fixedSpelling? (c :: rest) with
  | some (spelling, kind) => .token kind spelling
  | none =>
    if c = quoteMark then quotedTile rest
    else if isWordStart c then wordTile c rest
    else if isSpacing c then .spacing c
    else if c = commentMark then .comment (rest.takeWhile (· != '\n'))
    else if c = '<' then .dropped (droppedArrowHead rest)
    else .unexpected c

/-! ## A tile covers the beginning of its text -/

theorem fixedSpelling?_isPrefix {text spelling : List Char} {kind : TokenKind}
    (found : fixedSpelling? text = some (spelling, kind)) : spelling <+: text := by
  have := List.find?_some found
  simpa using this

theorem fixedSpelling?_mem {text spelling : List Char} {kind : TokenKind}
    (found : fixedSpelling? text = some (spelling, kind)) : (spelling, kind) ∈ fixedSpellings :=
  List.mem_of_find?_eq_some found

theorem fixedSpelling_ne_nil {spelling : List Char} {kind : TokenKind}
    (listed : (spelling, kind) ∈ fixedSpellings) : spelling ≠ [] ∧ kind ≠ .stringLiteral := by
  have every : ∀ entry ∈ fixedSpellings, entry.1 ≠ [] ∧ entry.2 ≠ .stringLiteral := by decide
  exact every _ listed

theorem wordKind_ne_stringLiteral (word : List Char) : wordKind word ≠ .stringLiteral := by
  unfold wordKind keyword?
  cases found : keywords.find? (·.1 = String.ofList word) with
  | none => simp
  | some entry =>
    have listed := List.mem_of_find?_eq_some found
    have every : ∀ entry ∈ keywords, entry.2 ≠ .stringLiteral := by decide
    simpa using every _ listed

/-- A text that holds the mark `q` begins with what stands before the mark, and the mark. -/
theorem takeWhile_mark_isPrefix (q : Char) :
    ∀ {text : List Char}, q ∈ text → text.takeWhile (· != q) ++ [q] <+: text
  | c :: rest, holds => by
    by_cases same : c = q
    · subst same; simp
    · have later := takeWhile_mark_isPrefix q (List.mem_of_ne_of_mem (Ne.symm same) holds)
      simpa [same] using later

theorem quotedTile_isPrefix (rest : List Char) :
    (quotedTile rest).text <+: quoteMark :: rest := by
  unfold quotedTile
  split
  · rename_i closed
    simpa [Tile.text] using takeWhile_mark_isPrefix quoteMark (by simpa using closed)
  · exact List.prefix_rfl

theorem wordTile_isPrefix (c : Char) (rest : List Char) :
    (wordTile c rest).text <+: c :: rest := by
  simp [wordTile, Tile.text, wordKind_ne_stringLiteral, List.takeWhile_prefix]

theorem droppedArrowHead_isPrefix (rest : List Char) : droppedArrowHead rest <+: '<' :: rest := by
  unfold droppedArrowHead
  split
  · cases rest with
    | nil => simp_all
    | cons d later => simp_all
  · simp

/-- The first tile of a text covers its beginning. -/
theorem firstTile_isPrefix (c : Char) (rest : List Char) :
    (firstTile c rest).text <+: c :: rest := by
  unfold firstTile
  split
  · rename_i spelling kind found
    simpa [Tile.text, (fixedSpelling_ne_nil (fixedSpelling?_mem found)).2]
      using fixedSpelling?_isPrefix found
  · repeat' split
    · simp_all [quotedTile_isPrefix]
    · exact wordTile_isPrefix c rest
    · simp [Tile.text]
    · simp_all [Tile.text, List.takeWhile_prefix]
    · simp_all [Tile.text, droppedArrowHead_isPrefix]
    · simp [Tile.text]

/-- No tile is empty. -/
theorem firstTile_text_ne_nil (c : Char) (rest : List Char) : (firstTile c rest).text ≠ [] := by
  unfold firstTile
  split
  · rename_i spelling kind found
    have := fixedSpelling_ne_nil (fixedSpelling?_mem found)
    simp [Tile.text, this]
  · repeat' split
    · unfold quotedTile; split <;> simp [Tile.text]
    · simp [wordTile, Tile.text, wordKind_ne_stringLiteral]
    · simp [Tile.text]
    · simp [Tile.text]
    · unfold droppedArrowHead; split <;> simp [Tile.text]
    · simp [Tile.text]

/-! ## The row of tiles -/

/-- The tiles of a text. -/
def tiles : List Char → List Tile
  | [] => []
  | c :: rest =>
    let tile := firstTile c rest
    tile :: tiles ((c :: rest).drop tile.text.length)
termination_by text => text.length
decreasing_by
  have := List.length_pos_iff.mpr (firstTile_text_ne_nil c rest)
  simp only [List.length_drop, List.length_cons]
  omega

@[simp] theorem tiles_nil : tiles [] = [] := by
  rw [tiles]

theorem tiles_cons (c : Char) (rest : List Char) :
    tiles (c :: rest) =
      firstTile c rest :: tiles ((c :: rest).drop (firstTile c rest).text.length) := by
  rw [tiles]

/-- The tiles of a text, put together, are the text. -/
theorem flatMap_text_tiles (text : List Char) : (tiles text).flatMap Tile.text = text := by
  fun_induction tiles text with
  | case1 => rfl
  | case2 c rest tile ih =>
    obtain ⟨later, covers⟩ := firstTile_isPrefix c rest
    have behind : (c :: rest).drop tile.text.length = later := by
      rw [← covers]; simp [tile]
    rw [List.flatMap_cons, ih, behind]
    exact covers

end ClassChart
