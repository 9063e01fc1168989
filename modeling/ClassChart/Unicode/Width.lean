import ClassChart.Unicode.Grapheme
import ClassChart.Unicode.Emoji

/-!
The number of columns a text takes on a character grid. A character takes no column, one or two by
its class; a few sequences take a width of their own: an emoji with a selector, a skin tone or a
joined emoji, and the Arabic ligature of lam and alef. The text is read from its end, so that
each character is measured knowing what follows it.
-/
namespace ClassChart.Unicode

/-- Code points whose East_Asian_Width is Wide or Fullwidth. -/
def wideSet : RangeSet := ⟨[
    (0x1100, 0x115F), (0x231A, 0x231B), (0x2329, 0x232A), (0x23E9, 0x23EC), (0x23F0, 0x23F0),
    (0x23F3, 0x23F3), (0x25FD, 0x25FE), (0x2614, 0x2615), (0x2630, 0x2637), (0x2648, 0x2653),
    (0x267F, 0x267F), (0x268A, 0x268F), (0x2693, 0x2693), (0x26A1, 0x26A1), (0x26AA, 0x26AB),
    (0x26BD, 0x26BE), (0x26C4, 0x26C5), (0x26CE, 0x26CE), (0x26D4, 0x26D4), (0x26EA, 0x26EA),
    (0x26F2, 0x26F3), (0x26F5, 0x26F5), (0x26FA, 0x26FA), (0x26FD, 0x26FD), (0x2705, 0x2705),
    (0x270A, 0x270B), (0x2728, 0x2728), (0x274C, 0x274C), (0x274E, 0x274E), (0x2753, 0x2755),
    (0x2757, 0x2757), (0x2795, 0x2797), (0x27B0, 0x27B0), (0x27BF, 0x27BF), (0x2B1B, 0x2B1C),
    (0x2B50, 0x2B50), (0x2B55, 0x2B55), (0x2E80, 0x2E99), (0x2E9B, 0x2EF3), (0x2F00, 0x2FD5),
    (0x2FF0, 0x303E), (0x3041, 0x3096), (0x3099, 0x30FF), (0x3105, 0x312F), (0x3131, 0x318E),
    (0x3190, 0x31E5), (0x31EF, 0x321E), (0x3220, 0x3247), (0x3250, 0xA48C), (0xA490, 0xA4C6),
    (0xA960, 0xA97C), (0xAC00, 0xD7A3), (0xF900, 0xFAFF), (0xFE10, 0xFE19), (0xFE30, 0xFE52),
    (0xFE54, 0xFE66), (0xFE68, 0xFE6B), (0xFF01, 0xFF60), (0xFFE0, 0xFFE6), (0x16FE0, 0x16FE4),
    (0x16FF0, 0x16FF1), (0x17000, 0x187F7), (0x18800, 0x18CD5), (0x18D00, 0x18D08),
    (0x1AFF0, 0x1AFF3), (0x1AFF5, 0x1AFFB), (0x1AFFD, 0x1AFFE), (0x1B000, 0x1B122),
    (0x1B132, 0x1B132), (0x1B150, 0x1B152), (0x1B155, 0x1B155), (0x1B164, 0x1B167),
    (0x1B170, 0x1B2FB), (0x1D300, 0x1D356), (0x1D360, 0x1D376), (0x1F004, 0x1F004),
    (0x1F0CF, 0x1F0CF), (0x1F18E, 0x1F18E), (0x1F191, 0x1F19A), (0x1F200, 0x1F202),
    (0x1F210, 0x1F23B), (0x1F240, 0x1F248), (0x1F250, 0x1F251), (0x1F260, 0x1F265),
    (0x1F300, 0x1F320), (0x1F32D, 0x1F335), (0x1F337, 0x1F37C), (0x1F37E, 0x1F393),
    (0x1F3A0, 0x1F3CA), (0x1F3CF, 0x1F3D3), (0x1F3E0, 0x1F3F0), (0x1F3F4, 0x1F3F4),
    (0x1F3F8, 0x1F43E), (0x1F440, 0x1F440), (0x1F442, 0x1F4FC), (0x1F4FF, 0x1F53D),
    (0x1F54B, 0x1F54E), (0x1F550, 0x1F567), (0x1F57A, 0x1F57A), (0x1F595, 0x1F596),
    (0x1F5A4, 0x1F5A4), (0x1F5FB, 0x1F64F), (0x1F680, 0x1F6C5), (0x1F6CC, 0x1F6CC),
    (0x1F6D0, 0x1F6D2), (0x1F6D5, 0x1F6D7), (0x1F6DC, 0x1F6DF), (0x1F6EB, 0x1F6EC),
    (0x1F6F4, 0x1F6FC), (0x1F7E0, 0x1F7EB), (0x1F7F0, 0x1F7F0), (0x1F90C, 0x1F93A),
    (0x1F93C, 0x1F945), (0x1F947, 0x1F9FF), (0x1FA70, 0x1FA7C), (0x1FA80, 0x1FA89),
    (0x1FA8F, 0x1FAC6), (0x1FACE, 0x1FADC), (0x1FADF, 0x1FAE9), (0x1FAF0, 0x1FAF8),
    (0x20000, 0x2FFFD), (0x30000, 0x3FFFD)]⟩

/-- Code points with the property Default_Ignorable_Code_Point. -/
def ignorableSet : RangeSet := ⟨[
    (0xAD, 0xAD), (0x34F, 0x34F), (0x61C, 0x61C), (0x115F, 0x1160), (0x17B4, 0x17B5),
    (0x180B, 0x180F), (0x200B, 0x200F), (0x202A, 0x202E), (0x2060, 0x206F), (0x3164, 0x3164),
    (0xFE00, 0xFE0F), (0xFEFF, 0xFEFF), (0xFFA0, 0xFFA0), (0xFFF0, 0xFFF8), (0x1BCA0, 0x1BCA3),
    (0x1D173, 0x1D17A), (0xE0000, 0xE0FFF)]⟩

/-- Vowels and final consonants of Hangul, and signs that Arabic and Devanagari draw onto
their neighbours: they take no column of their own. -/
def attachedSet : RangeSet := ⟨[
    (0x605, 0x605), (0x890, 0x891), (0x8E2, 0x8E2), (0x1160, 0x11FF), (0xA8FA, 0xA8FA),
    (0xD7B0, 0xD7C6), (0xD7CB, 0xD7FB)]⟩

/-- Letters whose Joining_Group is Lam. -/
def lamSet : RangeSet := ⟨[
    (0x644, 0x644), (0x6B5, 0x6B8), (0x76A, 0x76A), (0x8A6, 0x8A6), (0x8C7, 0x8C7)]⟩

/-- Letters whose Joining_Group is Alef. -/
def alefSet : RangeSet := ⟨[
    (0x622, 0x623), (0x625, 0x625), (0x627, 0x627), (0x671, 0x673), (0x675, 0x675),
    (0x773, 0x774), (0x870, 0x882)]⟩

/-- The selector that asks for the character before it as an emoji. -/
def emojiSelector : Char := '\uFE0F'

/-- The selector that asks for the character before it as a plain symbol. -/
def textSelector : Char := '\uFE0E'

/-- The joiner that draws its two neighbours as one. -/
def joiner : Char := '\u200D'

/-- The character that keeps its two neighbours apart. -/
def nonJoiner : Char := '\u200C'

/-- A character drawn onto its neighbours, or not at all. -/
def isZeroWidth (c : Char) : Bool :=
  ignorableSet.contains c || extendsGrapheme c || attachedSet.contains c

/-- The columns of a character that stands alone. Up to the no-break space every character but
the line feed takes one; four letters differ from what their properties say. -/
def charWidth (c : Char) : Nat :=
  if c = '\n' then 0
  else if c.toNat ≤ 0xA0 then 1
  else if c.toNat = 0x115F || c.toNat = 0x17A4 then 2
  else if c.toNat = 0x17D8 then 3
  else if c.toNat = 0x2D7F then 1
  else if isZeroWidth c then 0
  else if wideSet.contains c then 2
  else 1

/-- What the characters after a position mean for the one before it. -/
inductive Following where
  | nothing
  | lineFeed
  /-- An emoji selector; `joined` tells whether a joiner and an emoji come next. -/
  | emojiSelector (joined : Bool)
  | textSelector
  | emoji
  | skinTone
  /-- A joiner and an emoji. -/
  | joinedEmoji
  /-- Arabic alef, maybe after marks. -/
  | alef
  deriving DecidableEq

/-- What a character that stands alone means for the one before it. -/
def followingAlone (c : Char) : Following :=
  if c = '\n' then .lineFeed
  else if isSkinTone c then .skinTone
  else if isEmoji c then .emoji
  else if alefSet.contains c then .alef
  else .nothing

/-- A symbol with a plain form. Emoji of the block Enclosed Ideographic Supplement have none. -/
def hasTextForm (c : Char) : Bool :=
  isEmoji c && !(0x1F200 ≤ c.toNat && c.toNat ≤ 0x1F2FF)

/-- The columns that `c` adds before what follows it, and what it then means for its own
predecessor. -/
def widthBefore (c : Char) (next : Following) : Nat × Following :=
  if c = emojiSelector then (0, .emojiSelector (next = .joinedEmoji))
  else if c = textSelector then (0, .textSelector)
  else match next with
    | .lineFeed =>
      if c = '\r' then (0, .nothing) else (charWidth c, followingAlone c)
    | .emojiSelector joined =>
      if isEmojiBase c then (if joined then 0 else 2, .emoji) else (charWidth c, followingAlone c)
    | .textSelector =>
      if hasTextForm c then (1, .nothing) else (charWidth c, followingAlone c)
    | .emoji =>
      if c = joiner then (0, .joinedEmoji) else (charWidth c, followingAlone c)
    | .skinTone =>
      if c = joiner then (0, .joinedEmoji)
      else if takesSkinTone c then (0, .emoji)
      else (charWidth c, followingAlone c)
    | .joinedEmoji =>
      if isEmoji c then (0, followingAlone c) else (charWidth c, followingAlone c)
    | .alef =>
      if lamSet.contains c then (0, .nothing)
      else if isZeroWidth c && c != joiner && c != nonJoiner then (0, .alef)
      else (charWidth c, followingAlone c)
    | .nothing => (charWidth c, followingAlone c)

/-- The columns of a text. -/
def textWidth (text : List Char) : Nat :=
  (text.foldr (fun c (width, next) =>
    let (more, before) := widthBefore c next
    (width + more, before)) (0, Following.nothing)).1

end ClassChart.Unicode
