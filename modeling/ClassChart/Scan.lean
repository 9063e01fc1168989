import ClassChart.Tile
import ClassChart.Diagnostic

/-!
Scanning: the tokens and the lexical problems of a source, each at its position. Scanning never
fails. A position is computed from the text before the tile, the tokens are the token tiles
followed by the end of input, and the problems are the tiles that belong to no token.
-/
namespace ClassChart

/-- The report of a character that belongs to no token. -/
def Diagnostic.unexpectedCharacter (c : Char) (position : Position) : Diagnostic :=
  ⟨.unexpectedCharacter, s!"unexpected character '{c}'", some position⟩

/-- The report of a quote that is never closed. -/
def Diagnostic.unterminatedString (position : Position) : Diagnostic :=
  ⟨.unterminatedString, "unterminated string literal", some position⟩

/-- A tile and the position of its first character. -/
structure PlacedTile where
  position : Position
  tile : Tile
  deriving DecidableEq, Repr

/-- The tiles of a row, the first of them at `position`. -/
def placeTiles (position : Position) : List Tile → List PlacedTile
  | [] => []
  | tile :: rest => ⟨position, tile⟩ :: placeTiles (position.after tile.text) rest

namespace PlacedTile

/-- The token that a tile holds. -/
def token? (placed : PlacedTile) : Option Token :=
  match placed.tile with
  | .token kind lexeme => some ⟨kind, String.ofList lexeme, placed.position⟩
  | _ => none

/-- The problem that a tile shows. -/
def diagnostic? (placed : PlacedTile) : Option Diagnostic :=
  match placed.tile with
  | .unexpected c => some (.unexpectedCharacter c placed.position)
  | .unterminated _ => some (.unterminatedString placed.position)
  | _ => none

/-- Only a token tile holds a token: of its kind, with its lexeme, at the position of the tile. -/
theorem token?_eq_some_iff {placed : PlacedTile} {token : Token} :
    placed.token? = some token ↔
      ∃ kind lexeme, placed.tile = .token kind lexeme ∧
        token = ⟨kind, String.ofList lexeme, placed.position⟩ := by
  constructor
  · intro holds
    unfold token? at holds
    split at holds
    case h_1 kind lexeme isToken =>
      cases holds
      exact ⟨kind, lexeme, isToken, rfl⟩
    case h_2 => cases holds
  · rintro ⟨kind, lexeme, isToken, rfl⟩
    rw [token?, isToken]

/-- Only a stray character and a quote that is never closed show a problem: each in its own words, at
the position of the tile. -/
theorem diagnostic?_eq_some_iff {placed : PlacedTile} {report : Diagnostic} :
    placed.diagnostic? = some report ↔
      (∃ c, placed.tile = .unexpected c ∧
        report = ⟨.unexpectedCharacter, s!"unexpected character '{c}'", some placed.position⟩) ∨
      ∃ body, placed.tile = .unterminated body ∧
        report = ⟨.unterminatedString, "unterminated string literal", some placed.position⟩ := by
  constructor
  · intro shows
    unfold diagnostic? at shows
    split at shows
    case h_1 c stray =>
      cases shows
      exact .inl ⟨c, stray, rfl⟩
    case h_2 body isOpen =>
      cases shows
      exact .inr ⟨body, isOpen, rfl⟩
    case h_3 => cases shows
  · rintro (⟨c, stray, rfl⟩ | ⟨body, isOpen, rfl⟩)
    · rw [diagnostic?, stray]
      rfl
    · rw [diagnostic?, isOpen]
      rfl

end PlacedTile

/-- The tiles of a source at their positions. -/
def placedTiles (source : String) : List PlacedTile :=
  placeTiles .start (tiles source.toList)

/-- The end of input of a source, behind its last character. -/
def endToken (source : String) : Token :=
  ⟨.endOfInput, "", Position.start.after source.toList⟩

/-- What scanning a source yields. -/
structure Scan where
  tokens : List Token
  diagnostics : List Diagnostic
  deriving DecidableEq, Repr

/-- The tokens of a source, its end of input included, and its lexical problems. -/
def scan (source : String) : Scan where
  tokens := (placedTiles source).filterMap PlacedTile.token? ++ [endToken source]
  diagnostics := (placedTiles source).filterMap PlacedTile.diagnostic?

end ClassChart
