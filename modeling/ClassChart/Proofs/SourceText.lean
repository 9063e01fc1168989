import ClassChart.Proofs.Parsing
import ClassChart.Proofs.Tiling
import Mathlib.Data.List.Basic

/-! Diagrams written as sources. A diagram is written line by line, and the sources of well formed
diagrams scan without a report and parse back to the diagram. The proof reads the source one
piece at a time: a piece is read alike wherever it stands and whatever comes behind it. -/
namespace ClassChart.SourceText
open Grammar

/-! ## Writing -/

/-- The line of a member up to its name. -/
def markText : Option Visibility → String
  | none => ""
  | some visibility => String.ofList [visibility.mark, ' ']

/-- The line of an attribute. -/
def attributeLine (declared : Attribute) : String :=
  markText declared.visibility ++ declared.name ++ " : " ++ declared.declaredType

/-- The line of a method, which is written without parameters. -/
def methodLine (declared : Method) : String :=
  markText declared.visibility ++ declared.name ++ "() : " ++ declared.returnType

/-- The words before the name of a class. -/
def headText (isAbstract : Bool) : String :=
  if isAbstract then "abstract class " else "class "

/-- The lines of a class, one for each member. -/
def classLines (node : ClassNode) : List String :=
  (headText node.isAbstract ++ node.name ++ " \x7b") ::
    (node.attributes.map attributeLine ++ node.methods.map methodLine ++ ["\x7d"])

/-- The line of a relationship, with its label unless that is empty. -/
def relationshipLine (relationship : Relationship) : String :=
  if relationship.label = "" then relationship.text
  else relationship.text ++ " : \"" ++ relationship.label ++ "\""

/-- The line of a title. -/
def titleLine (text : String) : String :=
  "title \"" ++ text ++ "\""

/-- The lines of a diagram between the markers. -/
def diagramLines (diagram : Diagram) : List String :=
  diagram.title.toList.map titleLine ++ diagram.classes.flatMap classLines ++
    diagram.relationships.map relationshipLine

/-- Lines, each with a line feed behind it. -/
def terminated (lines : List String) : List Char :=
  lines.flatMap fun line => line.toList ++ ['\n']

/-- The source of a diagram, with any number of line feeds behind its last line. -/
def source (diagram : Diagram) (feeds : Nat) : String :=
  String.ofList (terminated ("@startuml" :: diagramLines diagram) ++
    ("@enduml".toList ++ List.replicate feeds '\n'))

/-! ## Well formed diagrams -/

/-- A word: a letter, an underscore or an at sign, then letters, digits and underscores. -/
def IsLexeme (word : String) : Prop :=
  word.toList.head?.any isWordStart = true ∧ word.toList.tail.all isWordPart = true

/-- A word that is not reserved names classes. -/
def IsName (word : String) : Prop :=
  IsLexeme word ∧ keyword? word = none

/-- Members and types may also be named by the words that begin declarations. -/
def IsMemberName (word : String) : Prop :=
  IsName word ∨ word ∈ ["class", "abstract", "title"]

/-- A text that can stand between quotes and has no white space at its ends. -/
def IsQuotable (text : String) : Prop :=
  quoteMark ∉ text.toList ∧ Unicode.trim text.toList = text.toList

instance : Decidable (IsLexeme word) := inferInstanceAs (Decidable (_ ∧ _))
instance : Decidable (IsName word) := inferInstanceAs (Decidable (_ ∧ _))
instance : Decidable (IsMemberName word) := inferInstanceAs (Decidable (_ ∨ _))
instance : Decidable (IsQuotable text) := inferInstanceAs (Decidable (_ ∧ _))

/-- A diagram whose names and texts can be written. Names may repeat, and relationships may refer
to names that no class has. -/
structure WellFormed (diagram : Diagram) : Prop where
  classes : ∀ node ∈ diagram.classes, IsName node.name
  attributes : ∀ node ∈ diagram.classes, ∀ declared ∈ node.attributes,
    IsMemberName declared.name ∧ IsMemberName declared.declaredType
  methods : ∀ node ∈ diagram.classes, ∀ declared ∈ node.methods,
    IsMemberName declared.name ∧ IsMemberName declared.returnType
  endpoints : ∀ relationship ∈ diagram.relationships,
    IsName relationship.source ∧ IsName relationship.target
  labels : ∀ relationship ∈ diagram.relationships, IsQuotable relationship.label
  title : ∀ text ∈ diagram.title, text ≠ "" ∧ IsQuotable text

theorem lexeme_text (lexeme : IsLexeme word) (reads : wordKind word.toList = kind) :
    TokenText kind word.toList := by
  obtain ⟨start, parts⟩ := lexeme
  subst reads
  cases chars : word.toList with
  | nil => simp [chars] at start
  | cons c rest =>
    rw [chars] at start parts
    exact .word (by simpa using start) (by simpa using parts)

theorem name_text (named : IsName word) : TokenText .identifier word.toList :=
  lexeme_text named.1 (by simp [wordKind, named.2])

/-- A word for a member is a token that the grammar takes for one. -/
theorem member_name_text (named : IsMemberName word) :
    ∃ kind, TokenText kind word.toList ∧ kind ≠ .stringLiteral ∧
      ∀ lexeme position, IsWord ⟨kind, lexeme, position⟩ := by
  refine ⟨wordKind word.toList, ?_, wordKind_ne_stringLiteral _, ?_⟩
  · rcases named with plain | reserved
    · exact lexeme_text plain.1 rfl
    · have every : ∀ word ∈ ["class", "abstract", "title"], IsLexeme word := by decide
      exact lexeme_text (every word reserved) rfl
  · intro lexeme position
    rcases named with plain | reserved
    · simp [IsWord, wordKind, plain.2]
    · have every : ∀ word ∈ ["class", "abstract", "title"], wordKind word.toList ∈
          [TokenKind.identifier, .classWord, .abstractWord, .titleWord] := by decide
      exact every word reserved

/-! ## The declarations of a diagram -/

/-- The declaration of a class, its attributes before its methods. -/
def declarationOf (node : ClassNode) : ClassDeclaration where
  name := node.name
  isAbstract := node.isAbstract
  members := node.attributes.map .ofAttribute ++ node.methods.map .ofMethod

/-- The declarations of a diagram in the order of its lines. -/
def declarations (diagram : Diagram) : List Declaration :=
  diagram.title.toList.map .ofTitle ++
    diagram.classes.map (fun node => .ofClass (declarationOf node)) ++
    diagram.relationships.map .ofRelationship

theorem declaration_of_toNode (node : ClassNode) : (declarationOf node).toNode = node := by
  simp [declarationOf, ClassDeclaration.toNode, List.filterMap_map, Function.comp_def,
    Member.attribute?, Member.method?]

/-- The declarations of a diagram mean the diagram, unless its title is empty. -/
theorem of_declarations {diagram : Diagram} (titled : diagram.title ≠ some "") :
    Diagram.ofDeclarations (declarations diagram) = diagram := by
  have classes : (declarations diagram).filterMap Declaration.class? = diagram.classes := by
    simp [declarations, List.filterMap_map, Function.comp_def, Declaration.class?,
      declaration_of_toNode]
  have relationships : (declarations diagram).filterMap Declaration.relationship? =
      diagram.relationships := by
    simp [declarations, List.filterMap_map, Function.comp_def, Declaration.relationship?]
  have titles : (declarations diagram).filterMap Declaration.title? = diagram.title.toList := by
    simp [declarations, List.filterMap_map, Function.comp_def, Declaration.title?]
  have inEffect : titleInEffect diagram.title.toList.getLast? = diagram.title := by
    cases found : diagram.title with
    | none => rfl
    | some text =>
      have nonempty : text ≠ "" := by simpa [found] using titled
      simp [titleInEffect, nonempty]
  rw [Diagram.ofDeclarations, classes, relationships, titles, inEffect]

/-! ## Reading pieces of a text -/

/-- In front of the text `later`, the text scans without a report to tokens of which `Phrase`
holds, wherever it stands. -/
def Reads (text later : List Char) (Phrase : List Token → Prop) : Prop :=
  ∀ position, ∃ placed,
    placeTiles position (tiles (text ++ later)) =
      placed ++ placeTiles (position.after text) (tiles later) ∧
    placed.filterMap PlacedTile.diagnostic? = [] ∧ Phrase (placed.filterMap PlacedTile.token?)

theorem reads_nothing (phrase : Phrase []) : Reads [] later Phrase :=
  fun _ => ⟨[], rfl, rfl, phrase⟩

/-- A piece that is put together from a row of tiles reads as the tokens of the row. -/
theorem reads_row (row : List Tile) (covers : text = row.flatMap Tile.text)
    (stands : RowStands later row)
    (silent : ∀ position, (placeTiles position row).filterMap PlacedTile.diagnostic? = [])
    (phrase : ∀ position, Phrase ((placeTiles position row).filterMap PlacedTile.token?)) :
    Reads text later Phrase := by
  intro position
  subst covers
  refine ⟨placeTiles position row, ?_, silent position, phrase position⟩
  rw [tiles_of_row stands, place_tiles_append]

/-- Two phrases, one behind the other. -/
def Joined (First Second : List Token → Prop) (tokens : List Token) : Prop :=
  ∃ first second, tokens = first ++ second ∧ First first ∧ Second second

/-- Pieces that stand one behind the other read as their phrases, one behind the other. -/
theorem reads_append (first : Reads text (more ++ later) First) (second : Reads more later Second) :
    Reads (text ++ more) later (Joined First Second) := by
  intro position
  obtain ⟨placed, place, silent, phrase⟩ := first position
  obtain ⟨others, placeOthers, silentOthers, phraseOthers⟩ := second (position.after text)
  refine ⟨placed ++ others, ?_, ?_, ?_⟩
  · rw [List.append_assoc, place, placeOthers, List.append_assoc, Position.after_append]
  · rw [List.filterMap_append, silent, silentOthers, List.append_nil]
  · exact ⟨_, _, List.filterMap_append, phrase, phraseOthers⟩

theorem reads_imp (reads : Reads text later First) (weaker : ∀ tokens, First tokens → Second tokens) :
    Reads text later Second := by
  intro position
  obtain ⟨placed, place, silent, phrase⟩ := reads position
  exact ⟨placed, place, silent, weaker _ phrase⟩

/-- Pieces that each read as phrases of one sort read as such phrases together. -/
theorem reads_repeated {entries : List β}
    (each : ∀ entry ∈ entries, ∀ later, Reads (text entry) later (Repeated Phrase · (said entry))) :
    Reads (entries.flatMap text) later (Repeated Phrase · (entries.flatMap said)) := by
  induction entries with
  | nil => exact reads_nothing .none
  | cons entry entries ih =>
    refine reads_imp (reads_append (each entry (by simp) _) (ih fun other member =>
      each other (by simp [member]))) ?_
    rintro _ ⟨portion, rest, rfl, first, later⟩
    exact repeated_append first later

/-! ## Single tokens -/

/-- A single token of this kind. -/
def OfKind (kind : TokenKind) (tokens : List Token) : Prop :=
  ∃ token, tokens = [token] ∧ token.kind = kind

theorem reads_blank : Reads [' '] later (· = []) :=
  reads_row [blank] rfl ⟨blank_stands, trivial⟩ (fun _ => rfl) fun _ => rfl

theorem reads_line_feed : Reads ['\n'] later (OfKind .newline) :=
  reads_row [lineFeed] rfl ⟨line_feed_stands, trivial⟩ (fun _ => rfl) fun _ => ⟨_, rfl, rfl⟩

theorem reads_spelling (listed : (spelling, kind) ∈ fixedSpellings) (apart : Apart later) :
    Reads spelling later (OfKind kind) := by
  refine reads_row [.token kind spelling] ?_ ⟨token_stands (.fixed listed) apart, trivial⟩
    (fun _ => rfl) fun _ => ⟨_, rfl, rfl⟩
  simp [Tile.text, (fixedSpelling_ne_nil listed).2]

/-- A spelling between blanks is read in front of any text. -/
theorem reads_spaced (listed : (spelling, kind) ∈ fixedSpellings) :
    Reads ([' '] ++ (spelling ++ [' '])) later (OfKind kind) := by
  refine reads_imp (reads_append reads_blank (reads_append
    (reads_spelling listed apart_blank) reads_blank)) ?_
  rintro _ ⟨_, _, rfl, rfl, _, _, rfl, ⟨token, rfl, reads⟩, rfl⟩
  exact ⟨token, rfl, reads⟩

theorem reads_keyword (listed : (word, kind) ∈ keywords) (apart : Apart later) :
    Reads word.toList later (OfKind kind) := by
  have every : ∀ entry ∈ keywords, IsLexeme entry.1 ∧ wordKind entry.1.toList = entry.2 ∧
      entry.2 ≠ .stringLiteral := by decide
  obtain ⟨lexeme, reads, plain⟩ := every _ listed
  exact reads_row [.token kind word.toList] (by simp [Tile.text, plain])
    ⟨token_stands (lexeme_text lexeme reads) apart, trivial⟩ (fun _ => rfl) fun _ => ⟨_, rfl, rfl⟩

theorem reads_name (named : IsName word) (apart : Apart later) :
    Reads word.toList later
      fun tokens => ∃ name, tokens = [name] ∧ name.kind = .identifier ∧ name.lexeme = word :=
  reads_row [.token .identifier word.toList] (by simp [Tile.text])
    ⟨token_stands (name_text named) apart, trivial⟩ (fun _ => rfl)
    fun _ => ⟨_, rfl, rfl, String.ofList_toList⟩

theorem reads_member_name (named : IsMemberName word) (apart : Apart later) :
    Reads word.toList later
      fun tokens => ∃ name, tokens = [name] ∧ IsWord name ∧ name.lexeme = word := by
  obtain ⟨kind, text, plain, isWord⟩ := member_name_text named
  refine reads_row [.token kind word.toList] (by simp [Tile.text, plain])
    ⟨token_stands text apart, trivial⟩ (fun _ => rfl) fun position => ?_
  exact ⟨_, rfl, isWord _ _, String.ofList_toList⟩

/-- A quoted text makes one token, and the free text of that token is the text itself. -/
theorem reads_quoted (quotable : IsQuotable text) :
    Reads (quoteMark :: (text.toList ++ [quoteMark])) later
      fun tokens => (∀ token ∈ tokens, token.kind ≠ .newline) ∧ freeText tokens = text := by
  refine reads_row [.token .stringLiteral text.toList] (by simp [Tile.text])
    ⟨quoted_stands quotable.1, trivial⟩ (fun _ => rfl) fun position => ?_
  simp [placeTiles, PlacedTile.token?, freeText, quotable.2]

/-! ## Lines -/

theorem reads_mark (visibility : Option Visibility) :
    Reads (markText visibility).toList later (VisibilityPhrase · visibility) := by
  cases visibility with
  | none => exact reads_nothing .omitted
  | some visibility =>
    have listed : ([visibility.mark], TokenKind.visibilityMark visibility) ∈ fixedSpellings := by
      cases visibility <;> decide
    have pieces : (markText (some visibility)).toList = [visibility.mark] ++ [' '] := by simp [markText]
    rw [pieces]
    refine reads_imp (reads_append (reads_spelling listed apart_blank) reads_blank) ?_
    rintro _ ⟨_, _, rfl, ⟨token, rfl, mark⟩, rfl⟩
    exact .marked mark

theorem reads_type (usual : String) (typed : IsMemberName type) (apart : Apart later) :
    Reads (([' '] ++ ([':'] ++ [' '])) ++ type.toList) later (TypePhrase usual · type) := by
  have spelled : ([':'], TokenKind.colon) ∈ fixedSpellings := by decide
  refine reads_imp (reads_append (reads_spaced spelled) (reads_member_name typed apart)) ?_
  rintro _ ⟨_, _, rfl, ⟨mark, rfl, colon⟩, name, rfl, word, rfl⟩
  exact .given colon word

theorem reads_attribute (named : IsMemberName declared.name)
    (typed : IsMemberName declared.declaredType) :
    Reads ((attributeLine declared).toList ++ ['\n']) later
      (Repeated BodyItem · [.ofAttribute declared]) := by
  have pieces : (attributeLine declared).toList ++ ['\n'] =
      (markText declared.visibility).toList ++ (declared.name.toList ++
        ((([' '] ++ ([':'] ++ [' '])) ++ declared.declaredType.toList) ++ ['\n'])) := by
    simp [attributeLine]
  rw [pieces]
  refine reads_imp (reads_append (reads_mark _) (reads_append (reads_member_name named apart_blank)
    (reads_append (reads_type defaultAttributeType typed apart_line_feed) reads_line_feed))) ?_
  rintro _ ⟨marks, _, rfl, marked, _, _, rfl, ⟨name, rfl, word, lexeme⟩, types, _, rfl, typed, line,
    rfl, feed⟩
  have member := Repeated.more (BodyItem.member (.ofAttribute marked word typed))
    (.more (.lineBreak feed) .none)
  rw [lexeme] at member
  simpa using member

theorem reads_method (named : IsMemberName declared.name) (typed : IsMemberName declared.returnType) :
    Reads ((methodLine declared).toList ++ ['\n']) later
      (Repeated BodyItem · [.ofMethod declared]) := by
  have pieces : (methodLine declared).toList ++ ['\n'] =
      (markText declared.visibility).toList ++ (declared.name.toList ++ (['('] ++ ([')'] ++
        ((([' '] ++ ([':'] ++ [' '])) ++ declared.returnType.toList) ++ ['\n'])))) := by
    simp [methodLine]
  have spelledOpening : (['('], TokenKind.openParen) ∈ fixedSpellings := by decide
  have spelledClosing : ([')'], TokenKind.closeParen) ∈ fixedSpellings := by decide
  rw [pieces]
  refine reads_imp (reads_append (reads_mark _) (reads_append
    (reads_member_name named (apart_of_head (by simp)))
    (reads_append (reads_spelling spelledOpening (apart_of_head (by simp)))
    (reads_append (reads_spelling spelledClosing apart_blank)
    (reads_append (reads_type defaultReturnType typed apart_line_feed) reads_line_feed))))) ?_
  rintro _ ⟨marks, _, rfl, marked, _, _, rfl, ⟨name, rfl, word, lexeme⟩, _, _, rfl,
    ⟨opening, rfl, opens⟩, _, _, rfl, ⟨closing, rfl, closes⟩, types, _, rfl, typed, line, rfl, feed⟩
  have nothing : ∀ token ∈ ([] : List Token), token.kind ≠ .closeParen := by simp
  have member := Repeated.more (BodyItem.member (.ofMethod marked word opens nothing closes typed))
    (.more (.lineBreak feed) .none)
  rw [lexeme] at member
  simpa using member

theorem reads_head (isAbstract : Bool) :
    Reads (headText isAbstract).toList later (HeadPhrase · isAbstract) := by
  have classListed : ("class", TokenKind.classWord) ∈ keywords := by decide
  have abstractListed : ("abstract", TokenKind.abstractWord) ∈ keywords := by decide
  have plain : ∀ later, Reads ("class".toList ++ [' ']) later (OfKind .classWord) := by
    intro later
    refine reads_imp (reads_append (reads_keyword classListed apart_blank)
      reads_blank) ?_
    rintro _ ⟨_, _, rfl, word, rfl⟩
    simpa using word
  cases isAbstract with
  | false =>
    refine reads_imp (plain later) ?_
    rintro _ ⟨token, rfl, word⟩
    exact .plain word
  | true =>
    have pieces : (headText true).toList =
        "abstract".toList ++ ([' '] ++ ("class".toList ++ [' '])) := by decide
    rw [pieces]
    refine reads_imp (reads_append (reads_keyword abstractListed apart_blank)
      (reads_append reads_blank (plain later))) ?_
    rintro _ ⟨_, _, rfl, ⟨first, rfl, abstractWord⟩, _, _, rfl, rfl, second, rfl, classWord⟩
    exact .abstractClass abstractWord classWord

theorem terminated_append (first second : List String) :
    terminated (first ++ second) = terminated first ++ terminated second :=
  List.flatMap_append

theorem reads_members (attributes : ∀ declared ∈ node.attributes,
      IsMemberName declared.name ∧ IsMemberName declared.declaredType)
    (methods : ∀ declared ∈ node.methods,
      IsMemberName declared.name ∧ IsMemberName declared.returnType) :
    Reads (terminated (node.attributes.map attributeLine ++ node.methods.map methodLine)) later
      (Repeated BodyItem · (declarationOf node).members) := by
  have ofAttributes : ∀ later, Reads (terminated (node.attributes.map attributeLine)) later
      (Repeated BodyItem · (node.attributes.map .ofAttribute)) := by
    intro later
    rw [terminated, List.flatMap_map, List.map_eq_flatMap]
    refine reads_repeated fun declared member _ => ?_
    obtain ⟨named, typed⟩ := attributes declared member
    exact reads_attribute named typed
  have ofMethods : Reads (terminated (node.methods.map methodLine)) later
      (Repeated BodyItem · (node.methods.map .ofMethod)) := by
    rw [terminated, List.flatMap_map, List.map_eq_flatMap]
    refine reads_repeated fun declared member _ => ?_
    obtain ⟨named, typed⟩ := methods declared member
    exact reads_method named typed
  rw [terminated_append]
  refine reads_imp (reads_append (ofAttributes _) ofMethods) ?_
  rintro _ ⟨_, _, rfl, attributes, methods⟩
  exact repeated_append attributes methods

theorem reads_class (named : IsName node.name)
    (attributes : ∀ declared ∈ node.attributes,
      IsMemberName declared.name ∧ IsMemberName declared.declaredType)
    (methods : ∀ declared ∈ node.methods,
      IsMemberName declared.name ∧ IsMemberName declared.returnType) :
    Reads (terminated (classLines node)) later (Repeated Item · [.ofClass (declarationOf node)]) := by
  have pieces : terminated (classLines node) =
      (headText node.isAbstract).toList ++ (node.name.toList ++ ([' '] ++ (['\x7b'] ++ (['\n'] ++
        (terminated (node.attributes.map attributeLine ++ node.methods.map methodLine) ++
          (['\x7d'] ++ ['\n'])))))) := by
    simp [terminated, classLines]
  have opening : (['\x7b'], TokenKind.openBrace) ∈ fixedSpellings := by decide
  have closing : (['\x7d'], TokenKind.closeBrace) ∈ fixedSpellings := by decide
  rw [pieces]
  refine reads_imp (reads_append (reads_head _) (reads_append (reads_name named apart_blank)
    (reads_append reads_blank (reads_append (reads_spelling opening apart_line_feed)
    (reads_append reads_line_feed (reads_append (reads_members attributes methods)
    (reads_append (reads_spelling closing apart_line_feed) reads_line_feed))))))) ?_
  rintro _ ⟨words, _, rfl, head, _, _, rfl, ⟨name, rfl, isName, lexeme⟩, _, _, rfl, rfl,
    _, _, rfl, ⟨opening, rfl, opens⟩, _, _, rfl, ⟨line, rfl, feed⟩, _, _, rfl, members,
    _, _, rfl, ⟨closing, rfl, closes⟩, last, rfl, lastFeed⟩
  have inside := Repeated.more (BodyItem.lineBreak feed) members
  have item := Repeated.more (Item.ofClass (.declared head isName (.given opens inside closes)))
    (.more (.lineBreak lastFeed) .none)
  rw [lexeme] at item
  simpa [declarationOf] using item

/-- The tokens of a relationship before its label. -/
def Connection (relationship : Relationship) (tokens : List Token) : Prop :=
  ∃ first mark second, tokens = [first, mark, second] ∧ mark.kind = .operator relationship.kind ∧
    (first.kind = .identifier ∧ first.lexeme = relationship.source) ∧
    (second.kind = .identifier ∧ second.lexeme = relationship.target)

theorem reads_connection (source : IsName relationship.source) (target : IsName relationship.target)
    (apart : Apart later) : Reads relationship.text.toList later (Connection relationship) := by
  have pieces : relationship.text.toList = relationship.source.toList ++
      (([' '] ++ (relationship.kind.operator.toList ++ [' '])) ++ relationship.target.toList) := by
    simp [Relationship.text, toString]
  have operator : (relationship.kind.operator.toList, TokenKind.operator relationship.kind) ∈
      fixedSpellings := by
    cases relationship.kind <;> decide
  rw [pieces]
  refine reads_imp (reads_append (reads_name source apart_blank)
    (reads_append (reads_spaced operator) (reads_name target apart))) ?_
  rintro _ ⟨_, _, rfl, ⟨first, rfl, isFirst⟩, _, _, rfl, ⟨mark, rfl, connects⟩, second, rfl, isSecond⟩
  exact ⟨first, mark, second, rfl, connects, isFirst, isSecond⟩

theorem reads_relationship (source : IsName relationship.source) (target : IsName relationship.target)
    (quotable : IsQuotable relationship.label) :
    Reads ((relationshipLine relationship).toList ++ ['\n']) later
      (Repeated Item · [.ofRelationship relationship]) := by
  by_cases unlabelled : relationship.label = ""
  · rw [relationshipLine, if_pos unlabelled]
    refine reads_imp (reads_append (reads_connection source target apart_line_feed)
      reads_line_feed) ?_
    rintro _ ⟨_, _, rfl, ⟨first, mark, second, rfl, connects, isFirst, isSecond⟩, line, rfl, feed⟩
    have item := Repeated.more (Item.ofRelationship (.plain isFirst.1 connects isSecond.1))
      (.more (.lineBreak feed) .none)
    rw [isFirst.2, isSecond.2, ← unlabelled] at item
    exact item
  · have pieces : (relationshipLine relationship).toList ++ ['\n'] = relationship.text.toList ++
        (([' '] ++ ([':'] ++ [' '])) ++
          ((quoteMark :: (relationship.label.toList ++ [quoteMark])) ++ ['\n'])) := by
      simp [relationshipLine, unlabelled, quoteMark]
    have colon : ([':'], TokenKind.colon) ∈ fixedSpellings := by decide
    rw [pieces]
    refine reads_imp (reads_append (reads_connection source target apart_blank)
      (reads_append (reads_spaced colon) (reads_append (reads_quoted quotable) reads_line_feed))) ?_
    rintro _ ⟨_, _, rfl, ⟨first, mark, second, rfl, connects, isFirst, isSecond⟩, _, _, rfl,
      ⟨colon, rfl, isColon⟩, quoted, _, rfl, ⟨inside, free⟩, line, rfl, feed⟩
    have item := Repeated.more
      (Item.ofRelationship (.labelled isFirst.1 connects isSecond.1 isColon inside feed)) .none
    rw [isFirst.2, isSecond.2, free] at item
    simpa using item

theorem reads_title (quotable : IsQuotable text) :
    Reads ((titleLine text).toList ++ ['\n']) later (Repeated Item · [.ofTitle text]) := by
  have pieces : (titleLine text).toList ++ ['\n'] =
      "title".toList ++ ([' '] ++ ((quoteMark :: (text.toList ++ [quoteMark])) ++ ['\n'])) := by
    simp [titleLine, quoteMark]
  have listed : ("title", TokenKind.titleWord) ∈ keywords := by decide
  rw [pieces]
  refine reads_imp (reads_append (reads_keyword listed apart_blank)
    (reads_append reads_blank (reads_append (reads_quoted quotable) reads_line_feed))) ?_
  rintro _ ⟨_, _, rfl, ⟨title, rfl, word⟩, _, _, rfl, rfl, quoted, _, rfl, ⟨inside, free⟩,
    line, rfl, feed⟩
  have item := Repeated.more (Item.ofTitle (.declared word inside feed)) .none
  rw [free] at item
  simpa using item

/-! ## Whole sources -/

theorem reads_lines (wellFormed : WellFormed diagram) :
    Reads (terminated (diagramLines diagram)) later (Repeated Item · (declarations diagram)) := by
  have titles : ∀ later, Reads (terminated (diagram.title.toList.map titleLine)) later
      (Repeated Item · (diagram.title.toList.map .ofTitle)) := by
    intro later
    rw [terminated, List.flatMap_map, List.map_eq_flatMap]
    exact reads_repeated fun text member _ =>
      reads_title (wellFormed.title text (Option.mem_toList.mp member)).2
  have classes : ∀ later, Reads (terminated (diagram.classes.flatMap classLines)) later
      (Repeated Item · (diagram.classes.map fun node => .ofClass (declarationOf node))) := by
    intro later
    rw [terminated, List.flatMap_assoc, List.map_eq_flatMap]
    exact reads_repeated fun node member _ => reads_class (wellFormed.classes node member)
      (wellFormed.attributes node member) (wellFormed.methods node member)
  have relationships : Reads (terminated (diagram.relationships.map relationshipLine)) later
      (Repeated Item · (diagram.relationships.map .ofRelationship)) := by
    rw [terminated, List.flatMap_map, List.map_eq_flatMap]
    refine reads_repeated fun relationship member _ => ?_
    obtain ⟨source, target⟩ := wellFormed.endpoints relationship member
    exact reads_relationship source target (wellFormed.labels relationship member)
  rw [diagramLines, terminated_append, terminated_append]
  refine reads_imp (reads_append (reads_append (titles _) (classes _)) relationships) ?_
  rintro _ ⟨_, _, rfl, ⟨_, _, rfl, titles, classes⟩, relationships⟩
  exact repeated_append (repeated_append titles classes) relationships

theorem reads_feeds (feeds : Nat) :
    Reads (List.replicate feeds '\n') later (∀ token ∈ ·, token.kind = .newline) := by
  induction feeds with
  | zero => exact reads_nothing (by simp)
  | succ feeds ih =>
    refine reads_imp (reads_append reads_line_feed ih) ?_
    rintro _ ⟨_, rest, rfl, ⟨token, rfl, feed⟩, feeds⟩
    simpa [feed] using feeds

theorem apart_feeds (feeds : Nat) : Apart (List.replicate feeds '\n' ++ []) := by
  cases feeds with
  | zero => simp [Apart]
  | succ feeds => exact apart_line_feed

/-- Lines of items between the two markers are a document. -/
theorem reads_document (items : ∀ later, Reads lines later (Repeated Item · declared)) (feeds : Nat) :
    Reads ("@startuml".toList ++ (['\n'] ++ (lines ++ ("@enduml".toList ++
      List.replicate feeds '\n')))) [] (Document · declared) := by
  have opening : ("@startuml", TokenKind.startMarker) ∈ keywords := by decide
  have closing : ("@enduml", TokenKind.endMarker) ∈ keywords := by decide
  refine reads_imp (reads_append (reads_keyword opening apart_line_feed)
    (reads_append reads_line_feed (reads_append (items _)
    (reads_append (reads_keyword closing (apart_feeds feeds)) (reads_feeds feeds))))) ?_
  rintro _ ⟨_, _, rfl, ⟨opening, rfl, starts⟩, _, _, rfl, ⟨line, rfl, feed⟩, items, _, rfl, reads,
    _, behind, rfl, ⟨closing, rfl, ends⟩, below⟩
  have nothing : ∀ token ∈ ([] : List Token), token.kind = .newline := by simp
  simpa using Document.document nothing starts (.more (.lineBreak feed) reads) ends below

/-- The source of a well formed diagram is a document of the diagram's declarations. -/
theorem reads_source (wellFormed : WellFormed diagram) (feeds : Nat) :
    Reads (source diagram feeds).toList [] (Document · (declarations diagram)) := by
  have pieces : (source diagram feeds).toList = "@startuml".toList ++ (['\n'] ++
      (terminated (diagramLines diagram) ++ ("@enduml".toList ++ List.replicate feeds '\n'))) := by
    simp [source, terminated]
  rw [pieces]
  exact reads_document (fun _ => reads_lines wellFormed) feeds

/-- Nothing that is scanned before the end of input is an end of input. -/
theorem before_end_scan (source : String) :
    beforeEnd (scan source).tokens = (placedTiles source).filterMap PlacedTile.token? := by
  have goesOn : ∀ token ∈ (placedTiles source).filterMap PlacedTile.token?, (!token.isEnd) = true := by
    intro token member
    simpa [Token.isEnd] using token_text_kind (scanned_token_text member)
  rw [beforeEnd, scan, List.takeWhile_append_of_pos goesOn]
  simp [endToken, Token.isEnd]

/-- A text that reads as a document scans without a report and parses to the diagram of its
declarations, again without one. -/
theorem document_parses (reads : Reads text.toList [] (Document · declared)) :
    (scan text).diagnostics = [] ∧ parse (scan text).tokens = .ok ⟨.ofDeclarations declared, []⟩ := by
  obtain ⟨placed, place, silent, document⟩ := reads .start
  have whole : placedTiles text = placed := by
    simpa [placedTiles, placeTiles] using place
  rw [← whole] at silent document
  refine ⟨silent, ?_⟩
  rw [← before_end_scan] at document
  exact parse_document document

/-- The source of a well formed diagram scans without a report and parses to the diagram, again
without one. -/
theorem source_parses_to_diagram (wellFormed : WellFormed diagram) (feeds : Nat) :
    (scan (source diagram feeds)).diagnostics = [] ∧
      parse (scan (source diagram feeds)).tokens = .ok ⟨diagram, []⟩ := by
  obtain ⟨placed, place, silent, document⟩ := reads_source wellFormed feeds .start
  have whole : placedTiles (source diagram feeds) = placed := by
    simpa [placedTiles, placeTiles] using place
  rw [← whole] at silent document
  refine ⟨silent, ?_⟩
  rw [← before_end_scan] at document
  rw [parse_document document, of_declarations]
  intro untitled
  exact (wellFormed.title "" untitled).1 rfl

/-- A diagram whose names look like operators, markers and reserved words, with a name that repeats,
a name that no class has, and texts that look like source. -/
def crowded : Diagram where
  title := some "'\x7b'\n@enduml"
  classes := [⟨"o", false, [⟨some .privateMember, "title", "class"⟩, ⟨none, "@x", "abstract"⟩],
    [⟨some .packageMember, "class", "o"⟩]⟩, ⟨"o", true, [], []⟩]
  relationships := [⟨"o", "@", .aggregation, "a\n\na --> b : é"⟩, ⟨"@", "o", .link, ""⟩]

theorem crowded_source_parses : WellFormed crowded ∧
    (scan (source crowded 1)).diagnostics = [] ∧
      parse (scan (source crowded 1)).tokens = .ok ⟨crowded, []⟩ := by
  have wellFormed : WellFormed crowded := by constructor <;> decide +kernel
  exact ⟨wellFormed, source_parses_to_diagram wellFormed 1⟩

end ClassChart.SourceText
