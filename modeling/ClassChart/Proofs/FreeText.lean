import ClassChart.Proofs.LineEnds
import ClassChart.Proofs.TokenPrinting
import ClassChart.Proofs.Trimming

/-! Free text. A label or a title is made of whatever tokens its line holds. Main statement: it keeps
their lexemes in order, puts one blank between any two of them in the place of the spacing, and is
trimmed at its ends; without quoted texts there is nothing to trim, and written again the text stays
as it is. -/
namespace ClassChart.FreeText
open Grammar SourceText TokenPrinting

/-! ## Words in a line -/

/-- A text of spaces, tabs and carriage returns. -/
def IsGap (text : String) : Prop :=
  ∀ c ∈ text.toList, c = ' ' ∨ c = '\t' ∨ c = '\r'

/-- A word that can stand in a line: what can be scanned, but for the line break. -/
def InLine (word : TokenKind × String) : Prop :=
  Printable word.1 word.2 ∧ word.1 ≠ .newline

/-- Words written one after the other, with a gap between any two of them. There is at least one
word. -/
inductive Spaced : List (TokenKind × String) → String → Prop where
  | last : Spaced [word] (writtenWord word)
  | more (gap : IsGap between) (nonempty : between ≠ "") (later : Spaced words text) :
      Spaced (word :: words) (writtenWord word ++ between ++ text)

/-- The lexemes of words, with one blank between any two of them. -/
def joined (words : List (TokenKind × String)) : String :=
  " ".intercalate (words.map (·.2))

/-- A text without the white space at its ends. -/
def trimmed (text : String) : String :=
  String.ofList (Unicode.trim text.toList)

theorem free_text_joined (tokens : List Token) : freeText tokens = trimmed (joined (tokens.map content)) := by
  simp [freeText, trimmed, joined, content, String.toList_intercalate, Function.comp_def]

/-! ## Reading a line -/

/-- A gap keeps every token in front of it from what comes behind. -/
theorem apart_gap (gap : IsGap between) (apart : between = "" → Apart later) :
    Apart (between.toList ++ later) := by
  unfold IsGap at gap
  cases chars : between.toList with
  | nil => exact apart (by simpa using chars)
  | cons c rest =>
    rw [chars] at gap
    intro d head
    obtain rfl : c = d := by simpa using head
    rcases gap c (by simp) with rfl | rfl | rfl <;> decide

theorem reads_gap (gap : IsGap between) : Reads between.toList later (· = []) := by
  unfold IsGap at gap
  generalize between.toList = text at gap
  induction text with
  | nil => exact reads_nothing rfl
  | cons c text ih =>
    have first : Reads [c] (text ++ later) (· = []) :=
      reads_row [.spacing c] rfl ⟨spacing_stands (gap c (by simp)), trivial⟩ (fun _ => rfl) fun _ => rfl
    refine reads_imp (reads_append first (ih fun d member => gap d (by simp [member]))) ?_
    rintro _ ⟨_, _, rfl, rfl, rfl⟩
    rfl

/-- Words with gaps between them are read one after the other. -/
theorem reads_spaced_words (inLine : ∀ word ∈ words, InLine word) (spaced : Spaced words text)
    (apart : Apart later) : Reads text.toList later (·.map content = words) := by
  induction spaced with
  | last => exact reads_word (inLine _ (by simp)).1 apart
  | @more between words text word gap nonempty spaced ih =>
    have starts : Apart (between.toList ++ text.toList ++ later) := by
      rw [List.append_assoc]
      exact apart_gap gap fun nothing => absurd nothing nonempty
    rw [String.toList_append, String.toList_append, List.append_assoc]
    refine reads_imp (reads_append (reads_word (inLine word (by simp)).1 starts)
      (reads_append (reads_gap gap) (ih fun other member => inLine other (by simp [member])))) ?_
    rintro _ ⟨first, _, rfl, firstReads, _, rest, rfl, rfl, restReads⟩
    rw [List.nil_append, List.map_append, firstReads, restReads]
    rfl

/-- The rest of a line: words with gaps between and around them. -/
def RestOfLine (words : List (TokenKind × String)) (rest : String) : Prop :=
  ∃ before text behind, rest = before ++ text ++ behind ∧ IsGap before ∧ Spaced words text ∧
    IsGap behind

/-- The rest of a line reads as tokens within the line, and their free text is that of the words. -/
theorem reads_rest (inLine : ∀ word ∈ words, InLine word) (line : RestOfLine words rest) :
    Reads rest.toList ('\n' :: later) fun tokens =>
      (∀ token ∈ tokens, token.kind ≠ .newline) ∧ freeText tokens = trimmed (joined words) := by
  obtain ⟨before, text, behind, rfl, gap, spaced, gapBehind⟩ := line
  have apart : Apart (behind.toList ++ '\n' :: later) := apart_gap gapBehind fun _ => apart_line_feed
  rw [String.toList_append, String.toList_append, List.append_assoc]
  refine reads_imp (reads_append (reads_gap gap)
    (reads_append (reads_spaced_words inLine spaced apart) (reads_gap gapBehind))) ?_
  rintro _ ⟨_, _, rfl, rfl, tokens, _, rfl, reads, rfl⟩
  rw [List.nil_append, List.append_nil, free_text_joined, reads]
  refine ⟨fun token member => ?_, rfl⟩
  have word : content token ∈ words := reads ▸ List.mem_map_of_mem member
  exact (inLine _ word).2

/-! ## Labels and titles -/

/-- No spelling begins with a colon but the colon itself, so it is read in front of any text. -/
theorem reads_colon : Reads [':'] later (OfKind .colon) := by
  refine reads_row [.token .colon [':']] rfl ⟨⟨':', later, rfl, ?_⟩, trivial⟩ (fun _ => rfl)
    fun _ => ⟨_, rfl, rfl⟩
  simp [firstTile, fixedSpelling?, fixedSpellings]

/-- The relationship of two classes with a label. -/
def labelled (label : String) : Relationship :=
  ⟨"A", "B", .association, label⟩

theorem reads_label (inLine : ∀ word ∈ words, InLine word) (line : RestOfLine words rest) :
    Reads (("A --> B :" ++ rest).toList ++ ['\n']) later
      (Repeated Item · [.ofRelationship (labelled (trimmed (joined words)))]) := by
  have pieces : ("A --> B :" ++ rest).toList ++ ['\n'] =
      (labelled (trimmed (joined words))).text.toList ++ ([' '] ++ ([':'] ++ (rest.toList ++ ['\n']))) := by
    simp [labelled, Relationship.text, RelationshipKind.operator, toString]
  have named : IsName "A" ∧ IsName "B" := by decide +kernel
  rw [pieces]
  refine reads_imp (reads_append (reads_connection named.1 named.2 apart_blank)
    (reads_append reads_blank (reads_append reads_colon
    (reads_append (reads_rest inLine line) reads_line_feed)))) ?_
  rintro _ ⟨_, _, rfl, ⟨first, mark, second, rfl, connects, isFirst, isSecond⟩, _, _, rfl, rfl,
    _, _, rfl, ⟨colon, rfl, isColon⟩, words, _, rfl, ⟨inside, free⟩, lineEnd, rfl, feed⟩
  have item := Repeated.more
    (Item.ofRelationship (.labelled isFirst.1 connects isSecond.1 isColon inside feed)) .none
  rw [isFirst.2, isSecond.2, free] at item
  simpa [labelled] using item

theorem reads_title_words (inLine : ∀ word ∈ words, InLine word) (line : RestOfLine words rest) :
    Reads (("title " ++ rest).toList ++ ['\n']) later
      (Repeated Item · [.ofTitle (trimmed (joined words))]) := by
  have pieces : ("title " ++ rest).toList ++ ['\n'] =
      "title".toList ++ ([' '] ++ (rest.toList ++ ['\n'])) := by
    simp
  have listed : ("title", TokenKind.titleWord) ∈ keywords := by decide
  rw [pieces]
  refine reads_imp (reads_append (reads_keyword listed apart_blank)
    (reads_append reads_blank (reads_append (reads_rest inLine line) reads_line_feed))) ?_
  rintro _ ⟨_, _, rfl, ⟨title, rfl, word⟩, _, _, rfl, rfl, words, _, rfl, ⟨inside, free⟩,
    lineEnd, rfl, feed⟩
  have item := Repeated.more (Item.ofTitle (.declared word inside feed)) .none
  rw [free] at item
  simpa using item

/-- A document of one line, with any number of line feeds behind it. -/
def lineDocument (line : String) (feeds : Nat) : String :=
  String.ofList ("@startuml".toList ++ (['\n'] ++ ((line.toList ++ ['\n']) ++
    ("@enduml".toList ++ List.replicate feeds '\n'))))

/-- The source scans and parses to the diagram, both without a report. -/
def ParsesTo (source : String) (diagram : Diagram) : Prop :=
  (scan source).diagnostics = [] ∧ parse (scan source).tokens = .ok ⟨diagram, []⟩

theorem line_parses (reads : ∀ later, Reads (line.toList ++ ['\n']) later (Repeated Item · declared))
    (feeds : Nat) : ParsesTo (lineDocument line feeds) (.ofDeclarations declared) := by
  have document := reads_document reads feeds
  rw [← String.toList_ofList (l := _ ++ _)] at document
  exact document_parses document

/-! ## Without quoted texts -/

theorem spaced_nonempty (spaced : Spaced words text) : words ≠ [] := by
  cases spaced <;> simp

theorem joined_cons (nonempty : words ≠ []) :
    joined (word :: words) = word.2 ++ " " ++ joined words := by
  cases words with
  | nil => exact absurd rfl nonempty
  | cons next words => simp [joined]

/-- A text of characters of which none is white space is trimmed. -/
theorem trimmed_of_dense (dense : ∀ c ∈ text, Unicode.isBlank c = false) : Unicode.Trimmed text :=
  ⟨fun c first => dense c (List.mem_of_head? first), fun c last => dense c (List.mem_of_getLast? last)⟩

/-- A word of a line holds no white space, unless it is a quoted text. -/
theorem plain_word (text : TokenText kind lexeme) (inLine : kind ≠ .newline)
    (plain : kind ≠ .stringLiteral) : lexeme ≠ [] ∧ ∀ c ∈ lexeme, Unicode.isBlank c = false := by
  have dense : ∀ {c}, isWordStart c = true ∨ isWordPart c = true → Unicode.isBlank c = false := by
    intro c part
    by_contra blank
    obtain ⟨noStart, noPart⟩ := Unicode.blank_in_no_word (Bool.not_eq_false _ ▸ blank)
    simp [noStart, noPart] at part
  cases text with
  | fixed listed =>
    have every : ∀ entry ∈ fixedSpellings, entry.2 ≠ .newline →
        entry.1 ≠ [] ∧ entry.1.any Unicode.isBlank = false := by decide
    obtain ⟨nonempty, dense⟩ := every _ listed inLine
    exact ⟨nonempty, by simpa using dense⟩
  | word start parts =>
    refine ⟨by simp, fun c member => ?_⟩
    rcases List.mem_cons.mp member with rfl | member
    · exact dense (.inl start)
    · exact dense (.inr (parts c member))
  | quoted inside => exact absurd rfl plain

/-- Without quoted texts, words with blanks between them are trimmed. -/
theorem joined_trimmed (inLine : ∀ word ∈ words, InLine word)
    (plain : ∀ word ∈ words, word.1 ≠ .stringLiteral) (nonempty : words ≠ []) :
    (joined words).toList ≠ [] ∧ Unicode.Trimmed (joined words).toList := by
  induction words with
  | nil => exact absurd rfl nonempty
  | cons word words ih =>
    obtain ⟨printable, other⟩ := inLine word (by simp)
    obtain ⟨some_, dense⟩ := plain_word (text_of_printable printable) other (plain word (by simp))
    have first := trimmed_of_dense dense
    by_cases alone : words = []
    · have single : joined [word] = word.2 := by simp [joined]
      rw [alone, single]
      exact ⟨some_, first⟩
    · obtain ⟨someLater, later⟩ := ih (fun next member => inLine next (by simp [member]))
        (fun next member => plain next (by simp [member])) alone
      rw [joined_cons alone, String.toList_append, String.toList_append, List.append_assoc]
      exact ⟨List.append_ne_nil_of_left_ne_nil some_ _,
        Unicode.trimmed_around first later some_ someLater _⟩

/-- Without quoted texts, words joined by blanks are the words written with gaps between them. -/
theorem joined_spaced (plain : ∀ word ∈ words, word.1 ≠ .stringLiteral) (spaced : Spaced words text) :
    Spaced words (joined words) := by
  induction spaced with
  | @last word =>
    have same : writtenWord word = joined [word] := by
      simp [writtenWord, joined, plain word (by simp)]
    exact same ▸ .last
  | @more between words text word gap nonempty spaced ih =>
    have same : writtenWord word = word.2 := by simp [writtenWord, plain word (by simp)]
    have blank : IsGap " " := by simp [IsGap]
    rw [joined_cons (spaced_nonempty spaced), ← same]
    exact .more blank (by decide) (ih fun next member => plain next (by simp [member]))

/-! ## Main statement -/

/-- The document of a line parses to the relationship with this label and to nothing else. -/
def LabelParses (rest label : String) : Prop :=
  ∀ feeds, ParsesTo (lineDocument ("A --> B :" ++ rest) feeds) ⟨none, [], [labelled label]⟩

/-- The document of a line parses to this title, unless it is empty, and to nothing else. -/
def TitleParses (rest title : String) : Prop :=
  ∀ feeds, ParsesTo (lineDocument ("title " ++ rest) feeds)
    ⟨if title = "" then none else some title, [], []⟩

theorem label_parses (inLine : ∀ word ∈ words, InLine word) (line : RestOfLine words rest) :
    LabelParses rest (trimmed (joined words)) :=
  line_parses fun _ => reads_label inLine line

theorem title_parses (inLine : ∀ word ∈ words, InLine word) (line : RestOfLine words rest) :
    TitleParses rest (trimmed (joined words)) := by
  intro feeds
  have parses := line_parses (fun _ => reads_title_words inLine line) feeds
  rwa [Diagram.ofDeclarations, show [Declaration.ofTitle (trimmed (joined words))].filterMap
    Declaration.title? = [trimmed (joined words)] from rfl, List.getLast?_singleton,
    title_in_effect_some] at parses

/-- Whatever tokens stand in the rest of a line, with any gaps between and around them, the label or
title that they make is their lexemes with one blank between any two, trimmed. Without quoted texts
trimming changes nothing, and the label or title written again in the same way is the same. -/
theorem free_text_keeps_words (inLine : ∀ word ∈ words, InLine word) (line : RestOfLine words rest) :
    LabelParses rest (trimmed (joined words)) ∧ TitleParses rest (trimmed (joined words)) ∧
      ((∀ word ∈ words, word.1 ≠ .stringLiteral) →
        trimmed (joined words) = joined words ∧ joined words ≠ "" ∧
        ∀ before behind, IsGap before → IsGap behind →
          LabelParses (before ++ joined words ++ behind) (joined words) ∧
          TitleParses (before ++ joined words ++ behind) (joined words)) := by
  refine ⟨label_parses inLine line, title_parses inLine line, fun plain => ?_⟩
  obtain ⟨_, text, _, rfl, -, spaced, -⟩ := line
  obtain ⟨some_, ends⟩ := joined_trimmed inLine plain (spaced_nonempty spaced)
  have same : trimmed (joined words) = joined words := by
    rw [trimmed, Unicode.trim_of_trimmed ends, String.ofList_toList]
  refine ⟨same, fun nothing => some_ (by simp [nothing]), fun before behind gap gapBehind => ?_⟩
  have again : RestOfLine words (before ++ joined words ++ behind) :=
    ⟨before, _, behind, rfl, gap, joined_spaced plain spaced, gapBehind⟩
  have label := label_parses inLine again
  have title := title_parses inLine again
  rw [same] at label title
  exact ⟨label, title⟩

/-- A reserved marker, an operator and a reserved word between quoted texts, the last of which is
nothing but white space. -/
def markedWords : List (TokenKind × String) :=
  [(.stringLiteral, " a\n' "), (.endMarker, "@enduml"), (.operator .association, "->"),
    (.titleWord, "title"), (.stringLiteral, "\u3000")]

/-- They stand in a line with tabs and carriage returns between them. -/
def markedLine : String :=
  "\t" ++ "\" a\n' \" \t@enduml\r->  title \"\u3000\"" ++ "\r"

theorem marked_words_are_kept :
    (∀ word ∈ markedWords, InLine word) ∧ RestOfLine markedWords markedLine ∧
      LabelParses markedLine "a\n'  @enduml -> title" ∧
      TitleParses markedLine "a\n'  @enduml -> title" := by
  have inLine : ∀ word ∈ markedWords, InLine word := by
    simp only [markedWords, List.forall_mem_cons]
    refine ⟨⟨.quoted ?_, ?_⟩, ⟨.fixed ?_, ?_⟩, ⟨.fixed ?_, ?_⟩, ⟨.fixed ?_, ?_⟩, ⟨.quoted ?_, ?_⟩,
      by simp⟩ <;> decide +kernel
  have blank : IsGap " " := by simp [IsGap]
  have gap : ∀ between ∈ ["\t", " \t", "\r", "  "], IsGap between := by simp [IsGap]
  have spaced : Spaced markedWords "\" a\n' \" \t@enduml\r->  title \"\u3000\"" :=
    .more (gap " \t" (by simp)) (by decide) (.more (gap "\r" (by simp)) (by decide)
      (.more (gap "  " (by simp)) (by decide) (.more blank (by decide) .last)))
  have line : RestOfLine markedWords markedLine :=
    ⟨"\t", _, "\r", rfl, gap _ (by simp), spaced, gap _ (by simp)⟩
  have text : trimmed (joined markedWords) = "a\n'  @enduml -> title" := by decide +kernel
  obtain ⟨label, title, -⟩ := free_text_keeps_words inLine line
  exact ⟨inLine, line, text ▸ label, text ▸ title⟩

end ClassChart.FreeText
