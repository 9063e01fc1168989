import ClassChart.Proofs.TokenPrinting
import ClassChart.Proofs.Trimming

/-! Parsed diagrams can be printed again. The tokens of a source have the texts of their kinds, every
production keeps names for names and labels for text that can stand in quotes, and so whatever a
source declares is a well formed diagram, also where recovery has skipped tokens. Main statement: such
a diagram reads back from its source text, and each of its relationships from its own. -/
namespace ClassChart.Reprinting
open Grammar SourceText TokenPrinting

/-- Tokens as they are scanned: each has a text of its kind. -/
def AllPrintable (tokens : List Token) : Prop :=
  ∀ token ∈ tokens, Printable token.kind token.lexeme

theorem all_printable_append :
    AllPrintable (first ++ second) ↔ AllPrintable first ∧ AllPrintable second :=
  List.forall_mem_append

theorem all_printable_cons :
    AllPrintable (token :: tokens) ↔ Printable token.kind token.lexeme ∧ AllPrintable tokens :=
  List.forall_mem_cons

/-! ## Names and texts -/

theorem identifier_named (printable : Printable kind lexeme) (identifier : kind = .identifier) :
    IsName lexeme := by
  subst identifier
  cases printable with
  | fixed carries => cases carries
  | name named => exact named

theorem word_named (printable : Printable token.kind token.lexeme) (word : IsWord token) :
    IsMemberName token.lexeme := by
  obtain ⟨kind, lexeme, position⟩ := token
  simp only [IsWord, List.mem_cons, List.not_mem_nil, or_false] at word
  rcases word with rfl | rfl | rfl | rfl
  · exact .inl (identifier_named printable rfl)
  all_goals
    cases printable with
    | fixed carries => exact .inr (by simp_all [fixedTexts])

/-- No text of a token holds a quote. -/
theorem text_without_quote (text : TokenText kind lexeme) : quoteMark ∉ lexeme := by
  cases text with
  | fixed listed =>
    have every : ∀ entry ∈ fixedSpellings, quoteMark ∉ entry.1 := by decide
    exact every _ listed
  | word start parts =>
    have other : isWordStart quoteMark = false ∧ isWordPart quoteMark = false := by decide
    intro member
    rcases List.mem_cons.mp member with rfl | member
    · simp [other] at start
    · simpa [other] using parts _ member
  | quoted inside => exact inside

theorem mem_intercalate {separator : List α} {pieces : List (List α)}
    (member : c ∈ separator.intercalate pieces) :
    c ∈ separator ∨ ∃ piece ∈ pieces, c ∈ piece := by
  induction pieces with
  | nil => cases member
  | cons piece pieces ih =>
    cases pieces with
    | nil => exact .inr ⟨piece, by simp, by simpa using member⟩
    | cons next pieces =>
      rw [List.intercalate_cons_cons, List.mem_append, List.mem_append] at member
      rcases member with (here | between) | later
      · exact .inr ⟨piece, by simp, here⟩
      · exact .inl between
      · refine (ih later).imp_right ?_
        rintro ⟨other, listed, inside⟩
        exact ⟨other, by simp [listed], inside⟩

/-- Free text of scanned tokens can stand between quotes, and is trimmed. -/
theorem free_text_quotable (printable : AllPrintable tokens) : IsQuotable (freeText tokens) := by
  constructor
  · rw [freeText, String.toList_ofList]
    intro member
    have other : quoteMark ∉ [' '] := by decide
    rcases mem_intercalate (Unicode.mem_of_mem_trim member) with blank | ⟨lexeme, listed, inside⟩
    · exact other blank
    · obtain ⟨token, inTokens, rfl⟩ := List.mem_map.mp listed
      exact text_without_quote (text_of_printable (printable token inTokens)) inside
  · rw [freeText, String.toList_ofList, Unicode.trim_trim]

/-! ## What a production says -/

/-- A member whose name and type can be written. -/
def MemberWritable : Member → Prop
  | .ofAttribute declared => IsMemberName declared.name ∧ IsMemberName declared.declaredType
  | .ofMethod declared => IsMemberName declared.name ∧ IsMemberName declared.returnType

/-- A declaration whose names and texts can be written; a skipped token declares nothing. -/
def Writable : Declaration → Prop
  | .ofClass declared => IsName declared.name ∧ ∀ member ∈ declared.members, MemberWritable member
  | .ofRelationship declared =>
    (IsName declared.source ∧ IsName declared.target) ∧ IsQuotable declared.label
  | .ofTitle text => IsQuotable text
  | .unrecognized _ => True

/-- Phrases in a row say only what each phrase may say. -/
theorem repeated_says {Phrase : List Token → List α → Prop} {Holds : α → Prop}
    (each : ∀ portion said, Phrase portion said → AllPrintable portion → ∀ entry ∈ said, Holds entry)
    (phrases : Repeated Phrase portion said) (printable : AllPrintable portion) :
    ∀ entry ∈ said, Holds entry := by
  induction phrases with
  | none => simp
  | more first later ih =>
    obtain ⟨here, rest⟩ := all_printable_append.mp printable
    exact List.forall_mem_append.mpr ⟨each _ _ first here, ih rest⟩

theorem type_named (phrase : TypePhrase usual portion type) (usually : IsMemberName usual)
    (printable : AllPrintable portion) : IsMemberName type := by
  cases phrase with
  | omitted => exact usually
  | given colon word => exact word_named (printable _ (by simp)) word

theorem member_writable (phrase : MemberPhrase portion member) (printable : AllPrintable portion) :
    MemberWritable member := by
  have usual : IsMemberName defaultAttributeType ∧ IsMemberName defaultReturnType := by decide +kernel
  cases phrase with
  | ofAttribute marked word typed =>
    obtain ⟨-, rest⟩ := all_printable_append.mp printable
    obtain ⟨name, types⟩ := all_printable_cons.mp rest
    exact ⟨word_named name word, type_named typed usual.1 types⟩
  | ofMethod marked word opens inside closes typed =>
    obtain ⟨-, rest⟩ := all_printable_append.mp printable
    obtain ⟨name, behind⟩ := all_printable_cons.mp rest
    obtain ⟨-, types⟩ := all_printable_append.mp (all_printable_cons.mp behind).2
    exact ⟨word_named name word, type_named typed usual.2 (all_printable_cons.mp types).2⟩

theorem body_writable (phrase : BodyPhrase portion members) (printable : AllPrintable portion) :
    ∀ member ∈ members, MemberWritable member := by
  cases phrase with
  | omitted => simp
  | given opens inside closes =>
    obtain ⟨-, rest⟩ := all_printable_cons.mp printable
    refine repeated_says ?_ inside (all_printable_append.mp rest).1
    intro portion said item printable
    cases item with
    | lineBreak line => simp
    | member phrase => simpa using member_writable phrase printable

theorem relationship_writable (phrase : RelationshipPhrase portion declared)
    (printable : AllPrintable portion) : Writable (.ofRelationship declared) := by
  have unlabelled : IsQuotable "" := by decide +kernel
  cases phrase with
  | plain first connects second =>
    simp only [all_printable_cons] at printable
    exact ⟨⟨identifier_named printable.1 first, identifier_named printable.2.2.1 second⟩, unlabelled⟩
  | labelled first connects second colon inside line =>
    simp only [all_printable_cons, all_printable_append] at printable
    exact ⟨⟨identifier_named printable.1 first, identifier_named printable.2.2.1 second⟩,
      free_text_quotable printable.2.2.2.2.1⟩

theorem item_writable (item : Item portion said) (printable : AllPrintable portion) :
    ∀ declaration ∈ said, Writable declaration := by
  cases item with
  | lineBreak line => simp
  | ofClass phrase =>
    obtain ⟨head, named, body⟩ := phrase
    obtain ⟨name, rest⟩ := all_printable_cons.mp (all_printable_append.mp printable).2
    simpa [Writable] using ⟨identifier_named name named, body_writable body rest⟩
  | ofRelationship phrase => simpa using relationship_writable phrase printable
  | ofTitle phrase =>
    obtain ⟨word, inside, line⟩ := phrase
    obtain ⟨-, rest⟩ := all_printable_cons.mp printable
    simpa [Writable] using free_text_quotable (all_printable_append.mp rest).1

/-- What a run of the parser declares can be written, whatever it has skipped. -/
theorem passages_writable (passages : Repeated Passage portion said)
    (printable : AllPrintable portion) : ∀ declaration ∈ said, Writable declaration := by
  refine repeated_says ?_ passages printable
  intro portion said passage printable
  cases passage with
  | item item => exact item_writable item printable
  | skipped token => simp [Writable]

/-! ## The diagram -/

/-- A class whose names and types can be written. -/
def ClassWritable (node : ClassNode) : Prop :=
  IsName node.name ∧
    (∀ declared ∈ node.attributes, IsMemberName declared.name ∧ IsMemberName declared.declaredType) ∧
    ∀ declared ∈ node.methods, IsMemberName declared.name ∧ IsMemberName declared.returnType

theorem class_writable (writable : Writable declaration) (declares : declaration.class? = some node) :
    ClassWritable node := by
  cases declaration with
  | ofClass whole =>
    obtain rfl : whole.toNode = node := by simpa [Declaration.class?] using declares
    obtain ⟨named, members⟩ := writable
    refine ⟨named, fun declared listed => ?_, fun declared listed => ?_⟩
    all_goals
      obtain ⟨member, among, found⟩ := List.mem_filterMap.mp listed
      have writable := members member among
      cases member <;> simp_all [Member.attribute?, Member.method?, MemberWritable]
  | _ => simp [Declaration.class?] at declares

theorem connection_writable (writable : Writable declaration)
    (declares : declaration.relationship? = some relationship) :
    Writable (.ofRelationship relationship) := by
  cases declaration with
  | ofRelationship other =>
    obtain rfl : other = relationship := by simpa [Declaration.relationship?] using declares
    exact writable
  | _ => simp [Declaration.relationship?] at declares

theorem title_writable (writable : Writable declaration) (declares : declaration.title? = some text) :
    IsQuotable text := by
  cases declaration with
  | ofTitle other =>
    obtain rfl : other = text := by simpa [Declaration.title?] using declares
    exact writable
  | _ => simp [Declaration.title?] at declares

/-- Declarations that can be written mean a well formed diagram. -/
theorem diagram_well_formed (writable : ∀ declaration ∈ said, Writable declaration) :
    WellFormed (.ofDeclarations said) := by
  have classes : ∀ node ∈ (Diagram.ofDeclarations said).classes, ClassWritable node := by
    intro node member
    obtain ⟨declaration, listed, declares⟩ := List.mem_filterMap.mp member
    exact class_writable (writable _ listed) declares
  have relationships : ∀ relationship ∈ (Diagram.ofDeclarations said).relationships,
      Writable (.ofRelationship relationship) := by
    intro relationship member
    obtain ⟨declaration, listed, declares⟩ := List.mem_filterMap.mp member
    exact connection_writable (writable _ listed) declares
  constructor
  case classes => exact fun node member => (classes node member).1
  case attributes => exact fun node member => (classes node member).2.1
  case methods => exact fun node member => (classes node member).2.2
  case endpoints => exact fun relationship member => (relationships relationship member).1
  case labels => exact fun relationship member => (relationships relationship member).2
  case title =>
    intro text titled
    obtain ⟨last, nonempty⟩ := Option.filter_eq_some_iff.mp titled
    obtain ⟨declaration, listed, declares⟩ := List.mem_filterMap.mp (List.mem_of_getLast? last)
    exact ⟨by simpa using nonempty, title_writable (writable _ listed) declares⟩

/-- The tokens of a source have the texts of their kinds. -/
theorem scanned_printable (source : String) : AllPrintable (beforeEnd (scan source).tokens) := by
  rw [before_end_scan]
  exact fun token scanned => printable_of_text (scanned_token_text scanned)

theorem parsed_well_formed (parsed : parse (scan text).tokens = .ok result) :
    WellFormed result.diagram := by
  have printable := scanned_printable text
  unfold parse at parsed
  generalize beforeEnd (scan text).tokens = front at printable parsed
  cases outcome : (readDocument front).outcome with
  | error obstacle => simp [outcome] at parsed
  | ok trailing =>
    obtain rfl : Parsed.ofReading (readDocument front).read trailing = result := by
      simpa [outcome] using parsed
    obtain ⟨before, opening, portion, closing, pieces, -, -, -, passages⟩ :=
      read_document_sound outcome
    rw [pieces] at printable
    obtain ⟨-, fromOpening⟩ := all_printable_append.mp printable
    obtain ⟨inside, -⟩ := all_printable_append.mp (all_printable_cons.mp fromOpening).2
    exact diagram_well_formed (passages_writable passages inside)

/-! ## Reading it back -/

/-- The kinds and lexemes of a relationship without its label. -/
def connectionWords (relationship : Relationship) : List (TokenKind × String) :=
  [(.identifier, relationship.source), (.operator relationship.kind, relationship.kind.operator),
    (.identifier, relationship.target)]

/-- Between names, the text of a relationship is read as its two names and its operator. -/
theorem connection_scans (source : IsName relationship.source) (target : IsName relationship.target) :
    ScansTo relationship.text (connectionWords relationship) := by
  have same : relationship.text = written (connectionWords relationship) := by
    simp [Relationship.text, written, writtenWord, connectionWords, toString, String.append_assoc]
  rw [same]
  refine written_scans ?_
  have operator : relationship.kind.operator ∈ fixedTexts (.operator relationship.kind) := by
    cases relationship.kind <;> decide
  simp only [connectionWords, List.forall_mem_cons]
  exact ⟨.name source, .fixed operator, .name target, by simp⟩

/-- Whatever a source declares, what has been skipped left out, makes a well formed diagram. The text
of each of its relationships scans to the two names and the operator between them, and the diagram
written as a source parses to the diagram without a report. -/
theorem parsed_diagram_is_reprintable (parsed : parse (scan text).tokens = .ok result) :
    WellFormed result.diagram ∧
      (∀ relationship ∈ result.diagram.relationships,
        ScansTo relationship.text (connectionWords relationship)) ∧
      ∀ feeds, (scan (source result.diagram feeds)).diagnostics = [] ∧
        parse (scan (source result.diagram feeds)).tokens = .ok ⟨result.diagram, []⟩ := by
  have wellFormed := parsed_well_formed parsed
  refine ⟨wellFormed, fun relationship member => ?_, fun feeds => ?_⟩
  · obtain ⟨source, target⟩ := wellFormed.endpoints relationship member
    exact connection_scans source target
  · have meaning : Diagram.ofDeclarations (declarations result.diagram) = result.diagram :=
      of_declarations fun untitled => (wellFormed.title "" untitled).1 rfl
    have parses := document_parses (reads_source wellFormed feeds)
    rwa [meaning] at parses

/-- A source with things to skip: a parenthesis, a character that belongs to no token, and content
behind the end marker. Its class and its relationship share a line, a member is named by a reserved
word, the label mixes a quoted text over two lines with a marker and operators, and the title is
blank. -/
def entangled : String :=
  "@startuml\n) ?\nabstract class o \x7b -title(a\n-- b) : class \x7d o --> @é : \" a\n' \" @enduml-><|.. \n" ++
    "title \"\u3000\"\n@enduml o"

/-- The relationship of that line. -/
def besideClass : Relationship :=
  ⟨"o", "@é", .association, "a\n'  @enduml -> <|.."⟩

/-- What remains of the source. -/
def disentangled : Diagram where
  title := none
  classes := [⟨"o", true, [], [⟨some .privateMember, "title", "class"⟩]⟩]
  relationships := [besideClass]

theorem entangled_source_is_reprintable :
    parse (scan entangled).tokens = .ok ⟨disentangled,
      [.unrecognizedDeclaration ⟨.closeParen, ")", ⟨2, 1⟩⟩,
        .trailingContent ⟨.identifier, "o", ⟨7, 9⟩⟩]⟩ ∧
      WellFormed disentangled ∧
      ScansTo "o --> @é" [(.identifier, "o"), (.operator .association, "-->"), (.identifier, "@é")] ∧
      (scan (source disentangled 2)).diagnostics = [] ∧
        parse (scan (source disentangled 2)).tokens = .ok ⟨disentangled, []⟩ := by
  have parsed : parse (scan entangled).tokens = .ok ⟨disentangled,
      [.unrecognizedDeclaration ⟨.closeParen, ")", ⟨2, 1⟩⟩,
        .trailingContent ⟨.identifier, "o", ⟨7, 9⟩⟩]⟩ := by decide +kernel
  obtain ⟨wellFormed, texts, reprinted⟩ := parsed_diagram_is_reprintable parsed
  have connection := texts besideClass (by simp [disentangled])
  rw [show besideClass.text = "o --> @é" by decide] at connection
  exact ⟨parsed, wellFormed, connection, reprinted 2⟩

end ClassChart.Reprinting
