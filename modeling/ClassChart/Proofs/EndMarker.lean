import ClassChart.Proofs.Appending
import ClassChart.Proofs.SourceText
import ClassChart.Proofs.Verdicts

/-! The end marker seals the document. Reading stops at the marker and has looked at nothing behind
it, and scanning has decided every tile in front of it before it gets there. So a source that
compiles keeps its diagram, its reports on that diagram and its drawing, whatever is written behind
it, unless the new text goes on with the last word. -/
namespace ClassChart.Grammar

/-! ## Reading -/

/-- A reading that reaches the end marker is the same whatever comes behind the marker. -/
def SealedAt (read : List Token → Step) (tokens trailing : List Token) : Prop :=
  ∃ taken marker, tokens = taken ++ marker :: trailing ∧ marker.kind = .endMarker ∧
    ∀ other, read (taken ++ marker :: other) = ⟨(read tokens).read, .ok other⟩

theorem declarations_sealed (read : (readDeclarations tokens).outcome = .ok trailing) :
    SealedAt readDeclarations tokens trailing := by
  fun_induction readDeclarations tokens with
  | case1 => cases read
  | case2 token rest ends =>
    cases read
    refine ⟨[], token, rfl, ends, fun other => ?_⟩
    rw [List.nil_append, read_declarations_end ends, read_declarations_end ends]
  | case3 token rest goesOn obstacle fails => cases read
  | case4 token rest goesOn later taken step ih =>
    obtain ⟨front, marker, rfl, ends, reads⟩ := ih read
    obtain ⟨said, stuck, settled⟩ := declaration_settles token rest
    obtain ⟨portion, rfl, readsFirst⟩ := settled_ok settled taken
    refine ⟨token :: (portion ++ front), marker, by simp, ends, fun other => ?_⟩
    have first := readsFirst (front ++ marker :: other) (next_kind_append front rfl)
    rw [List.cons_append, List.append_assoc,
      read_declarations_step goesOn (congrArg Step.outcome first), first, reads other,
      read_declarations_step goesOn taken]

theorem document_sealed (read : (readDocument tokens).outcome = .ok trailing) :
    SealedAt readDocument tokens trailing := by
  induction tokens with
  | nil => cases read
  | cons token tokens ih =>
    by_cases line : token.kind = .newline
    · have skips : ∀ others, readDocument (token :: others) = readDocument others := by
        intro others
        simp [readDocument, skipNewlines, Token.isNewline, line]
      rw [skips] at read
      obtain ⟨front, marker, rfl, ends, reads⟩ := ih read
      refine ⟨token :: front, marker, rfl, ends, fun other => ?_⟩
      rw [List.cons_append, skips, reads, skips]
    · by_cases starts : token.kind = .startMarker
      · have opens : ∀ others, readDocument (token :: others) = readDeclarations others := by
          intro others
          simp [readDocument, skipNewlines, Token.isNewline, expect, starts]
        rw [opens] at read
        obtain ⟨front, marker, rfl, ends, reads⟩ := declarations_sealed read
        refine ⟨token :: front, marker, rfl, ends, fun other => ?_⟩
        rw [List.cons_append, opens, reads, opens]
      · simp [readDocument, skipNewlines, Token.isNewline, expect, line, starts] at read

end ClassChart.Grammar

namespace ClassChart

/-! ## Scanning -/

/-- The end marker is written in one way only. -/
theorem end_marker_text (marker : wordKind word = .endMarker) : word = "@enduml".toList := by
  unfold wordKind keyword? at marker
  cases found : keywords.find? (·.1 = String.ofList word) with
  | none => simp [found] at marker
  | some entry =>
    have every : ∀ entry ∈ keywords, entry.2 = .endMarker → entry.1 = "@enduml" := by decide
    have isMarker : entry.2 = .endMarker := by simpa [found] using marker
    have named : entry.1 = String.ofList word := by simpa using List.find?_some found
    rw [← every entry (List.mem_of_find?_eq_some found) isMarker, named, String.toList_ofList]

/-- An end marker is a word, and the text behind it does not go on with that word. -/
theorem end_marker_tile (stands : (Tile.token .endMarker lexeme).Stands later) :
    lexeme = "@enduml".toList ∧ ∀ d ∈ later.head?, isWordPart d = false := by
  obtain ⟨c, rest, covers, first⟩ := stands
  have notQuoted : (quotedTile rest) ≠ .token .endMarker lexeme := by
    unfold quotedTile
    split <;> simp
  unfold firstTile at first
  split at first
  · rename_i spelling kind found
    cases first
    have every : ∀ entry ∈ fixedSpellings, entry.2 ≠ .endMarker := by decide
    exact absurd rfl (every _ (fixedSpelling?_mem found))
  · split at first
    · exact absurd first notQuoted
    split at first
    · obtain ⟨kind, word⟩ := Tile.token.inj first
      subst word
      refine ⟨end_marker_text kind, ?_⟩
      have behind : rest.dropWhile isWordPart = later := by
        apply behind_run
        simpa [Tile.text] using covers
      intro d head
      have stops := List.head?_dropWhile_not isWordPart rest
      rw [behind, Option.mem_def.mp head] at stops
      simpa using stops
    repeat' split at first
    all_goals cases first

/-- An end marker stays what it is when more text is written behind it. -/
theorem end_marker_append (stands : (Tile.token .endMarker lexeme).Stands later)
    (apart : ∀ d ∈ more.head?, isWordPart d = false) :
    (Tile.token .endMarker lexeme).Stands (later ++ more) := by
  obtain ⟨rfl, ends⟩ := end_marker_tile stands
  have stops : ∀ d ∈ (later ++ more).head?, isWordPart d = false := by
    cases later with
    | nil => exact apart
    | cons c later => exact ends
  have start : isWordStart '@' = true := by decide
  have parts : ∀ d ∈ "enduml".toList, isWordPart d = true :=
    List.all_eq_true.mp (by decide +kernel)
  exact word_read_whole start parts stops fun none => by cases none

/-- Up to the end marker, the tokens of a source do not depend on what is written behind it. -/
theorem tokens_before_marker (closing : token.kind = .endMarker)
    (found : rowTokens .start (tiles text) = taken ++ token :: trailing)
    (apart : ∀ d ∈ more.head?, isWordPart d = false) :
    ∃ others, rowTokens .start (tiles (text ++ more)) = taken ++ token :: others := by
  obtain ⟨front, lexeme, back, split, tokens, place⟩ := row_at_token found
  rw [closing] at split place
  have whole := tiles_stand text
  rw [split] at whole
  obtain ⟨-, marker, -⟩ := row_stands_split whole
  rw [List.append_nil] at marker
  have long : 3 ≤ ((Tile.token .endMarker lexeme :: back).flatMap Tile.text).length := by
    obtain ⟨rfl, -⟩ := end_marker_tile marker
    simp [Tile.text]
  have stands : RowStands ((Tile.token .endMarker lexeme :: back).flatMap Tile.text) front := by
    simpa using (row_stands_split whole).1
  have goesOn : (Tile.token .endMarker lexeme :: back).flatMap Tile.text ≠ [] := by
    intro none
    simp [none] at long
  have severed : RowSevered front ((Tile.token .endMarker lexeme :: back).flatMap Tile.text) more :=
    ⟨row_closed stands goesOn, .inl long, .inl goesOn⟩
  rw [tiles_append split severed, List.flatMap_cons, List.append_assoc,
    tiles_of_stands (end_marker_append marker apart), row_tokens_append, tokens, row_tokens_cons,
    place]
  exact ⟨_, rfl⟩

/-- A source that parses declares the same with more text behind it; only what stands behind its end
marker is another. -/
theorem parse_sealed (read : parse (scan p).tokens = .ok parsed)
    (apart : ∀ d ∈ q.toList.head?, isWordPart d = false) :
    ∃ declarations trailing others, parsed = .ofReading declarations trailing ∧
      parse (scan (p ++ q)).tokens = .ok (.ofReading declarations others) := by
  have scanned : ∀ source,
      beforeEnd (scan source).tokens = rowTokens .start (tiles source.toList) :=
    SourceText.before_end_scan
  cases outcome : (readDocument (beforeEnd (scan p).tokens)).outcome with
  | error obstacle =>
    rw [Grammar.parse_of_obstacle outcome] at read
    cases read
  | ok trailing =>
    rw [Grammar.parse_of_trailing outcome] at read
    cases read
    obtain ⟨taken, marker, split, ends, reads⟩ := Grammar.document_sealed outcome
    rw [scanned] at split
    obtain ⟨others, again⟩ := tokens_before_marker ends split apart
    rw [← String.toList_append, ← scanned] at again
    have reading := reads others
    rw [← again] at reading
    refine ⟨_, trailing, others, rfl, ?_⟩
    rw [Grammar.parse_of_trailing (congrArg Step.outcome reading), reading]

/-! ## Compiling and drawing -/

/-- The reports of a kind that only parsing makes. -/
theorem checked_reports_of_kind (source : String) (parsed : Parsed)
    (kinds : kind.stage = .syntactic) :
    (checked source parsed).diagnostics.filter (·.kind = kind) =
      parsed.diagnostics.filter (·.kind = kind) := by
  have silent : ∀ reports : List Diagnostic, (∀ report ∈ reports, report.stage ≠ .syntactic) →
      reports.filter (·.kind = kind) = [] := by
    intro reports others
    rw [List.filter_eq_nil_iff]
    intro report member same
    obtain rfl : report.kind = kind := by simpa using same
    exact others report member kinds
  have lexical : ∀ report ∈ (scan source).diagnostics, report.stage ≠ .syntactic := by
    intro report member
    simp [scan_reports_stage source report member]
  have semantic : ∀ report ∈ parsed.diagram.validate, report.stage ≠ .syntactic := by
    intro report member
    simp [validate_reports_stage parsed.diagram report member]
  rw [checked, List.filter_append, List.filter_append, silent _ lexical, silent _ semantic,
    List.nil_append, List.append_nil]

theorem trailing_reports_once (declarations : List Declaration) (trailing : List Token) :
    ((Parsed.ofReading declarations trailing).diagnostics.filter
      (·.kind = .trailingContent)).length ≤ 1 := by
  have none : (unrecognizedReports declarations).filter (·.kind = .trailingContent) = [] := by
    rw [List.filter_eq_nil_iff]
    intro report member
    simp [Grammar.unrecognized_reports_kind declarations report member]
  rw [Parsed.ofReading, List.filter_append, none, List.nil_append]
  refine (List.length_filter_le ..).trans ?_
  unfold trailingReports
  cases (skipNewlines trailing).head? <;> simp

/-- A drawing shows nothing of a source but its diagram. -/
theorem drawn_alike (read : parse (scan first).tokens = .ok parsed)
    (readOther : parse (scan second).tokens = .ok other) (same : other.diagram = parsed.diagram)
    (geometry : Geometry) (strict : Bool) :
    (process geometry strict second).map Compilation.svg =
      (process geometry strict first).map Compilation.svg := by
  by_cases rejects : Rejects strict parsed.diagram
  · have rejectsOther : Rejects strict other.diagram := same ▸ rejects
    rw [process_of_failure geometry (compile_of_rejection read rejects),
      process_of_failure geometry (compile_of_rejection readOther rejectsOther), same]
  · have compiled := compile_of_acceptance read rejects
    have compiledOther := compile_of_acceptance readOther (same ▸ rejects)
    cases drawn : geometry.render parsed.diagram with
    | error refusal =>
      have refused : geometry.render other.diagram = .error refusal := same ▸ drawn
      rw [process_of_refusal compiled drawn, process_of_refusal compiledOther refused]
    | ok svg =>
      have drawnOther : geometry.render other.diagram = .ok svg := same ▸ drawn
      rw [process_of_drawing compiled drawn, process_of_drawing compiledOther drawnOther]
      rfl

/-- Two compilations of the same document, whatever is written behind it. -/
structure SameDocument (compilation extended : Compilation) : Prop where
  diagram : extended.diagram = compilation.diagram
  unrecognized : extended.diagnostics.filter (·.kind = .unrecognizedDeclaration) =
    compilation.diagnostics.filter (·.kind = .unrecognizedDeclaration)
  semantic : extended.diagnosticsAt .semantic = compilation.diagnosticsAt .semantic
  trailing : (extended.diagnostics.filter (·.kind = .trailingContent)).length ≤ 1

/-- Whatever is written behind a source that compiles, and does not go on with its last word, leaves
its document and its drawing as they are. -/
theorem end_marker_seals (compiled : compile false p = .ok compilation)
    (apart : ∀ d ∈ q.toList.head?, isWordPart d = false) :
    (∃ extended, compile false (p ++ q) = .ok extended ∧ SameDocument compilation extended) ∧
      ∀ geometry strict, (process geometry strict (p ++ q)).map Compilation.svg =
        (process geometry strict p).map Compilation.svg := by
  cases read : parse (scan p).tokens with
  | error error =>
    rw [compile_of_error read] at compiled
    cases compiled
  | ok parsed =>
    rw [compile_of_acceptance read (lenient_accepts _)] at compiled
    cases compiled
    obtain ⟨declarations, trailing, others, rfl, readOther⟩ := parse_sealed read apart
    have compiledOther := compile_of_acceptance readOther (lenient_accepts _)
    refine ⟨⟨_, compiledOther, rfl, ?_, ?_, ?_⟩, drawn_alike read readOther rfl⟩
    · rw [checked_reports_of_kind _ _ rfl, checked_reports_of_kind _ _ rfl,
        (Grammar.reading_reports declarations others).1,
        (Grammar.reading_reports declarations trailing).1]
    · exact (checked_staged readOther none).semantic.trans (checked_staged read none).semantic.symm
    · rw [checked_reports_of_kind _ _ rfl]
      exact trailing_reports_once declarations others

/-- A document with a stray parenthesis, an endpoint that is no class, and a quote at its end. -/
def closedDocument : String := "@startuml\nclass A\n)\nA --> Ghost\n@enduml \""

/-- It closes the quote and begins a second document, with a body and a text that stay open. -/
def afterword : String := "\x7d @enduml\" 'x\n@startuml\nclass Ghost \x7b @enduml ? \"open"

/-- What the document compiles to alone. -/
def closedCompilation : Compilation where
  diagram := ⟨none, [.empty "A"], [⟨"A", "Ghost", .association, ""⟩]⟩
  diagnostics := [.unterminatedString ⟨5, 9⟩, .unrecognizedDeclaration ⟨.closeParen, ")", ⟨3, 1⟩⟩,
    .undefinedClass ⟨"A", "Ghost", .association, ""⟩ "Ghost"]
  svg := none

theorem afterword_changes_nothing : compile false closedDocument = .ok closedCompilation ∧
    (∃ extended, compile false (closedDocument ++ afterword) = .ok extended ∧
      SameDocument closedCompilation extended) ∧
    ∀ geometry strict, (process geometry strict (closedDocument ++ afterword)).map Compilation.svg =
      (process geometry strict closedDocument).map Compilation.svg := by
  have compiled : compile false closedDocument = .ok closedCompilation := by decide +kernel
  have apart : ∀ d ∈ afterword.toList.head?, isWordPart d = false := by
    intro d begins
    cases begins
    decide +kernel
  exact ⟨compiled, end_marker_seals compiled apart⟩

end ClassChart
