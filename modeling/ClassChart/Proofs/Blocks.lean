import ClassChart.Proofs.Obstacles

/-! Documents put together from blocks, each closed by a line break. A block that parses alone leaves
nothing open: no declaration in it reaches over the line break behind it, so what follows is read as
if it stood alone too. The diagram of a document is then made from the diagrams of its blocks, and
blocks that declare different things may change places. -/
namespace ClassChart.Grammar

/-! ## Declarations stop before a line break -/

/-- A portion has been taken, and no line break is its last token. -/
def StopsShort (tokens rest : List Token) : Prop :=
  ∃ taken, tokens = taken ++ rest ∧ ∀ last ∈ taken.getLast?, last.kind ≠ .newline

theorem stops_short_at_once (tokens : List Token) : StopsShort tokens tokens :=
  ⟨[], rfl, by simp⟩

theorem stops_short_cons (other : token.kind ≠ .newline) (short : StopsShort tokens rest) :
    StopsShort (token :: tokens) rest := by
  obtain ⟨taken, rfl, ends⟩ := short
  refine ⟨token :: taken, rfl, fun last isLast => ?_⟩
  cases taken with
  | nil =>
    obtain rfl : token = last := by simpa using isLast
    exact other
  | cons first taken => exact ends last (by simpa [List.getLast?_cons_cons] using isLast)

theorem line_stops_short (tokens : List Token) : StopsShort tokens (behindLine tokens) := by
  obtain ⟨split, inside, -⟩ := line_split tokens
  exact ⟨lineTokens tokens, split, fun last isLast => inside last (List.mem_of_getLast? isLast)⟩

/-- A class ends with its name or with the brace that closes its body. -/
theorem class_stops_short (read : (readClass isAbstract tokens).outcome = .ok rest) :
    StopsShort tokens rest := by
  obtain ⟨name, portion, members, rfl, named, body, -⟩ := read_class_sound read
  cases body with
  | omitted => exact ⟨[name], rfl, by simp [named]⟩
  | given opens inside closes =>
    rename_i inner opening closing
    refine ⟨name :: opening :: (inner ++ [closing]), rfl, fun last isLast => ?_⟩
    have same : closing = last := by
      rw [← List.cons_append, ← List.cons_append, List.getLast?_concat] at isLast
      simpa using isLast
    simp [← same, closes]

/-- A relationship ends with its target or within the line of its label. -/
theorem relationship_stops_short
    (read : (readRelationship source operator kind tokens).outcome = .ok rest) :
    StopsShort tokens rest := by
  unfold readRelationship at read
  split at read
  · cases read
  · rename_i target later found
    obtain ⟨rfl, named⟩ := expect_eq_ok.mp found
    have second : target.kind ≠ .newline := by simp_all
    split at read
    · cases read
      exact stops_short_cons second (stops_short_at_once _)
    · rename_i text opens
      cases read
      obtain ⟨mark, rfl, colon⟩ := behind?_eq_some.mp opens
      exact stops_short_cons second (stops_short_cons (by simp [colon]) (line_stops_short text))

theorem declaration_stops_short (read : (readDeclaration token tokens).outcome = .ok rest) :
    StopsShort tokens rest := by
  unfold readDeclaration at read
  split at read
  · cases read
    exact stops_short_at_once _
  · exact class_stops_short read
  · cases second : behind? .classWord tokens with
    | none =>
      simp only [second, Option.getD_none] at read
      exact class_stops_short read
    | some later =>
      obtain ⟨next, rfl, isClass⟩ := behind?_eq_some.mp second
      simp only [second, Option.getD_some] at read
      exact stops_short_cons (by simp [isClass]) (class_stops_short read)
  · cases read
    exact line_stops_short tokens
  · by_cases follows : nextIsOperator tokens = true
    · rw [if_pos follows] at read
      obtain ⟨operator, later, kind, rfl, connects⟩ := next_is_operator_iff.mp follows
      rw [read_connection_operator connects] at read
      exact stops_short_cons (by simp [connects]) (relationship_stops_short read)
    · rw [if_neg follows] at read
      cases read
      exact stops_short_at_once _
  · cases read
    exact stops_short_at_once _

/-! ## Blocks -/

/-- In front of a line break the block is read as these declarations, whatever comes then. -/
def ReadsAs (block : List Token) (said : List Declaration) : Prop :=
  ∀ (lineEnd : Token) later, lineEnd.kind = .newline →
    readDeclarations (block ++ lineEnd :: later) =
      ⟨said ++ (readDeclarations later).read, (readDeclarations later).outcome⟩

/-- A declaration of a block that is read to the end leaves the end of that block. -/
private theorem declaration_leaves_block (line : lineEnd.kind = .newline)
    (read : (readDeclaration token (block ++ [lineEnd, closing])).outcome = .ok rest)
    (others : (readDeclarations rest).outcome = .ok []) :
    ∃ taken more, block = taken ++ more ∧ rest = more ++ [lineEnd, closing] ∧
      ∀ other, nextKind other = nextKind rest →
        readDeclaration token (taken ++ other) =
          ⟨(readDeclaration token (block ++ [lineEnd, closing])).read, .ok other⟩ := by
  obtain ⟨said, stuck, settled⟩ := declaration_settles token (block ++ [lineEnd, closing])
  obtain ⟨taken, split, reads⟩ := settled_ok settled read
  obtain ⟨sameTaken, sameSplit, ends⟩ := declaration_stops_short read
  obtain rfl : taken = sameTaken := List.append_cancel_right (split.symm.trans sameSplit)
  rcases List.append_eq_append_iff.mp split with ⟨beyond, rfl, tail⟩ | ⟨more, rfl, left⟩
  · -- Taking the line break would make it the last token, and taking the marker leaves nothing.
    cases beyond with
    | nil => exact ⟨block ++ [], [], by simp, tail.symm, reads⟩
    | cons first beyond =>
      obtain ⟨rfl, behindLine⟩ := List.cons.inj tail
      cases beyond with
      | nil => exact absurd line (ends lineEnd (by simp))
      | cons second beyond =>
        obtain ⟨-, behindMarker⟩ := List.cons.inj behindLine
        have nothing : rest = [] := (List.append_eq_nil_iff.mp behindMarker.symm).2
        simp [nothing, readDeclarations] at others
  · exact ⟨taken, more, rfl, left, reads⟩

/-- A block that is read to the end between its line break and an end marker leaves nothing open. -/
theorem block_reads_as (line : lineEnd.kind = .newline) (ends : closing.kind = .endMarker)
    (block : List Token) (read : readDeclarations (block ++ [lineEnd, closing]) = ⟨said, .ok []⟩) :
    ReadsAs block said := by
  induction size : block.length using Nat.strong_induction_on generalizing block said with
  | _ bound ih =>
  intro other later otherLine
  cases block with
  | nil =>
    rw [List.nil_append, read_declarations_newline line, read_declarations_end ends] at read
    cases read
    rw [List.nil_append, read_declarations_newline otherLine]
    rfl
  | cons token block =>
    rw [List.cons_append] at read ⊢
    by_cases marker : token.kind = .endMarker
    · rw [read_declarations_end marker] at read
      cases block <;> cases read
    · cases taken : (readDeclaration token (block ++ [lineEnd, closing])).outcome with
      | error obstacle =>
        rw [read_declarations_stop marker taken] at read
        cases read
      | ok rest =>
        rw [read_declarations_step marker taken] at read
        obtain ⟨rfl, others⟩ := Step.mk.inj read
        obtain ⟨portion, more, rfl, rfl, reads⟩ := declaration_leaves_block line taken others
        have shorter : more.length < bound := by
          rw [← size]
          simp only [List.length_cons, List.length_append]
          omega
        have behind : ReadsAs more (readDeclarations (more ++ [lineEnd, closing])).read :=
          ih more.length shorter more (by rw [← others]) rfl
        have same : nextKind (more ++ other :: later) = nextKind (more ++ [lineEnd, closing]) :=
          next_kind_append more (by simp [nextKind, line, otherLine])
        have again := reads _ same
        rw [List.append_assoc,
          read_declarations_step marker (congrArg Step.outcome again), again,
          behind other later otherLine]
        simp only [List.append_assoc]

/-! ## Rows of blocks -/

/-- Each followed by a line break, the blocks are read as these declarations, whatever comes then. -/
def RowReadsAs (blocks : List (List Token)) (said : List Declaration) : Prop :=
  ∀ (lineEnd : Token) later, lineEnd.kind = .newline →
    readDeclarations (blocks.flatMap (· ++ [lineEnd]) ++ later) =
      ⟨said ++ (readDeclarations later).read, (readDeclarations later).outcome⟩

theorem row_nil : RowReadsAs [] [] :=
  fun _ _ _ => rfl

theorem row_cons (first : ReadsAs block said) (row : RowReadsAs blocks saidLater) :
    RowReadsAs (block :: blocks) (said ++ saidLater) := by
  intro lineEnd later line
  rw [List.flatMap_cons, List.append_assoc, List.append_assoc, List.singleton_append,
    first lineEnd _ line, row lineEnd later line, List.append_assoc]

theorem row_append (front : RowReadsAs blocks said) (back : RowReadsAs others saidLater) :
    RowReadsAs (blocks ++ others) (said ++ saidLater) := by
  intro lineEnd later line
  rw [List.flatMap_append, List.append_assoc, front lineEnd _ line, back lineEnd later line,
    List.append_assoc]

theorem row_of_each (each : ∀ block ∈ blocks, ∃ said, ReadsAs block said) :
    ∃ said, RowReadsAs blocks said := by
  induction blocks with
  | nil => exact ⟨[], row_nil⟩
  | cons block blocks ih =>
    obtain ⟨said, first⟩ := each block (by simp)
    obtain ⟨saidLater, row⟩ := ih fun other member => each other (List.mem_cons_of_mem _ member)
    exact ⟨said ++ saidLater, row_cons first row⟩

/-! ## Documents of blocks -/

/-- The tokens that stand around blocks. -/
structure Frame where
  start : Token
  lineEnd : Token
  stop : Token
  starts : start.kind = .startMarker
  breaks : lineEnd.kind = .newline
  stops : stop.kind = .endMarker

namespace Frame

/-- Blocks behind the start marker, each closed by the line break, and what comes then. -/
def opened (frame : Frame) (blocks : List (List Token)) (later : List Token) : List Token :=
  frame.start :: (blocks.flatMap (· ++ [frame.lineEnd]) ++ later)

/-- The document that consists of these blocks. -/
def document (frame : Frame) (blocks : List (List Token)) : List Token :=
  frame.opened blocks [frame.stop]

end Frame

/-- What parsing a sequence declares, up to the end marker or an obstacle. -/
def declarationsOf (tokens : List Token) : List Declaration :=
  (readDocument (beforeEnd tokens)).read

/-- Parsing the sequence executes a title declaration. -/
def setsTitle (tokens : List Token) : Bool :=
  (declarationsOf tokens).any (·.title?.isSome)

/-- A document of one block parses, and nothing stands behind its end marker. -/
structure Alone (frame : Frame) (block : List Token) (parsed : Parsed) : Prop where
  endless : ∀ token ∈ block, token.isEnd = false
  parses : parse (frame.document [block]) = .ok parsed
  nothingBehind : ∀ report ∈ parsed.diagnostics, report.kind ≠ .trailingContent

theorem opened_goes_on (frame : Frame)
    (endless : ∀ block ∈ blocks, ∀ token ∈ block, token.isEnd = false) :
    ∀ token ∈ frame.opened blocks [], token.isEnd = false := by
  intro token member
  simp only [Frame.opened, List.append_nil, List.mem_cons, List.mem_flatMap, List.mem_append] at member
  rcases member with rfl | ⟨block, inside, member | rfl | member⟩
  · simp [Token.isEnd, frame.starts]
  · exact endless block inside token member
  · simp [Token.isEnd, frame.breaks]
  · cases member

/-- Blocks without an end of input are read in full, and what comes behind them as it stands. -/
theorem read_opened (frame : Frame)
    (endless : ∀ block ∈ blocks, ∀ token ∈ block, token.isEnd = false) (later : List Token) :
    readDocument (beforeEnd (frame.opened blocks later)) =
      readDeclarations (blocks.flatMap (· ++ [frame.lineEnd]) ++ beforeEnd later) := by
  have split : frame.opened blocks later = frame.opened blocks [] ++ later := by
    simp [Frame.opened]
  rw [split, before_end_append (opened_goes_on frame endless)]
  simp [Frame.opened, readDocument, skipNewlines, expect, Token.isNewline, frame.starts]

theorem first_end_append (endless : ∀ token ∈ tokens, token.isEnd = false) (others : List Token) :
    firstEnd (tokens ++ others) = firstEnd others := by
  have none : tokens.find? (·.isEnd) = none := List.find?_eq_none.mpr (by simpa using endless)
  rw [firstEnd, List.find?_append, none, Option.none_or]
  rfl

/-- Reading a block that stands alone ends at the end marker of its document: only line breaks may
follow the marker that ends the reading, and so it is the last token. -/
theorem alone_leaves_nothing (alone : Alone frame block parsed) :
    readDeclarations (block ++ [frame.lineEnd, frame.stop]) =
        ⟨declarationsOf (frame.document [block]), .ok []⟩ ∧
      parsed = .ofReading (declarationsOf (frame.document [block])) [] := by
  have endless : ∀ other ∈ [block], ∀ token ∈ other, token.isEnd = false := by
    simpa using alone.endless
  have goesOn : beforeEnd [frame.stop] = [frame.stop] := by
    simp [beforeEnd, Token.isEnd, frame.stops]
  have reading : readDocument (beforeEnd (frame.document [block])) =
      readDeclarations (block ++ [frame.lineEnd, frame.stop]) := by
    rw [Frame.document, read_opened frame endless, goesOn]
    simp
  cases outcome : (readDocument (beforeEnd (frame.document [block]))).outcome with
  | error obstacle =>
    have parses := alone.parses
    rw [parse_of_obstacle outcome] at parses
    cases parses
  | ok trailing =>
    have parses := alone.parses
    rw [parse_of_trailing outcome] at parses
    obtain rfl := Except.ok.inj parses
    have blank : ∀ token ∈ trailing, token.kind = .newline := by
      rw [← trailing_reports_eq_nil, List.eq_nil_iff_forall_not_mem]
      intro report member
      exact alone.nothingBehind report (List.mem_append_right _ member)
        (trailing_reports_kind trailing report member)
    obtain ⟨portion, closing, split, -⟩ := read_declarations_sound _ (reading ▸ outcome)
    have last : frame.stop ∈ (closing :: trailing).getLast? := by
      have whole := congrArg List.getLast? split
      simpa [List.getLast?_append, List.getLast?_cons] using whole.symm
    obtain rfl : trailing = [] := by
      cases trailing with
      | nil => rfl
      | cons token trailing =>
        have inside : frame.stop ∈ token :: trailing :=
          List.mem_of_getLast? (by simpa [List.getLast?_cons_cons] using last)
        have line := blank _ inside
        rw [frame.stops] at line
        cases line
    refine ⟨?_, rfl⟩
    rw [← reading, declarationsOf, ← outcome]

/-- A block that stands alone leaves nothing open, and its document has the reports of its skipped
tokens only. -/
theorem alone_reads_as (alone : Alone frame block parsed) :
    ReadsAs block (declarationsOf (frame.document [block])) ∧
      parsed = ⟨.ofDeclarations (declarationsOf (frame.document [block])),
        unrecognizedReports (declarationsOf (frame.document [block]))⟩ := by
  obtain ⟨reads, means⟩ := alone_leaves_nothing alone
  refine ⟨block_reads_as frame.breaks frame.stops block reads, ?_⟩
  rw [means]
  simp [Parsed.ofReading, trailingReports, skipNewlines]

/-- How a row of blocks parses, whatever comes behind it. -/
theorem parse_opened (frame : Frame) (row : RowReadsAs blocks said)
    (endless : ∀ block ∈ blocks, ∀ token ∈ block, token.isEnd = false) (later : List Token) :
    parse (frame.opened blocks later) =
      match (readDeclarations (beforeEnd later)).outcome with
      | .error obstacle => .error (obstacle.error (firstEnd later))
      | .ok trailing => .ok (.ofReading (said ++ (readDeclarations (beforeEnd later)).read) trailing) := by
  have split : frame.opened blocks later = frame.opened blocks [] ++ later := by
    simp [Frame.opened]
  have stop : firstEnd (frame.opened blocks later) = firstEnd later := by
    rw [split, first_end_append (opened_goes_on frame endless)]
  have reading := (read_opened frame endless later).trans (row frame.lineEnd _ frame.breaks)
  have ends := congrArg Step.outcome reading
  cases outcome : (readDeclarations (beforeEnd later)).outcome with
  | error obstacle => rw [parse_of_obstacle (ends.trans outcome), stop]
  | ok trailing => rw [parse_of_trailing (ends.trans outcome), reading]

/-! ## What declarations in a row mean -/

theorem unrecognized_reports_append (first second : List Declaration) :
    unrecognizedReports (first ++ second) = unrecognizedReports first ++ unrecognizedReports second := by
  rw [unrecognizedReports, List.filterMap_append, List.map_append]
  rfl

/-- Classes and relationships of two lists of declarations come one after the other; the titles of
the second list decide, if it has any. -/
theorem diagram_append (first second : List Declaration) :
    Diagram.ofDeclarations (first ++ second) =
      { title := if second.any (·.title?.isSome) then (Diagram.ofDeclarations second).title
          else (Diagram.ofDeclarations first).title
        classes := (Diagram.ofDeclarations first).classes ++ (Diagram.ofDeclarations second).classes
        relationships := (Diagram.ofDeclarations first).relationships ++
          (Diagram.ofDeclarations second).relationships } := by
  simp only [Diagram.ofDeclarations, List.filterMap_append, List.getLast?_append]
  congr 1
  cases titles : second.filterMap Declaration.title? with
  | nil =>
    have silent : second.any (·.title?.isSome) = false := by
      simpa using List.filterMap_eq_nil_iff.mp titles
    simp [silent]
  | cons title later =>
    have sets : second.any (·.title?.isSome) = true := by
      have member : title ∈ second.filterMap Declaration.title? := by simp [titles]
      obtain ⟨declaration, inside, named⟩ := List.mem_filterMap.mp member
      exact List.any_eq_true.mpr ⟨declaration, inside, by simp [named]⟩
    simp [sets, List.getLast?_cons]

/-- Classes and nothing else are declared. -/
def OnlyClasses (declarations : List Declaration) : Prop :=
  ∀ declaration ∈ declarations, declaration.relationship? = none ∧ declaration.title? = none

/-- Relationships and nothing else are declared. -/
def OnlyRelationships (declarations : List Declaration) : Prop :=
  ∀ declaration ∈ declarations, declaration.class? = none ∧ declaration.title? = none

/-- Classes and relationships may change places. -/
theorem diagram_exchange (classes : OnlyClasses first) (relationships : OnlyRelationships second)
    (before later : List Declaration) :
    Diagram.ofDeclarations (before ++ (first ++ second) ++ later) =
      .ofDeclarations (before ++ (second ++ first) ++ later) := by
  have noRelationship : first.filterMap Declaration.relationship? = [] :=
    List.filterMap_eq_nil_iff.mpr fun declaration member => (classes declaration member).1
  have noTitle : first.filterMap Declaration.title? = [] :=
    List.filterMap_eq_nil_iff.mpr fun declaration member => (classes declaration member).2
  have noClass : second.filterMap Declaration.class? = [] :=
    List.filterMap_eq_nil_iff.mpr fun declaration member => (relationships declaration member).1
  have noOtherTitle : second.filterMap Declaration.title? = [] :=
    List.filterMap_eq_nil_iff.mpr fun declaration member => (relationships declaration member).2
  simp only [Diagram.ofDeclarations, List.filterMap_append, noRelationship, noTitle, noClass,
    noOtherTitle, List.nil_append, List.append_nil]

/-! ## Two blocks -/

/-- The result for two blocks, put together from the results for each. -/
def joined (first second : Parsed) (titled : Bool) : Parsed where
  diagram :=
    { title := if titled then second.diagram.title else first.diagram.title
      classes := first.diagram.classes ++ second.diagram.classes
      relationships := first.diagram.relationships ++ second.diagram.relationships }
  diagnostics := first.diagnostics ++ second.diagnostics

section TwoBlocks
variable {frame otherFrame : Frame} {block other : List Token} {parsed parsedOther : Parsed}

theorem blocks_parse_together (first : Alone frame block parsed)
    (second : Alone otherFrame other parsedOther) (joint : Frame) :
    parse (joint.document [block, other]) =
      .ok (joined parsed parsedOther (setsTitle (otherFrame.document [other]))) := by
  obtain ⟨reads, means⟩ := alone_reads_as first
  obtain ⟨readsOther, meansOther⟩ := alone_reads_as second
  have row := row_cons reads (row_cons readsOther row_nil)
  have endless : ∀ inside ∈ [block, other], ∀ token ∈ inside, token.isEnd = false := by
    simpa using ⟨first.endless, second.endless⟩
  have stops : readDeclarations (beforeEnd [joint.stop]) = ⟨[], .ok []⟩ := by
    simp [beforeEnd, Token.isEnd, joint.stops, read_declarations_end joint.stops]
  rw [Frame.document, parse_opened joint row endless, stops, means, meansOther]
  simp only [Parsed.ofReading, List.append_nil, diagram_append, unrecognized_reports_append]
  simp [joined, setsTitle, trailingReports, skipNewlines]

theorem blocks_change_places (first : Alone frame block parsed)
    (second : Alone otherFrame other parsedOther)
    (classes : OnlyClasses (declarationsOf (frame.document [block])))
    (relationships : OnlyRelationships (declarationsOf (otherFrame.document [other])))
    (joint : Frame) (above : ∀ upper ∈ before, ∃ frame parsed, Alone frame upper parsed)
    (later : List Token) :
    (parse (joint.opened (before ++ [block, other]) later)).map Parsed.diagram =
      (parse (joint.opened (before ++ [other, block]) later)).map Parsed.diagram := by
  obtain ⟨reads, -⟩ := alone_reads_as first
  obtain ⟨readsOther, -⟩ := alone_reads_as second
  obtain ⟨said, row⟩ : ∃ said, RowReadsAs before said := by
    refine row_of_each fun upper member => ?_
    obtain ⟨frame, parsed, alone⟩ := above upper member
    exact ⟨_, (alone_reads_as alone).1⟩
  have endlessAbove : ∀ upper ∈ before, ∀ token ∈ upper, token.isEnd = false := by
    intro upper member
    obtain ⟨frame, parsed, alone⟩ := above upper member
    exact alone.endless
  have inOrder := row_append row (row_cons reads (row_cons readsOther row_nil))
  have exchanged := row_append row (row_cons readsOther (row_cons reads row_nil))
  have endless : ∀ inside ∈ before ++ [block, other], ∀ token ∈ inside, token.isEnd = false := by
    simpa [or_imp, forall_and] using ⟨endlessAbove, first.endless, second.endless⟩
  have endlessExchanged : ∀ inside ∈ before ++ [other, block], ∀ token ∈ inside, token.isEnd = false := by
    simpa [or_imp, forall_and] using ⟨endlessAbove, second.endless, first.endless⟩
  rw [parse_opened joint inOrder endless, parse_opened joint exchanged endlessExchanged]
  cases (readDeclarations (beforeEnd later)).outcome with
  | error obstacle => rfl
  | ok trailing =>
    simp only [List.append_nil, Except.map, Parsed.ofReading]
    rw [diagram_exchange classes relationships]

/-- Two blocks that parse alone parse together, in any frame: the classes, the relationships and the
reports of the second follow those of the first, and the title is the second one's if it declares
one. A block of classes and a block of relationships may change places wherever they stand next to
each other: the diagram is the same, or the error. -/
theorem blocks_compose (first : Alone frame block parsed)
    (second : Alone otherFrame other parsedOther) :
    (∀ joint : Frame, parse (joint.document [block, other]) =
        .ok (joined parsed parsedOther (setsTitle (otherFrame.document [other])))) ∧
      (OnlyClasses (declarationsOf (frame.document [block])) →
        OnlyRelationships (declarationsOf (otherFrame.document [other])) →
        ∀ (joint : Frame) before, (∀ upper ∈ before, ∃ frame parsed, Alone frame upper parsed) →
          ∀ later, (parse (joint.opened (before ++ [block, other]) later)).map Parsed.diagram =
            (parse (joint.opened (before ++ [other, block]) later)).map Parsed.diagram) := by
  refine ⟨blocks_parse_together first second, ?_⟩
  intro classes relationships joint before above later
  exact blocks_change_places first second classes relationships joint above later

end TwoBlocks

/-- The markers and the line break of a short document. -/
def markers : Frame where
  start := ⟨.startMarker, "@startuml", ⟨1, 1⟩⟩
  lineEnd := ⟨.newline, "\n", ⟨9, 1⟩⟩
  stop := ⟨.endMarker, "@enduml", ⟨10, 1⟩⟩
  starts := rfl
  breaks := rfl
  stops := rfl

/-- A class with parameters that reach over a line break, and a stray parenthesis behind it. -/
def tallClass : List Token :=
  [⟨.classWord, "class", ⟨2, 1⟩⟩, ⟨.identifier, "A", ⟨2, 7⟩⟩, ⟨.openBrace, "\x7b", ⟨2, 9⟩⟩,
    ⟨.identifier, "m", ⟨2, 11⟩⟩, ⟨.openParen, "(", ⟨2, 12⟩⟩, ⟨.newline, "\n", ⟨2, 13⟩⟩,
    ⟨.closeParen, ")", ⟨3, 1⟩⟩, ⟨.closeBrace, "\x7d", ⟨3, 3⟩⟩, ⟨.closeParen, ")", ⟨3, 5⟩⟩]

def tallClassParsed : Parsed where
  diagram := ⟨none, [⟨"A", false, [], [⟨none, "m", "void"⟩]⟩], []⟩
  diagnostics := [.unrecognizedDeclaration ⟨.closeParen, ")", ⟨3, 5⟩⟩]

/-- A relationship with a keyword for its label. -/
def keywordLabel : List Token :=
  [⟨.identifier, "A", ⟨2, 1⟩⟩, ⟨.operator .association, "-->", ⟨2, 3⟩⟩, ⟨.identifier, "B", ⟨2, 7⟩⟩,
    ⟨.colon, ":", ⟨2, 9⟩⟩, ⟨.classWord, "class", ⟨2, 11⟩⟩]

def keywordLabelParsed : Parsed where
  diagram := ⟨none, [], [⟨"A", "B", .association, "class"⟩]⟩
  diagnostics := []

theorem forward_reference_is_free :
    (∀ joint : Frame, parse (joint.document [tallClass, keywordLabel]) =
        .ok (joined tallClassParsed keywordLabelParsed false)) ∧
      ∀ (joint : Frame) later,
        (parse (joint.opened [tallClass, keywordLabel] later)).map Parsed.diagram =
          (parse (joint.opened [keywordLabel, tallClass] later)).map Parsed.diagram := by
  have first : Alone markers tallClass tallClassParsed :=
    ⟨by decide, by decide +kernel, by decide⟩
  have second : Alone markers keywordLabel keywordLabelParsed :=
    ⟨by decide, by decide +kernel, by decide⟩
  obtain ⟨together, places⟩ := blocks_compose first second
  have untitled : setsTitle (markers.document [keywordLabel]) = false := by decide +kernel
  have classes : OnlyClasses (declarationsOf (markers.document [tallClass])) := by
    unfold OnlyClasses
    decide +kernel
  have relationships : OnlyRelationships (declarationsOf (markers.document [keywordLabel])) := by
    unfold OnlyRelationships
    decide +kernel
  rw [untitled] at together
  exact ⟨together, fun joint later => places classes relationships joint [] (by simp) later⟩

end ClassChart.Grammar
