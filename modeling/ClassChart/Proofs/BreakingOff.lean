import ClassChart.Proofs.Blocks

/-! Documents that break off. A declaration that cannot be read ends the reading, and what stands
before it is a document of its own once a line break and an end marker are put there. So the reports
found until then are those that the caller would receive for the document ended in that place. -/
namespace ClassChart.Grammar

/-! ## Declarations at the end of a line -/

/-- The reader leaves the rest, and would leave a line break in its place. -/
def LeavesLine (read : List Token → Step) (tokens rest : List Token) : Prop :=
  ∃ taken, tokens = taken ++ rest ∧ ∀ (lineEnd : Token) later, lineEnd.kind = .newline →
    read (taken ++ lineEnd :: later) = ⟨(read tokens).read, .ok (lineEnd :: later)⟩

/-- A reader that takes nothing, whatever it is given. -/
theorem leaves_line_untouched {read : List Token → Step} {said : List Declaration}
    (untouched : ∀ rest, read rest = ⟨said, .ok rest⟩) : LeavesLine read tokens tokens :=
  ⟨[], rfl, fun lineEnd later _ => by rw [untouched, untouched]; rfl⟩

/-- One token more in front of another reader. -/
theorem leaves_line_behind {read next : List Token → Step}
    (first : ∀ rest, read (token :: rest) = next rest) (leaves : LeavesLine next tokens rest) :
    LeavesLine read (token :: tokens) rest := by
  obtain ⟨taken, rfl, reads⟩ := leaves
  refine ⟨token :: taken, rfl, fun lineEnd later line => ?_⟩
  rw [List.cons_append, first, first, reads lineEnd later line]

/-- A class ends with its name or its body, whatever reader comes to its name. -/
theorem class_leaves_line {reader : List Token → Step}
    (agrees : ∀ (name : Token) rest, name.kind = .identifier →
      reader (name :: rest) = readClass isAbstract (name :: rest))
    (read : (readClass isAbstract tokens).outcome = .ok rest) : LeavesLine reader tokens rest := by
  obtain ⟨name, portion, members, rfl, named, body, said⟩ := read_class_sound read
  refine ⟨name :: portion, rfl, fun lineEnd later line => ?_⟩
  have apart : behind? .openBrace (lineEnd :: later) = none := by simp [behind?, line]
  rw [List.cons_append, agrees name _ named, agrees name _ named,
    read_class_complete isAbstract named body apart, said]

theorem relationship_leaves_line
    (read : (readRelationship source operator kind tokens).outcome = .ok rest) :
    LeavesLine (readRelationship source operator kind) tokens rest := by
  unfold readRelationship at read
  split at read
  · cases read
  · rename_i target behindTarget found
    obtain ⟨rfl, named⟩ := expect_eq_ok.mp found
    have isName : target.kind = .identifier := by simpa using named
    split at read
    · rename_i unlabelled
      cases read
      refine ⟨[target], rfl, fun lineEnd later line => ?_⟩
      have apart : behind? .colon (lineEnd :: later) = none := by simp [behind?, line]
      simp [readRelationship, expect, isName, unlabelled, apart]
    · rename_i text labelled
      cases read
      obtain ⟨mark, rfl, colon⟩ := behind?_eq_some.mp labelled
      obtain ⟨split, inside, -⟩ := line_split text
      refine ⟨target :: mark :: lineTokens text, ?_, fun lineEnd later line => ?_⟩
      · rw [List.cons_append, List.cons_append, ← split]
      · obtain ⟨words, behind⟩ := line_of_text later inside line
        simp [readRelationship, expect, isName, behind?, colon, words, behind]

private theorem abstract_leaves_line (word : token.kind = .abstractWord)
    (read : (readDeclaration token tokens).outcome = .ok rest) :
    LeavesLine (readDeclaration token) tokens rest := by
  have opened : ∀ rest, readDeclaration token rest =
      readClass true ((behind? .classWord rest).getD rest) := by
    intro rest
    simp [readDeclaration, word]
  rw [opened] at read
  cases second : behind? .classWord tokens with
  | none =>
    rw [second] at read
    refine class_leaves_line (fun name later named => ?_) read
    simp [opened, behind?, named]
  | some later =>
    rw [second] at read
    obtain ⟨mark, rfl, isClass⟩ := behind?_eq_some.mp second
    refine leaves_line_behind (fun rest => ?_) (class_leaves_line (fun _ _ _ => rfl) read)
    simp [opened, behind?, isClass]

private theorem identifier_leaves_line (word : token.kind = .identifier)
    (read : (readDeclaration token tokens).outcome = .ok rest) :
    LeavesLine (readDeclaration token) tokens rest := by
  by_cases follows : nextIsOperator tokens = true
  · obtain ⟨operator, later, kind, rfl, connects⟩ := next_is_operator_iff.mp follows
    have connected : ∀ rest, readDeclaration token (operator :: rest) =
        readRelationship token operator kind rest := by
      intro rest
      simp [readDeclaration, word, operator_follows connects, read_connection_operator connects]
    rw [connected] at read
    exact leaves_line_behind connected (relationship_leaves_line read)
  · have skipped : readDeclaration token tokens = ⟨[.unrecognized token], .ok tokens⟩ := by
      simp [readDeclaration, word, follows]
    rw [skipped] at read
    cases read
    refine ⟨[], rfl, fun lineEnd later line => ?_⟩
    have apart : nextIsOperator (lineEnd :: later) = false := by
      simp [nextIsOperator, line, TokenKind.isOperator, TokenKind.relationship?]
    rw [skipped]
    simp [readDeclaration, word, apart]

/-- What is read as a declaration is read so at the end of a line, too. -/
theorem declaration_leaves_line (read : (readDeclaration token tokens).outcome = .ok rest) :
    LeavesLine (readDeclaration token) tokens rest := by
  cases word : token.kind with
  | newline =>
    have declares : ∀ rest, readDeclaration token rest = ⟨[], .ok rest⟩ := by
      simp [readDeclaration, word]
    rw [declares] at read
    cases read
    exact leaves_line_untouched declares
  | classWord =>
    have opened : ∀ rest, readDeclaration token rest = readClass false rest := by
      simp [readDeclaration, word]
    rw [opened] at read
    exact class_leaves_line (fun name later _ => opened (name :: later)) read
  | abstractWord => exact abstract_leaves_line word read
  | titleWord =>
    have titled : ∀ rest, readDeclaration token rest =
        ⟨[.ofTitle (freeText (lineTokens rest))], .ok (behindLine rest)⟩ := by
      simp [readDeclaration, word]
    rw [titled] at read
    cases read
    obtain ⟨split, inside, -⟩ := line_split tokens
    refine ⟨lineTokens tokens, split, fun lineEnd later line => ?_⟩
    obtain ⟨words, behind⟩ := line_of_text later inside line
    rw [titled, titled, words, behind]
  | identifier => exact identifier_leaves_line word read
  | _ =>
    have skipped : ∀ rest, readDeclaration token rest = ⟨[.unrecognized token], .ok rest⟩ := by
      simp [readDeclaration, word]
    rw [skipped] at read
    cases read
    exact leaves_line_untouched skipped

/-- A declaration that has left some tokens to be read leaves them at the end of a line, too. -/
theorem declaration_goes_on (read : (readDeclaration token tokens).outcome = .ok (taken ++ rest)) :
    ∃ front, tokens = front ++ (taken ++ rest) ∧
      ∀ (lineEnd : Token) later, lineEnd.kind = .newline →
        readDeclaration token (front ++ (taken ++ lineEnd :: later)) =
          ⟨(readDeclaration token tokens).read, .ok (taken ++ lineEnd :: later)⟩ := by
  -- The token behind the declaration is the one seen before, or else the line break.
  cases taken with
  | nil => exact declaration_leaves_line read
  | cons next taken =>
    obtain ⟨said, stuck, settled⟩ := declaration_settles token tokens
    obtain ⟨front, split, reads⟩ := settled_ok settled read
    exact ⟨front, split, fun lineEnd later _ => reads _ rfl⟩

/-! ## The declaration that breaks off -/

/-- The sequence stops at this obstacle before it has declared anything in full. -/
inductive BreaksOff : List Token → Obstacle → Prop where
  | exhausted : BreaksOff [] ⟨.endMarker, []⟩
  | declaration (begins : token.kind ≠ .endMarker)
      (stops : (readDeclaration token rest).outcome = .error obstacle) :
      BreaksOff (token :: rest) obstacle

theorem class_skips_nothing (isAbstract : Bool) (tokens : List Token) :
    unrecognizedReports (readClass isAbstract tokens).read = [] := by
  unfold readClass
  split
  · rfl
  · split <;> rfl

theorem connection_skips_nothing (source : Token) (tokens : List Token) :
    unrecognizedReports (readConnection source tokens).read = [] := by
  unfold readConnection
  split
  · rfl
  · split
    · rfl
    · unfold readRelationship
      split
      · rfl
      · split <;> rfl

/-- A declaration that breaks off has not skipped a token: skipping one is no obstacle. -/
theorem broken_declaration_skips_nothing
    (stops : (readDeclaration token tokens).outcome = .error obstacle) :
    unrecognizedReports (readDeclaration token tokens).read = [] := by
  unfold readDeclaration at stops ⊢
  split at stops
  · cases stops
  · exact class_skips_nothing _ _
  · exact class_skips_nothing _ _
  · cases stops
  · split at stops
    case isTrue follows =>
      simp only [follows, if_true]
      exact connection_skips_nothing _ _
    case isFalse => cases stops
  · cases stops

theorem reads_as_nil : ReadsAs [] [] := by
  intro lineEnd later line
  rw [List.nil_append, read_declarations_newline line]
  rfl

/-- Before the declaration that breaks off stands a block, and the reports are those on it. -/
theorem declarations_before_obstacle
    (stops : (readDeclarations tokens).outcome = .error obstacle) :
    ∃ taken rest said, tokens = taken ++ rest ∧ BreaksOff rest obstacle ∧ ReadsAs taken said ∧
      unrecognizedReports (readDeclarations tokens).read = unrecognizedReports said := by
  -- A declaration takes any number of tokens, so the run is followed by length.
  induction size : tokens.length using Nat.strong_induction_on generalizing tokens with
  | _ bound ih =>
  cases tokens with
  | nil =>
    have nothing : readDeclarations [] = ⟨[], .error ⟨.endMarker, []⟩⟩ := by rw [readDeclarations]
    rw [nothing] at stops ⊢
    cases stops
    exact ⟨[], [], [], rfl, .exhausted, reads_as_nil, rfl⟩
  | cons token tokens =>
    have begins : token.kind ≠ .endMarker := by
      intro ends
      rw [read_declarations_end ends] at stops
      cases stops
    cases first : (readDeclaration token tokens).outcome with
    | error firstObstacle =>
      rw [read_declarations_stop begins first] at stops ⊢
      cases stops
      exact ⟨[], token :: tokens, [], rfl, .declaration begins first, reads_as_nil,
        broken_declaration_skips_nothing first⟩
    | ok later =>
      rw [read_declarations_step begins first] at stops ⊢
      have shorter : later.length < bound := by
        rw [← size]
        exact Nat.lt_succ_of_le (readDeclaration_length first)
      obtain ⟨taken, rest, said, rfl, breaks, reads, reports⟩ := ih later.length shorter stops rfl
      obtain ⟨front, rfl, goesOn⟩ := declaration_goes_on first
      refine ⟨token :: (front ++ taken), rest,
        (readDeclaration token (front ++ (taken ++ rest))).read ++ said, by simp, breaks, ?_, ?_⟩
      · intro lineEnd later line
        have here := goesOn lineEnd later line
        rw [List.cons_append, List.append_assoc,
          read_declarations_step begins (congrArg Step.outcome here), here,
          reads lineEnd later line, List.append_assoc]
      · rw [unrecognized_reports_append, unrecognized_reports_append, reports]

/-! ## Documents -/

/-- The reports that parsing has found when it fails: none if the document has not started, and
otherwise those of the document that is ended where the declaration begins that breaks off. -/
inductive FoundBefore (tokens : List Token) (error : SyntaxError) : List Diagnostic → Prop where
  | notStarted
      (stops : expect (· = .startMarker) .startMarker (skipNewlines (beforeEnd tokens)) =
        .error obstacle)
      (fails : error = obstacle.error (firstEnd tokens)) : FoundBefore tokens error []
  | brokenOff (split : beforeEnd tokens = taken ++ rest) (breaks : BreaksOff rest obstacle)
      (fails : error = obstacle.error (firstEnd tokens))
      (ended : ∀ lineEnd stop : Token, lineEnd.kind = .newline → stop.kind = .endMarker →
        parse (taken ++ [lineEnd, stop]) = .ok ⟨diagram, reports⟩) :
      FoundBefore tokens error reports

theorem starts_behind_newlines
    (opened : expect (· = .startMarker) .startMarker (skipNewlines tokens) = .ok (opening, rest)) :
    ∃ before, tokens = before ++ opening :: rest ∧ (∀ token ∈ before, token.kind = .newline) ∧
      opening.kind = .startMarker := by
  obtain ⟨skipped, marker⟩ := expect_eq_ok.mp opened
  refine ⟨tokens.takeWhile (·.isNewline), ?_, ?_, by simpa using marker⟩
  · rw [← skipped, skipNewlines, List.takeWhile_append_dropWhile]
  · intro token member
    simpa [Token.isNewline] using List.mem_takeWhile_imp member

theorem read_document_opened (above : ∀ token ∈ before, token.kind = .newline)
    (starts : opening.kind = .startMarker) (rest : List Token) :
    readDocument (before ++ opening :: rest) = readDeclarations rest := by
  have blank : ∀ token ∈ before, token.isNewline = true := by simpa [Token.isNewline] using above
  have skipped : skipNewlines (before ++ opening :: rest) = opening :: rest := by
    rw [skipNewlines, List.dropWhile_append_of_pos blank,
      List.dropWhile_cons_of_neg (by simp [Token.isNewline, starts])]
  simp [readDocument, skipped, expect, starts]

/-- A block behind the start marker is a document once it is ended. -/
theorem block_ends (above : ∀ token ∈ before, token.kind = .newline)
    (starts : opening.kind = .startMarker) (reads : ReadsAs block said)
    (endless : ∀ token ∈ before ++ opening :: block, token.isEnd = false)
    (line : lineEnd.kind = .newline) (ends : stop.kind = .endMarker) :
    parse ((before ++ opening :: block) ++ [lineEnd, stop]) =
      .ok ⟨.ofDeclarations said, unrecognizedReports said⟩ := by
  have whole : beforeEnd ((before ++ opening :: block) ++ [lineEnd, stop]) =
      before ++ opening :: (block ++ [lineEnd, stop]) := by
    rw [before_end_append endless]
    simp [beforeEnd, Token.isEnd, line, ends]
  have reading : readDocument (beforeEnd ((before ++ opening :: block) ++ [lineEnd, stop])) =
      ⟨said, .ok []⟩ := by
    rw [whole, read_document_opened above starts, reads lineEnd [stop] line,
      read_declarations_end ends, List.append_nil]
  rw [parse_of_trailing (congrArg Step.outcome reading), reading]
  simp [Parsed.ofReading, trailingReports, skipNewlines]

/-- The reports on what has been read when parsing stops at an obstacle. -/
def reportsFound (tokens : List Token) : List Diagnostic :=
  unrecognizedReports (declarationsOf tokens)

/-- What parsing has reported when it fails is what stands before the error. -/
theorem reports_before_error (failed : parse tokens = .error error) :
    FoundBefore tokens error (reportsFound tokens) := by
  cases outcome : (readDocument (beforeEnd tokens)).outcome with
  | ok trailing =>
    rw [parse_of_trailing outcome] at failed
    cases failed
  | error obstacle =>
    rw [parse_of_obstacle outcome] at failed
    cases failed
    cases opened : expect (· = .startMarker) .startMarker (skipNewlines (beforeEnd tokens)) with
    | error missing =>
      have reading : readDocument (beforeEnd tokens) = ⟨[], .error missing⟩ := by
        rw [readDocument, opened]
      rw [reportsFound, declarationsOf, reading]
      rw [reading] at outcome
      cases outcome
      exact .notStarted opened rfl
    | ok result =>
      obtain ⟨opening, rest⟩ := result
      obtain ⟨before, front, above, starts⟩ := starts_behind_newlines opened
      have reading : readDocument (beforeEnd tokens) = readDeclarations rest := by
        rw [front, read_document_opened above starts]
      rw [reading] at outcome
      rw [reportsFound, declarationsOf, reading]
      obtain ⟨taken, left, said, rfl, breaks, reads, reports⟩ :=
        declarations_before_obstacle outcome
      have split : beforeEnd tokens = (before ++ opening :: taken) ++ left := by
        rw [front, List.append_assoc, List.cons_append]
      have endless : ∀ token ∈ before ++ opening :: taken, token.isEnd = false := by
        intro token member
        exact before_end_goes_on (split ▸ List.mem_append_left left member)
      rw [reports]
      exact .brokenOff split breaks rfl fun lineEnd stop => block_ends above starts reads endless

end ClassChart.Grammar
