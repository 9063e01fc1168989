import ClassChart.Proofs.Grammar
import Mathlib.Data.List.TakeWhile

/-! Parsing against the grammar. Each reader takes a phrase off the front of its tokens, and
every phrase is read when nothing that could extend it follows. The readers look ahead and take
optional parts greedily, so the second direction needs to know how the next phrase begins. -/
namespace ClassChart.Grammar

private theorem bind_eq_ok {step : Except ε α} {next : α → Except ε β} :
    (step >>= next) = .ok result ↔ ∃ value, step = .ok value ∧ next value = .ok result := by
  cases step with
  | error problem => simp [bind, Except.bind]
  | ok value => simp [bind, Except.bind]

/-! ## Pieces up to a token -/

private theorem split_at_first {stays : Token → Bool}
    (found : tokens.dropWhile stays = token :: rest) :
    ∃ portion, tokens = portion ++ token :: rest ∧ (∀ other ∈ portion, stays other = true) ∧
      stays token = false := by
  refine ⟨tokens.takeWhile stays, ?_, fun _ member => List.mem_takeWhile_imp member, ?_⟩
  · rw [← found, List.takeWhile_append_dropWhile]
  · have head := List.head?_dropWhile_not stays tokens
    rw [found] at head
    simpa using head

private theorem skip_to_first {stays : Token → Bool} (inside : ∀ other ∈ portion, stays other = true)
    (stops : stays token = false) :
    (portion ++ token :: rest).dropWhile stays = token :: rest := by
  rw [List.dropWhile_append_of_pos inside, List.dropWhile_cons_of_neg (by simp [stops])]

private theorem take_to_first {stays : Token → Bool} (inside : ∀ other ∈ portion, stays other = true)
    (stops : stays token = false) :
    (portion ++ token :: rest).takeWhile stays = portion := by
  rw [List.takeWhile_append_of_pos inside, List.takeWhile_cons_of_neg (by simp [stops]),
    List.append_nil]

private theorem not_newline {token : Token} :
    (!token.isNewline) = true ↔ token.kind ≠ .newline := by
  simp [Token.isNewline]

/-- A line is the tokens before its line break, and either there is one or the tokens end. -/
theorem line_split (tokens : List Token) :
    tokens = lineTokens tokens ++ behindLine tokens ∧
      (∀ token ∈ lineTokens tokens, token.kind ≠ .newline) ∧
      (behindLine tokens = [] ∨
        ∃ lineEnd rest, behindLine tokens = lineEnd :: rest ∧ lineEnd.kind = .newline) := by
  refine ⟨List.takeWhile_append_dropWhile.symm,
    fun token member => not_newline.mp
      (List.mem_takeWhile_imp (p := fun token : Token => !token.isNewline) member), ?_⟩
  cases found : behindLine tokens with
  | nil => exact .inl rfl
  | cons lineEnd rest =>
    obtain ⟨_, _, _, stops⟩ := split_at_first found
    exact .inr ⟨lineEnd, rest, rfl, by simpa [Token.isNewline] using stops⟩

theorem line_of_text (rest : List Token) (inside : ∀ token ∈ text, token.kind ≠ .newline)
    (line : lineEnd.kind = .newline) :
    lineTokens (text ++ lineEnd :: rest) = text ∧
      behindLine (text ++ lineEnd :: rest) = lineEnd :: rest := by
  have stays : ∀ token ∈ text, (!token.isNewline) = true :=
    fun token member => not_newline.mpr (inside token member)
  have stops : (!lineEnd.isNewline) = false := by simp [Token.isNewline, line]
  exact ⟨take_to_first stays stops, skip_to_first stays stops⟩

/-! ## Types, parameters and visibility -/

theorem read_type_sound (read : readType expected usual tokens = .ok (type, rest)) :
    ∃ portion, tokens = portion ++ rest ∧ TypePhrase usual portion type := by
  unfold readType at read
  split at read
  · cases read
    exact ⟨[], rfl, .omitted⟩
  · rename_i after colon
    obtain ⟨mark, rfl, isColon⟩ := behind?_eq_some.mp colon
    cases word : expect TokenKind.isMemberWord expected after with
    | error obstacle => simp [word, Except.map] at read
    | ok result =>
      obtain ⟨named, later⟩ := result
      obtain ⟨rfl, accepted⟩ := expect_eq_ok.mp word
      simp only [word, Except.map, Except.ok.injEq, Prod.mk.injEq] at read
      obtain ⟨rfl, rfl⟩ := read
      exact ⟨[mark, named], rfl, .given isColon (is_word_iff.mpr accepted)⟩

theorem read_type_complete (phrase : TypePhrase usual portion type)
    (apart : behind? .colon rest = none) :
    readType expected usual (portion ++ rest) = .ok (type, rest) := by
  cases phrase with
  | omitted => simp [readType, apart]
  | given colon word => simp [readType, behind?, colon, expect, is_word_iff.mp word, Except.map]

theorem read_parameters_sound (read : readParameters methodName tokens = .ok rest) :
    ∃ parameters closing, tokens = parameters ++ closing :: rest ∧
      (∀ token ∈ parameters, token.kind ≠ .closeParen) ∧ closing.kind = .closeParen := by
  unfold readParameters at read
  split at read
  · cases read
  · rename_i closing later found
    cases read
    obtain ⟨parameters, same, inside, stops⟩ := split_at_first found
    exact ⟨parameters, closing, same, by simpa using inside, by simpa using stops⟩

theorem read_parameters_complete (inside : ∀ token ∈ parameters, token.kind ≠ .closeParen)
    (closes : closing.kind = .closeParen) :
    readParameters methodName (parameters ++ closing :: rest) = .ok rest := by
  unfold readParameters
  rw [skip_to_first (by simpa using inside) (by simpa using closes)]

theorem read_visibility_sound (tokens : List Token) :
    ∃ portion, tokens = portion ++ (readVisibility tokens).2 ∧
      VisibilityPhrase portion (readVisibility tokens).1 := by
  cases tokens with
  | nil => exact ⟨[], rfl, .omitted⟩
  | cons token rest =>
    cases kind : token.kind.visibility? with
    | none => exact ⟨[], by simp [readVisibility, kind], by simpa [readVisibility, kind] using .omitted⟩
    | some visibility =>
      have mark : token.kind = .visibilityMark visibility := by
        unfold TokenKind.visibility? at kind
        split at kind <;> simp_all
      exact ⟨[token], by simp [readVisibility, kind], by simpa [readVisibility, kind] using .marked mark⟩

private theorem word_kinds (word : IsWord token) :
    token.kind = .identifier ∨ token.kind = .classWord ∨ token.kind = .abstractWord ∨
      token.kind = .titleWord := by
  simpa [IsWord] using word

theorem word_has_no_visibility (word : IsWord token) : token.kind.visibility? = none := by
  rcases word_kinds word with word | word | word | word <;> simp [word, TokenKind.visibility?]

theorem read_visibility_complete (phrase : VisibilityPhrase portion visibility) (word : IsWord name) :
    readVisibility (portion ++ name :: rest) = (visibility, name :: rest) := by
  cases phrase with
  | omitted => simp [readVisibility, word_has_no_visibility word]
  | marked mark => simp [readVisibility, mark, TokenKind.visibility?]

/-! ## Members -/

private theorem read_member_tail_sound (marked : VisibilityPhrase marks visibility)
    (word : IsWord name)
    (read : readMemberTail visibility name.lexeme tokens = .ok (member, rest)) :
    ∃ portion, tokens = portion ++ rest ∧ MemberPhrase (marks ++ name :: portion) member := by
  unfold readMemberTail at read
  split at read
  · rename_i inside opens
    obtain ⟨opening, rfl, isOpen⟩ := behind?_eq_some.mp opens
    obtain ⟨afterParameters, closed, tail⟩ := bind_eq_ok.mp read
    obtain ⟨⟨type, afterType⟩, typed, done⟩ := bind_eq_ok.mp tail
    obtain ⟨parameters, closing, rfl, others, isClose⟩ := read_parameters_sound closed
    obtain ⟨types, rfl, typePhrase⟩ := read_type_sound typed
    cases done
    exact ⟨_, by simp, .ofMethod marked word isOpen others isClose typePhrase⟩
  · obtain ⟨⟨type, afterType⟩, typed, done⟩ := bind_eq_ok.mp read
    obtain ⟨types, rfl, typePhrase⟩ := read_type_sound typed
    cases done
    exact ⟨_, rfl, .ofAttribute marked word typePhrase⟩

theorem read_member_sound (read : readMember tokens = .ok (member, rest)) :
    ∃ portion, tokens = portion ++ rest ∧ MemberPhrase portion member := by
  obtain ⟨marks, front, marked⟩ := read_visibility_sound tokens
  obtain ⟨⟨name, afterName⟩, named, tail⟩ := bind_eq_ok.mp read
  obtain ⟨behindMarks, word⟩ : (readVisibility tokens).2 = name :: afterName ∧ _ :=
    expect_eq_ok.mp named
  obtain ⟨portion, rfl, phrase⟩ := read_member_tail_sound marked (is_word_iff.mpr word) tail
  refine ⟨marks ++ name :: portion, ?_, phrase⟩
  rw [front, behindMarks, List.append_assoc, List.cons_append]

theorem read_member_complete (phrase : MemberPhrase portion member)
    (noType : behind? .colon rest = none) (noParameters : behind? .openParen rest = none) :
    readMember (portion ++ rest) = .ok (member, rest) := by
  cases phrase with
  | ofAttribute marked word typed =>
    rename_i marks visibility name types type
    have closed : behind? .openParen (types ++ rest) = none := by
      cases typed with
      | omitted => simpa using noParameters
      | given colon word => simp [behind?, colon]
    simp [readMember, read_visibility_complete marked word, expect, is_word_iff.mp word,
      readMemberTail, closed, read_type_complete typed noType, bind, Except.bind, pure, Except.pure]
  | ofMethod marked word opens inside closes typed =>
    simp [readMember, read_visibility_complete marked word, expect, is_word_iff.mp word,
      readMemberTail, behind?, opens, read_parameters_complete inside closes,
      read_type_complete typed noType, bind, Except.bind, pure, Except.pure]

/-! ## Class bodies -/

theorem read_members_newline (line : token.kind = .newline) :
    readMembers className (token :: rest) = readMembers className rest := by
  rw [readMembers]
  simp [Token.isNewline, line]

theorem read_members_close (closes : token.kind = .closeBrace) :
    readMembers className (token :: rest) = ([], .ok rest) := by
  rw [readMembers]
  simp [Token.isNewline, closes]

theorem read_members_member (inside : token.kind ∉ [TokenKind.newline, .closeBrace, .endMarker])
    (read : readMember (token :: rest) = .ok (member, later)) :
    readMembers className (token :: rest) =
      (member :: (readMembers className later).1, (readMembers className later).2) := by
  simp only [List.mem_cons, List.not_mem_nil, or_false, not_or] at inside
  rw [readMembers]
  simp only [Token.isNewline, inside, decide_false, Bool.false_eq_true, if_false]
  split
  · simp_all
  · simp_all

theorem read_members_sound (className : String) (tokens : List Token)
    (read : (readMembers className tokens).2 = .ok rest) :
    ∃ portion closing, tokens = portion ++ closing :: rest ∧ closing.kind = .closeBrace ∧
      Repeated BodyItem portion (readMembers className tokens).1 := by
  fun_induction readMembers className tokens with
  | case1 => cases read
  | case2 token later newline ih =>
    obtain ⟨portion, closing, rfl, closes, items⟩ := ih read
    have line : token.kind = .newline := by simpa [Token.isNewline] using newline
    exact ⟨token :: portion, closing, rfl, closes, .more (.lineBreak line) items⟩
  | case3 token later newline closes =>
    cases read
    exact ⟨[], token, rfl, closes, .none⟩
  | case4 => cases read
  | case5 => cases read
  | case6 token later _ _ _ member behindMember taken members outcome same ih =>
    rw [same] at ih
    obtain ⟨portion, closing, rest_, closes, items⟩ := ih read
    obtain ⟨first, front, phrase⟩ := read_member_sound taken
    refine ⟨first ++ portion, closing, ?_, closes, .more (.member phrase) items⟩
    rw [front, rest_, List.append_assoc]

/-- What follows a body item inside the braces cannot extend it. -/
theorem body_apart (rest : List Token) (items : Repeated BodyItem portion members)
    (closes : closing.kind = .closeBrace) :
    behind? .colon (portion ++ closing :: rest) = none ∧
      behind? .openParen (portion ++ closing :: rest) = none := by
  cases items with
  | none => simp [behind?, closes]
  | more first later =>
    cases first with
    | lineBreak line => simp [behind?, line]
    | member phrase =>
      obtain ⟨token, front, rfl, ⟨visibility, mark⟩ | word⟩ := member_begins phrase
      · simp [behind?, mark]
      · rcases word_kinds word with word | word | word | word <;> simp [behind?, word]

theorem read_members_complete (items : Repeated BodyItem portion members)
    (closes : closing.kind = .closeBrace) :
    readMembers className (portion ++ closing :: rest) = (members, .ok rest) := by
  induction items with
  | none => exact read_members_close closes
  | more first later ih =>
    cases first with
    | lineBreak line => simpa [read_members_newline line] using ih
    | member phrase =>
      rename_i rest_ saidLater portion member
      obtain ⟨noType, noParameters⟩ := body_apart rest later closes
      have read := read_member_complete phrase noType noParameters
      obtain ⟨token, front, rfl, kind⟩ := member_begins phrase
      have inside : token.kind ∉ [TokenKind.newline, .closeBrace, .endMarker] := by
        rcases kind with ⟨visibility, mark⟩ | word
        · simp [mark]
        · rcases word_kinds word with word | word | word | word <;> simp [word]
      simp only [List.cons_append, List.append_assoc] at read ⊢
      rw [read_members_member inside read, ih]
      rfl

/-! ## Declarations -/

theorem read_class_sound (read : (readClass isAbstract tokens).outcome = .ok rest) :
    ∃ name portion members, tokens = name :: (portion ++ rest) ∧ name.kind = .identifier ∧
      BodyPhrase portion members ∧
      (readClass isAbstract tokens).read = [.ofClass ⟨name.lexeme, isAbstract, members⟩] := by
  unfold readClass at read ⊢
  split at read
  · cases read
  · rename_i name later found
    obtain ⟨rfl, named⟩ := expect_eq_ok.mp found
    have isName : name.kind = .identifier := by simpa using named
    split at read
    · cases read
      exact ⟨name, [], [], rfl, isName, .omitted, rfl⟩
    · rename_i body opens
      obtain ⟨opening, rfl, isOpen⟩ := behind?_eq_some.mp opens
      obtain ⟨portion, closing, rfl, isClose, items⟩ := read_members_sound _ _ read
      exact ⟨name, _, _, by simp, isName, .given isOpen items isClose, rfl⟩

theorem read_class_complete (isAbstract : Bool) (named : name.kind = .identifier)
    (body : BodyPhrase portion members) (apart : behind? .openBrace rest = none) :
    readClass isAbstract (name :: (portion ++ rest)) =
      ⟨[.ofClass ⟨name.lexeme, isAbstract, members⟩], .ok rest⟩ := by
  cases body with
  | omitted => simp [readClass, expect, named, apart]
  | given opens inside closes =>
    simp [readClass, expect, named, behind?, opens, read_members_complete inside closes]

/-- A piece that the declarations loop takes: an item, or one token that starts none. -/
inductive Passage : List Token → List Declaration → Prop where
  | item (item : Item portion declarations) : Passage portion declarations
  | skipped (token : Token) : Passage [token] [.unrecognized token]

/-- What one declaration leaves behind: it has taken a passage, or one but for the line break
at its end, which still stands in front of the rest. -/
def Taken (tokens : List Token) (said : List Declaration) (rest : List Token) : Prop :=
  (∃ portion, tokens = portion ++ rest ∧ Passage portion said) ∨
  (∃ portion, tokens = portion ++ rest ∧
    (rest = [] ∨ ∃ lineEnd later, rest = lineEnd :: later ∧ lineEnd.kind = .newline) ∧
    ∀ lineEnd : Token, lineEnd.kind = .newline → Passage (portion ++ [lineEnd]) said)

private theorem relationship_taken (first : source.kind = .identifier)
    (connects : operator.kind = .operator kind)
    (read : (readRelationship source operator kind tokens).outcome = .ok rest) :
    Taken (source :: operator :: tokens) (readRelationship source operator kind tokens).read rest := by
  unfold readRelationship at read ⊢
  split at read
  · cases read
  · rename_i target later found
    obtain ⟨rfl, named⟩ := expect_eq_ok.mp found
    have second : target.kind = .identifier := by simpa using named
    split at read
    · rename_i bare
      cases read
      refine .inl ⟨[source, operator, target], rfl, ?_⟩
      simpa [bare] using Passage.item (.ofRelationship (.plain first connects second))
    · rename_i text opens
      cases read
      obtain ⟨mark, rfl, colon⟩ := behind?_eq_some.mp opens
      obtain ⟨front, inside, ends⟩ := line_split text
      refine .inr ⟨source :: operator :: target :: mark :: lineTokens text, ?_, ends, ?_⟩
      · rw [List.cons_append, List.cons_append, List.cons_append, List.cons_append, ← front]
      · intro lineEnd line
        simpa [opens] using
          Passage.item (.ofRelationship (.labelled first connects second colon inside line))

/-- Where the next token is an operator, it denotes a relationship. -/
theorem next_is_operator_iff : nextIsOperator tokens = true ↔
    ∃ operator rest kind, tokens = operator :: rest ∧ operator.kind = .operator kind := by
  cases tokens with
  | nil => simp [nextIsOperator]
  | cons next later =>
    cases word : next.kind <;>
      simp [nextIsOperator, TokenKind.isOperator, TokenKind.relationship?, word]

theorem operator_follows (connects : operator.kind = .operator kind) (rest : List Token) :
    nextIsOperator (operator :: rest) = true :=
  next_is_operator_iff.mpr ⟨operator, rest, kind, rfl, connects⟩

theorem read_connection_operator (connects : operator.kind = .operator kind) :
    readConnection source (operator :: tokens) = readRelationship source operator kind tokens := by
  simp [readConnection, TokenKind.relationship?, connects]

private theorem title_taken (word : token.kind = .titleWord) :
    Taken (token :: tokens) [.ofTitle (freeText (lineTokens tokens))] (behindLine tokens) := by
  obtain ⟨front, inside, ends⟩ := line_split tokens
  refine .inr ⟨token :: lineTokens tokens, ?_, ends, ?_⟩
  · rw [List.cons_append, ← front]
  · intro lineEnd line
    exact .item (.ofTitle (.declared word inside line))

private theorem class_taken (head : HeadPhrase words isAbstract)
    (read : (readClass isAbstract tokens).outcome = .ok rest) :
    Taken (words ++ tokens) (readClass isAbstract tokens).read rest := by
  obtain ⟨name, portion, members, rfl, named, body, said⟩ := read_class_sound read
  rw [said]
  exact .inl ⟨words ++ name :: portion, by simp, .item (.ofClass (.declared head named body))⟩

private theorem skipped_taken : Taken (token :: rest) [.unrecognized token] rest :=
  .inl ⟨[token], rfl, .skipped token⟩

theorem read_declaration_sound (read : (readDeclaration token tokens).outcome = .ok rest) :
    Taken (token :: tokens) (readDeclaration token tokens).read rest := by
  unfold readDeclaration at read ⊢
  split at read
  · rename_i line
    cases read
    exact .inl ⟨[token], rfl, .item (.lineBreak line)⟩
  · rename_i word
    exact class_taken (.plain word) read
  · rename_i word
    cases second : behind? .classWord tokens with
    | none =>
      simp only [second, Option.getD_none] at read ⊢
      exact class_taken (.abstractAlone word) read
    | some later =>
      obtain ⟨next, rfl, isClass⟩ := behind?_eq_some.mp second
      simp only [second, Option.getD_some] at read ⊢
      exact class_taken (.abstractClass word isClass) read
  · rename_i word
    cases read
    exact title_taken word
  · rename_i first
    by_cases follows : nextIsOperator tokens = true
    · rw [if_pos follows] at read ⊢
      obtain ⟨operator, later, kind, rfl, connects⟩ := next_is_operator_iff.mp follows
      rw [read_connection_operator connects] at read ⊢
      exact relationship_taken first connects read
    · rw [if_neg follows] at read ⊢
      cases read
      exact skipped_taken
  · cases read
    exact skipped_taken

/-! ## The declarations between the markers -/

theorem read_declarations_end (ends : token.kind = .endMarker) :
    readDeclarations (token :: rest) = ⟨[], .ok rest⟩ := by
  rw [readDeclarations]
  simp [ends]

theorem read_declarations_step (goesOn : token.kind ≠ .endMarker)
    (read : (readDeclaration token tokens).outcome = .ok rest) :
    readDeclarations (token :: tokens) =
      ⟨(readDeclaration token tokens).read ++ (readDeclarations rest).read,
        (readDeclarations rest).outcome⟩ := by
  rw [readDeclarations]
  simp only [goesOn, if_false]
  split
  · simp_all
  · simp_all

theorem read_declarations_newline (line : token.kind = .newline) :
    readDeclarations (token :: rest) = readDeclarations rest := by
  have taken : readDeclaration token rest = ⟨[], .ok rest⟩ := by simp [readDeclaration, line]
  have outcome : (readDeclaration token rest).outcome = .ok rest := by rw [taken]
  rw [read_declarations_step (by simp [line]) outcome, taken, List.nil_append]

/-- A run that reaches the end marker has taken passages up to it. -/
theorem read_declarations_sound (tokens : List Token)
    (read : (readDeclarations tokens).outcome = .ok trailing) :
    ∃ portion closing, tokens = portion ++ closing :: trailing ∧ closing.kind = .endMarker ∧
      Repeated Passage portion (readDeclarations tokens).read := by
  -- A declaration may leave its line break standing, so the run is followed by length.
  induction size : tokens.length using Nat.strong_induction_on generalizing tokens with
  | _ bound ih =>
  cases tokens with
  | nil => simp [readDeclarations] at read
  | cons token tokens =>
    by_cases ends : token.kind = .endMarker
    · rw [read_declarations_end ends] at read ⊢
      cases read
      exact ⟨[], token, rfl, ends, .none⟩
    · cases taken : (readDeclaration token tokens).outcome with
      | error obstacle =>
        rw [readDeclarations] at read
        simp only [ends, if_false] at read
        split at read <;> simp_all
      | ok rest =>
        rw [read_declarations_step ends taken] at read ⊢
        rcases read_declaration_sound taken with
          ⟨passage, front, took⟩ | ⟨passage, front, rfl | ⟨lineEnd, later, rfl, line⟩, took⟩
        · have shorter : rest.length < bound := by
            rw [← size]
            exact Nat.lt_succ_of_le (readDeclaration_length taken)
          obtain ⟨portion, closing, rfl, isEnd, passages⟩ := ih _ shorter rest read rfl
          exact ⟨passage ++ portion, closing, by rw [front, List.append_assoc], isEnd,
            .more took passages⟩
        · simp [readDeclarations] at read
        · have shorter : later.length < bound := by
            have left := readDeclaration_length taken
            simp only [List.length_cons] at left size
            omega
          simp only [read_declarations_newline line] at read ⊢
          obtain ⟨portion, closing, rfl, isEnd, passages⟩ := ih _ shorter later read rfl
          exact ⟨passage ++ [lineEnd] ++ portion, closing, by simp [front], isEnd,
            .more (took lineEnd line) passages⟩

/-- What follows an item between the markers cannot extend it. -/
theorem items_apart (rest : List Token) (items : Repeated Item portion declarations)
    (ends : closing.kind = .endMarker) :
    behind? .openBrace (portion ++ closing :: rest) = none ∧
      behind? .colon (portion ++ closing :: rest) = none := by
  cases items with
  | none => simp [behind?, ends]
  | more first later =>
    obtain ⟨token, front, rfl, kind⟩ := item_begins first
    simp only [List.mem_cons, List.not_mem_nil, or_false] at kind
    rcases kind with kind | kind | kind | kind | kind <;> simp [behind?, kind]

/-- An item is read as what it says; the line break at its end may be left for the next step. -/
theorem read_declaration_complete (item : Item portion said)
    (noBody : behind? .openBrace rest = none) (noLabel : behind? .colon rest = none) :
    ∃ token front, portion = token :: front ∧ token.kind ≠ .endMarker ∧
      (readDeclaration token (front ++ rest) = ⟨said, .ok rest⟩ ∨
        ∃ lineEnd : Token, lineEnd.kind = .newline ∧
          readDeclaration token (front ++ rest) = ⟨said, .ok (lineEnd :: rest)⟩) := by
  cases item with
  | lineBreak line =>
    exact ⟨_, _, rfl, by simp [line], .inl (by simp [readDeclaration, line])⟩
  | ofClass phrase =>
    obtain ⟨head, named, body⟩ := phrase
    have read := fun isAbstract => read_class_complete isAbstract named body noBody
    cases head with
    | plain word =>
      exact ⟨_, _, rfl, by simp [word], .inl (by simp [readDeclaration, word, read])⟩
    | abstractAlone word =>
      exact ⟨_, _, rfl, by simp [word], .inl (by simp [readDeclaration, word, behind?, named, read])⟩
    | abstractClass first second =>
      exact ⟨_, _, rfl, by simp [first], .inl (by simp [readDeclaration, first, behind?, second, read])⟩
  | ofRelationship phrase =>
    cases phrase with
    | plain first connects second =>
      refine ⟨_, _, rfl, by simp [first], .inl ?_⟩
      have follows := operator_follows connects
      simp [readDeclaration, first, follows, read_connection_operator connects, readRelationship,
        expect, second, noLabel]
    | labelled first connects second colon inside line =>
      obtain ⟨words, stop⟩ := line_of_text rest inside line
      refine ⟨_, _, rfl, by simp [first], .inr ⟨_, line, ?_⟩⟩
      have follows := operator_follows connects
      simp [readDeclaration, first, follows, read_connection_operator connects, readRelationship,
        expect, second, behind?, colon, words, stop]
  | ofTitle phrase =>
    obtain ⟨word, inside, line⟩ := phrase
    obtain ⟨words, stop⟩ := line_of_text rest inside line
    exact ⟨_, _, rfl, by simp [word], .inr ⟨_, line, by simp [readDeclaration, word, words, stop]⟩⟩

theorem read_declarations_complete (items : Repeated Item portion declarations)
    (ends : closing.kind = .endMarker) :
    readDeclarations (portion ++ closing :: trailing) = ⟨declarations, .ok trailing⟩ := by
  induction items with
  | none => exact read_declarations_end ends
  | more first later ih =>
    obtain ⟨noBody, noLabel⟩ := items_apart trailing later ends
    obtain ⟨token, front, rfl, goesOn, taken | ⟨lineEnd, line, taken⟩⟩ :=
      read_declaration_complete first noBody noLabel
    · rw [List.append_assoc, List.cons_append, read_declarations_step goesOn (by rw [taken]), taken, ih]
    · rw [List.append_assoc, List.cons_append, read_declarations_step goesOn (by rw [taken]), taken,
        read_declarations_newline line, ih]

/-! ## Documents -/

/-- The tokens that a list of declarations has skipped, in order. -/
def skippedTokens (declarations : List Declaration) : List Token :=
  declarations.filterMap Declaration.unrecognized?

theorem skipped_tokens_append (first second : List Declaration) :
    skippedTokens (first ++ second) = skippedTokens first ++ skippedTokens second :=
  List.filterMap_append

theorem item_skips_nothing (item : Item portion said) : skippedTokens said = [] := by
  cases item <;> rfl

theorem unrecognized_reports_eq_nil :
    unrecognizedReports declarations = [] ↔ skippedTokens declarations = [] :=
  List.map_eq_nil_iff

/-- A run that skips no token has taken items only. -/
theorem passages_are_items (passages : Repeated Passage portion declarations)
    (none : skippedTokens declarations = []) : Repeated Item portion declarations := by
  induction passages with
  | none => exact .none
  | more first later ih =>
    rw [skipped_tokens_append, List.append_eq_nil_iff] at none
    cases first with
    | item item => exact .more item (ih none.2)
    | skipped token => simp [skippedTokens, Declaration.unrecognized?] at none

/-- Items declare; none of them is a skipped token. -/
theorem items_skip_nothing (items : Repeated Item portion declarations) :
    skippedTokens declarations = [] := by
  induction items with
  | none => rfl
  | more first later ih => rw [skipped_tokens_append, item_skips_nothing first, ih, List.append_nil]

theorem read_document_sound (read : (readDocument tokens).outcome = .ok trailing) :
    ∃ before opening portion closing,
      tokens = before ++ opening :: (portion ++ closing :: trailing) ∧
      (∀ token ∈ before, token.kind = .newline) ∧ opening.kind = .startMarker ∧
      closing.kind = .endMarker ∧ Repeated Passage portion (readDocument tokens).read := by
  unfold readDocument at read ⊢
  split at read
  · cases read
  · rename_i opening rest found
    obtain ⟨skipped, accepted⟩ := expect_eq_ok.mp found
    obtain ⟨before, front, blank, _⟩ := split_at_first skipped
    obtain ⟨portion, closing, rfl, ends, passages⟩ := read_declarations_sound rest read
    exact ⟨before, opening, portion, closing, front, by simpa [Token.isNewline] using blank,
      by simpa using accepted, ends, passages⟩

theorem read_document_complete (above : ∀ token ∈ before, token.kind = .newline)
    (starts : opening.kind = .startMarker) (items : Repeated Item portion declarations)
    (ends : closing.kind = .endMarker) :
    readDocument (before ++ opening :: (portion ++ closing :: trailing)) =
      ⟨declarations, .ok trailing⟩ := by
  have skipped : skipNewlines (before ++ opening :: (portion ++ closing :: trailing)) =
      opening :: (portion ++ closing :: trailing) :=
    skip_to_first (by simpa [Token.isNewline] using above) (by simp [Token.isNewline, starts])
  simp [readDocument, skipped, expect, starts, read_declarations_complete items ends]

/-- Behind the end marker, line breaks and nothing else go without a report. -/
theorem trailing_reports_eq_nil :
    trailingReports trailing = [] ↔ ∀ token ∈ trailing, token.kind = .newline := by
  simp [trailingReports, skipNewlines, Token.isNewline]

/-- A document parses to the diagram of its declarations, without a report. -/
theorem parse_document (document : Document (beforeEnd tokens) declarations) :
    parse tokens = .ok ⟨.ofDeclarations declarations, []⟩ := by
  unfold parse
  generalize beforeEnd tokens = front at document ⊢
  obtain ⟨above, starts, items, ends, below⟩ := document
  have unreported := unrecognized_reports_eq_nil.mpr (items_skip_nothing items)
  simp [read_document_complete above starts items ends, Parsed.ofReading, unreported,
    trailing_reports_eq_nil.mpr below]

/-- Parsing succeeds without a report exactly on the documents of the grammar, and the diagram is
then the one that the declarations of the document build. -/
theorem parse_accepts_documents (tokens : List Token) (diagram : Diagram) :
    parse tokens = .ok ⟨diagram, []⟩ ↔
      ∃ declarations, Document (beforeEnd tokens) declarations ∧ diagram = meaning declarations := by
  constructor
  · intro parsed
    unfold parse at parsed
    cases outcome : (readDocument (beforeEnd tokens)).outcome with
    | error obstacle => simp [outcome] at parsed
    | ok trailing =>
      simp only [outcome, Parsed.ofReading, Except.ok.injEq, Parsed.mk.injEq,
        List.append_eq_nil_iff, unrecognized_reports_eq_nil] at parsed
      obtain ⟨rfl, none, silent⟩ := parsed
      obtain ⟨before, opening, portion, closing, front, above, starts, ends, passages⟩ :=
        read_document_sound outcome
      refine ⟨(readDocument (beforeEnd tokens)).read, ?_, (meaning_eq_ofDeclarations _).symm⟩
      rw [front]
      rw [front] at none passages
      exact .document above starts (passages_are_items passages none) ends
        (trailing_reports_eq_nil.mp silent)
  · rintro ⟨declarations, document, rfl⟩
    rw [parse_document document, meaning_eq_ofDeclarations]

end ClassChart.Grammar
