import ClassChart.Proofs.Parsing

/-! What readers look at. A reader decides by the tokens that it takes and by the kind of the first
token that it leaves, whether it succeeds or stops at an obstacle. The tokens behind that one, and
whatever else there is about that one, have no part in the result. -/
namespace ClassChart.Grammar

/-! ## Results that are settled -/

/-- The kind of the next token. -/
def nextKind (tokens : List Token) : Option TokenKind :=
  tokens.head?.map Token.kind

/-- On these tokens the reader takes a portion and comes to its result; any other rest that begins
with the same kind of token is left in the same way. -/
def Settles (read : List Token → β) (tokens : List Token) (result : List Token → β) : Prop :=
  ∃ taken rest, tokens = taken ++ rest ∧
    ∀ other, nextKind other = nextKind rest → read (taken ++ other) = result other

theorem next_kind_append (taken : List Token) (same : nextKind other = nextKind rest) :
    nextKind (taken ++ other) = nextKind (taken ++ rest) := by
  cases taken with
  | nil => exact same
  | cons token taken => rfl

theorem next_kind_none : nextKind tokens = none ↔ tokens = [] := by
  simp [nextKind]

theorem next_kind_some :
    nextKind tokens = some kind ↔ ∃ token rest, tokens = token :: rest ∧ token.kind = kind := by
  cases tokens <;> simp [nextKind]

theorem behind_none_iff : behind? kind tokens = none ↔ nextKind tokens ≠ some kind := by
  cases tokens <;> simp [behind?, nextKind]

/-- A reader that takes the portion and leaves the rest to a second reader settles where that does. -/
theorem settles_behind {read next : List Token → β} (taken : List Token)
    (first : ∀ other, nextKind other = nextKind middle → read (taken ++ other) = next other)
    (second : Settles next middle result) : Settles read (taken ++ middle) result := by
  obtain ⟨more, rest, rfl, reads⟩ := second
  refine ⟨taken ++ more, rest, by simp, ?_⟩
  intro other same
  have passes := first (more ++ other) (next_kind_append more same)
  rw [List.append_assoc, passes]
  exact reads other same

/-- A reader that takes nothing and looks at the next kind alone. -/
theorem settles_here {read result : List Token → β}
    (reads : ∀ other, nextKind other = nextKind tokens → read other = result other) :
    Settles read tokens result :=
  ⟨[], tokens, rfl, reads⟩

/-! ## Readers of single values -/

/-- A value with the tokens left, or an obstacle in front of them. -/
def leaving (verdict : Except Expectation α) (rest : List Token) : Except Obstacle (α × List Token) :=
  match verdict with
  | .ok value => .ok (value, rest)
  | .error expected => .error ⟨expected, rest⟩

/-- The reader settles on every sequence of tokens. -/
def Local (read : List Token → Except Obstacle (α × List Token)) : Prop :=
  ∀ tokens, ∃ verdict, Settles read tokens (leaving verdict)

theorem local_ok (value : α) : Local fun tokens => .ok (value, tokens) :=
  fun _ => ⟨.ok value, settles_here fun _ _ => rfl⟩

/-- One reader after the other. -/
theorem local_bind {read : List Token → Except Obstacle (α × List Token)}
    (next : α → List Token → Except Obstacle (β × List Token))
    (first : Local read) (second : ∀ value, Local (next value)) :
    Local fun tokens => read tokens >>= fun result => next result.1 result.2 := by
  intro tokens
  obtain ⟨verdict, taken, rest, rfl, reads⟩ := first tokens
  cases verdict with
  | error expected =>
    refine ⟨.error expected, taken, rest, rfl, fun other same => ?_⟩
    simp only [reads other same]
    rfl
  | ok value =>
    obtain ⟨verdict, settled⟩ := second value rest
    refine ⟨verdict, settles_behind taken (fun other same => ?_) settled⟩
    simp only [reads other same]
    rfl

/-- A reader that goes one way behind a token of this kind, and the other way without one. -/
theorem local_behind (kind : TokenKind)
    {read inside outside : List Token → Except Obstacle (α × List Token)}
    (given : Local inside) (omitted : Local outside)
    (opens : ∀ (mark : Token) rest, mark.kind = kind → read (mark :: rest) = inside rest)
    (stays : ∀ tokens, behind? kind tokens = none → read tokens = outside tokens) : Local read := by
  intro tokens
  cases found : behind? kind tokens with
  | some rest =>
    obtain ⟨mark, rfl, isMark⟩ := behind?_eq_some.mp found
    obtain ⟨verdict, settled⟩ := given rest
    exact ⟨verdict, settles_behind [mark] (fun other _ => opens mark other isMark) settled⟩
  | none =>
    obtain ⟨verdict, taken, rest, rfl, reads⟩ := omitted tokens
    refine ⟨verdict, taken, rest, rfl, fun other same => ?_⟩
    have still : behind? kind (taken ++ other) = none := by
      rw [behind_none_iff] at found ⊢
      rwa [next_kind_append taken same]
    rw [stays _ still]
    exact reads other same

theorem local_expect (accepts : TokenKind → Bool) (expected : Expectation) :
    Local (expect accepts expected) := by
  intro tokens
  cases tokens with
  | nil =>
    refine ⟨.error expected, settles_here fun other same => ?_⟩
    obtain rfl := next_kind_none.mp same
    rfl
  | cons token rest =>
    by_cases accepted : accepts token.kind = true
    · exact ⟨.ok token, [token], rest, rfl, fun other _ => by simp [expect, accepted, leaving]⟩
    · refine ⟨.error expected, settles_here fun other same => ?_⟩
      obtain ⟨next, later, rfl, kind⟩ := next_kind_some.mp same
      simp [expect, kind, accepted, leaving]

theorem local_type (expected : Expectation) (usual : String) : Local (readType expected usual) := by
  have word : Local fun tokens => expect TokenKind.isMemberWord expected tokens >>=
      fun result => .ok (result.1.lexeme, result.2) :=
    local_bind (fun token rest => .ok (token.lexeme, rest)) (local_expect _ _)
      fun token => local_ok token.lexeme
  refine local_behind .colon word (local_ok usual) ?_ ?_
  · intro mark rest isColon
    simp only [readType, behind?, isColon, if_true]
    cases expect TokenKind.isMemberWord expected rest <;> rfl
  · intro tokens none
    simp [readType, none]

theorem local_parameters (methodName : String) :
    Local fun tokens => (readParameters methodName tokens).map fun rest => ((), rest) := by
  intro tokens
  cases read : readParameters methodName tokens with
  | ok rest =>
    obtain ⟨parameters, closing, rfl, inside, closes⟩ := read_parameters_sound read
    refine ⟨.ok (), parameters ++ [closing], rest, by simp, fun other _ => ?_⟩
    simp [read_parameters_complete inside closes, Except.map, leaving]
  | error obstacle =>
    refine ⟨.error (.closingParen methodName), tokens, [], by simp, fun other same => ?_⟩
    obtain rfl := next_kind_none.mp same
    have open_ : obstacle = ⟨.closingParen methodName, []⟩ := by
      unfold readParameters at read
      split at read <;> cases read
      rfl
    simp [read, open_, Except.map, leaving]

theorem local_visibility : Local fun tokens => .ok (readVisibility tokens) := by
  intro tokens
  cases tokens with
  | nil =>
    refine ⟨.ok none, settles_here fun other same => ?_⟩
    obtain rfl := next_kind_none.mp same
    rfl
  | cons token rest =>
    cases marks : token.kind.visibility? with
    | some visibility =>
      exact ⟨.ok (some visibility), [token], rest, rfl,
        fun other _ => by simp [readVisibility, marks, leaving]⟩
    | none =>
      refine ⟨.ok none, settles_here fun other same => ?_⟩
      obtain ⟨next, later, rfl, kind⟩ := next_kind_some.mp same
      simp [readVisibility, kind, marks, leaving]

theorem local_member_tail (visibility : Option Visibility) (name : String) :
    Local (readMemberTail visibility name) := by
  have asMethod : Local fun tokens =>
      ((readParameters name tokens).map fun rest => ((), rest)) >>= fun result =>
        readType .returnType defaultReturnType result.2 >>= fun result =>
          .ok (Member.ofMethod ⟨visibility, name, result.1⟩, result.2) :=
    local_bind _ (local_parameters name) fun _ =>
      local_bind (fun type rest => .ok (Member.ofMethod ⟨visibility, name, type⟩, rest))
        (local_type _ _) fun type => local_ok _
  have asAttribute : Local fun tokens =>
      readType .attributeType defaultAttributeType tokens >>= fun result =>
        .ok (Member.ofAttribute ⟨visibility, name, result.1⟩, result.2) :=
    local_bind (fun type rest => .ok (Member.ofAttribute ⟨visibility, name, type⟩, rest))
      (local_type _ _) fun type => local_ok _
  refine local_behind .openParen asMethod asAttribute ?_ ?_
  · intro mark rest isOpen
    simp only [readMemberTail, behind?, isOpen, if_true]
    cases readParameters name rest <;> rfl
  · intro tokens none
    simp only [readMemberTail, none]
    rfl

theorem local_member : Local readMember :=
  local_bind
    (fun visibility tokens => expect TokenKind.isMemberWord .memberName tokens >>= fun result =>
      readMemberTail visibility result.1.lexeme result.2)
    local_visibility fun visibility =>
      local_bind (fun name => readMemberTail visibility name.lexeme) (local_expect _ _)
        fun name => local_member_tail visibility name.lexeme

/-! ## Class bodies -/

/-- The tokens left, or an obstacle in front of them. -/
def stopping (stuck : Option Expectation) (rest : List Token) : Except Obstacle (List Token) :=
  match stuck with
  | none => .ok rest
  | some expected => .error ⟨expected, rest⟩

theorem read_members_marker (marker : token.kind = .endMarker) :
    readMembers className (token :: rest) =
      ([], .error ⟨.closingBrace className, token :: rest⟩) := by
  rw [readMembers]
  simp [Token.isNewline, marker]

theorem read_members_stop (inside : token.kind ∉ [TokenKind.newline, .closeBrace, .endMarker])
    (read : readMember (token :: rest) = .error obstacle) :
    readMembers className (token :: rest) = ([], .error obstacle) := by
  simp only [List.mem_cons, List.not_mem_nil, or_false, not_or] at inside
  rw [readMembers]
  simp only [Token.isNewline, inside, decide_false, Bool.false_eq_true, if_false]
  split
  · simp_all
  · simp_all

/-- A member that is read is read from its first token on, which is of the same kind wherever the
reader settles. -/
private theorem member_settles (tokens : List Token) : ∃ verdict taken rest, tokens = taken ++ rest ∧
    ∀ other, nextKind other = nextKind rest →
      nextKind (taken ++ other) = nextKind tokens ∧ readMember (taken ++ other) = leaving verdict other := by
  obtain ⟨verdict, taken, rest, rfl, reads⟩ := local_member tokens
  exact ⟨verdict, taken, rest, rfl, fun other same => ⟨next_kind_append taken same, reads other same⟩⟩

theorem members_settle (className : String) (tokens : List Token) : ∃ members stuck,
    Settles (readMembers className) tokens fun rest => (members, stopping stuck rest) := by
  fun_induction readMembers className tokens with
  | case1 =>
    refine ⟨[], some (.closingBrace className), settles_here fun other same => ?_⟩
    obtain rfl := next_kind_none.mp same
    rw [readMembers]
    rfl
  | case2 token rest newline ih =>
    have line : token.kind = .newline := by simpa [Token.isNewline] using newline
    obtain ⟨members, stuck, settled⟩ := ih
    exact ⟨members, stuck, settles_behind [token] (fun _ _ => read_members_newline line) settled⟩
  | case3 token rest newline closes =>
    exact ⟨[], none, [token], rest, rfl, fun _ _ => read_members_close closes⟩
  | case4 token rest newline open_ marker =>
    refine ⟨[], some (.closingBrace className), settles_here fun other same => ?_⟩
    obtain ⟨next, later, rfl, kind⟩ := next_kind_some.mp same
    exact read_members_marker (kind.trans marker)
  | case5 token rest newline open_ goesOn obstacle fails =>
    have inside : token.kind ∉ [TokenKind.newline, .closeBrace, .endMarker] := by
      simp_all [Token.isNewline]
    obtain ⟨verdict, taken, left, split, reads⟩ := member_settles (token :: rest)
    have here := (reads left rfl).2
    rw [← split, fails] at here
    cases verdict with
    | ok member => cases here
    | error expected =>
      refine ⟨[], some expected, taken, left, split, fun other same => ?_⟩
      obtain ⟨begins, read⟩ := reads other same
      obtain ⟨next, later, front, kind⟩ := next_kind_some.mp begins
      rw [front] at read ⊢
      exact read_members_stop (by rwa [kind]) read
  | case6 token rest newline open_ goesOn member behindMember taken members outcome same ih =>
    have inside : token.kind ∉ [TokenKind.newline, .closeBrace, .endMarker] := by
      simp_all [Token.isNewline]
    obtain ⟨verdict, portion, left, split, reads⟩ := member_settles (token :: rest)
    have here := (reads left rfl).2
    rw [← split, taken] at here
    cases verdict with
    | error expected => cases here
    | ok first =>
      cases here
      obtain ⟨others, stuck, more, later, rfl, readsOthers⟩ := ih
      refine ⟨member :: others, stuck, portion ++ more, later, by rw [split, List.append_assoc], ?_⟩
      intro other sameKind
      obtain ⟨begins, read⟩ := reads (more ++ other) (next_kind_append more sameKind)
      obtain ⟨next, behind, front, kind⟩ := next_kind_some.mp begins
      rw [List.append_assoc, front]
      rw [front] at read
      rw [read_members_member (by rwa [kind]) read, readsOthers other sameKind]

/-! ## Declarations -/

/-- What was read, with the tokens left or an obstacle in front of them. -/
def ended (said : List Declaration) (stuck : Option Expectation) (rest : List Token) : Step :=
  ⟨said, stopping stuck rest⟩

theorem class_settles (isAbstract : Bool) (tokens : List Token) : ∃ said stuck,
    Settles (readClass isAbstract) tokens (ended said stuck) := by
  obtain ⟨verdict, taken, rest, rfl, reads⟩ := local_expect (· = .identifier) .className tokens
  cases verdict with
  | error expected =>
    refine ⟨[], some expected, taken, rest, rfl, fun other same => ?_⟩
    simp [readClass, reads other same, leaving, ended, stopping]
  | ok name =>
    cases found : behind? .openBrace rest with
    | none =>
      refine ⟨[.ofClass ⟨name.lexeme, isAbstract, []⟩], none, taken, rest, rfl, fun other same => ?_⟩
      have still : behind? .openBrace other = none := by
        rw [behind_none_iff] at found ⊢
        rwa [same]
      simp [readClass, reads other same, leaving, still, ended, stopping]
    | some body =>
      obtain ⟨opening, rfl, opens⟩ := behind?_eq_some.mp found
      obtain ⟨members, stuck, more, left, rfl, readsBody⟩ := members_settle name.lexeme body
      refine ⟨[.ofClass ⟨name.lexeme, isAbstract, members⟩], stuck, taken ++ opening :: more, left,
        by simp, fun other same => ?_⟩
      have named := reads (opening :: (more ++ other)) rfl
      rw [List.append_assoc, List.cons_append]
      simp [readClass, named, leaving, behind?, opens, readsBody other same, ended]

/-- A line is cut at the next line break, or where the tokens end. -/
theorem line_cut (inside : ∀ token ∈ text, token.kind ≠ .newline)
    (ends : other = [] ∨ nextKind other = some .newline) :
    lineTokens (text ++ other) = text ∧ behindLine (text ++ other) = other := by
  rcases ends with rfl | breaks
  · have stays : ∀ token ∈ text, (!token.isNewline) = true := by simpa [Token.isNewline] using inside
    rw [List.append_nil]
    exact ⟨List.takeWhile_eq_self_iff.mpr stays, List.dropWhile_eq_nil_iff.mpr stays⟩
  · obtain ⟨lineEnd, rest, rfl, line⟩ := next_kind_some.mp breaks
    exact line_of_text rest inside line

/-- The rest of a line is the same before any line break. -/
theorem line_settles (tokens : List Token) : ∃ rest, tokens = lineTokens tokens ++ rest ∧
    ∀ other, nextKind other = nextKind rest →
      lineTokens (lineTokens tokens ++ other) = lineTokens tokens ∧
        behindLine (lineTokens tokens ++ other) = other := by
  obtain ⟨split, inside, ends⟩ := line_split tokens
  refine ⟨behindLine tokens, split, fun other same => line_cut inside ?_⟩
  rcases ends with none | ⟨lineEnd, rest, found, line⟩
  · rw [none] at same
    exact .inl (next_kind_none.mp same)
  · rw [found] at same
    exact .inr (same.trans (by simp [nextKind, line]))

theorem relationship_settles (source operator : Token) (kind : RelationshipKind)
    (tokens : List Token) : ∃ said stuck,
      Settles (readRelationship source operator kind) tokens (ended said stuck) := by
  obtain ⟨verdict, taken, rest, rfl, reads⟩ :=
    local_expect (· = .identifier) (.target operator.lexeme) tokens
  cases verdict with
  | error expected =>
    refine ⟨[], some expected, taken, rest, rfl, fun other same => ?_⟩
    simp [readRelationship, reads other same, leaving, ended, stopping]
  | ok target =>
    cases found : behind? .colon rest with
    | none =>
      refine ⟨[.ofRelationship ⟨source.lexeme, target.lexeme, kind, ""⟩], none, taken, rest, rfl,
        fun other same => ?_⟩
      have still : behind? .colon other = none := by
        rw [behind_none_iff] at found ⊢
        rwa [same]
      simp [readRelationship, reads other same, leaving, still, ended, stopping]
    | some text =>
      obtain ⟨mark, rfl, colon⟩ := behind?_eq_some.mp found
      obtain ⟨left, split, cuts⟩ := line_settles text
      refine ⟨[.ofRelationship ⟨source.lexeme, target.lexeme, kind, freeText (lineTokens text)⟩], none,
        taken ++ mark :: lineTokens text, left, by rw [List.append_assoc, List.cons_append, ← split],
        fun other same => ?_⟩
      have named := reads (mark :: (lineTokens text ++ other)) rfl
      obtain ⟨words, behind⟩ := cuts other same
      rw [List.append_assoc, List.cons_append]
      simp [readRelationship, named, leaving, behind?, colon, words, behind, ended, stopping]

theorem next_is_operator_kind (same : nextKind other = nextKind tokens) :
    nextIsOperator other = nextIsOperator tokens := by
  have byKind : ∀ tokens, nextIsOperator tokens = (nextKind tokens).any TokenKind.isOperator := by
    intro tokens
    cases tokens <;> rfl
  rw [byKind, byKind, same]

/-- An identifier looks one token further, but what it sees there it either takes or leaves. -/
private theorem identifier_settles (word : token.kind = .identifier) (tokens : List Token) :
    ∃ said stuck, Settles (readDeclaration token) tokens (ended said stuck) := by
  by_cases follows : nextIsOperator tokens = true
  · obtain ⟨operator, later, kind, rfl, connects⟩ := next_is_operator_iff.mp follows
    obtain ⟨said, stuck, settled⟩ := relationship_settles token operator kind later
    refine ⟨said, stuck, settles_behind [operator] (fun other _ => ?_) settled⟩
    simp [readDeclaration, word, operator_follows connects, read_connection_operator connects]
  · refine ⟨[.unrecognized token], none, settles_here fun other same => ?_⟩
    simp [readDeclaration, word, next_is_operator_kind same, follows, ended, stopping]

private theorem abstract_settles (word : token.kind = .abstractWord) (tokens : List Token) :
    ∃ said stuck, Settles (readDeclaration token) tokens (ended said stuck) := by
  cases found : behind? .classWord tokens with
  | some later =>
    obtain ⟨mark, rfl, isClass⟩ := behind?_eq_some.mp found
    obtain ⟨said, stuck, settled⟩ := class_settles true later
    refine ⟨said, stuck, settles_behind [mark] (fun other _ => ?_) settled⟩
    simp [readDeclaration, word, behind?, isClass]
  | none =>
    obtain ⟨said, stuck, taken, rest, rfl, reads⟩ := class_settles true tokens
    refine ⟨said, stuck, taken, rest, rfl, fun other same => ?_⟩
    have still : behind? .classWord (taken ++ other) = none := by
      rw [behind_none_iff] at found ⊢
      rwa [next_kind_append taken same]
    rw [← reads other same]
    simp [readDeclaration, word, still]

theorem declaration_settles (token : Token) (tokens : List Token) : ∃ said stuck,
    Settles (readDeclaration token) tokens (ended said stuck) := by
  cases word : token.kind with
  | newline =>
    refine ⟨[], none, settles_here fun other _ => ?_⟩
    simp [readDeclaration, word, ended, stopping]
  | classWord =>
    have reads : readDeclaration token = readClass false := by
      funext rest
      simp [readDeclaration, word]
    rw [reads]
    exact class_settles false tokens
  | abstractWord => exact abstract_settles word tokens
  | titleWord =>
    obtain ⟨rest, split, cuts⟩ := line_settles tokens
    refine ⟨[.ofTitle (freeText (lineTokens tokens))], none, lineTokens tokens, rest, split,
      fun other same => ?_⟩
    obtain ⟨words, behind⟩ := cuts other same
    simp [readDeclaration, word, words, behind, ended, stopping]
  | identifier => exact identifier_settles word tokens
  | _ =>
    refine ⟨[.unrecognized token], none, settles_here fun other _ => ?_⟩
    simp [readDeclaration, word, ended, stopping]

/-! ## Documents -/

theorem read_declarations_stop (goesOn : token.kind ≠ .endMarker)
    (stops : (readDeclaration token tokens).outcome = .error obstacle) :
    readDeclarations (token :: tokens) = ⟨(readDeclaration token tokens).read, .error obstacle⟩ := by
  rw [readDeclarations]
  simp only [goesOn, if_false]
  split
  · simp_all
  · simp_all

theorem declarations_settle (tokens : List Token) : ∃ said stuck,
    Settles readDeclarations tokens (ended said stuck) := by
  -- What a declaration leaves is shorter, but no tail of the sequence that is known beforehand.
  induction size : tokens.length using Nat.strong_induction_on generalizing tokens with
  | _ bound ih =>
  cases tokens with
  | nil =>
    refine ⟨[], some .endMarker, settles_here fun other same => ?_⟩
    obtain rfl := next_kind_none.mp same
    rw [readDeclarations]
    rfl
  | cons token tokens =>
    by_cases ends : token.kind = .endMarker
    · exact ⟨[], none, [token], tokens, rfl, fun other _ => read_declarations_end ends⟩
    · obtain ⟨said, stuck, taken, rest, rfl, reads⟩ := declaration_settles token tokens
      cases stuck with
      | some expected =>
        refine ⟨said, some expected, token :: taken, rest, rfl, fun other same => ?_⟩
        have stops := reads other same
        rw [List.cons_append, read_declarations_stop ends (by rw [stops]; rfl), stops]
        rfl
      | none =>
        have shorter : rest.length < bound := by
          rw [← size]
          simp only [List.length_cons, List.length_append]
          omega
        obtain ⟨others, stuck, more, left, rfl, readsOthers⟩ := ih rest.length shorter rest rfl
        refine ⟨said ++ others, stuck, token :: (taken ++ more), left, by simp, fun other same => ?_⟩
        have first := reads (more ++ other) (next_kind_append more same)
        rw [List.cons_append, List.append_assoc,
          read_declarations_step ends (by rw [first]; rfl), first, readsOthers other same]
        rfl

theorem document_settles (tokens : List Token) : ∃ said stuck,
    Settles readDocument tokens (ended said stuck) := by
  induction tokens with
  | nil =>
    refine ⟨[], some .startMarker, settles_here fun other same => ?_⟩
    obtain rfl := next_kind_none.mp same
    rfl
  | cons token tokens ih =>
    by_cases line : token.kind = .newline
    · obtain ⟨said, stuck, settled⟩ := ih
      refine ⟨said, stuck, settles_behind [token] (fun other _ => ?_) settled⟩
      simp [readDocument, skipNewlines, Token.isNewline, line]
    · by_cases starts : token.kind = .startMarker
      · obtain ⟨said, stuck, settled⟩ := declarations_settle tokens
        refine ⟨said, stuck, settles_behind [token] (fun other _ => ?_) settled⟩
        simp [readDocument, skipNewlines, Token.isNewline, expect, starts]
      · refine ⟨[], some .startMarker, settles_here fun other same => ?_⟩
        obtain ⟨next, later, rfl, kind⟩ := next_kind_some.mp same
        simp [readDocument, skipNewlines, Token.isNewline, expect, kind, line, starts, ended, stopping]

/-! ## What a reader has done -/

/-- A reader that goes on has taken a portion, and takes it in front of any rest of this beginning. -/
theorem settled_ok {read : List Token → Step} (settled : Settles read tokens (ended said stuck))
    (goesOn : (read tokens).outcome = .ok rest) : ∃ taken, tokens = taken ++ rest ∧
      ∀ other, nextKind other = nextKind rest →
        read (taken ++ other) = ⟨(read tokens).read, .ok other⟩ := by
  obtain ⟨taken, left, rfl, reads⟩ := settled
  have here := reads left rfl
  rw [here] at goesOn ⊢
  cases stuck with
  | some expected => cases goesOn
  | none =>
    cases goesOn
    exact ⟨taken, rfl, reads⟩

/-- A reader that stops has taken a portion, and stops behind it at any rest of this beginning. -/
theorem settled_error {read : List Token → Step} (settled : Settles read tokens (ended said stuck))
    (stops : (read tokens).outcome = .error obstacle) : ∃ taken, tokens = taken ++ obstacle.rest ∧
      ∀ other, nextKind other = nextKind obstacle.rest →
        read (taken ++ other) = ⟨(read tokens).read, .error ⟨obstacle.expected, other⟩⟩ := by
  obtain ⟨taken, left, rfl, reads⟩ := settled
  have here := reads left rfl
  rw [here] at stops ⊢
  cases stuck with
  | none => cases stops
  | some expected =>
    cases stops
    exact ⟨taken, rfl, reads⟩

end ClassChart.Grammar
