import ClassChart.Proofs.Parsing
import ClassChart.Proofs.Tiling
import Mathlib.Data.List.Nodup

/-! Recovery: the tokens that start no declaration are skipped one by one, and nothing that is read
depends on them. Deleting them brings tokens together that were apart, but what survives begins
like an item, and no item can take the beginning of another one into itself. -/
namespace ClassChart.Grammar

/-- A declaration proper, as opposed to a skipped token. -/
def isDeclared (declaration : Declaration) : Bool :=
  declaration.unrecognized?.isNone

theorem item_is_declared (item : Item portion said) : said.filter isDeclared = said := by
  cases item <;> rfl

/-- The skipped tokens stand in the tokens read, in the same order. -/
theorem skipped_sublist (passages : Repeated Passage portion declarations) :
    (skippedTokens declarations).Sublist portion := by
  induction passages with
  | none => exact .slnil
  | more first later ih =>
    rw [skipped_tokens_append]
    cases first with
    | item item =>
      rw [item_skips_nothing item, List.nil_append]
      exact ih.trans (List.sublist_append_right ..)
    | skipped token => exact (List.Sublist.refl [token]).append ih

private theorem filter_apart {tokens others : List Token} (apart : ∀ token ∈ tokens, token ∉ others) :
    tokens.filter (· ∉ others) = tokens := by
  rw [List.filter_eq_self]
  simpa using apart

/-- Without its skipped tokens, what was read is a row of items that declare the same. -/
theorem items_without_skipped (passages : Repeated Passage portion declarations)
    (distinct : portion.Nodup) :
    Repeated Item (portion.filter (· ∉ skippedTokens declarations))
      (declarations.filter isDeclared) := by
  induction passages with
  | none => exact .none
  | more first later ih =>
    obtain ⟨_, distinctLater, apart⟩ := List.nodup_append.mp distinct
    have keeps := ih distinctLater
    rw [skipped_tokens_append, List.filter_append, List.filter_append]
    cases first with
    | item item =>
      rw [item_skips_nothing item, List.nil_append, item_is_declared item,
        filter_apart fun token member skipped =>
          apart token member token ((skipped_sublist later).subset skipped) rfl]
      exact .more item keeps
    | skipped token =>
      have here : skippedTokens [.unrecognized token] = [token] := rfl
      have gone : [Declaration.unrecognized token].filter isDeclared = [] := rfl
      rw [here, gone, List.nil_append, List.filter_cons_of_neg (by simp), List.filter_nil,
        List.nil_append]
      refine (List.filter_congr fun other member => ?_) ▸ keeps
      have other_ne : other ≠ token := (apart token (by simp) other member).symm
      simp [other_ne]

theorem before_end_goes_on (member : token ∈ beforeEnd tokens) : token.isEnd = false := by
  simpa using List.mem_takeWhile_imp (p := fun token : Token => !token.isEnd) member

/-- Deleting skipped tokens commutes with cutting off at the end of input, which is never one. -/
theorem before_end_filter {keeps : Token → Bool}
    (ends : ∀ token, token.isEnd = true → keeps token = true) (tokens : List Token) :
    beforeEnd (tokens.filter keeps) = (beforeEnd tokens).filter keeps := by
  induction tokens with
  | nil => rfl
  | cons token tokens ih =>
    cases stops : token.isEnd with
    | true => simp [beforeEnd, ends token stops, stops]
    | false =>
      cases kept : keeps token with
      | true => simpa [beforeEnd, stops, kept] using ih
      | false => simpa [beforeEnd, stops, kept] using ih

private theorem filterMap_declared {pick : Declaration → Option α}
    (ignores : ∀ token, pick (.unrecognized token) = none) (declarations : List Declaration) :
    (declarations.filter isDeclared).filterMap pick = declarations.filterMap pick := by
  rw [List.filterMap_filter]
  refine List.filterMap_congr fun declaration _ => ?_
  cases declaration with
  | unrecognized token => simp [isDeclared, Declaration.unrecognized?, ignores]
  | ofClass _ | ofRelationship _ | ofTitle _ => rfl

/-- Skipped tokens leave no trace in the diagram. -/
theorem diagram_without_skipped (declarations : List Declaration) :
    Diagram.ofDeclarations (declarations.filter isDeclared) = .ofDeclarations declarations := by
  simp only [Diagram.ofDeclarations]
  rw [filterMap_declared fun _ => rfl, filterMap_declared fun _ => rfl,
    filterMap_declared fun _ => rfl]

theorem declared_skip_nothing (declarations : List Declaration) :
    skippedTokens (declarations.filter isDeclared) = [] := by
  rw [skippedTokens, List.filterMap_eq_nil_iff]
  intro declaration member
  simpa [isDeclared] using (List.mem_filter.mp member).2

/-! ## Whole documents -/

/-- Skipped tokens leave no trace in a reading that reaches the end marker: without them the same
is declared, and the same tokens stand behind the marker. -/
theorem read_without_skipped (distinct : tokens.Nodup)
    (read : (readDocument tokens).outcome = .ok trailing) :
    (skippedTokens (readDocument tokens).read).Sublist tokens ∧
      readDocument (tokens.filter (· ∉ skippedTokens (readDocument tokens).read)) =
        ⟨(readDocument tokens).read.filter isDeclared, .ok trailing⟩ := by
  obtain ⟨before, opening, portion, closing, split, above, starts, ends, passages⟩ :=
    read_document_sound read
  generalize (readDocument tokens).read = declarations at passages ⊢
  subst split
  have inside := skipped_sublist passages
  have distinctPortion : portion.Nodup :=
    distinct.sublist (((List.sublist_append_left ..).cons opening).trans (List.sublist_append_right ..))
  have outside : ∀ token ∈ before ++ opening :: closing :: trailing,
      token ∉ skippedTokens declarations := by
    intro token member skipped
    have twice := inside.subset skipped
    clear inside passages skipped
    grind [List.nodup_append]
  simp only [List.mem_append, List.mem_cons] at outside
  refine ⟨(inside.trans (List.sublist_append_left ..)).trans
    ((List.sublist_cons_self ..).trans (List.sublist_append_right ..)), ?_⟩
  have keepsBefore : before.filter (· ∉ skippedTokens declarations) = before :=
    filter_apart fun token member => outside token (by simp [member])
  have keepsTrailing : trailing.filter (· ∉ skippedTokens declarations) = trailing :=
    filter_apart fun token member => outside token (by simp [member])
  rw [List.filter_append, List.filter_cons_of_pos (by simp [outside]), List.filter_append,
    List.filter_cons_of_pos (by simp [outside]), keepsBefore, keepsTrailing]
  exact read_document_complete above starts (items_without_skipped passages distinctPortion) ends

theorem trailing_reports_kind (trailing : List Token) :
    ∀ report ∈ trailingReports trailing, report.kind = .trailingContent := by
  intro report member
  simp only [trailingReports, Option.mem_toList, Option.map_eq_some_iff] at member
  obtain ⟨token, -, rfl⟩ := member
  rfl

theorem unrecognized_reports_kind (declarations : List Declaration) :
    ∀ report ∈ unrecognizedReports declarations, report.kind = .unrecognizedDeclaration := by
  intro report member
  obtain ⟨token, -, rfl⟩ := List.mem_map.mp member
  rfl

private theorem filter_kind_of_all {reports : List Diagnostic}
    (all : ∀ report ∈ reports, report.kind = kind) :
    reports.filter (·.kind = kind) = reports ∧ reports.filter (·.kind ≠ kind) = [] := by
  rw [List.filter_eq_self, List.filter_eq_nil_iff]
  exact ⟨by simpa using all, by simpa using all⟩

private theorem filter_kind_of_other {reports : List Diagnostic}
    (all : ∀ report ∈ reports, report.kind = kind) (other : kind ≠ wanted) :
    reports.filter (·.kind = wanted) = [] ∧ reports.filter (·.kind ≠ wanted) = reports := by
  rw [List.filter_eq_self, List.filter_eq_nil_iff]
  constructor <;> intro report member <;> simp [all report member, other]

/-- The reports of a reading are those on its skipped tokens, and those behind the end marker. -/
theorem reading_reports (declarations : List Declaration) (trailing : List Token) :
    (Parsed.ofReading declarations trailing).diagnostics.filter (·.kind = .unrecognizedDeclaration) =
        (skippedTokens declarations).map .unrecognizedDeclaration ∧
      (Parsed.ofReading declarations trailing).diagnostics.filter (·.kind ≠ .unrecognizedDeclaration) =
        trailingReports trailing := by
  obtain ⟨takes, leaves⟩ := filter_kind_of_all (unrecognized_reports_kind declarations)
  have apart : ProblemKind.trailingContent ≠ .unrecognizedDeclaration := by decide
  obtain ⟨takesNone, leavesAll⟩ := filter_kind_of_other (trailing_reports_kind trailing) apart
  rw [Parsed.ofReading, List.filter_append, List.filter_append, takes, leaves, takesNone, leavesAll,
    List.append_nil, List.nil_append]
  exact ⟨rfl, rfl⟩

/-- What it means that recovery has forgotten the skipped tokens: they stand in the sequence in the
order of their reports, each report names the place of exactly one of them, and the sequence
without them parses to the same diagram and the other reports. -/
structure Forgotten (tokens : List Token) (parsed : Parsed) (skipped : List Token) : Prop where
  inOrder : skipped.Sublist tokens
  distinct : skipped.Nodup
  reported : parsed.diagnostics.filter (·.kind = .unrecognizedDeclaration) =
    skipped.map .unrecognizedDeclaration
  located : ∀ token ∈ skipped, tokens.countP (·.position = token.position) = 1
  forgotten : parse (tokens.filter (· ∉ skipped)) =
    .ok ⟨parsed.diagram, parsed.diagnostics.filter (·.kind ≠ .unrecognizedDeclaration)⟩

/-- Where places differ, a token is the only one at its place. -/
theorem position_counts_once {tokens : List Token} (distinct : (tokens.map Token.position).Nodup)
    (member : token ∈ tokens) : tokens.countP (·.position = token.position) = 1 := by
  have once := List.count_eq_one_of_mem distinct (List.mem_map_of_mem member)
  rw [List.count_eq_countP, List.countP_map] at once
  rw [← once]
  refine List.countP_congr fun other _ => ?_
  simp

theorem no_reports_without_skipped (declarations : List Declaration) :
    unrecognizedReports (declarations.filter isDeclared) = [] :=
  unrecognized_reports_eq_nil.mpr (declared_skip_nothing declarations)

/-- Recovery on any sequence whose tokens stand at different places. -/
theorem parse_forgets_skipped (distinct : (tokens.map Token.position).Nodup)
    (read : parse tokens = .ok parsed) : ∃ skipped, Forgotten tokens parsed skipped := by
  have front : (beforeEnd tokens).Sublist tokens := List.takeWhile_sublist _
  have distinctTokens : tokens.Nodup := List.Nodup.of_map Token.position distinct
  unfold parse at read
  cases outcome : (readDocument (beforeEnd tokens)).outcome with
  | error obstacle => simp [outcome] at read
  | ok trailing =>
    simp only [outcome, Except.ok.injEq] at read
    subst read
    obtain ⟨inside, readWithout⟩ := read_without_skipped (distinctTokens.sublist front) outcome
    generalize (readDocument (beforeEnd tokens)).read = declarations at inside readWithout ⊢
    obtain ⟨reported, others⟩ := reading_reports declarations trailing
    have inOrder := inside.trans front
    have ends : ∀ token : Token, token.isEnd = true →
        decide (token ∉ skippedTokens declarations) = true := by
      intro token isEnd
      rw [decide_eq_true_eq]
      intro skipped
      simp [before_end_goes_on (inside.subset skipped)] at isEnd
    refine ⟨skippedTokens declarations, inOrder, distinctTokens.sublist inOrder, reported, ?_, ?_⟩
    · intro token skipped
      exact position_counts_once distinct (inOrder.subset skipped)
    · rw [others, parse, before_end_filter ends, readWithout]
      simp [Parsed.ofReading, diagram_without_skipped, no_reports_without_skipped]

/-- Deleting the tokens that recovery has reported from the tokens of a source leaves a sequence
that parses to the same diagram, with the same reports but for those on the deleted tokens. -/
theorem recovery_forgets_reported_tokens (source : String)
    (read : parse (scan source).tokens = .ok parsed) :
    ∃ skipped, Forgotten (scan source).tokens parsed skipped := by
  refine parse_forgets_skipped ((scan_positions_increase source).imp ?_) read
  rintro first second before rfl
  exact before_irrefl first before

/-- A source in which a stray parenthesis keeps a class from its body. -/
def strayed : String := "@startuml\nclass A ) \x7b\n@enduml\nB"

/-- What it parses to: the class alone, with a report on the parenthesis, on the brace and on what
stands behind the marker. -/
def strayedParsed : Parsed where
  diagram := ⟨none, [.empty "A"], []⟩
  diagnostics := [.unrecognizedDeclaration ⟨.closeParen, ")", ⟨2, 9⟩⟩,
    .unrecognizedDeclaration ⟨.openBrace, "\x7b", ⟨2, 11⟩⟩,
    .trailingContent ⟨.identifier, "B", ⟨4, 1⟩⟩]

theorem strayed_tokens_are_forgotten : parse (scan strayed).tokens = .ok strayedParsed ∧
    ∃ skipped, Forgotten (scan strayed).tokens strayedParsed skipped :=
  ⟨by decide +kernel, recovery_forgets_reported_tokens strayed (by decide +kernel)⟩

end ClassChart.Grammar
