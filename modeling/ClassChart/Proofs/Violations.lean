import ClassChart.Proofs.Routing
import Mathlib.Data.Finset.Card
import Mathlib.Data.List.FinRange

/-! The violations of the integrity of a diagram, and the reports on them. Violations are said
number by number and end by end, without a record of what has been seen; validation reports each of
them once, in their order. One round through the classes, in which the answer to an insertion tells
whether a name is taken, is enough for both kinds of reports. -/
namespace ClassChart

/-! ## Violations -/

/-- A violation of the integrity of a diagram. -/
inductive Violation (diagram : Diagram) where
  /-- The class with this number has a name that is taken. -/
  | takenName (number : Fin diagram.classes.length)
  /-- An end of this relationship has the name of no class. -/
  | missingClass (relationship : Relationship) (name : String)

namespace Diagram

variable (diagram : Diagram)

/-- A class with a smaller number has the same name. -/
def Repeats (number : Fin diagram.classes.length) : Prop :=
  ∃ earlier < number, diagram.classes[earlier].name = diagram.classes[number].name

instance : DecidablePred diagram.Repeats := fun number =>
  inferInstanceAs (Decidable (∃ earlier < number,
    diagram.classes[earlier].name = diagram.classes[number].name))

/-- No class has this name. -/
def Lacks (name : String) : Prop :=
  ∀ node ∈ diagram.classes, node.name ≠ name

instance : DecidablePred diagram.Lacks := fun name =>
  inferInstanceAs (Decidable (∀ node ∈ diagram.classes, node.name ≠ name))

/-- The violation at one end of a relationship, if there is one. -/
def violationAt (relationship : Relationship) (name : String) : List (Violation diagram) :=
  if diagram.Lacks name then [.missingClass relationship name] else []

/-- The violations: classes with taken names by their numbers, then the ends of relationships one
by one, source before target. -/
def violations : List (Violation diagram) :=
  ((List.finRange diagram.classes.length).filter fun number => diagram.Repeats number).map
      .takenName ++
    diagram.relationships.flatMap fun relationship =>
      diagram.violationAt relationship relationship.source ++
        diagram.violationAt relationship relationship.target

end Diagram

variable {diagram : Diagram}

namespace Violation

/-- The kind of problem that a violation is. -/
def kind : Violation diagram → ProblemKind
  | takenName _ => .duplicateClass
  | missingClass _ _ => .undefinedClass

/-- What a message about the violation has to name. -/
def subjects : Violation diagram → List String
  | takenName number => [diagram.classes[number].name]
  | missingClass relationship name => [relationship.text, name]

end Violation

/-- The message names a text, in quotes. -/
def Diagnostic.Quotes (report : Diagnostic) (text : String) : Prop :=
  ['\''] ++ text.toList ++ ['\''] <:+: report.message.toList

/-- A report of one violation; no report of validation has a position. -/
structure Reports (violation : Violation diagram) (report : Diagnostic) : Prop where
  kind : report.kind = violation.kind
  quotes : ∀ subject ∈ violation.subjects, report.Quotes subject
  position : report.position = none

/-- The report of validation on the violation. -/
def Violation.report : Violation diagram → Diagnostic
  | takenName number => .duplicateClass diagram.classes[number].name
  | missingClass relationship name => .undefinedClass relationship name

theorem duplicate_class_quotes (name : String) : (Diagnostic.duplicateClass name).Quotes name := by
  have message : (Diagnostic.duplicateClass name).message =
      "class '" ++ name ++ "' is declared more than once" := rfl
  refine ⟨"class ".toList, " is declared more than once".toList, ?_⟩
  simp [message]

theorem undefined_class_message (relationship : Relationship) (name : String) :
    (Diagnostic.undefinedClass relationship name).message =
      "relationship '" ++ relationship.text ++ "' references an undefined class '" ++ name ++ "'" :=
  rfl

theorem undefined_class_quotes_text (relationship : Relationship) (name : String) :
    (Diagnostic.undefinedClass relationship name).Quotes relationship.text := by
  refine ⟨"relationship ".toList,
    " references an undefined class '".toList ++ name.toList ++ "'".toList, ?_⟩
  simp [undefined_class_message]

theorem undefined_class_quotes_name (relationship : Relationship) (name : String) :
    (Diagnostic.undefinedClass relationship name).Quotes name := by
  refine ⟨"relationship '".toList ++ relationship.text.toList ++
    "' references an undefined class ".toList, [], ?_⟩
  simp [undefined_class_message]

theorem report_reports (violation : Violation diagram) : Reports violation violation.report where
  kind := by cases violation <;> rfl
  quotes := by
    cases violation with
    | takenName number =>
      intro subject member
      obtain rfl := List.mem_singleton.mp member
      exact duplicate_class_quotes _
    | missingClass relationship name =>
      intro subject member
      rcases List.mem_pair.mp member with rfl | rfl
      · exact undefined_class_quotes_text _ _
      · exact undefined_class_quotes_name _ _
  position := by cases violation <;> rfl

/-! ## Taken names -/

section Taken

variable (key : α → String) (seen : List String)

/-- The name of the entry with this number has been seen, or an earlier entry has it. -/
def Taken (entries : List α) (number : Fin entries.length) : Prop :=
  key entries[number] ∈ seen ++ (entries.take number).map key

instance (entries : List α) : DecidablePred (Taken key seen entries) := fun number =>
  inferInstanceAs (Decidable (key entries[number] ∈ seen ++ (entries.take number).map key))

theorem first_taken_iff (entry : α) (entries : List α) :
    Taken key seen (entry :: entries) (0 : Fin (entries.length + 1)) ↔ key entry ∈ seen := by
  simp [Taken]

/-- Behind an entry its name counts as seen. -/
theorem later_taken_iff (entry : α) (entries : List α) (number : Fin entries.length) :
    Taken key seen (entry :: entries) number.succ ↔
      Taken key (key entry :: seen) entries number := by
  simp [Taken, or_left_comm]

theorem taken_of_seen (listed : name ∈ seen) (entries : List α) (number : Fin entries.length) :
    Taken key (name :: seen) entries number ↔ Taken key seen entries number := by
  simp only [Taken, List.cons_append, List.mem_cons, or_iff_right_iff_imp]
  rintro same
  rw [same]
  exact List.mem_append_left _ listed

/-- The numbers of the entries with a taken name. -/
def takenNumbers (entries : List α) : List (Fin entries.length) :=
  (List.finRange entries.length).filter fun number => Taken key seen entries number

theorem taken_numbers_cons (entry : α) (entries : List α) :
    takenNumbers key seen (entry :: entries) =
      (if key entry ∈ seen then [(0 : Fin (entries.length + 1))] else []) ++
        (takenNumbers key (key entry :: seen) entries).map Fin.succ := by
  have numbers : List.finRange (entry :: entries).length =
      (0 : Fin (entries.length + 1)) :: (List.finRange entries.length).map Fin.succ :=
    List.finRange_succ
  rw [takenNumbers, numbers, List.filter_cons, List.filter_map, takenNumbers]
  simp only [Function.comp_def, later_taken_iff, first_taken_iff, decide_eq_true_eq]
  split <;> rfl

theorem taken_numbers_of_seen (listed : name ∈ seen) (entries : List α) :
    takenNumbers key (name :: seen) entries = takenNumbers key seen entries := by
  simp only [takenNumbers, taken_of_seen key seen listed]

/-- The repeated names are the names of the entries with a taken one. -/
theorem repeated_names_eq (entries : List α) :
    repeatedNames seen (entries.map key) =
      (takenNumbers key seen entries).map fun number => key entries[number] := by
  induction entries generalizing seen with
  | nil => rfl
  | cons entry entries ih =>
    rw [taken_numbers_cons, List.map_cons, repeatedNames, List.map_append, List.map_map]
    split
    case isTrue taken =>
      have listed : key entry ∈ seen := by simpa using taken
      rw [if_pos listed, taken_numbers_of_seen key seen listed, ih]
      rfl
    case isFalse free =>
      have fresh : key entry ∉ seen := by simpa using free
      rw [if_neg fresh, ih]
      rfl

end Taken

theorem repeats_iff (diagram : Diagram) (number : Fin diagram.classes.length) :
    Taken ClassNode.name [] diagram.classes number ↔ diagram.Repeats number := by
  rw [Taken, Diagram.Repeats, List.nil_append, List.mem_map]
  constructor
  · rintro ⟨node, before, same⟩
    obtain ⟨earlier, bound, rfl⟩ := List.mem_take_iff_getElem.mp before
    exact ⟨⟨earlier, by omega⟩, Fin.mk_lt_of_lt_val (by omega), same⟩
  · rintro ⟨earlier, before, same⟩
    exact ⟨_, List.mem_take_iff_getElem.mpr ⟨earlier, by omega, rfl⟩, same⟩

theorem lacks_iff (diagram : Diagram) (name : String) :
    diagram.Lacks name ↔ diagram.declares name = false := by
  simp [Diagram.Lacks, Diagram.declares]

/-! ## Reports -/

theorem violation_at_reports (diagram : Diagram) (relationship : Relationship) (name : String) :
    (diagram.violationAt relationship name).map Violation.report =
      ([name].filter fun name => !diagram.declares name).map
        (Diagnostic.undefinedClass relationship) := by
  rw [Diagram.violationAt]
  cases declared : diagram.declares name <;> simp [lacks_iff, declared, Violation.report]

/-- Validation reports the violations one by one. -/
theorem validate_eq (diagram : Diagram) :
    diagram.validate = diagram.violations.map Violation.report := by
  have repeated : (repeatedNames [] (diagram.classes.map (·.name))).map .duplicateClass =
      (((List.finRange diagram.classes.length).filter fun number => diagram.Repeats number).map
        .takenName).map Violation.report := by
    rw [repeated_names_eq, takenNumbers]
    simp only [repeats_iff, List.map_map]
    rfl
  have undefined (relationship : Relationship) :
      (diagram.undefinedEndpoints relationship).map (Diagnostic.undefinedClass relationship) =
        (diagram.violationAt relationship relationship.source ++
          diagram.violationAt relationship relationship.target).map Violation.report := by
    rw [List.map_append, violation_at_reports, violation_at_reports, ← List.map_append,
      ← List.filter_append]
    rfl
  rw [Diagram.validate, Diagram.violations, List.map_append, repeated, List.map_flatMap]
  simp only [undefined]

/-- Every name in a list is either repeated or the first of its kind. -/
theorem repeated_names_length (seen names : List String) :
    (repeatedNames seen names).length + (names.toFinset \ seen.toFinset).card = names.length := by
  induction names generalizing seen with
  | nil => simp [repeatedNames]
  | cons name names ih =>
    rw [repeatedNames, List.toFinset_cons, List.length_cons]
    split
    case isTrue taken =>
      have listed : name ∈ seen.toFinset := by simpa using taken
      rw [Finset.insert_sdiff_of_mem _ listed, List.length_cons, ← ih seen]
      omega
    case isFalse free =>
      have fresh : name ∉ seen.toFinset := by simpa using free
      have counted := ih (name :: seen)
      rw [List.toFinset_cons, Finset.sdiff_insert] at counted
      have first := Finset.card_erase_add_one
        (Finset.mem_insert_self name (names.toFinset \ seen.toFinset))
      rw [Finset.erase_insert_eq_erase] at first
      rw [Finset.insert_sdiff_of_notMem _ fresh]
      omega

theorem duplicate_reports_length (diagram : Diagram) :
    (diagram.validate.filter (·.kind = .duplicateClass)).length =
      (repeatedNames [] (diagram.classes.map (·.name))).length := by
  have undefined : (diagram.relationships.flatMap fun relationship =>
        (diagram.undefinedEndpoints relationship).map
          (Diagnostic.undefinedClass relationship)).filter (·.kind = .duplicateClass) = [] := by
    rw [List.filter_eq_nil_iff]
    intro report member
    obtain ⟨relationship, -, dangling⟩ := List.mem_flatMap.mp member
    obtain ⟨name, -, rfl⟩ := List.mem_map.mp dangling
    simp [Diagnostic.undefinedClass]
  rw [Diagram.validate, List.filter_append, undefined, List.append_nil, List.filter_eq_self.mpr,
    List.length_map]
  intro report member
  obtain ⟨name, -, rfl⟩ := List.mem_map.mp member
  rfl

theorem passes_iff (diagram : Diagram) (relationship : Relationship) :
    diagram.passes relationship = true ↔
      ∀ name ∈ relationship.endpoints, ∃ node ∈ diagram.classes, node.name = name := by
  simp [passes_eq_connects, Diagram.connects, Diagram.declares, Relationship.endpoints]

/-! ## One round through the classes -/

/-- What a round through the classes has come to know: the names so far, and those of them that were
taken. -/
structure Roll where
  names : Std.HashSet String
  repeated : List String

namespace Roll

/-- The roll with one more name; the answer to the insertion tells whether the name was taken. -/
def call (roll : Roll) (name : String) : Roll :=
  let (taken, names) := roll.names.containsThenInsert name
  ⟨names, if taken then roll.repeated ++ [name] else roll.repeated⟩

/-- The roll with more names, one after the other. -/
def callAll (roll : Roll) (names : List String) : Roll :=
  names.foldl call roll

end Roll

namespace Diagram

/-- The roll of all classes. -/
def roll (diagram : Diagram) : Roll :=
  Roll.callAll ⟨∅, []⟩ (diagram.classes.map (·.name))

/-- Validation from the roll alone. -/
def validateByRoll (diagram : Diagram) : List Diagnostic :=
  diagram.roll.repeated.map .duplicateClass ++
    diagram.relationships.flatMap fun relationship =>
      (relationship.endpoints.filter fun name => !diagram.roll.names.contains name).map
        (.undefinedClass relationship)

end Diagram

theorem call_names (roll : Roll) (called name : String) :
    (roll.call called).names.contains name = (name == called || roll.names.contains name) := by
  have inserted : (roll.call called).names = roll.names.insert called :=
    Std.HashSet.containsThenInsert_snd
  rw [inserted, Std.HashSet.contains_insert, Bool.beq_comm]

theorem call_repeated (roll : Roll) (name : String) :
    (roll.call name).repeated =
      roll.repeated ++ if roll.names.contains name then [name] else [] := by
  rw [Roll.call]
  simp only [Std.HashSet.containsThenInsert_fst]
  split <;> simp

theorem called_names (roll : Roll) (names : List String) (name : String) :
    (roll.callAll names).names.contains name =
      (roll.names.contains name || names.contains name) := by
  induction names generalizing roll with
  | nil => simp [Roll.callAll]
  | cons called names ih =>
    rw [Roll.callAll, List.foldl_cons, ← Roll.callAll, ih, call_names, List.contains_cons,
      Bool.or_assoc, Bool.or_left_comm]

/-- A name is taken when it has been seen, in whatever form the names seen are kept. -/
theorem called_repeated (roll : Roll) (names : List String)
    (same : ∀ name, roll.names.contains name = seen.contains name) :
    (roll.callAll names).repeated = roll.repeated ++ repeatedNames seen names := by
  induction names generalizing roll seen with
  | nil => simp [repeatedNames, Roll.callAll]
  | cons called names ih =>
    have inserted (name : String) :
        (roll.call called).names.contains name = (called :: seen).contains name := by
      rw [call_names, same, List.contains_cons]
    rw [Roll.callAll, List.foldl_cons, ← Roll.callAll, repeatedNames]
    split
    case isTrue taken =>
      -- The set takes the name in once more, which changes nothing in it.
      have kept (name : String) : (called :: seen).contains name = seen.contains name := by
        rw [Bool.eq_iff_iff]
        simpa using fun isCalled => isCalled ▸ List.contains_iff_mem.mp taken
      rw [ih _ fun name => (inserted name).trans (kept name), call_repeated, same, if_pos taken,
        List.append_assoc]
      rfl
    case isFalse free =>
      rw [ih _ inserted, call_repeated, same, if_neg free, List.append_nil]

theorem validate_by_roll (diagram : Diagram) : diagram.validateByRoll = diagram.validate := by
  have repeated : diagram.roll.repeated = repeatedNames [] (diagram.classes.map (·.name)) := by
    rw [Diagram.roll, called_repeated]
    · rfl
    · simp
  have names (name : String) : diagram.roll.names.contains name = diagram.declares name := by
    rw [Diagram.roll, called_names, Diagram.declares, Bool.eq_iff_iff]
    simp
  rw [Diagram.validateByRoll, Diagram.validate, repeated]
  simp only [names]
  rfl

/-! ## Validation -/

/-- Reports that say what violates the integrity of a diagram, and nothing else. -/
structure ReportsExactly (diagram : Diagram) (reports : List Diagnostic) : Prop where
  each : List.Forall₂ Reports diagram.violations reports
  repeated : (reports.filter (·.kind = .duplicateClass)).length +
    (diagram.classes.map (·.name)).toFinset.card = diagram.classes.length
  accepts : reports = [] ↔ (diagram.classes.map (·.name)).Nodup ∧
    ∀ name ∈ diagram.endpoints, ∃ node ∈ diagram.classes, node.name = name

/-- Validation reports exactly the violations of integrity, each once and in order, and one round
through the classes is enough for it. -/
theorem validation_is_exact (diagram : Diagram) :
    ReportsExactly diagram diagram.validate ∧ diagram.validateByRoll = diagram.validate := by
  refine ⟨⟨?_, ?_, ?_⟩, validate_by_roll diagram⟩
  · rw [validate_eq, List.forall₂_map_right_iff, List.forall₂_same]
    exact fun violation _ => report_reports violation
  · have counted := repeated_names_length [] (diagram.classes.map (·.name))
    rw [List.toFinset_nil, Finset.sdiff_empty, List.length_map] at counted
    rw [duplicate_reports_length, counted]
  · rw [validate_nil_iff, Diagram.endpoints, List.forall_mem_flatMap]
    simp only [passes_iff]

/-- Both ends of one relationship are reported, also where they have one name. -/
example :
    Diagram.validate ⟨none, [.empty "A", .empty "A"], [⟨"B", "B", .link, ""⟩]⟩ =
      [⟨.duplicateClass, "class 'A' is declared more than once", none⟩,
        ⟨.undefinedClass, "relationship 'B -- B' references an undefined class 'B'", none⟩,
        ⟨.undefinedClass, "relationship 'B -- B' references an undefined class 'B'", none⟩] := by
  rfl

end ClassChart
