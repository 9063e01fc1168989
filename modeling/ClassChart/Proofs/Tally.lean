import ClassChart.Proofs.Ranking
import Mathlib.Data.List.Nodup

/-! The table of connections. Counting goes through the endpoints once and adds one to the entry of
each name; the counts are then looked up class by class. What is found under a name is how often
the name was counted, in whatever order the entries are kept, so the layout of a diagram does not
depend on that order. -/
namespace ClassChart

/-! ## Counting names -/

/-- Counts a name once more; a name without an entry gets one behind the others. -/
def countOnce (name : String) : List (String × Nat) → List (String × Nat)
  | [] => [(name, 1)]
  | (key, count) :: table =>
    if key = name then (key, count + 1) :: table else (key, count) :: countOnce name table

/-- The table that counting the names one after the other makes. -/
def tally (names : List String) : List (String × Nat) :=
  names.foldl (fun table name => countOnce name table) []

/-- The count in a table, zero for a name without an entry. -/
def countIn (table : List (String × Nat)) (name : String) : Nat :=
  (table.lookup name).getD 0

theorem count_in_cons (key name : String) (count : Nat) (table : List (String × Nat)) :
    countIn ((key, count) :: table) name = if key = name then count else countIn table name := by
  rw [countIn, List.lookup_cons]
  by_cases same : key = name
  · simp [same]
  · have other : (name == key) = false := by simpa using Ne.symm same
    rw [other, if_neg same]
    rfl

theorem count_in_counted (counted name : String) (table : List (String × Nat)) :
    countIn (countOnce counted table) name =
      countIn table name + if counted = name then 1 else 0 := by
  induction table with
  | nil =>
    rw [countOnce, count_in_cons]
    simp [countIn]
  | cons entry table ih =>
    obtain ⟨key, count⟩ := entry
    rw [countOnce, count_in_cons]
    by_cases isEntry : key = counted
    · rw [if_pos isEntry, count_in_cons, isEntry]
      split <;> rfl
    · rw [if_neg isEntry, count_in_cons, ih]
      by_cases found : key = name
      · have other : counted ≠ name := fun same => isEntry (found.trans same.symm)
        simp [found, other]
      · simp [found]

theorem count_in_tally (names : List String) (name : String) :
    countIn (tally names) name = names.count name := by
  have counting (names : List String) (table : List (String × Nat)) :
      countIn (names.foldl (fun table name => countOnce name table) table) name =
        countIn table name + names.count name := by
    induction names generalizing table with
    | nil => rfl
    | cons counted names ih =>
      rw [List.foldl_cons, ih, count_in_counted, List.count_cons]
      simp only [beq_iff_eq]
      omega
  simpa [tally, countIn] using counting names []

/-! ## Tables in any order -/

theorem keys_counted (name : String) (table : List (String × Nat)) :
    (countOnce name table).map Prod.fst =
      if name ∈ table.map Prod.fst then table.map Prod.fst else table.map Prod.fst ++ [name] := by
  induction table with
  | nil => rfl
  | cons entry table ih =>
    obtain ⟨key, count⟩ := entry
    rw [countOnce]
    by_cases isEntry : key = name
    · simp [isEntry]
    · rw [if_neg isEntry, List.map_cons, List.map_cons, ih]
      have first : name ≠ key := Ne.symm isEntry
      by_cases later : name ∈ table.map Prod.fst
      · rw [if_pos later, if_pos (List.mem_cons_of_mem _ later)]
      · rw [if_neg later, if_neg (List.not_mem_cons_of_ne_of_not_mem first later)]
        rfl

/-- Every name has at most one entry. -/
theorem tally_distinct (names : List String) : ((tally names).map Prod.fst).Nodup := by
  have counting (table : List (String × Nat)) (distinct : (table.map Prod.fst).Nodup) :
      ((names.foldl (fun table name => countOnce name table) table).map Prod.fst).Nodup := by
    induction names generalizing table with
    | nil => exact distinct
    | cons name names ih =>
      apply ih
      rw [keys_counted]
      split
      case isTrue => exact distinct
      case isFalse absent =>
      rw [← List.concat_eq_append]
      exact List.Nodup.concat absent distinct
  exact counting [] List.nodup_nil

/-- With one entry for a name, the order of the entries does not matter. -/
theorem count_in_perm (same : table.Perm other) (distinct : (table.map Prod.fst).Nodup)
    (name : String) : countIn table name = countIn other name := by
  induction same with
  | nil => rfl
  | cons entry _ ih =>
    rw [count_in_cons, count_in_cons, ih (List.nodup_cons.mp distinct).2]
  | swap first second table =>
    have apart : second.1 ≠ first.1 := by
      intro same
      simp [same] at distinct
    rw [count_in_cons, count_in_cons, count_in_cons, count_in_cons]
    by_cases isFirst : first.1 = name
    · have other : second.1 ≠ name := fun isSecond => apart (isSecond.trans isFirst.symm)
      rw [if_neg other, if_pos isFirst, if_pos isFirst]
    · rw [if_neg isFirst, if_neg isFirst]
  | trans first _ ih again =>
    rw [ih distinct, again ((first.map Prod.fst).nodup_iff.mp distinct)]

/-! ## Layouts from a table -/

/-- A table of the connections of a diagram, its entries in any order. -/
def Diagram.HasTable (diagram : Diagram) (table : List (String × Nat)) : Prop :=
  table.Perm (tally diagram.endpoints)

theorem count_in_table (has : Diagram.HasTable diagram table) (name : String) :
    countIn table name = diagram.connections name := by
  have order := count_in_perm has.symm (tally_distinct _) name
  rw [← order, count_in_tally]
  rfl

/-- The ranking with the connections that a table gives. -/
def Diagram.rankedBy (diagram : Diagram) (table : List (String × Nat)) : List RankedClass :=
  (diagram.classes.map fun node => ⟨node, countIn table node.name⟩).mergeSort
    fun first second => decide (second.connections ≤ first.connections)

/-- The layout with the connections that a table gives. -/
def Geometry.layoutBy (geometry : Geometry) (table : List (String × Nat)) (diagram : Diagram) :
    Except LayoutRefusal Layout :=
  match geometry.refusal? with
  | some refusal => .error refusal
  | none =>
    let boxes := geometry.place (diagram.rankedBy table)
    .ok
      { boxes := boxes
        routes := diagram.relationships.filterMap (route? boxes)
        width := Float32.ofNat geometry.width
        height := Float32.ofNat geometry.height }

/-- The layout is the same for every order of the table. -/
theorem layout_by_table (geometry : Geometry) (has : Diagram.HasTable diagram table) :
    geometry.layoutBy table diagram = geometry.layout diagram := by
  have ranked : diagram.rankedBy table = diagram.ranked := by
    simp only [Diagram.rankedBy, Diagram.ranked, count_in_table has]
  rw [Geometry.layoutBy, Geometry.layout, ranked]
  rfl

end ClassChart
