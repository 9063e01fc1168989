import ClassChart.Proofs.Routing
import ClassChart.Proofs.Tally
import Mathlib.Algebra.BigOperators.Group.List.Basic
import Mathlib.Algebra.GroupWithZero.Nat

/-! Which box is placed for which declaration. Every class is followed through the ranking with the
number of its declaration, so that equal classes stay apart: the boxes are those of all
declarations, by the number of endpoints that use their names, and declarations with equally many
stay in their order. -/
namespace ClassChart

variable {diagram : Diagram} {geometry : Geometry}

/-! ## Endpoints of a name -/

/-- How many ends of relationships have this name; both ends of one relationship may. -/
def Diagram.uses (diagram : Diagram) (name : String) : Nat :=
  diagram.relationships.countP (·.source = name) + diagram.relationships.countP (·.target = name)

theorem connections_eq_uses (diagram : Diagram) (name : String) :
    diagram.connections name = diagram.uses name := by
  rw [Diagram.connections, Diagram.endpoints, Diagram.uses]
  induction diagram.relationships with
  | nil => rfl
  | cons relationship relationships ih =>
    rw [List.flatMap_cons, List.count_append, ih, Relationship.endpoints]
    simp only [List.countP_cons, List.count_cons, List.count_nil, beq_iff_eq, decide_eq_true_eq]
    omega

theorem endpoints_length (diagram : Diagram) :
    diagram.endpoints.length = 2 * diagram.relationships.length := by
  rw [Diagram.endpoints, List.length_flatMap]
  simp [Relationship.endpoints, Nat.mul_comm]

theorem sum_of_matches (names : List String) (wanted : String) :
    (names.map fun name => if wanted == name then 1 else 0).sum = names.count wanted := by
  induction names with
  | nil => rfl
  | cons name names ih =>
    rw [List.map_cons, List.sum_cons, ih, List.count_cons, Nat.add_comm, Bool.beq_comm]

/-- Counting the ends name by name is counting the names end by end. -/
theorem sum_of_counts (names ends : List String) :
    (names.map fun name => ends.count name).sum = (ends.map fun name => names.count name).sum := by
  induction ends with
  | nil => simp
  | cons first ends ih =>
    simp only [List.count_cons, List.sum_map_add, ih, sum_of_matches, List.map_cons, List.sum_cons]
    omega

/-- Of names that are all different, each end of a relationship counts for one at most. -/
theorem sum_of_connections (distinct : (diagram.classes.map (·.name)).Nodup) :
    (diagram.classes.map fun node => diagram.connections node.name).sum =
      diagram.endpoints.countP diagram.declares := by
  have counted := sum_of_counts (diagram.classes.map (·.name)) diagram.endpoints
  rw [List.map_map] at counted
  refine counted.trans ?_
  induction diagram.endpoints with
  | nil => rfl
  | cons name ends ih =>
    rw [List.map_cons, List.sum_cons, ih, distinct.count, List.countP_cons, Nat.add_comm]
    simp [Diagram.declares]

theorem undefined_reports_length (diagram : Diagram) :
    diagram.undefinedReports.length =
      diagram.endpoints.countP fun name => !diagram.declares name := by
  rw [undefined_reports_eq, Diagram.endpoints, List.countP_eq_length_filter, List.filter_flatMap,
    List.length_flatMap, List.length_flatMap]
  simp only [List.length_map]
  rfl

/-! ## Placement -/

/-- A class with the number of its declaration, and the box placed for it. -/
structure Housed where
  node : ClassNode
  number : Nat
  box : ClassBox

/-- The classes with the numbers of their declarations, in the order in which they are placed. -/
def Diagram.numberedOrder (diagram : Diagram) : List (ClassNode × Nat) :=
  heaviestFirst (fun declared => diagram.connections declared.1.name) diagram.classes.zipIdx

/-- The declarations with their boxes. -/
def Geometry.housing (geometry : Geometry) (diagram : Diagram) : List Housed :=
  diagram.numberedOrder.mapIdx fun index declared =>
    { node := declared.1
      number := declared.2
      box := geometry.placeBox diagram.numberedOrder.length index
        ⟨declared.1, diagram.connections declared.1.name⟩ }

theorem numbered_order_classes (diagram : Diagram) :
    diagram.numberedOrder.map (·.1) = diagram.order := by
  rw [Diagram.order, ← List.zipIdx_map_fst 0 diagram.classes]
  apply List.map_mergeSort
  intro first _ second _
  rfl

theorem housing_boxes (geometry : Geometry) (diagram : Diagram) :
    (geometry.housing diagram).map (·.box) = geometry.place diagram.ranked := by
  rw [Geometry.housing, Geometry.place, ranked_eq, ← numbered_order_classes]
  apply List.ext_getElem
  · simp
  · intro index inHousing inPlaced
    simp only [List.getElem_map, List.getElem_mapIdx, List.length_map]

theorem housing_declared (geometry : Geometry) (diagram : Diagram) :
    (geometry.housing diagram).map (fun housed => (housed.node, housed.number)) =
      diagram.numberedOrder := by
  rw [Geometry.housing]
  apply List.ext_getElem
  · simp
  · intro index inHousing inOrder
    simp only [List.getElem_map, List.getElem_mapIdx]

/-- What is placed for a declaration, in whatever place. -/
theorem housing_houses (listed : housed ∈ geometry.housing diagram) :
    Houses geometry housed.node housed.box ∧
      housed.box.connections = diagram.connections housed.node.name := by
  obtain ⟨index, inOrder, rfl⟩ := List.mem_mapIdx.mp listed
  exact ⟨⟨rfl, rfl, rfl, rfl, rfl⟩, rfl⟩

/-! ## Stable ranking -/

/-- The boxes of a layout are those of all declarations, each with the connections of its class, the
most connected first and ties in the order of declaration. -/
structure RankedStably (geometry : Geometry) (diagram : Diagram) (layout : Layout)
    (housing : List Housed) : Prop where
  boxes : housing.map (·.box) = layout.boxes
  complete : (housing.map fun housed => (housed.node, housed.number)).Perm diagram.classes.zipIdx
  houses : ∀ housed ∈ housing, Houses geometry housed.node housed.box
  connections : ∀ housed ∈ housing, housed.box.connections = diagram.uses housed.node.name
  decreasing : housing.Pairwise fun first second =>
    second.box.connections ≤ first.box.connections
  ties : housing.Pairwise fun first second =>
    first.box.connections = second.box.connections → first.number < second.number

theorem numbers_increase (diagram : Diagram) :
    diagram.classes.zipIdx.Pairwise fun first second => first.2 < second.2 := by
  rw [← List.pairwise_map (f := Prod.snd) (R := (· < ·)), List.zipIdx_map_snd]
  exact List.pairwise_lt_range'

theorem arranged_stably (geometry : Geometry) (diagram : Diagram) :
    RankedStably geometry diagram (geometry.arrange diagram) (geometry.housing diagram) where
  boxes := housing_boxes geometry diagram
  complete := by
    rw [housing_declared]
    exact heaviestFirst_perm _ _
  houses _ listed := (housing_houses listed).1
  connections _ listed := (housing_houses listed).2.trans (connections_eq_uses diagram _)
  decreasing := by
    have sorted := heaviestFirst_decreasing
      (fun declared => diagram.connections declared.1.name) diagram.classes.zipIdx
    rw [← Diagram.numberedOrder, ← housing_declared geometry, List.pairwise_map] at sorted
    refine sorted.imp_of_mem fun {first second} isFirst isSecond below => ?_
    rwa [(housing_houses isFirst).2, (housing_houses isSecond).2]
  ties := by
    have sorted := heaviestFirst_ties
      (fun declared => diagram.connections declared.1.name) diagram.classes.zipIdx
      (numbers_increase diagram)
    rw [← Diagram.numberedOrder, ← housing_declared geometry, List.pairwise_map] at sorted
    refine sorted.imp_of_mem fun {first second} isFirst isSecond earlier tied => ?_
    rw [(housing_houses isFirst).2, (housing_houses isSecond).2] at tied
    exact earlier tied

/-! ## The sum of the connections -/

theorem connections_sum (geometry : Geometry) (distinct : (diagram.classes.map (·.name)).Nodup) :
    ((geometry.arrange diagram).boxes.map (·.connections)).sum + diagram.undefinedReports.length =
      2 * diagram.relationships.length := by
  have placed : ((geometry.arrange diagram).boxes.map (·.connections)).sum =
      (diagram.classes.map fun node => diagram.connections node.name).sum := by
    rw [← (arranged_stably geometry diagram).boxes, List.map_map]
    calc ((geometry.housing diagram).map fun housed => housed.box.connections).sum
        = ((geometry.housing diagram).map fun housed =>
            diagram.connections housed.node.name).sum := by
          rw [List.map_congr_left fun _ listed => (housing_houses listed).2]
      _ = (diagram.order.map fun node => diagram.connections node.name).sum := by
          rw [← numbered_order_classes, ← housing_declared geometry, List.map_map, List.map_map]
          rfl
      _ = (diagram.classes.map fun node => diagram.connections node.name).sum :=
          ((order_by_connections diagram).complete.map _).sum_eq
  have ends := List.length_eq_countP_add_countP diagram.declares (l := diagram.endpoints)
  rw [placed, sum_of_connections distinct, undefined_reports_length, ← endpoints_length, ends]
  simp

/-! ## Layouts -/

/-- Placing ranks the classes by a stable sort, whatever the order in which their connections are
kept; with different names, every end of a relationship counts for one class or is reported. -/
theorem layout_ranks_stably (laidOut : geometry.layout diagram = .ok layout) :
    (∃ housing, RankedStably geometry diagram layout housing) ∧
      (∀ table, diagram.HasTable table → geometry.layoutBy table diagram = .ok layout) ∧
      ((diagram.classes.map (·.name)).Nodup →
        (layout.boxes.map (·.connections)).sum + diagram.undefinedReports.length =
          2 * diagram.relationships.length) := by
  obtain rfl := layout_arranges laidOut
  refine ⟨⟨_, arranged_stably geometry diagram⟩, ?_, connections_sum geometry⟩
  intro table has
  rw [layout_by_table geometry has, laidOut]

/-- Two classes with equally many connections, behind one that is declared last; one end of a
relationship is not declared, and one relationship has both ends in common. -/
def rivalDiagram : Diagram where
  title := none
  classes := [.empty "First", .empty "Second", .empty "Hub"]
  relationships :=
    [⟨"Hub", "Hub", .link, ""⟩, ⟨"Second", "Ghost", .association, "to"⟩,
      ⟨"Hub", "First", .inheritance, ""⟩]

/-- Both ends of a relationship count, also where they are the same or the other one is not
declared; a name that is declared twice counts for both classes. -/
theorem rivals_are_ranked :
    (∃ layout, Geometry.standard.layout rivalDiagram = .ok layout ∧
      (∃ housing, RankedStably .standard rivalDiagram layout housing) ∧
      rivalDiagram.classes.map (fun node => rivalDiagram.uses node.name) = [1, 1, 3] ∧
      (layout.boxes.map (·.connections)).sum + 1 = 2 * 3) ∧
    ∃ layout housing, Geometry.standard.layout overlappingDiagram = .ok layout ∧
      RankedStably .standard overlappingDiagram layout housing ∧
      overlappingDiagram.classes.map (fun node => overlappingDiagram.uses node.name) =
        [1, 4, 4] := by
  constructor
  · have laidOut : Geometry.standard.layout rivalDiagram =
        .ok (Geometry.standard.arrange rivalDiagram) := rfl
    obtain ⟨ranked, -, sum⟩ := layout_ranks_stably laidOut
    exact ⟨_, laidOut, ranked, by decide, sum (by decide)⟩
  · have laidOut : Geometry.standard.layout overlappingDiagram =
        .ok (Geometry.standard.arrange overlappingDiagram) := rfl
    obtain ⟨⟨housing, ranked⟩, -⟩ := layout_ranks_stably laidOut
    exact ⟨_, housing, laidOut, ranked, by decide⟩

end ClassChart
