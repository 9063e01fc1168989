import ClassChart.Layout
import Mathlib.Data.List.Forall2

/-! The ranking of classes, and what is placed and routed of a diagram. Ranking is a stable sort: it
loses no class, and classes with equally many connections keep the order of their declaration. A
box is found for every declared name and for no other, so a relationship is routed when both
its endpoints are declared. -/
namespace ClassChart

/-! ## Sorting by weight -/

section Sorting

variable (weight : α → Nat) (entries : List α)

/-- The entries sorted by decreasing weight. -/
def heaviestFirst : List α :=
  entries.mergeSort fun first second => decide (weight second ≤ weight first)

theorem heaviestFirst_perm : (heaviestFirst weight entries).Perm entries :=
  List.mergeSort_perm entries _

private theorem weight_trans (first second third : α)
    (above : decide (weight second ≤ weight first) = true)
    (below : decide (weight third ≤ weight second) = true) :
    decide (weight third ≤ weight first) = true := by
  simp only [decide_eq_true_eq] at *
  omega

private theorem weight_total (first second : α) :
    (decide (weight second ≤ weight first) || decide (weight first ≤ weight second)) = true := by
  simp only [Bool.or_eq_true, decide_eq_true_eq]
  omega

theorem heaviestFirst_decreasing :
    (heaviestFirst weight entries).Pairwise fun first second => weight second ≤ weight first := by
  have sorted := List.pairwise_mergeSort (weight_trans weight) (weight_total weight) entries
  exact sorted.imp of_decide_eq_true

/-- Entries of one weight keep their order. -/
theorem heaviestFirst_stable (count : Nat) :
    (heaviestFirst weight entries).filter (fun entry => weight entry = count) =
      entries.filter fun entry => weight entry = count := by
  have tied : (entries.filter fun entry => weight entry = count).Pairwise fun first second =>
      decide (weight second ≤ weight first) = true := by
    rw [List.pairwise_filter]
    refine List.pairwise_of_forall fun first second atFirst atSecond => ?_
    simp only [decide_eq_true_eq] at atFirst atSecond ⊢
    omega
  have kept : (entries.filter fun entry => weight entry = count).Sublist
      (heaviestFirst weight entries) :=
    List.sublist_mergeSort (weight_trans weight) (weight_total weight) tied List.filter_sublist
  have within := kept.filter fun entry => weight entry = count
  simp only [List.filter_filter, Bool.and_self] at within
  have counted := ((heaviestFirst_perm weight entries).filter fun entry => weight entry = count)
  exact (within.eq_of_length counted.length_eq.symm).symm

/-- An order of the entries is kept among entries of one weight. -/
theorem heaviestFirst_ties {before : α → α → Prop} (ordered : entries.Pairwise before) :
    (heaviestFirst weight entries).Pairwise fun first second =>
      weight first = weight second → before first second := by
  rw [List.pairwise_iff_forall_sublist]
  intro first second inOrder tied
  have sorted := ordered.filter fun entry => weight entry = weight second
  rw [← heaviestFirst_stable, List.pairwise_filter, List.pairwise_iff_forall_sublist] at sorted
  exact sorted inOrder (by simpa using tied) (by simp)

end Sorting

variable {diagram : Diagram}

/-! ## Ranking -/

/-- The classes of a diagram, the most connected first and ties in the order of declaration. -/
structure ByConnections (diagram : Diagram) (order : List ClassNode) : Prop where
  complete : order.Perm diagram.classes
  decreasing : order.Pairwise fun first second =>
    diagram.connections second.name ≤ diagram.connections first.name
  stable : ∀ count, order.filter (fun node => diagram.connections node.name = count) =
    diagram.classes.filter fun node => diagram.connections node.name = count

/-- The classes in the order in which they are placed. -/
def Diagram.order (diagram : Diagram) : List ClassNode :=
  heaviestFirst (fun node => diagram.connections node.name) diagram.classes

theorem order_by_connections (diagram : Diagram) : ByConnections diagram diagram.order where
  complete := heaviestFirst_perm _ _
  decreasing := heaviestFirst_decreasing _ _
  stable := heaviestFirst_stable _ _

/-- Counting the connections before the sort gives the same order as counting them after it. -/
theorem ranked_eq (diagram : Diagram) :
    diagram.ranked = diagram.order.map fun node => ⟨node, diagram.connections node.name⟩ := by
  symm
  apply List.map_mergeSort
  intro first _ second _
  rfl

theorem mem_order (diagram : Diagram) (node : ClassNode) :
    node ∈ diagram.order ↔ node ∈ diagram.classes :=
  (heaviestFirst_perm _ _).mem_iff

/-! ## Boxes -/

/-- A box made for a class. -/
structure Houses (geometry : Geometry) (node : ClassNode) (box : ClassBox) : Prop where
  name : box.name = node.name
  isAbstract : box.isAbstract = node.isAbstract
  attributes : box.attributes = node.attributes.map Attribute.line
  methods : box.methods = node.methods.map Method.line
  height : box.height = Float32.ofNat (geometry.classHeight node)

theorem place_houses (geometry : Geometry) (diagram : Diagram) :
    List.Forall₂ (Houses geometry) diagram.order (geometry.place diagram.ranked) := by
  rw [ranked_eq, Geometry.place, List.forall₂_iff_get]
  constructor
  · simp
  · intro index inOrder inBoxes
    simp only [List.get_eq_getElem, List.getElem_mapIdx, List.getElem_map]
    constructor <;> rfl

theorem place_names (geometry : Geometry) (diagram : Diagram) :
    diagram.order.map (·.name) = (geometry.place diagram.ranked).map (·.name) := by
  rw [← List.forall₂_eq_eq_eq, List.forall₂_map_left_iff, List.forall₂_map_right_iff]
  exact (place_houses geometry diagram).imp fun _ _ houses => houses.name.symm

/-- A box is found for the declared names. -/
theorem isSome_findBox (geometry : Geometry) (diagram : Diagram) (name : String) :
    (findBox? (geometry.place diagram.ranked) name).isSome = diagram.declares name := by
  have placed : name ∈ (geometry.place diagram.ranked).map (·.name) ↔
      name ∈ diagram.classes.map (·.name) := by
    rw [← place_names]
    simp [mem_order]
  rw [Bool.eq_iff_iff]
  simpa [findBox?, Diagram.declares] using placed

/-! ## Routes -/

/-- A route made for a relationship. -/
structure Runs (relationship : Relationship) (route : Route) : Prop where
  source : route.source = relationship.source
  target : route.target = relationship.target
  kind : route.kind = relationship.kind
  label : route.label = if relationship.label = "" then none else some relationship.label

/-- Both endpoints of a relationship are declared. -/
def Diagram.connects (diagram : Diagram) (relationship : Relationship) : Bool :=
  diagram.declares relationship.source && diagram.declares relationship.target

theorem route_of_connected (geometry : Geometry)
    (connected : diagram.connects relationship = true) :
    ∃ route, route? (geometry.place diagram.ranked) relationship = some route ∧
      Runs relationship route := by
  rw [Diagram.connects, Bool.and_eq_true] at connected
  rw [← isSome_findBox geometry, ← isSome_findBox geometry] at connected
  obtain ⟨source, fromSource⟩ := Option.isSome_iff_exists.mp connected.1
  obtain ⟨target, toTarget⟩ := Option.isSome_iff_exists.mp connected.2
  rw [route?, fromSource, toTarget]
  exact ⟨_, rfl, ⟨rfl, rfl, rfl, rfl⟩⟩

theorem no_route_of_dangling (geometry : Geometry)
    (dangling : diagram.connects relationship = false) :
    route? (geometry.place diagram.ranked) relationship = none := by
  rw [Diagram.connects, ← isSome_findBox geometry, ← isSome_findBox geometry] at dangling
  unfold route?
  split
  case h_1 source target fromSource toTarget =>
    rw [fromSource, toTarget] at dangling
    cases dangling
  case h_2 => rfl

/-- A relationship has a route when both its endpoints are declared. -/
theorem isSome_route (geometry : Geometry) (diagram : Diagram) (relationship : Relationship) :
    (route? (geometry.place diagram.ranked) relationship).isSome =
      diagram.connects relationship := by
  cases connected : diagram.connects relationship with
  | true =>
    obtain ⟨route, routed, -⟩ := route_of_connected geometry connected
    rw [routed, Option.isSome_some]
  | false => rw [no_route_of_dangling geometry connected, Option.isSome_none]

theorem route_runs {geometry : Geometry}
    (routed : route? (geometry.place diagram.ranked) relationship = some route) :
    Runs relationship route := by
  have connected := isSome_route geometry diagram relationship
  rw [routed, Option.isSome_some] at connected
  obtain ⟨_, same, runs⟩ := route_of_connected geometry connected.symm
  rwa [Option.some.inj (routed.symm.trans same)]

/-- The routes run along the relationships between declared classes, in order. -/
theorem routes_run (geometry : Geometry) (diagram : Diagram) (relationships : List Relationship) :
    List.Forall₂ Runs (relationships.filter diagram.connects)
      (relationships.filterMap (route? (geometry.place diagram.ranked))) := by
  induction relationships with
  | nil => exact .nil
  | cons relationship relationships ih =>
    cases connected : diagram.connects relationship with
    | true =>
      obtain ⟨route, routed, runs⟩ := route_of_connected geometry connected
      rw [List.filter_cons_of_pos connected, List.filterMap_cons_some routed]
      exact .cons runs ih
    | false =>
      rw [List.filter_cons_of_neg (by simp [connected]),
        List.filterMap_cons_none (no_route_of_dangling geometry connected)]
      exact ih

/-! ## Layouts -/

/-- Whatever is laid out at all is arranged. -/
theorem layout_arranges {geometry : Geometry} (laidOut : geometry.layout diagram = .ok layout) :
    layout = geometry.arrange diagram := by
  rw [Geometry.layout] at laidOut
  split at laidOut
  · cases laidOut
  · cases laidOut
    rfl

/-- Whether anything is laid out is up to the measures. -/
theorem layout_of_laid_out {geometry : Geometry} (laidOut : geometry.layout diagram = .ok layout)
    (other : Diagram) : geometry.layout other = .ok (geometry.arrange other) := by
  rw [Geometry.layout] at laidOut ⊢
  split at laidOut
  · cases laidOut
  · rfl

end ClassChart
