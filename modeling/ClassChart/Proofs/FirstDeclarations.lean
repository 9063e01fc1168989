import ClassChart.Proofs.Placement

/-! What a name means in a layout. The ranking moves boxes about, but classes of one name have
equally many connections and so keep their order: the first box of a name is the box of its first
declaration. Relationships end at such boxes, and the boxes of later declarations play no part in
their routes. -/
namespace ClassChart

variable {diagram : Diagram} {geometry : Geometry} {layout : Layout} {housing : List Housed}

/-- No earlier class has the name of this one. -/
def Diagram.IsFirst (diagram : Diagram) (housed : Housed) : Prop :=
  diagram.classes.findIdx? (·.name = housed.node.name) = some housed.number

instance (diagram : Diagram) : DecidablePred diagram.IsFirst := fun housed =>
  inferInstanceAs (Decidable
    (diagram.classes.findIdx? (·.name = housed.node.name) = some housed.number))

/-! ## Lookups -/

/-- A box has the name of the class that it houses, so looking for one finds the other. -/
theorem find_housed_box (houses : ∀ housed ∈ housing, Houses geometry housed.node housed.box)
    (name : String) : findBox? (housing.map (·.box)) name =
      (housing.find? (·.node.name = name)).map (·.box) := by
  rw [findBox?, List.find?_map]
  congr 1
  apply List.find?_congr
  intro housed listed
  rw [Function.comp_apply, (houses housed listed).name]

theorem find_box_eq (ranked : RankedStably geometry diagram layout housing) (name : String) :
    layout.box? name = (housing.find? (·.node.name = name)).map (·.box) := by
  rw [Layout.box?, ← ranked.boxes, find_housed_box ranked.houses]

theorem declared_at (ranked : RankedStably geometry diagram layout housing)
    (listed : housed ∈ housing) : diagram.classes[housed.number]? = some housed.node := by
  have numbered : (housed.node, housed.number) ∈ diagram.classes.zipIdx :=
    ranked.complete.mem_iff.mp (List.mem_map_of_mem listed)
  exact List.mem_zipIdx_iff_getElem?.mp numbered

theorem housed_of_declared (ranked : RankedStably geometry diagram layout housing)
    (declared : diagram.classes[number]? = some node) :
    ∃ housed ∈ housing, housed.node = node ∧ housed.number = number := by
  have listed : (node, number) ∈ diagram.classes.zipIdx :=
    List.mem_zipIdx_iff_getElem?.mpr declared
  rw [← ranked.complete.mem_iff, List.mem_map] at listed
  obtain ⟨housed, placed, same⟩ := listed
  exact ⟨housed, placed, congrArg Prod.fst same, congrArg Prod.snd same⟩

/-- Classes of one name have equally many connections, so the one that is found was declared before
all others. -/
theorem found_declared_first (ranked : RankedStably geometry diagram layout housing)
    (found : housing.find? (·.node.name = name) = some housed)
    (declared : diagram.classes[number]? = some node) (named : node.name = name) :
    housed.number ≤ number := by
  obtain ⟨foundNamed, before, after, split, others⟩ := List.find?_eq_some_iff_append.mp found
  obtain ⟨other, placed, rfl, rfl⟩ := housed_of_declared ranked declared
  -- The other class stands nowhere in front of the one that is found, so the ranking decides.
  have ties := ranked.ties
  rw [split, List.pairwise_append, List.pairwise_cons] at ties
  have isHoused : housed ∈ housing := List.mem_of_find?_eq_some found
  have tied : housed.box.connections = other.box.connections := by
    rw [ranked.connections _ isHoused, ranked.connections _ placed, named,
      of_decide_eq_true foundNamed]
  rw [split, List.mem_append, List.mem_cons] at placed
  rcases placed with earlier | rfl | later
  · simpa [named] using others other earlier
  · exact Nat.le_refl _
  · exact Nat.le_of_lt (ties.2.1.1 other later tied)

theorem found_is_first (ranked : RankedStably geometry diagram layout housing)
    (found : housing.find? (·.node.name = name) = some housed) :
    diagram.IsFirst housed ∧ diagram.findClass? name = some housed.node := by
  have declared := declared_at ranked (List.mem_of_find?_eq_some found)
  have named : housed.node.name = name := by simpa using List.find?_some found
  obtain ⟨inClasses, isNode⟩ := List.getElem?_eq_some_iff.mp declared
  have unnamed (number : Nat) (before : number < housed.number) :
      diagram.classes[number].name ≠ name := fun same =>
    Nat.not_le_of_lt before (found_declared_first ranked found (List.getElem?_eq_getElem _) same)
  constructor
  · rw [Diagram.IsFirst, List.findIdx?_eq_some_iff_getElem]
    refine ⟨inClasses, by simp [isNode], fun number before => ?_⟩
    simpa [named] using unnamed number before
  · rw [Diagram.findClass?, List.find?_eq_some_iff_getElem]
    refine ⟨by simpa using named, housed.number, inClasses, isNode, fun number before => ?_⟩
    simpa using unnamed number before

/-! ## Routes -/

/-- The middles of the four sides of a box. -/
def ClassBox.sides (box : ClassBox) : List Point :=
  [⟨box.x, box.center.y⟩, ⟨box.x + box.width, box.center.y⟩, ⟨box.center.x, box.y⟩,
    ⟨box.center.x, box.y + box.height⟩]

theorem border_points_on_sides (source target : ClassBox) :
    (borderPoints source target).1 ∈ source.sides ∧
      (borderPoints source target).2 ∈ target.sides := by
  simp only [borderPoints, ClassBox.sides]
  split
  · split <;> simp
  · split <;> simp

/-- Every end of a route is on the box that is found under its name. -/
theorem route_ends_on_boxes (routed : route ∈ (geometry.arrange diagram).routes) :
    ∃ source target, (geometry.arrange diagram).box? route.source = some source ∧
      (geometry.arrange diagram).box? route.target = some target ∧
      route.start ∈ source.sides ∧ route.finish ∈ target.sides := by
  obtain ⟨relationship, -, made⟩ := List.mem_filterMap.mp routed
  unfold route? at made
  split at made
  case h_1 source target fromSource toTarget =>
    obtain rfl := Option.some.inj made
    exact ⟨source, target, fromSource, toTarget, border_points_on_sides source target⟩
  case h_2 => cases made

/-- The boxes of the first declarations of their names. -/
def Diagram.firstBoxes (diagram : Diagram) (housing : List Housed) : List ClassBox :=
  (housing.filter fun housed => diagram.IsFirst housed).map (·.box)

/-- A lookup does not notice that entries are missing which it does not find. -/
theorem find_filtered {entries : List α} {wanted kept : α → Bool}
    (keeps : ∀ entry, entries.find? wanted = some entry → kept entry = true) :
    (entries.filter kept).find? wanted = entries.find? wanted := by
  rw [List.find?_filter]
  cases found : entries.find? wanted with
  | none =>
    rw [List.find?_eq_none] at found ⊢
    intro entry listed
    simpa using fun _ => found entry listed
  | some entry =>
    have isKept := keeps entry found
    obtain ⟨isWanted, before, after, split, others⟩ := List.find?_eq_some_iff_append.mp found
    refine List.find?_eq_some_iff_append.mpr
      ⟨by simp [isKept, isWanted], before, after, split, ?_⟩
    intro other earlier
    simpa using Or.inr (others other earlier)

/-- Among the first boxes the same ones are found as among all. -/
theorem find_first_box (ranked : RankedStably geometry diagram layout housing) (name : String) :
    findBox? (diagram.firstBoxes housing) name = layout.box? name := by
  have houses : ∀ housed ∈ housing.filter fun housed => diagram.IsFirst housed,
      Houses geometry housed.node housed.box :=
    fun housed listed => ranked.houses housed (List.mem_of_mem_filter listed)
  rw [find_box_eq ranked, Diagram.firstBoxes, find_housed_box houses, find_filtered]
  exact fun housed found => decide_eq_true (found_is_first ranked found).1

/-! ## Names -/

/-- A name means the first class declared under it, and the box placed for this class: it is found,
and relationships with this name end on it. -/
structure MeansFirst (geometry : Geometry) (diagram : Diagram) (layout : Layout)
    (housing : List Housed) (name : String) : Prop where
  found : (layout.box? name).isSome = (diagram.findClass? name).isSome
  first : ∀ box, layout.box? name = some box → ∃ housed ∈ housing,
    diagram.IsFirst housed ∧ diagram.findClass? name = some housed.node ∧
      housed.box = box ∧ Houses geometry housed.node box
  starts : ∀ route ∈ layout.routes, route.source = name →
    ∃ box, layout.box? name = some box ∧ route.start ∈ box.sides
  ends : ∀ route ∈ layout.routes, route.target = name →
    ∃ box, layout.box? name = some box ∧ route.finish ∈ box.sides

theorem arranged_means_first (geometry : Geometry) (diagram : Diagram) (name : String) :
    MeansFirst geometry diagram (geometry.arrange diagram) (geometry.housing diagram) name where
  found := by
    rw [Diagram.isSome_findClass?]
    exact isSome_findBox geometry diagram name
  first := by
    have ranked := arranged_stably geometry diagram
    intro box found
    rw [find_box_eq ranked, Option.map_eq_some_iff] at found
    obtain ⟨housed, found, rfl⟩ := found
    have listed : housed ∈ geometry.housing diagram := List.mem_of_find?_eq_some found
    obtain ⟨isFirst, declared⟩ := found_is_first ranked found
    exact ⟨housed, listed, isFirst, declared, rfl, ranked.houses housed listed⟩
  starts := by
    rintro route routed rfl
    obtain ⟨source, -, found, -, onSource, -⟩ := route_ends_on_boxes routed
    exact ⟨source, found, onSource⟩
  ends := by
    rintro route routed rfl
    obtain ⟨-, target, -, found, -, onTarget⟩ := route_ends_on_boxes routed
    exact ⟨target, found, onTarget⟩

/-- In a layout every name means the first class declared under it, although the classes are ranked;
routes are drawn as if the boxes of later declarations were not there. -/
theorem names_mean_first_classes (laidOut : geometry.layout diagram = .ok layout) :
    ∃ housing, RankedStably geometry diagram layout housing ∧
      (∀ name, MeansFirst geometry diagram layout housing name) ∧
      layout.routes = diagram.relationships.filterMap (route? (diagram.firstBoxes housing)) := by
  obtain rfl := layout_arranges laidOut
  have ranked := arranged_stably geometry diagram
  have routed (relationship : Relationship) :
      route? (geometry.place diagram.ranked) relationship =
        route? (diagram.firstBoxes (geometry.housing diagram)) relationship := by
    rw [route?, route?, find_first_box ranked, find_first_box ranked]
    rfl
  refine ⟨_, ranked, arranged_means_first geometry diagram, ?_⟩
  exact List.filterMap_congr fun relationship _ => routed relationship

/-- The class that is declared twice moves ahead of another one; its name still means the
declaration without members. -/
theorem doubled_name_means_first : ∃ layout housing,
    Geometry.standard.layout overlappingDiagram = .ok layout ∧
      RankedStably .standard overlappingDiagram layout housing ∧
      (∀ name, MeansFirst .standard overlappingDiagram layout housing name) ∧
      layout.routes = overlappingDiagram.relationships.filterMap
        (route? (overlappingDiagram.firstBoxes housing)) ∧
      ∃ box, layout.box? "Hub" = some box ∧ box.methods = [] := by
  have laidOut : Geometry.standard.layout overlappingDiagram =
      .ok (Geometry.standard.arrange overlappingDiagram) := rfl
  obtain ⟨housing, ranked, means, routes⟩ := names_mean_first_classes laidOut
  refine ⟨_, housing, laidOut, ranked, means, routes, ?_⟩
  have declared : overlappingDiagram.findClass? "Hub" = some (.empty "Hub") := by decide
  have found := (means "Hub").found
  rw [declared, Option.isSome_some, Option.isSome_iff_exists] at found
  obtain ⟨box, found⟩ := found
  obtain ⟨housed, -, -, isHub, -, houses⟩ := (means "Hub").first box found
  have empty : housed.node = .empty "Hub" := Option.some.inj (isHub.symm.trans declared)
  refine ⟨box, found, ?_⟩
  rw [houses.methods, empty]
  rfl

end ClassChart
