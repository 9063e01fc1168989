import ClassChart.Proofs.Tally
import Mathlib.Data.Set.Function

/-! Diagrams that differ in their names only. Layout and validation ask of a name whether it is the
same as another and nothing else, so a renaming that keeps names apart is carried through: boxes
have the same places and sizes, routes the same ends, and reports the same kinds, in the same
order. -/
namespace ClassChart

/-! ## Renaming -/

section Renaming
variable (rename : String → String)

/-- The class under its new name. -/
def ClassNode.renamed (node : ClassNode) : ClassNode :=
  { node with name := rename node.name }

/-- The relationship between the new names of its endpoints. -/
def Relationship.renamed (relationship : Relationship) : Relationship :=
  { relationship with
    source := rename relationship.source
    target := rename relationship.target }

/-- The diagram with new names for its classes and endpoints. -/
def Diagram.renamed (diagram : Diagram) : Diagram :=
  { diagram with
    classes := diagram.classes.map (ClassNode.renamed rename)
    relationships := diagram.relationships.map (Relationship.renamed rename) }

/-- The ranked class under its new name. -/
def RankedClass.renamed (ranked : RankedClass) : RankedClass :=
  { ranked with node := ranked.node.renamed rename }

/-- The box of the class under its new name. -/
def ClassBox.renamed (box : ClassBox) : ClassBox :=
  { box with name := rename box.name }

/-- The route between the new names of its endpoints. -/
def Route.renamed (route : Route) : Route :=
  { route with source := rename route.source, target := rename route.target }

/-- The layout with new names, everything where it was. -/
def Layout.renamed (layout : Layout) : Layout :=
  { layout with
    boxes := layout.boxes.map (ClassBox.renamed rename)
    routes := layout.routes.map (Route.renamed rename) }

end Renaming

/-- The names in a diagram, of its classes and of the endpoints of its relationships. -/
def Diagram.names (diagram : Diagram) : List String :=
  diagram.classes.map (·.name) ++ diagram.endpoints

/-- Different names in the list get different new names. -/
def KeepsApart (rename : String → String) (names : List String) : Prop :=
  Set.InjOn rename {name | name ∈ names}

section Apart

variable {rename : String → String} {diagram : Diagram}

theorem class_name_mem (listed : node ∈ diagram.classes) : node.name ∈ diagram.names :=
  List.mem_append_left _ (List.mem_map_of_mem listed)

theorem endpoint_mem (listed : relationship ∈ diagram.relationships)
    (isEnd : name ∈ relationship.endpoints) : name ∈ diagram.names :=
  List.mem_append_right _ (List.mem_flatMap.mpr ⟨relationship, listed, isEnd⟩)

/-! ## Ranking -/

theorem endpoints_renamed (rename : String → String) (diagram : Diagram) :
    (diagram.renamed rename).endpoints = diagram.endpoints.map rename := by
  rw [Diagram.endpoints, Diagram.endpoints, Diagram.renamed, List.flatMap_map, List.map_flatMap]
  rfl

variable (apart : KeepsApart rename diagram.names)
include apart

theorem connections_renamed (known : name ∈ diagram.names) :
    (diagram.renamed rename).connections (rename name) = diagram.connections name := by
  rw [Diagram.connections, Diagram.connections, endpoints_renamed, List.count, List.count,
    List.countP_map]
  apply List.countP_congr
  intro other used
  have otherKnown : other ∈ diagram.names := List.mem_append_right _ used
  simpa using apart.eq_iff otherKnown known

theorem ranked_renamed :
    (diagram.renamed rename).ranked = diagram.ranked.map (RankedClass.renamed rename) := by
  have entries : (diagram.renamed rename).classes.map
        (fun node => RankedClass.mk node ((diagram.renamed rename).connections node.name)) =
      (diagram.classes.map fun node => ⟨node, diagram.connections node.name⟩).map
        (RankedClass.renamed rename) := by
    rw [Diagram.renamed, List.map_map, List.map_map]
    apply List.map_congr_left
    intro node listed
    have same := connections_renamed apart (class_name_mem listed)
    exact congrArg (RankedClass.mk (node.renamed rename)) same
  rw [Diagram.ranked, Diagram.ranked, entries]
  -- Sorting compares connections only, and these are kept.
  symm
  apply List.map_mergeSort
  intro first _ second _
  rfl

omit apart in
/-- Places and sizes do not depend on names. -/
theorem place_renamed (geometry : Geometry) (ranked : List RankedClass) :
    geometry.place (ranked.map (RankedClass.renamed rename)) =
      (geometry.place ranked).map (ClassBox.renamed rename) := by
  rw [Geometry.place, Geometry.place, List.length_map]
  apply List.ext_getElem
  · simp
  · intro index inRanked inPlaced
    simp only [List.getElem_mapIdx, List.getElem_map]
    rfl

/-! ## Routes -/

omit apart in
theorem placed_name_mem (geometry : Geometry) (placed : box ∈ geometry.place diagram.ranked) :
    box.name ∈ diagram.names := by
  have listed : box.name ∈ (geometry.place diagram.ranked).map (·.name) :=
    List.mem_map_of_mem placed
  rw [← place_names, List.mem_map] at listed
  obtain ⟨node, ordered, same⟩ := listed
  rw [← same]
  exact class_name_mem ((mem_order diagram node).mp ordered)

theorem find_renamed (known : name ∈ diagram.names)
    (boxed : ∀ box ∈ boxes, ClassBox.name box ∈ diagram.names) :
    findBox? (boxes.map (ClassBox.renamed rename)) (rename name) =
      (findBox? boxes name).map (ClassBox.renamed rename) := by
  induction boxes with
  | nil => rfl
  | cons box boxes ih =>
    have same : rename box.name = rename name ↔ box.name = name :=
      apart.eq_iff (boxed box List.mem_cons_self) known
    have later := ih fun other listed => boxed other (List.mem_cons_of_mem _ listed)
    rw [findBox?] at later
    rw [findBox?, findBox?, List.map_cons, List.find?_cons, List.find?_cons]
    by_cases found : box.name = name
    · simp [ClassBox.renamed, found]
    · simp only [ClassBox.renamed, same, found, decide_false]
      exact later

theorem route_renamed (geometry : Geometry) (listed : relationship ∈ diagram.relationships) :
    route? ((geometry.place diagram.ranked).map (ClassBox.renamed rename))
        (relationship.renamed rename) =
      (route? (geometry.place diagram.ranked) relationship).map (Route.renamed rename) := by
  have boxed : ∀ box ∈ geometry.place diagram.ranked, box.name ∈ diagram.names :=
    fun box placed => placed_name_mem geometry placed
  have sourceKnown : relationship.source ∈ diagram.names :=
    endpoint_mem listed (by simp [Relationship.endpoints])
  have targetKnown : relationship.target ∈ diagram.names :=
    endpoint_mem listed (by simp [Relationship.endpoints])
  have source := find_renamed apart sourceKnown boxed
  have target := find_renamed apart targetKnown boxed
  rw [route?, route?, Relationship.renamed, source, target]
  cases findBox? (geometry.place diagram.ranked) relationship.source with
  | none => rfl
  | some start =>
    cases findBox? (geometry.place diagram.ranked) relationship.target with
    | none => rfl
    | some finish => rfl

/-! ## Layouts -/

theorem arrange_renamed (geometry : Geometry) :
    geometry.arrange (diagram.renamed rename) = (geometry.arrange diagram).renamed rename := by
  have boxes : geometry.place (diagram.renamed rename).ranked =
      (geometry.place diagram.ranked).map (ClassBox.renamed rename) := by
    rw [ranked_renamed apart, place_renamed]
  have routes : (diagram.renamed rename).relationships.filterMap
        (route? (geometry.place (diagram.renamed rename).ranked)) =
      (diagram.relationships.filterMap (route? (geometry.place diagram.ranked))).map
        (Route.renamed rename) := by
    rw [boxes, Diagram.renamed, List.filterMap_map, List.map_filterMap]
    apply List.filterMap_congr
    intro relationship listed
    exact route_renamed apart geometry listed
  rw [Geometry.arrange, Geometry.arrange, Layout.renamed, routes, boxes]

/-- A renamed diagram is refused alike, and otherwise laid out alike. -/
theorem layout_renamed (geometry : Geometry) :
    geometry.layout (diagram.renamed rename) =
      (geometry.layout diagram).map (Layout.renamed rename) := by
  rw [Geometry.layout, Geometry.layout, arrange_renamed apart]
  cases geometry.refusal? <;> rfl

/-! ## Reports -/

omit apart in
/-- The kinds of the reports on a diagram. -/
theorem validate_kinds (diagram : Diagram) :
    diagram.validate.map (·.kind) =
      (repeatedNames [] (diagram.classes.map (·.name))).map (fun _ => .duplicateClass) ++
        diagram.relationships.flatMap fun relationship =>
          (diagram.undefinedEndpoints relationship).map fun _ => .undefinedClass := by
  rw [Diagram.validate, List.map_append, List.map_map, List.map_flatMap]
  simp only [List.map_map]
  rfl

theorem repeated_names_renamed (seen names : List String)
    (seenKnown : ∀ name ∈ seen, name ∈ diagram.names)
    (known : ∀ name ∈ names, name ∈ diagram.names) :
    repeatedNames (seen.map rename) (names.map rename) = (repeatedNames seen names).map rename := by
  induction names generalizing seen with
  | nil => rfl
  | cons name names ih =>
    have first : name ∈ diagram.names := known name List.mem_cons_self
    have others : ∀ other ∈ names, other ∈ diagram.names :=
      fun other later => known other (List.mem_cons_of_mem _ later)
    have taken : (seen.map rename).contains (rename name) = seen.contains name := by
      rw [Bool.eq_iff_iff, List.contains_iff_mem, List.contains_iff_mem, List.mem_map]
      constructor
      · rintro ⟨other, listed, same⟩
        exact apart (seenKnown other listed) first same ▸ listed
      · exact fun listed => ⟨name, listed, rfl⟩
    rw [List.map_cons, repeatedNames, repeatedNames, taken]
    split
    case isTrue => rw [ih seen seenKnown others, List.map_cons]
    case isFalse =>
      rw [← List.map_cons, ih (name :: seen) _ others]
      simpa using ⟨first, seenKnown⟩

theorem declares_renamed (known : name ∈ diagram.names) :
    (diagram.renamed rename).declares (rename name) = diagram.declares name := by
  rw [Diagram.declares, Diagram.declares, Diagram.renamed, List.any_map, Bool.eq_iff_iff,
    List.any_eq_true, List.any_eq_true]
  apply exists_congr
  intro node
  apply and_congr_right
  intro listed
  rw [Function.comp_apply, decide_eq_true_eq, decide_eq_true_eq]
  exact apart.eq_iff (class_name_mem listed) known

theorem undefined_endpoints_renamed (listed : relationship ∈ diagram.relationships) :
    (diagram.renamed rename).undefinedEndpoints (relationship.renamed rename) =
      (diagram.undefinedEndpoints relationship).map rename := by
  have ends : (relationship.renamed rename).endpoints = relationship.endpoints.map rename := rfl
  rw [Diagram.undefinedEndpoints, Diagram.undefinedEndpoints, ends, List.filter_map]
  congr 1
  apply List.filter_congr
  intro name isEnd
  simp only [Function.comp_apply, declares_renamed apart (endpoint_mem listed isEnd)]

theorem validate_kinds_renamed :
    (diagram.renamed rename).validate.map (·.kind) = diagram.validate.map (·.kind) := by
  have names : (diagram.renamed rename).classes.map (·.name) =
      (diagram.classes.map (·.name)).map rename := by
    rw [Diagram.renamed, List.map_map, List.map_map]
    rfl
  have repeated := repeated_names_renamed apart [] (diagram.classes.map (·.name)) (by simp)
    fun name listed => List.mem_append_left _ listed
  have undefined : ∀ relationship ∈ diagram.relationships,
      ((diagram.renamed rename).undefinedEndpoints (relationship.renamed rename)).map
          (fun _ => ProblemKind.undefinedClass) =
        (diagram.undefinedEndpoints relationship).map fun _ => .undefinedClass := by
    intro relationship listed
    rw [undefined_endpoints_renamed apart listed, List.map_map]
    rfl
  rw [validate_kinds, validate_kinds, names, ← List.map_nil, repeated, List.map_map]
  congr 1
  rw [Diagram.renamed, List.flatMap_map]
  exact List.flatMap_congr undefined

end Apart

/-! ## What a renaming carries over -/

/-- The layout of the renamed diagram is the renamed layout, or the same refusal, in whatever order
the connections of either diagram are kept; the reports are of the same kinds in the same order. -/
structure CarriesOver (rename : String → String) (geometry : Geometry) (diagram : Diagram) :
    Prop where
  layout : geometry.layout (diagram.renamed rename) =
    (geometry.layout diagram).map (Layout.renamed rename)
  tables : ∀ table other, diagram.HasTable table → (diagram.renamed rename).HasTable other →
    geometry.layoutBy other (diagram.renamed rename) =
      (geometry.layoutBy table diagram).map (Layout.renamed rename)
  reports : (diagram.renamed rename).validate.map (·.kind) = diagram.validate.map (·.kind)

/-- Names matter to layout and validation only in so far as they are different. -/
theorem names_are_opaque (geometry : Geometry) (apart : KeepsApart rename diagram.names) :
    CarriesOver rename geometry diagram where
  layout := layout_renamed apart geometry
  tables table other has hasRenamed := by
    rw [layout_by_table geometry has, layout_by_table geometry hasRenamed]
    exact layout_renamed apart geometry
  reports := validate_kinds_renamed apart

/-- Two names with equally many connections, one of them declared twice, and a third one that is
not declared. -/
def tiedDiagram : Diagram where
  title := none
  classes := [.empty "First", .empty "Second", .empty "Second"]
  relationships :=
    [⟨"First", "Second", .association, "to"⟩, ⟨"Second", "Ghost", .link, ""⟩,
      ⟨"First", "Ghost", .inheritance, ""⟩]

/-- A renaming that turns the order of the names around, and is not injective on all texts. -/
def turnedAround (name : String) : String :=
  if name = "First" then "Second" else if name = "Second" then "First" else "Any"

/-- All classes are tied, so they stay in the order of their declaration, and they keep their places
although their names change order. -/
theorem tied_classes_keep_their_places :
    KeepsApart turnedAround tiedDiagram.names ∧
      CarriesOver turnedAround .standard tiedDiagram ∧
      (tiedDiagram.renamed turnedAround).classes.map (·.name) = ["Second", "First", "First"] ∧
      (∃ layout, Geometry.standard.layout tiedDiagram = .ok layout ∧
        layout.boxes.map (fun box => (box.name, box.connections)) =
          [("First", 2), ("Second", 2), ("Second", 2)] ∧
        Geometry.standard.layout (tiedDiagram.renamed turnedAround) =
          .ok (layout.renamed turnedAround) ∧
        (layout.renamed turnedAround).boxes.map (fun box => (box.name, box.connections)) =
          [("Second", 2), ("First", 2), ("First", 2)]) ∧
      (tiedDiagram.renamed turnedAround).validate.map (·.kind) =
        [.duplicateClass, .undefinedClass, .undefinedClass] := by
  have apart : KeepsApart turnedAround tiedDiagram.names := by
    have each : ∀ first ∈ tiedDiagram.names, ∀ second ∈ tiedDiagram.names,
        turnedAround first = turnedAround second → first = second := by decide
    exact fun first known second alsoKnown => each first known second alsoKnown
  have carries := names_are_opaque .standard apart
  have laidOut : Geometry.standard.layout tiedDiagram =
      .ok (Geometry.standard.arrange tiedDiagram) := rfl
  have ranked : tiedDiagram.ranked =
      [⟨.empty "First", 2⟩, ⟨.empty "Second", 2⟩, ⟨.empty "Second", 2⟩] := by
    simp [Diagram.ranked, tiedDiagram, List.mergeSort, Diagram.connections, Diagram.endpoints,
      Relationship.endpoints, ClassNode.empty]
  have stands : (Geometry.standard.arrange tiedDiagram).boxes =
      Geometry.standard.place
        [⟨.empty "First", 2⟩, ⟨.empty "Second", 2⟩, ⟨.empty "Second", 2⟩] :=
    congrArg Geometry.standard.place ranked
  refine ⟨apart, carries, by decide, ⟨_, laidOut, ?_, ?_, ?_⟩, by decide⟩
  · rw [stands]
    rfl
  · rw [carries.layout, laidOut]
    rfl
  · rw [Layout.renamed, stands]
    rfl

end ClassChart
