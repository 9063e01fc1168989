import ClassChart.Proofs.Placement

/-! Diagrams of the same classes whose relationships stand in another order or run the other way.
Placing counts the ends of relationships under each name and looks at nothing else of them, so the
boxes stay where they are. Routing goes from one relationship to the next without remembering
anything, so relationships that change places take their routes along. -/
namespace ClassChart

variable {diagram other : Diagram} {geometry : Geometry} {layout : Layout}

/-- A relationship between the same two names, in either direction and of any kind. -/
inductive Redrawn : Relationship → Relationship → Prop where
  | along (source target : String) : Redrawn ⟨source, target, kind, label⟩
      ⟨source, target, otherKind, otherLabel⟩
  | against (source target : String) : Redrawn ⟨source, target, kind, label⟩
      ⟨target, source, otherKind, otherLabel⟩

/-- The same classes, and the relationships in any order, each of them drawn anew. -/
structure Rearranges (diagram other : Diagram) : Prop where
  classes : other.classes = diagram.classes
  relationships : ∃ permuted, permuted.Perm diagram.relationships ∧
    List.Forall₂ Redrawn permuted other.relationships

/-! ## Placing -/

theorem redrawn_endpoints (redrawn : Redrawn relationship another) :
    another.endpoints.Perm relationship.endpoints := by
  cases redrawn with
  | along => exact .refl _
  | against => exact .swap _ _ _

theorem redrawn_all_endpoints (redrawn : List.Forall₂ Redrawn relationships others) :
    (others.flatMap Relationship.endpoints).Perm
      (relationships.flatMap Relationship.endpoints) := by
  induction redrawn with
  | nil => exact .nil
  | cons first _ ih =>
    rw [List.flatMap_cons, List.flatMap_cons]
    exact (redrawn_endpoints first).append ih

/-- The ends of the relationships are the same, each as often. -/
theorem rearranged_endpoints (rearranged : Rearranges diagram other) :
    other.endpoints.Perm diagram.endpoints := by
  obtain ⟨permuted, same, redrawn⟩ := rearranged.relationships
  exact (redrawn_all_endpoints redrawn).trans (same.flatMap_right _)

theorem rearranged_connections (rearranged : Rearranges diagram other) (name : String) :
    other.connections name = diagram.connections name :=
  (rearranged_endpoints rearranged).count_eq name

theorem rearranged_ranked (rearranged : Rearranges diagram other) :
    other.ranked = diagram.ranked := by
  simp only [Diagram.ranked, rearranged.classes, rearranged_connections rearranged]

theorem rearranged_boxes (rearranged : Rearranges diagram other) :
    (geometry.arrange other).boxes = (geometry.arrange diagram).boxes :=
  congrArg geometry.place (rearranged_ranked rearranged)

/-! ## Routing -/

/-- One answer for each relationship: a route along it, or none where an end is not declared. -/
structure RoutesEach (diagram : Diagram)
    (routed : Fin diagram.relationships.length → Option Route) : Prop where
  drawn : ∀ number, (routed number).isSome = diagram.connects diagram.relationships[number]
  runs : ∀ number, ∀ route ∈ routed number, Runs diagram.relationships[number] route

theorem route_each (geometry : Geometry) (diagram : Diagram) :
    RoutesEach diagram fun number =>
      route? (geometry.place diagram.ranked) diagram.relationships[number] where
  drawn _ := isSome_route geometry diagram _
  runs _ _ routed := route_runs routed

/-! ## Layouts -/

/-- The classes are placed alike; relationships that have only changed places have the routes that
they had, those without a route left out as before. -/
structure LaidOutAlike (diagram other : Diagram) (layout another : Layout) : Prop where
  boxes : another.boxes = layout.boxes
  routes : ∀ order : List (Fin diagram.relationships.length),
    order.Perm (List.finRange diagram.relationships.length) →
    other.relationships = order.map (fun number => diagram.relationships[number]) →
    ∃ routed, RoutesEach diagram routed ∧
      layout.routes = (List.finRange diagram.relationships.length).filterMap routed ∧
      another.routes = order.filterMap routed

theorem arranged_alike (geometry : Geometry) (rearranged : Rearranges diagram other) :
    LaidOutAlike diagram other (geometry.arrange diagram) (geometry.arrange other) where
  boxes := rearranged_boxes rearranged
  routes := by
    intro order _ same
    have all : (List.finRange diagram.relationships.length).map
        (fun number => diagram.relationships[number]) = diagram.relationships :=
      List.map_getElem_finRange diagram.relationships
    refine ⟨_, route_each geometry diagram, ?_, ?_⟩
    · rw [← Function.comp_def (route? _), ← List.filterMap_map, all]
      rfl
    · rw [← Function.comp_def (route? _), ← List.filterMap_map, ← same,
        ← rearranged_ranked rearranged]
      rfl

/-- Of the relationships, placing sees how often each name is an end, in whatever order the counts
are kept; routing sees each relationship alone. -/
theorem arrangement_is_immaterial (laidOut : geometry.layout diagram = .ok layout)
    (rearranged : Rearranges diagram other) :
    ∃ another, geometry.layout other = .ok another ∧ LaidOutAlike diagram other layout another ∧
      ∀ table, other.HasTable table → geometry.layoutBy table other = .ok another := by
  obtain rfl := layout_arranges laidOut
  have another := layout_of_laid_out laidOut other
  refine ⟨_, another, arranged_alike geometry rearranged, fun table has => ?_⟩
  rw [layout_by_table geometry has, another]

/-- The diagram with its relationships in the order of these numbers. -/
def Diagram.reordered (diagram : Diagram) (order : List (Fin diagram.relationships.length)) :
    Diagram :=
  { diagram with relationships := order.map fun number => diagram.relationships[number] }

/-- The rivals with all relationships of other kinds, the last one first and two turned around. -/
def turnedDiagram : Diagram where
  title := some "Turned"
  classes := rivalDiagram.classes
  relationships :=
    [⟨"First", "Hub", .aggregation, "up"⟩, ⟨"Hub", "Hub", .composition, ""⟩,
      ⟨"Ghost", "Second", .link, ""⟩]

/-- The numbers of the relationships between the rivals, the last one first. -/
def lastFirst : List (Fin rivalDiagram.relationships.length) :=
  ([2, 0, 1] : List (Fin 3))

/-- The rivals keep their places when their relationships are turned around, and the routes keep
their ends when the relationships only change places; the one without a route stays without. -/
theorem rivals_are_laid_out_alike :
    (Rearranges rivalDiagram turnedDiagram ∧ ∃ layout another,
      Geometry.standard.layout rivalDiagram = .ok layout ∧
        Geometry.standard.layout turnedDiagram = .ok another ∧ another.boxes = layout.boxes) ∧
    ∃ layout another routed, Geometry.standard.layout rivalDiagram = .ok layout ∧
      Geometry.standard.layout (rivalDiagram.reordered lastFirst) = .ok another ∧
      RoutesEach rivalDiagram routed ∧ (routed (1 : Fin 3)).isSome = false ∧
      layout.routes = (List.finRange _).filterMap routed ∧
      another.routes = lastFirst.filterMap routed := by
  have turned : Rearranges rivalDiagram turnedDiagram := by
    refine ⟨rfl, [⟨"Hub", "First", .inheritance, ""⟩, ⟨"Hub", "Hub", .link, ""⟩,
      ⟨"Second", "Ghost", .association, "to"⟩], by decide, ?_⟩
    exact .cons (.against _ _) (.cons (.along _ _) (.cons (.against _ _) .nil))
  have reordered : Rearranges rivalDiagram (rivalDiagram.reordered lastFirst) := by
    refine ⟨rfl, (rivalDiagram.reordered lastFirst).relationships, by decide, ?_⟩
    exact .cons (.along _ _) (.cons (.along _ _) (.cons (.along _ _) .nil))
  have laidOut : Geometry.standard.layout rivalDiagram =
      .ok (Geometry.standard.arrange rivalDiagram) := rfl
  constructor
  · obtain ⟨another, again, alike, -⟩ := arrangement_is_immaterial laidOut turned
    exact ⟨turned, _, another, laidOut, again, alike.boxes⟩
  · obtain ⟨another, again, alike, -⟩ := arrangement_is_immaterial laidOut reordered
    obtain ⟨routed, each, routes, others⟩ := alike.routes lastFirst (by decide) rfl
    exact ⟨_, another, routed, laidOut, again, each, each.drawn (1 : Fin 3), routes, others⟩

end ClassChart
