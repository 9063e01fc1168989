import ClassChart.Proofs.Showing
import ClassChart.Proofs.Verdicts

/-! Which relationships exist. Validation keeps the declared names while it goes through the
classes, and layout looks for boxes among the placed classes; both come to the same answer. The
relationships that are routed are those for which validation reports no undefined class, in
order, and of a diagram without reports nothing is left out: every relationship is routed between
the only boxes of its names. -/
namespace ClassChart

variable {diagram : Diagram} {geometry : Geometry}

/-! ## Reports on single relationships -/

/-- The diagram with no relationship other than this one. -/
def Diagram.only (diagram : Diagram) (relationship : Relationship) : Diagram :=
  { diagram with relationships := [relationship] }

/-- The reports of validation on undefined classes. -/
def Diagram.undefinedReports (diagram : Diagram) : List Diagnostic :=
  diagram.validate.filter (·.kind = .undefinedClass)

theorem undefined_reports_eq (diagram : Diagram) :
    diagram.undefinedReports = diagram.relationships.flatMap fun relationship =>
      (diagram.undefinedEndpoints relationship).map (.undefinedClass relationship) := by
  have repeated (names : List String) :
      (names.map Diagnostic.duplicateClass).filter (·.kind = .undefinedClass) = [] := by
    simp [Diagnostic.duplicateClass]
  rw [Diagram.undefinedReports, Diagram.validate, List.filter_append, repeated, List.nil_append,
    List.filter_eq_self]
  intro report member
  obtain ⟨relationship, -, dangling⟩ := List.mem_flatMap.mp member
  obtain ⟨name, -, rfl⟩ := List.mem_map.mp dangling
  rfl

theorem undefined_reports_only (diagram : Diagram) (relationship : Relationship) :
    (diagram.only relationship).undefinedReports =
      (diagram.undefinedEndpoints relationship).map (.undefinedClass relationship) := by
  rw [undefined_reports_eq, Diagram.only, List.flatMap_singleton]
  rfl

/-- The reports on a diagram are those on its relationships one by one. -/
theorem undefined_reports_each (diagram : Diagram) :
    diagram.undefinedReports = diagram.relationships.flatMap fun relationship =>
      (diagram.only relationship).undefinedReports := by
  simp only [undefined_reports_eq diagram, undefined_reports_only]

/-- Validation reports no undefined class for this relationship. -/
def Diagram.passes (diagram : Diagram) (relationship : Relationship) : Bool :=
  (diagram.only relationship).undefinedReports.isEmpty

/-- A relationship passes when both its endpoints are declared. -/
theorem passes_eq_connects (diagram : Diagram) (relationship : Relationship) :
    diagram.passes relationship = diagram.connects relationship := by
  rw [Diagram.passes, undefined_reports_only, List.isEmpty_map, Diagram.undefinedEndpoints,
    Relationship.endpoints, Diagram.connects]
  cases source : diagram.declares relationship.source <;>
    cases target : diagram.declares relationship.target <;>
    simp [source, target]

/-! ## Diagrams without reports -/

theorem repeated_names_nil_iff (seen names : List String) :
    repeatedNames seen names = [] ↔ names.Nodup ∧ ∀ name ∈ names, name ∉ seen := by
  induction names generalizing seen with
  | nil => simp [repeatedNames]
  | cons name names ih =>
    rw [repeatedNames]
    split
    case isTrue taken =>
      have listed : name ∈ seen := by simpa using taken
      simp [listed]
    case isFalse free =>
      have fresh : name ∉ seen := by simpa using free
      rw [ih, List.nodup_cons]
      constructor
      · rintro ⟨distinct, others⟩
        refine ⟨⟨fun again => others name again List.mem_cons_self, distinct⟩, ?_⟩
        intro other member
        rcases List.mem_cons.mp member with rfl | later
        · exact fresh
        · exact fun listed => others other later (List.mem_cons_of_mem _ listed)
      · rintro ⟨⟨once, distinct⟩, others⟩
        refine ⟨distinct, fun other later listed => ?_⟩
        rcases List.mem_cons.mp listed with rfl | listed
        · exact once later
        · exact others other (List.mem_cons_of_mem _ later) listed

/-- Nothing is reported when the names of the classes are distinct and every relationship passes. -/
theorem validate_nil_iff (diagram : Diagram) :
    diagram.validate = [] ↔ (diagram.classes.map (·.name)).Nodup ∧
      ∀ relationship ∈ diagram.relationships, diagram.passes relationship = true := by
  have repeated := repeated_names_nil_iff [] (diagram.classes.map (·.name))
  simp only [List.not_mem_nil, not_false_eq_true, implies_true, and_true] at repeated
  rw [Diagram.validate, List.append_eq_nil_iff, List.map_eq_nil_iff, repeated,
    List.flatMap_eq_nil_iff]
  simp only [Diagram.passes, undefined_reports_only, List.isEmpty_iff]

/-! ## Entries with distinct names -/

theorem filter_of_distinct {entries : List α} {key : α → String}
    (distinct : (entries.map key).Nodup) (listed : entry ∈ entries) :
    entries.filter (fun other => key other = key entry) = [entry] := by
  induction entries with
  | nil => cases listed
  | cons first entries ih =>
    rw [List.map_cons, List.nodup_cons] at distinct
    obtain ⟨once, distinct⟩ := distinct
    rcases List.mem_cons.mp listed with rfl | later
    · rw [List.filter_cons_of_pos (by simp), List.filter_eq_nil_iff.mpr]
      intro other member
      simpa using fun same => once (List.mem_map.mpr ⟨other, member, same⟩)
    · have other : key first ≠ key entry := fun same =>
        once (List.mem_map.mpr ⟨entry, later, same.symm⟩)
      rw [List.filter_cons_of_neg (by simpa using other), ih distinct later]

/-- A name stands for one class and for the box of that class, and the layout finds the box. -/
structure Resolves (geometry : Geometry) (diagram : Diagram) (layout : Layout) (name : String)
    (node : ClassNode) (box : ClassBox) : Prop where
  declared : diagram.classes.filter (·.name = name) = [node]
  placed : layout.boxes.filter (·.name = name) = [box]
  found : layout.box? name = some box
  houses : Houses geometry node box

theorem arranged_houses (geometry : Geometry) (diagram : Diagram) :
    List.Forall₂ (Houses geometry) diagram.order (geometry.arrange diagram).boxes :=
  place_houses geometry diagram

/-- The box of a class is the only one of its name where the names of the classes are distinct. -/
theorem class_resolves (geometry : Geometry) (distinct : (diagram.classes.map (·.name)).Nodup)
    (listed : node ∈ diagram.classes) :
    ∃ box, Resolves geometry diagram (geometry.arrange diagram) node.name node box := by
  have declared := filter_of_distinct distinct listed
  have ordered : diagram.order.filter (·.name = node.name) = [node] := by
    have same := (order_by_connections diagram).complete.filter (·.name = node.name)
    rw [declared] at same
    exact List.perm_singleton.mp same
  -- Boxes stand against classes one by one, so one class of the name means one box of it.
  have named : Relator.LiftFun (Houses geometry) Iff
      (fun other => decide (other.name = node.name) = true)
      (fun box => decide (box.name = node.name) = true) := by
    intro other box houses
    simp only [houses.name]
  have boxed := List.rel_filter named (arranged_houses geometry diagram)
  rw [ordered] at boxed
  cases placed : (geometry.arrange diagram).boxes.filter (·.name = node.name) with
  | nil => rw [placed] at boxed; cases boxed
  | cons box others =>
    rw [placed] at boxed
    obtain ⟨houses, alone⟩ := List.forall₂_cons.mp boxed
    obtain rfl := List.forall₂_nil_left_iff.mp alone
    refine ⟨box, declared, placed, ?_, houses⟩
    rw [Layout.box?, findBox?, ← List.head?_filter, placed]
    rfl

/-! ## Layouts of diagrams without reports -/

/-- A layout that leaves out nothing of its diagram, and in which an endpoint has one meaning. -/
structure Whole (geometry : Geometry) (diagram : Diagram) (layout : Layout) : Prop where
  routes : List.Forall₂ Runs diagram.relationships layout.routes
  boxes : ∃ order, order.Perm diagram.classes ∧ List.Forall₂ (Houses geometry) order layout.boxes
  distinct : (layout.boxes.map (·.name)).Nodup
  endpoints : ∀ name ∈ diagram.endpoints,
    ∃ node box, Resolves geometry diagram layout name node box

theorem arranged_routes (geometry : Geometry) (diagram : Diagram) :
    List.Forall₂ Runs (diagram.relationships.filter diagram.passes)
      (geometry.arrange diagram).routes := by
  rw [funext (passes_eq_connects diagram)]
  exact routes_run geometry diagram diagram.relationships

theorem endpoint_declared (passing : ∀ relationship ∈ diagram.relationships,
    diagram.passes relationship = true) (used : name ∈ diagram.endpoints) :
    ∃ node ∈ diagram.classes, node.name = name := by
  obtain ⟨relationship, listed, isEnd⟩ := List.mem_flatMap.mp used
  have connects := passing relationship listed
  rw [passes_eq_connects, Diagram.connects, Bool.and_eq_true] at connects
  have declared : diagram.declares name = true := by
    rcases List.mem_pair.mp isEnd with rfl | rfl
    · exact connects.1
    · exact connects.2
  simpa [Diagram.declares] using declared

theorem arranged_whole (geometry : Geometry) (accepted : diagram.validate = []) :
    Whole geometry diagram (geometry.arrange diagram) := by
  obtain ⟨distinct, passing⟩ := (validate_nil_iff diagram).mp accepted
  constructor
  · have routed := arranged_routes geometry diagram
    rwa [List.filter_eq_self.mpr passing] at routed
  · exact ⟨diagram.order, (order_by_connections diagram).complete, arranged_houses geometry diagram⟩
  · have names : diagram.order.map (·.name) = (geometry.arrange diagram).boxes.map (·.name) :=
      place_names geometry diagram
    rw [← names]
    exact ((order_by_connections diagram).complete.map _).nodup_iff.mpr distinct
  · intro name used
    obtain ⟨node, listed, rfl⟩ := endpoint_declared passing used
    exact ⟨node, class_resolves geometry distinct listed⟩

/-! ## Agreement -/

/-- What is routed follows the reports of validation: one relationship after the other has its own
reports, and a route when it has none. -/
structure FollowsValidation (geometry : Geometry) (diagram : Diagram) (layout : Layout) : Prop where
  reports : diagram.undefinedReports = diagram.relationships.flatMap fun relationship =>
    (diagram.only relationship).undefinedReports
  routes : List.Forall₂ Runs (diagram.relationships.filter diagram.passes) layout.routes
  whole : diagram.validate = [] → Whole geometry diagram layout

/-- A drawing of the whole diagram, with a group for every relationship. -/
structure DrawnWhole (geometry : Geometry) (diagram : Diagram) (layout : Layout)
    (svg : Option String) : Prop where
  whole : Whole geometry diagram layout
  groups : ∃ others edges,
    (geometry.document diagram.title layout).children = others ++ edges ∧
      List.Forall₂ ShowsRelationship diagram.relationships edges
  printed : svg = some (geometry.document diagram.title layout).print

theorem arranged_drawn (geometry : Geometry) (accepted : diagram.validate = []) :
    DrawnWhole geometry diagram (geometry.arrange diagram)
      (some (geometry.document diagram.title (geometry.arrange diagram)).print) where
  whole := arranged_whole geometry accepted
  groups := by
    refine ⟨_, _, rfl, ?_⟩
    rw [List.forall₂_map_right_iff]
    exact (arranged_whole geometry accepted).routes.imp fun _ _ runs => routeGroup_shows runs
  printed := rfl

theorem render_prints (drawn : geometry.render diagram = .ok svg) :
    geometry.layout diagram = .ok (geometry.arrange diagram) ∧
      svg = (geometry.document diagram.title (geometry.arrange diagram)).print := by
  rw [Geometry.render] at drawn
  cases laidOut : geometry.layout diagram with
  | error refusal =>
    rw [laidOut] at drawn
    cases drawn
  | ok layout =>
    rw [laidOut] at drawn
    obtain rfl := layout_arranges laidOut
    exact ⟨rfl, (Except.ok.inj drawn).symm⟩

/-- Validation and layout agree on the relationships of a diagram: whatever is laid out has routes
for those without reports, in order, and all of a diagram that has no reports. So the drawing of a
strict run skips no relationship. -/
theorem routes_follow_validation :
    (∀ geometry diagram layout, Geometry.layout geometry diagram = .ok layout →
        FollowsValidation geometry diagram layout) ∧
      ∀ geometry source compilation, process geometry true source = .ok compilation →
        ∃ layout, geometry.layout compilation.diagram = .ok layout ∧
          DrawnWhole geometry compilation.diagram layout compilation.svg := by
  constructor
  · intro geometry diagram layout laidOut
    obtain rfl := layout_arranges laidOut
    exact
      ⟨undefined_reports_each diagram, arranged_routes geometry diagram, arranged_whole geometry⟩
  · intro geometry source compilation accepted
    have ends := process_ends geometry true source
    rw [accepted] at ends
    cases ends with
    | drawn read accepts drawn =>
      obtain ⟨laidOut, rfl⟩ := render_prints drawn
      exact ⟨_, laidOut, arranged_drawn geometry (strict_accepts accepts)⟩

/-- A source in which every endpoint is declared, one of them after its use. -/
def connectedSource : String := "@startuml\nclass A\nB <|-- A : is\nclass B\nB -- B\n@enduml"

def connectedParsed : Parsed where
  diagram := ⟨none, [.empty "A", .empty "B"],
    [⟨"B", "A", .inheritance, "is"⟩, ⟨"B", "B", .link, ""⟩]⟩
  diagnostics := []

/-- Only the relationship with an undeclared end is left out, also where a name is declared twice; a
strict run draws all relationships. -/
theorem dangling_relationship_is_left_out :
    (∃ layout, Geometry.standard.layout overlappingDiagram = .ok layout ∧
      FollowsValidation .standard overlappingDiagram layout ∧
      overlappingDiagram.relationships.filter overlappingDiagram.passes =
        [⟨"Hub", "Hub", .link, "self"⟩, ⟨"Hub", "Leaf", .realization, ""⟩]) ∧
    ∃ compilation layout, process .standard true connectedSource = .ok compilation ∧
      Geometry.standard.layout compilation.diagram = .ok layout ∧
      DrawnWhole .standard compilation.diagram layout compilation.svg ∧
      compilation.diagram = connectedParsed.diagram := by
  have read : parse (scan connectedSource).tokens = .ok connectedParsed := by decide +kernel
  have accepts : ¬ Rejects true connectedParsed.diagram := by
    unfold Rejects
    decide +kernel
  obtain ⟨svg, -, processed⟩ := process_draws read accepts standard_is_sound
  obtain ⟨layout, laidOut, whole⟩ := routes_follow_validation.2 _ _ _ processed
  refine ⟨⟨_, rfl, routes_follow_validation.1 _ _ _ rfl, by decide⟩, ?_⟩
  exact ⟨_, layout, processed, laidOut, whole, rfl⟩

end ClassChart
