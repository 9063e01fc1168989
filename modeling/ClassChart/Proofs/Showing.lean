import ClassChart.Drawing
import ClassChart.Proofs.MarkupRoundTrip
import ClassChart.Proofs.Ranking

/-! What a drawing shows. Below the definitions and the styles stand the title, a group for every
class and a group for every relationship between declared classes, each of them once and in
order. The texts of a group are those of the class or the relationship it stands for, and a reader
of the drawing finds them as they were written in the diagram. -/
namespace ClassChart

open Markup (named textElement)
open MarkupReading (ProperlyNamed Readable Unmixed)

/-! ## Texts -/

/-- An element that holds this text and nothing else. -/
def WritesText (content : String) (element : Markup) : Prop :=
  ∃ attributes, element = textElement "text" attributes content

theorem texts_named (write : List.Forall₂ WritesText lines texts) :
    texts.flatMap (named "text") = texts := by
  induction write with
  | nil => rfl
  | cons writes _ ih =>
    obtain ⟨attributes, rfl⟩ := writes
    simp [textElement, ih]

theorem texts_named_other (write : List.Forall₂ WritesText lines texts) (other : tag ≠ "text") :
    texts.flatMap (named tag) = [] := by
  induction write with
  | nil => rfl
  | cons writes _ ih =>
    obtain ⟨attributes, rfl⟩ := writes
    simp [textElement, ih, other.symm]

/-! ## Groups of classes -/

/-- The lines that stand in the box of a class. -/
def ClassNode.lines (node : ClassNode) : List String :=
  node.name :: node.attributes.map Attribute.line ++ node.methods.map Method.line

/-- A group that stands for a class: its texts are the lines of the class, and a second line is
drawn above the methods. -/
structure ShowsClass (node : ClassNode) (group : Markup) : Prop where
  tag : group.tag? = some "g"
  style : group.attributes = [("class", "uml-class")]
  texts : List.Forall₂ WritesText node.lines (group.named "text")
  separators : (group.named "line").length = if node.methods = [] then 1 else 2

/-- There is a row for every member, and a separator above methods only. -/
structure RowsFit (rows : MemberRows α) (attributes methods : List β) : Prop where
  ofAttributes : rows.attributes.length = attributes.length
  ofMethods : rows.methods.length = methods.length
  separator : rows.separator.isSome = true ↔ methods ≠ []

theorem memberRows_fit [Add α] [Sub α] [OfNat α 5] [OfNat α 10] (top header line : α)
    (attributes methods : List β) :
    RowsFit (memberRows top header line attributes.length methods.length) attributes methods := by
  rw [memberRows]
  split
  case isTrue none =>
    rw [List.length_eq_zero_iff] at none
    constructor <;> simp [none]
  case isFalse some =>
    rw [List.length_eq_zero_iff] at some
    constructor <;> simp [some]

/-- What stands in the group of a box whose members are spaced by these rows. -/
def boxChildren (box : ClassBox) (header : Float32) (rows : MemberRows Float32) : List Markup :=
  [outline box "box" box.height, outline box "header" header, nameText box,
      separatorLine box (box.y + header)] ++
    List.zipWith (memberText box []) box.attributes rows.attributes ++
    (rows.separator.map (separatorLine box)).toList ++
    List.zipWith (memberText box italic) box.methods rows.methods

theorem boxGroup_eq (geometry : Geometry) (box : ClassBox) :
    ∃ header rows, RowsFit rows box.attributes box.methods ∧
      boxGroup geometry box = .element "g" [("class", "uml-class")] (boxChildren box header rows) :=
  ⟨_, _, memberRows_fit _ _ _ _ _, rfl⟩

theorem nameText_writes (box : ClassBox) : WritesText box.name (nameText box) :=
  ⟨_, rfl⟩

theorem memberTexts_write (box : ClassBox) (slant : List (String × String))
    (fits : rows.length = lines.length) :
    List.Forall₂ WritesText lines (List.zipWith (memberText box slant) lines rows) := by
  induction lines generalizing rows with
  | nil => exact .nil
  | cons line lines ih =>
    cases rows with
    | nil => cases fits
    | cons y rows => exact .cons ⟨_, rfl⟩ (ih (Nat.succ.inj fits))

section Children

variable {box : ClassBox} {rows : MemberRows Float32}

theorem boxChildren_texts_named (header : Float32) (fit : RowsFit rows box.attributes box.methods) :
    (boxChildren box header rows).flatMap (named "text") =
      nameText box :: (List.zipWith (memberText box []) box.attributes rows.attributes ++
        List.zipWith (memberText box italic) box.methods rows.methods) := by
  have attributes := texts_named (memberTexts_write box [] fit.ofAttributes)
  have methods := texts_named (memberTexts_write box italic fit.ofMethods)
  have separator : (rows.separator.map (separatorLine box)).toList.flatMap (named "text") = [] := by
    cases rows.separator <;> simp [separatorLine]
  rw [boxChildren, List.flatMap_append, List.flatMap_append, List.flatMap_append, attributes, methods,
    separator]
  simp [outline, nameText, textElement, separatorLine]

theorem boxChildren_lines_named (header : Float32) (fit : RowsFit rows box.attributes box.methods) :
    (boxChildren box header rows).flatMap (named "line") =
      separatorLine box (box.y + header) :: (rows.separator.map (separatorLine box)).toList := by
  have other : "line" ≠ "text" := by decide
  have attributes := texts_named_other (memberTexts_write box [] fit.ofAttributes) other
  have methods := texts_named_other (memberTexts_write box italic fit.ofMethods) other
  rw [boxChildren, List.flatMap_append, List.flatMap_append, List.flatMap_append, attributes, methods]
  cases rows.separator <;> simp [outline, nameText, textElement, separatorLine]

theorem boxChildren_texts (header : Float32) (fit : RowsFit rows box.attributes box.methods) :
    List.Forall₂ WritesText (box.name :: box.attributes ++ box.methods)
      ((boxChildren box header rows).flatMap (named "text")) := by
  rw [boxChildren_texts_named header fit]
  have attributes := memberTexts_write box [] fit.ofAttributes
  have methods := memberTexts_write box italic fit.ofMethods
  exact .cons (nameText_writes box) (List.rel_append attributes methods)

theorem boxChildren_separators (header : Float32) (fit : RowsFit rows box.attributes box.methods) :
    ((boxChildren box header rows).flatMap (named "line")).length =
      if box.methods = [] then 1 else 2 := by
  rw [boxChildren_lines_named header fit]
  have present := fit.separator
  cases above : rows.separator with
  | none =>
    rw [above] at present
    rw [if_pos (by simpa using present)]
    rfl
  | some y =>
    rw [above] at present
    rw [if_neg (by simpa using present)]
    rfl

end Children

theorem boxGroup_shows {geometry : Geometry} (houses : Houses geometry node box) :
    ShowsClass node (boxGroup geometry box) := by
  obtain ⟨header, rows, fit, same⟩ := boxGroup_eq geometry box
  rw [same]
  constructor
  · rfl
  · rfl
  · rw [ClassNode.lines, ← houses.name, ← houses.attributes, ← houses.methods]
    simpa using boxChildren_texts header fit
  · have separators := boxChildren_separators header fit
    simpa [houses.methods] using separators

/-! ## Groups of relationships -/

/-- The label of a relationship, unless it is empty. -/
def Relationship.labelTexts (relationship : Relationship) : List String :=
  if relationship.label = "" then [] else [relationship.label]

/-- A group that stands for a relationship: one line, and its label on a background if there is
one. -/
structure ShowsRelationship (relationship : Relationship) (group : Markup) : Prop where
  tag : group.tag? = some "g"
  style : group.attributes = [("class", s!"relationship {relationship.kind.label}")]
  texts : List.Forall₂ WritesText relationship.labelTexts (group.named "text")
  plain : relationship.label = "" → ∃ line, group.children = [line] ∧ line.tag? = some "line"
  labelled : relationship.label ≠ "" → ∃ line background text,
    group.children = [line, background, text] ∧ line.tag? = some "line" ∧
      background.tag? = some "rect" ∧ ("class", "label-bg") ∈ background.attributes ∧
      WritesText relationship.label text

theorem routeLabel_eq (route : Route) (label : String) : ∃ background text,
    routeLabel route label = [background, text] ∧ background.tag? = some "rect" ∧
      ("class", "label-bg") ∈ background.attributes ∧ WritesText label text :=
  ⟨_, _, rfl, rfl, .head _, _, rfl⟩

theorem routeGroup_shows (runs : Runs relationship route) :
    ShowsRelationship relationship (routeGroup route) := by
  have label := runs.label
  constructor
  · rfl
  · rw [← runs.kind]
    rfl
  · rw [Relationship.labelTexts]
    split
    case isTrue empty =>
      rw [if_pos empty] at label
      simp [routeGroup, label, routeLine]
    case isFalse nonempty =>
      rw [if_neg nonempty] at label
      simp [routeGroup, label, routeLine, routeLabel, textElement, WritesText]
  · intro empty
    rw [if_pos empty] at label
    exact ⟨routeLine route, by simp [routeGroup, label, Markup.children], rfl⟩
  · intro nonempty
    rw [if_neg nonempty] at label
    obtain ⟨background, text, same, shown⟩ := routeLabel_eq route relationship.label
    refine ⟨routeLine route, background, text, ?_, rfl, shown⟩
    rw [← same, routeGroup, label]
    rfl

/-! ## Elements of a drawing -/

/-- An element as drawings are made of: its names can be read, text is not mixed with elements, and
what it refers to at the end of a line is the marker of some kind. -/
structure Drawn (element : Markup) : Prop where
  readable : Readable element
  unmixed : Unmixed element
  ends : ∀ reference, ("marker-end", reference) ∈ element.attributes →
    ∃ kind marker, RelationshipKind.marker? kind = some marker ∧ reference = s!"url(#{marker})"

/-- Elements side by side that are drawn with everything in them. -/
structure AllDrawn (trees : List Markup) : Prop where
  elements : ∀ tree ∈ trees, tree.tag?.isSome
  every : Markup.Every Drawn trees

theorem all_drawn_nothing : AllDrawn [] :=
  ⟨by simp, Markup.every_nothing⟩

theorem all_drawn_append (first : AllDrawn trees) (second : AllDrawn others) :
    AllDrawn (trees ++ others) where
  elements tree listed :=
    (List.mem_append.mp listed).elim (first.elements tree) (second.elements tree)
  every := Markup.every_append first.every second.every

theorem all_drawn_cons (first : AllDrawn [tree]) (others : AllDrawn trees) :
    AllDrawn (tree :: trees) :=
  all_drawn_append first others

theorem all_drawn_each (each : ∀ tree ∈ trees, AllDrawn [tree]) : AllDrawn trees where
  elements tree listed := (each tree listed).elements tree (List.mem_singleton_self tree)
  every := Markup.every_each fun tree listed => (each tree listed).every

section Heads

variable {attributes : List (String × String)} (keys : List String)
  (same : attributes.map (·.1) = keys)

include same

theorem drawn_element (proper : ProperlyNamed name keys)
    (unmixed : Unmixed (.element name attributes children))
    (ends : ∀ reference, ("marker-end", reference) ∈ attributes →
      ∃ kind marker, RelationshipKind.marker? kind = some marker ∧ reference = s!"url(#{marker})")
    (parts : Markup.Every Drawn children) : AllDrawn [.element name attributes children] where
  elements := by simp
  every := by
    rw [Markup.every_element_iff]
    refine ⟨⟨?_, unmixed, ends⟩, parts⟩
    rintro _ _ _ ⟨rfl, rfl, rfl⟩
    rwa [same]

theorem no_reference (plain : "marker-end" ∉ keys) (reference : String) :
    ("marker-end", reference) ∉ attributes := by
  intro refers
  have listed : "marker-end" ∈ attributes.map (·.1) := List.mem_map_of_mem refers
  rw [same] at listed
  exact plain listed

/-- Without a reference of its own an element refers to what its parts refer to. -/
theorem drawn_group (parts : AllDrawn children)
    (plain : ProperlyNamed name keys ∧ "marker-end" ∉ keys := by decide) :
    AllDrawn [.element name attributes children] := by
  apply drawn_element keys same plain.1 (.inr parts.elements) _ parts.every
  intro reference refers
  exact absurd refers (no_reference keys same plain.2 reference)

theorem drawn_leaf (plain : ProperlyNamed name keys ∧ "marker-end" ∉ keys := by decide) :
    AllDrawn [.element name attributes []] :=
  drawn_group keys same all_drawn_nothing plain

theorem drawn_text (content : String)
    (plain : ProperlyNamed name keys ∧ "marker-end" ∉ keys := by decide) :
    AllDrawn [textElement name attributes content] := by
  apply drawn_element keys same plain.1 (.inl ⟨content, rfl⟩) _ (by simp [Markup.Every])
  intro reference refers
  exact absurd refers (no_reference keys same plain.2 reference)

end Heads

theorem drawn_marker (id : String) (width height : Nat) (reference : Nat × Nat)
    (path fill : String) : AllDrawn [markerElement id width height reference path fill] :=
  drawn_group ["id", "markerHeight", "markerWidth", "orient", "refX", "refY"] rfl
    (drawn_leaf ["d", "fill", "stroke"] rfl)

theorem drawn_definitions : AllDrawn [definitions, style] := by
  have drawnMarkers : AllDrawn markers := by
    apply all_drawn_each
    simp only [markers, List.forall_mem_cons]
    exact ⟨drawn_marker .., drawn_marker .., drawn_marker .., drawn_marker .., by simp⟩
  have drawnShadow : AllDrawn [shadow] :=
    drawn_group ["height", "id", "width", "x", "y"] rfl
      (all_drawn_cons (drawn_leaf ["dx", "dy", "in", "result"] rfl)
        (all_drawn_cons (drawn_leaf ["in", "result", "stdDeviation"] rfl)
          (drawn_leaf ["in", "in2", "mode"] rfl)))
  exact all_drawn_cons (drawn_group [] rfl (all_drawn_cons drawnShadow drawnMarkers))
    (drawn_text [] rfl stylesheet)

theorem drawn_separator (box : ClassBox) (y : Float32) : AllDrawn [separatorLine box y] :=
  drawn_leaf ["class", "x1", "x2", "y1", "y2"] rfl

theorem drawn_outline (box : ClassBox) (styleClass : String) (height : Float32) :
    AllDrawn [outline box styleClass height] :=
  drawn_leaf ["class", "height", "width", "x", "y"] rfl

theorem drawn_name (box : ClassBox) : AllDrawn [nameText box] := by
  rw [nameText]
  cases box.isAbstract with
  | true => exact drawn_text ["class", "font-style", "text-anchor", "x", "y"] rfl _
  | false => exact drawn_text ["class", "text-anchor", "x", "y"] rfl _

theorem drawn_members (box : ClassBox) (lines : List String) (rows : List Float32) :
    AllDrawn (List.zipWith (memberText box []) lines rows) ∧
      AllDrawn (List.zipWith (memberText box italic) lines rows) := by
  induction lines generalizing rows with
  | nil => exact ⟨all_drawn_nothing, all_drawn_nothing⟩
  | cons line lines ih =>
    cases rows with
    | nil => exact ⟨all_drawn_nothing, all_drawn_nothing⟩
    | cons y rows =>
      constructor
      · exact all_drawn_cons (drawn_text ["class", "x", "y"] rfl line) (ih rows).1
      · exact all_drawn_cons (drawn_text ["class", "font-style", "x", "y"] rfl line)
          (ih rows).2

theorem drawn_box (geometry : Geometry) (box : ClassBox) : AllDrawn [boxGroup geometry box] := by
  obtain ⟨header, rows, -, same⟩ := boxGroup_eq geometry box
  have separated : AllDrawn (rows.separator.map (separatorLine box)).toList := by
    cases rows.separator with
    | none => exact all_drawn_nothing
    | some y => exact drawn_separator box y
  have top := all_drawn_cons (drawn_outline box "box" box.height)
    (all_drawn_cons (drawn_outline box "header" header)
      (all_drawn_cons (drawn_name box) (drawn_separator box (box.y + header))))
  rw [same]
  exact drawn_group ["class"] rfl (all_drawn_append
    (all_drawn_append (all_drawn_append top (drawn_members box _ _).1) separated)
    (drawn_members box _ _).2)

/-- The marker at the end of a line is that of the kind of the relationship. -/
theorem drawn_line (route : Route) : AllDrawn [routeLine route] := by
  rw [routeLine]
  cases marked : route.kind.marker? with
  | none =>
    cases route.kind.isDashed with
    | true =>
      exact drawn_leaf ["class", "stroke-dasharray", "x1", "x2", "y1", "y2"] rfl
    | false => exact drawn_leaf ["class", "x1", "x2", "y1", "y2"] rfl
  | some marker =>
    cases route.kind.isDashed with
    | true =>
      apply drawn_element ["class", "marker-end", "stroke-dasharray", "x1", "x2", "y1", "y2"] rfl
        (by decide) (.inr (by simp [Markup.children])) _ Markup.every_nothing
      intro reference refers
      exact ⟨route.kind, marker, marked, by simpa using refers⟩
    | false =>
      apply drawn_element ["class", "marker-end", "x1", "x2", "y1", "y2"] rfl (by decide)
        (.inr (by simp [Markup.children])) _ Markup.every_nothing
      intro reference refers
      exact ⟨route.kind, marker, marked, by simpa using refers⟩

theorem drawn_route (route : Route) : AllDrawn [routeGroup route] := by
  refine drawn_group ["class"] rfl (all_drawn_cons (drawn_line route) ?_)
  cases route.label with
  | none => exact all_drawn_nothing
  | some label =>
    exact all_drawn_cons (drawn_leaf ["class", "height", "width", "x", "y"] rfl)
      (drawn_text ["class", "fill", "text-anchor", "x", "y"] rfl label)

theorem drawn_document (geometry : Geometry) (title : Option String) (layout : Layout) :
    AllDrawn [geometry.document title layout] := by
  have titled : AllDrawn (title.map (titleText layout)).toList := by
    cases title with
    | none => exact all_drawn_nothing
    | some title => exact drawn_text ["class", "text-anchor", "x", "y"] rfl title
  have boxed : AllDrawn (layout.boxes.map (boxGroup geometry)) := by
    apply all_drawn_each
    simpa using fun box _ => drawn_box geometry box
  have routed : AllDrawn (layout.routes.map routeGroup) := by
    apply all_drawn_each
    simpa using fun route _ => drawn_route route
  exact drawn_group ["height", "width", "xmlns"] rfl
    (all_drawn_append (all_drawn_append (all_drawn_append drawn_definitions titled) boxed) routed)

/-- The markers of all kinds are defined. -/
theorem marker_defined (marked : RelationshipKind.marker? kind = some marker) :
    ∃ element ∈ definitions.named "marker", ("id", marker) ∈ element.attributes := by
  cases kind <;> cases marked <;>
    simp [definitions, shadow, markers, markerElement, Markup.attributes]

/-! ## The document -/

/-- An element that stands for the title of a diagram. -/
structure ShowsTitle (title : String) (element : Markup) : Prop where
  text : WritesText title element
  style : ("class", "diagram-title") ∈ element.attributes

/-- What stands below the definitions and the styles: the title, a group for every class by
connections, and a group for every relationship between declared classes. -/
structure Layers (diagram : Diagram) (order : List ClassNode)
    (titles groups edges : List Markup) : Prop where
  ranked : ByConnections diagram order
  title : List.Forall₂ ShowsTitle diagram.title.toList titles
  classes : List.Forall₂ ShowsClass order groups
  relationships :
    List.Forall₂ ShowsRelationship (diagram.relationships.filter diagram.connects) edges

/-- A document that shows a diagram. Every reference to a marker in it is to one of its own. -/
structure ShowsDiagram (diagram : Diagram) (document : Markup) : Prop where
  layers : ∃ order titles groups edges, Layers diagram order titles groups edges ∧
    document.children = [definitions, style] ++ titles ++ groups ++ edges
  references : ∀ element ∈ document.elements, ∀ reference,
    ("marker-end", reference) ∈ element.attributes →
      ∃ marker ∈ document.named "marker", ∃ id, ("id", id) ∈ marker.attributes ∧
        reference = s!"url(#{id})"

theorem title_shows (layout : Layout) (title : Option String) :
    List.Forall₂ ShowsTitle title.toList (title.map (titleText layout)).toList := by
  cases title with
  | none => exact .nil
  | some title => exact .cons ⟨⟨_, rfl⟩, by simp [titleText, textElement, Markup.attributes]⟩ .nil

/-- The definitions are in every document. -/
theorem document_defines (geometry : Geometry) (title : Option String) (layout : Layout)
    (defined : element ∈ definitions.named tag) :
    element ∈ (geometry.document title layout).named tag := by
  rw [Geometry.document, Markup.named_element]
  simp [defined]

theorem arranged_layers (geometry : Geometry) (diagram : Diagram) :
    Layers diagram diagram.order
      (diagram.title.map (titleText (geometry.arrange diagram))).toList
      ((geometry.arrange diagram).boxes.map (boxGroup geometry))
      ((geometry.arrange diagram).routes.map routeGroup) where
  ranked := order_by_connections diagram
  title := title_shows _ diagram.title
  classes := by
    rw [List.forall₂_map_right_iff]
    exact (place_houses geometry diagram).imp fun _ _ houses => boxGroup_shows houses
  relationships := by
    rw [List.forall₂_map_right_iff]
    exact (routes_run geometry diagram diagram.relationships).imp fun _ _ runs =>
      routeGroup_shows runs

/-- A drawing shows all of its diagram and nothing twice. -/
theorem drawing_shows_diagram {geometry : Geometry}
    (laidOut : geometry.layout diagram = .ok layout) :
    ShowsDiagram diagram (geometry.document diagram.title layout) := by
  obtain rfl := layout_arranges laidOut
  constructor
  · exact ⟨diagram.order, _, _, _, arranged_layers geometry diagram, rfl⟩
  · intro element inside reference refers
    have drawn := (drawn_document geometry diagram.title (geometry.arrange diagram)).every element
      (by simpa using inside)
    obtain ⟨kind, marker, marked, rfl⟩ := drawn.ends reference refers
    obtain ⟨found, defined, identified⟩ := marker_defined marked
    exact ⟨found, document_defines geometry diagram.title _ defined, marker, identified, rfl⟩

/-- A class with members, one of each section marked. -/
def busyHub : ClassNode where
  name := "Hub"
  isAbstract := true
  attributes := [⟨some .privateMember, "size", "int"⟩, ⟨none, "key", "String"⟩]
  methods := [⟨none, "run", "void"⟩, ⟨some .publicMember, "stop", "boolean"⟩]

/-- A diagram with a name declared twice and an endpoint that no class declares. -/
def overlappingDiagram : Diagram where
  title := some "Overlap"
  classes := [.empty "Leaf", .empty "Hub", busyHub]
  relationships :=
    [⟨"Hub", "Hub", .link, "self"⟩, ⟨"Hub", "Ghost", .inheritance, ""⟩,
      ⟨"Hub", "Leaf", .realization, ""⟩]

/-- Both classes of one name stand before the class with fewer connections, each with the lines of
its own members. -/
theorem overlapping_diagram_is_shown : ∃ layout,
    Geometry.standard.layout overlappingDiagram = .ok layout ∧
      ShowsDiagram overlappingDiagram
        (Geometry.standard.document overlappingDiagram.title layout) ∧
      overlappingDiagram.order.map ClassNode.lines =
        [["Hub"],
          ["Hub", "- size : int", "key : String", "run() : void", "+ stop() : boolean"],
          ["Leaf"]] ∧
      (overlappingDiagram.relationships.filter overlappingDiagram.connects).length = 2 := by
  refine ⟨_, rfl, drawing_shows_diagram rfl, ?_, by decide⟩
  have sorted : overlappingDiagram.order = [.empty "Hub", busyHub, .empty "Leaf"] := by
    simp [Diagram.order, heaviestFirst, overlappingDiagram, busyHub, List.mergeSort,
      Diagram.connections, Diagram.endpoints, Relationship.endpoints, ClassNode.empty]
  rw [sorted]
  decide

/-! ## The text of a drawing -/

/-- The texts of a diagram in the order in which they are drawn: the title, the lines of the classes
by connections, and the labels of the relationships between declared classes. -/
def Diagram.writtenTexts (diagram : Diagram) : List String :=
  diagram.title.toList ++ diagram.order.flatMap ClassNode.lines ++
    (diagram.relationships.filter diagram.connects).flatMap Relationship.labelTexts

theorem writes_each {Shows : α → Markup → Prop} {texts : α → List String}
    (write : ∀ entry group, Shows entry group →
      List.Forall₂ WritesText (texts entry) (group.named "text"))
    (shown : List.Forall₂ Shows entries groups) :
    List.Forall₂ WritesText (entries.flatMap texts) (groups.flatMap (named "text")) := by
  induction shown with
  | nil => exact .nil
  | cons shows _ ih =>
    rw [List.flatMap_cons, List.flatMap_cons]
    exact List.rel_append (write _ _ shows) ih

/-- The texts of a document are those of its layers. -/
theorem document_writes (layers : Layers diagram diagram.order titles groups edges)
    (attributes : List (String × String)) :
    List.Forall₂ WritesText diagram.writtenTexts
      ((Markup.element "svg" attributes
        ([definitions, style] ++ titles ++ groups ++ edges)).named "text") := by
  have titled := layers.title.imp fun _ _ shows => shows.text
  have boxed := writes_each (fun _ _ shows => shows.texts) layers.classes
  have routed := writes_each (fun _ _ shows => shows.texts) layers.relationships
  have preamble : [definitions, style].flatMap (named "text") = [] := by
    simp [definitions, shadow, markers, markerElement, style, textElement]
  rw [Markup.named_element, if_neg (by decide), List.nil_append, List.flatMap_append,
    List.flatMap_append, List.flatMap_append, preamble, List.nil_append, texts_named titled]
  exact List.rel_append (List.rel_append titled boxed) routed

/-- What a reader of markup makes of the text of a drawing: the very tree that was drawn, in which
the texts are those of the diagram. -/
structure ReadsBack (diagram : Diagram) (document : Markup) (svg : String) : Prop where
  root : document.tag? = some "svg"
  tree : (MarkupReading.readMarkup svg).map MarkupReading.withoutBreaks = some document
  texts : List.Forall₂ WritesText diagram.writtenTexts (document.named "text")

/-- No text of a diagram is taken for markup. -/
theorem drawing_reads_back {geometry : Geometry} (drawn : geometry.render diagram = .ok svg) :
    ∃ layout, geometry.layout diagram = .ok layout ∧
      ReadsBack diagram (geometry.document diagram.title layout) svg := by
  rw [Geometry.render] at drawn
  cases laidOut : geometry.layout diagram with
  | error refusal =>
    rw [laidOut] at drawn
    cases drawn
  | ok layout =>
    rw [laidOut] at drawn
    obtain rfl := Except.ok.inj drawn
    obtain rfl := layout_arranges laidOut
    have every := (drawn_document geometry diagram.title (geometry.arrange diagram)).every
    refine ⟨_, rfl, rfl, ?_, document_writes (arranged_layers geometry diagram) _⟩
    apply MarkupReading.read_print_back
    · exact fun element inside => (every element inside).readable
    · exact fun element inside => (every element inside).unmixed
    · rfl

/-- A diagram whose texts are written like markup. -/
def forgedDiagram : Diagram where
  title := some "</svg><script>"
  classes := [⟨"<&amp;>", false, [⟨none, "\" x=\"", "\x27"⟩], []⟩]
  relationships := [⟨"<&amp;>", "<&amp;>", .composition, "\n]]>&lt;\n"⟩]

/-- Brackets, quotes, references and line breaks are read back as they were written. -/
theorem forged_markup_stays_text : ∃ svg layout,
    Geometry.standard.render forgedDiagram = .ok svg ∧
      Geometry.standard.layout forgedDiagram = .ok layout ∧
      ReadsBack forgedDiagram (Geometry.standard.document forgedDiagram.title layout) svg ∧
      forgedDiagram.writtenTexts =
        ["</svg><script>", "<&amp;>", "\" x=\" : \x27", "\n]]>&lt;\n"] := by
  have drawn : Geometry.standard.render forgedDiagram = .ok _ := rfl
  obtain ⟨layout, laidOut, reads⟩ := drawing_reads_back drawn
  have alone : forgedDiagram.order = forgedDiagram.classes := List.mergeSort_singleton _
  refine ⟨_, layout, drawn, laidOut, reads, ?_⟩
  rw [Diagram.writtenTexts, alone]
  decide

end ClassChart
