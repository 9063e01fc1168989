import ClassChart.Decimal
import ClassChart.Layout
import ClassChart.Markup

/-!
Drawing a layout as a document of scalable vector graphics: markers and styles, the title, a group
for every box and a group for every route. The attributes of an element are listed in the order
of their names. The lines of a box are spaced by one function over any coordinates, so that its
laws can be stated in exact numbers.
-/
namespace ClassChart

/-! ## Definitions and styles -/

/-- The name of the shadow behind the boxes. -/
def shadowId : String := "shadow"

/-- The marker at the target of a relationship. -/
def RelationshipKind.marker? : RelationshipKind → Option String
  | .inheritance | .realization => some "arrow-triangle"
  | .aggregation => some "diamond-hollow"
  | .composition => some "diamond-filled"
  | .association => some "arrow-open"
  | .link => none

/-- A marker of the given size, its path filled and outlined; `reference` is the point of the
path that lies on the end of the line. -/
def markerElement (id : String) (width height : Nat) (reference : Nat × Nat)
    (path fill : String) : Markup :=
  .element "marker"
    [("id", id), ("markerHeight", toString height), ("markerWidth", toString width),
      ("orient", "auto"), ("refX", toString reference.1), ("refY", toString reference.2)]
    [.element "path" [("d", path), ("fill", fill), ("stroke", "black")] []]

/-- The markers of all kinds of relationships. -/
def markers : List Markup :=
  [markerElement "arrow-open" 12 12 (9, 3) "M0,0 L0,6 L9,3 z" "black",
    markerElement "arrow-triangle" 16 16 (14, 7) "M0,0 L14,7 L0,14 L0,0" "white",
    markerElement "diamond-hollow" 18 12 (16, 5) "M0,5 L8,0 L16,5 L8,10 z" "white",
    markerElement "diamond-filled" 18 12 (16, 5) "M0,5 L8,0 L16,5 L8,10 z" "black"]

/-- The shadow behind the boxes: the shape, moved, blurred, and laid under itself. -/
def shadow : Markup :=
  .element "filter"
    [("height", "200%"), ("id", shadowId), ("width", "200%"), ("x", "0"), ("y", "0")]
    [.element "feOffset"
        [("dx", "3"), ("dy", "3"), ("in", "SourceAlpha"), ("result", "offOut")] [],
      .element "feGaussianBlur"
        [("in", "offOut"), ("result", "blurOut"), ("stdDeviation", "2")] [],
      .element "feBlend"
        [("in", "SourceGraphic"), ("in2", "blurOut"), ("mode", "normal")] []]

/-- The shadow and the markers, which the rest of the document refers to. -/
def definitions : Markup :=
  .element "defs" [] (shadow :: markers)

/-- The styles of the classes that elements name. -/
def stylesheet : String :=
  ".member \x7b font-family: Arial, sans-serif; font-size: 12px; fill: #333; \x7d\n" ++
  ".class-name \x7b font-family: Arial, sans-serif; font-size: 14px; font-weight: bold; " ++
    "fill: black; \x7d\n" ++
  ".diagram-title \x7b font-family: Arial, sans-serif; font-size: 18px; font-weight: bold; " ++
    "fill: black; \x7d\n" ++
  ".box \x7b fill: #fff; stroke: #333; stroke-width: 1; filter: url(#shadow); \x7d\n" ++
  ".header \x7b fill: #f0f0f0; stroke: #333; stroke-width: 1; \x7d\n" ++
  ".edge \x7b stroke: #333; stroke-width: 1.5; \x7d\n" ++
  ".label-bg \x7b fill: white; opacity: 0.9; \x7d\n"

/-- The element that holds the styles. -/
def style : Markup :=
  Markup.textElement "style" [] stylesheet

/-! ## The lines of a box -/

/-- `count` coordinates, `step` apart, from `start` on. -/
def rowsFrom {α : Type} [Add α] (start step : α) : Nat → List α
  | 0 => []
  | count + 1 => start :: rowsFrom (start + step) step count

/-- The coordinate behind `count` rows. -/
def behindRows {α : Type} [Add α] (start step : α) : Nat → α
  | 0 => start
  | count + 1 => behindRows (start + step) step count

@[simp] theorem length_rowsFrom {α : Type} [Add α] (start step : α) (count : Nat) :
    (rowsFrom start step count).length = count := by
  induction count generalizing start with
  | zero => rfl
  | succ count ih => simp [rowsFrom, ih]

/-- The baselines of the members of a box, and the line between attributes and methods. -/
structure MemberRows (α : Type) where
  attributes : List α
  separator : Option α
  methods : List α

/-- Spaces the members of a box whose upper edge is `top`. The first attribute stands one line
below the header. The separator and the room below it are there only for methods. -/
def memberRows {α : Type} [Add α] [Sub α] [OfNat α 5] [OfNat α 10]
    (top header line : α) (attributes methods : Nat) : MemberRows α :=
  let first := top + header + line
  let cursor := behindRows first line attributes
  if methods = 0 then
    { attributes := rowsFrom first line attributes, separator := none, methods := [] }
  else
    { attributes := rowsFrom first line attributes
      separator := some (cursor - 5)
      methods := rowsFrom (cursor + 10) line methods }

/-! ## Boxes -/

/-- The text of a coordinate. -/
def coordinate (x : Float32) : String := Decimal.ofFloat32 x

/-- A line across a box. -/
def separatorLine (box : ClassBox) (y : Float32) : Markup :=
  .element "line"
    [("class", "edge"), ("x1", coordinate box.x), ("x2", coordinate (box.x + box.width)),
      ("y1", coordinate y), ("y2", coordinate y)] []

/-- The outline of a box, or of its header. -/
def outline (box : ClassBox) (styleClass : String) (height : Float32) : Markup :=
  .element "rect"
    [("class", styleClass), ("height", coordinate height), ("width", coordinate box.width),
      ("x", coordinate box.x), ("y", coordinate box.y)] []

/-- The attribute of slanted text. -/
def italic : List (String × String) := [("font-style", "italic")]

/-- The name of a class, slanted when it is abstract. -/
def nameText (box : ClassBox) : Markup :=
  Markup.textElement "text"
    ([("class", "class-name")] ++ (if box.isAbstract then italic else []) ++
      [("text-anchor", "middle"), ("x", coordinate (box.x + truncate (box.width / 2))),
        ("y", coordinate (box.y + 20))])
    box.name

/-- The line of a member. -/
def memberText (box : ClassBox) (slant : List (String × String)) (line : String) (y : Float32) :
    Markup :=
  Markup.textElement "text"
    ([("class", "member")] ++ slant ++ [("x", coordinate (box.x + 10)), ("y", coordinate y)])
    line

/-- The group of a box: outlines, name, attributes, and methods below a second separator. -/
def boxGroup (geometry : Geometry) (box : ClassBox) : Markup :=
  let header := Float32.ofNat geometry.headerHeight
  let rows := memberRows box.y header (Float32.ofNat geometry.lineHeight)
    box.attributes.length box.methods.length
  .element "g" [("class", "uml-class")]
    ([outline box "box" box.height, outline box "header" header, nameText box,
        separatorLine box (box.y + header)] ++
      List.zipWith (memberText box []) box.attributes rows.attributes ++
      (rows.separator.map (separatorLine box)).toList ++
      List.zipWith (memberText box italic) box.methods rows.methods)

/-! ## Routes -/

/-- The line of a route, with the marker of its kind. -/
def routeLine (route : Route) : Markup :=
  .element "line"
    ([("class", "edge")] ++
      (match route.kind.marker? with
        | some marker => [("marker-end", s!"url(#{marker})")]
        | none => []) ++
      (if route.kind.isDashed then [("stroke-dasharray", "5,5")] else []) ++
      [("x1", coordinate route.start.x), ("x2", coordinate route.finish.x),
        ("y1", coordinate route.start.y), ("y2", coordinate route.finish.y)]) []

/-- The label of a route on its background. -/
def routeLabel (route : Route) (label : String) : List Markup :=
  let middle := route.midpoint
  let width := route.labelWidth
  [.element "rect"
      [("class", "label-bg"), ("height", "14"), ("width", coordinate width),
        ("x", coordinate (middle.x - truncate (width / 2))), ("y", coordinate (middle.y - 10))]
      [],
    Markup.textElement "text"
      [("class", "member"), ("fill", "blue"), ("text-anchor", "middle"),
        ("x", coordinate middle.x), ("y", coordinate middle.y)] label]

/-- The group of a route. -/
def routeGroup (route : Route) : Markup :=
  .element "g" [("class", s!"relationship {route.kind.label}")]
    (routeLine route ::
      match route.label with
      | some label => routeLabel route label
      | none => [])

/-! ## The document -/

/-- The title above the drawing. -/
def titleText (layout : Layout) (title : String) : Markup :=
  Markup.textElement "text"
    [("class", "diagram-title"), ("text-anchor", "middle"),
      ("x", coordinate (truncate (layout.width / 2))), ("y", "30")] title

/-- The document of a layout. -/
def Geometry.document (geometry : Geometry) (title : Option String) (layout : Layout) : Markup :=
  .element "svg"
    [("height", coordinate layout.height), ("width", coordinate layout.width),
      ("xmlns", "http://www.w3.org/2000/svg")]
    ([definitions, style] ++ (title.map (titleText layout)).toList ++
      layout.boxes.map (boxGroup geometry) ++ layout.routes.map routeGroup)

/-- The drawing of a diagram. -/
def Geometry.render (geometry : Geometry) (diagram : Diagram) : Except LayoutRefusal String :=
  (geometry.layout diagram).map fun layout => (geometry.document diagram.title layout).print

/-- The name of the output format, which is also that of the renderer. -/
def formatName : String := "svg"

/-- The version of the program and its drawings. -/
def version : String := "0.1.0"

end ClassChart
