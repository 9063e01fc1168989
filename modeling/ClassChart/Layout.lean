import ClassChart.Geometry
import ClassChart.Integrity
import ClassChart.Unicode.Width

/-!
Layout of a class diagram. The class with the most connections stands at the centre of the canvas
and the others around it on an ellipse, in the order of their connections; relationships run
from border to border. Coordinates are 32-bit numbers, rounded after every operation. Lookups by
name mean the first box, and relationships with an undeclared endpoint have no route.
-/
namespace ClassChart

/-- A point of the canvas. -/
structure Point where
  x : Float32
  y : Float32

/-- A class with its box; `x` and `y` are the upper left corner. -/
structure ClassBox where
  name : String
  isAbstract : Bool
  x : Float32
  y : Float32
  width : Float32
  height : Float32
  connections : Nat
  attributes : List String
  methods : List String

/-- The middle of a box. -/
def ClassBox.center (box : ClassBox) : Point :=
  ⟨box.x + box.width / 2, box.y + box.height / 2⟩

/-- The part of a number before its point; a fraction below zero becomes negative zero. -/
def truncate (x : Float32) : Float32 :=
  if x < 0 then x.ceil else x.floor

/-- The room that one column of a label takes. -/
def labelColumnWidth : Float32 := 7

/-- A relationship with the points between which it is drawn. -/
structure Route where
  source : String
  target : String
  kind : RelationshipKind
  label : Option String
  start : Point
  finish : Point

namespace Route

/-- The middle of a route, on whole coordinates. -/
def midpoint (route : Route) : Point :=
  ⟨truncate ((route.start.x + route.finish.x) / 2),
    truncate ((route.start.y + route.finish.y) / 2)⟩

/-- The width of the box behind a label. -/
def labelWidth (route : Route) : Float32 :=
  match route.label with
  | some label => Float32.ofNat (Unicode.textWidth label.toList) * labelColumnWidth
  | none => 0

end Route

/-- A diagram laid out on a canvas: boxes with the most connected first, and routes in the order of
declaration. -/
structure Layout where
  boxes : List ClassBox
  routes : List Route
  width : Float32
  height : Float32

/-- The first box with this name. -/
def findBox? (boxes : List ClassBox) (name : String) : Option ClassBox :=
  boxes.find? (·.name = name)

/-- The first box of a layout with this name. -/
def Layout.box? (layout : Layout) (name : String) : Option ClassBox :=
  findBox? layout.boxes name

/-! ## Lines in a box -/

/-- A visibility mark and the space behind it. -/
def visibilityText (visibility : Option Visibility) : String :=
  match visibility with
  | some visibility => s!"{visibility.mark} "
  | none => ""

/-- The line of an attribute. -/
def Attribute.line (declared : Attribute) : String :=
  s!"{visibilityText declared.visibility}{declared.name} : {declared.declaredType}"

/-- The line of a method. -/
def Method.line (declared : Method) : String :=
  s!"{visibilityText declared.visibility}{declared.name}() : {declared.returnType}"

/-! ## Ranking -/

/-- How often relationships use a name as an endpoint. -/
def Diagram.connections (diagram : Diagram) (name : String) : Nat :=
  diagram.endpoints.count name

/-- A class and the number of its connections. -/
structure RankedClass where
  node : ClassNode
  connections : Nat
  deriving DecidableEq, Repr

/-- The classes with their connections, the most connected first; classes with equally many stay
in the order of their declaration. -/
def Diagram.ranked (diagram : Diagram) : List RankedClass :=
  (diagram.classes.map fun node => ⟨node, diagram.connections node.name⟩).mergeSort
    fun first second => decide (second.connections ≤ first.connections)

/-! ## Placing -/

/-- Half of a measure, rounded down, as a coordinate. -/
def halfOf (measure : Nat) : Float32 :=
  Float32.ofNat (measure / 2)

/-- Half a turn. -/
def halfTurn : Float32 := 3.1415927

/-- The angle of the box with this index, where `count` boxes are placed. Index zero is the
centre; the others divide the turn evenly. -/
def ringAngle (index count : Nat) : Float32 :=
  2 * halfTurn * Float32.ofNat (index - 1) / Float32.ofNat (max (count - 1) 1)

/-- The upper left corner of the box with this index and height. -/
def Geometry.corner (geometry : Geometry) (index count height : Nat) : Point :=
  let center : Point := ⟨halfOf geometry.width, halfOf geometry.height⟩
  let middle : Point :=
    if index = 0 then center
    else
      let angle := ringAngle index count
      ⟨truncate (center.x + geometry.radiusX.toFloat32 * angle.cos),
        truncate (center.y + geometry.radiusY.toFloat32 * angle.sin)⟩
  ⟨middle.x - halfOf geometry.boxWidth, middle.y - halfOf height⟩

/-- The box with this index. -/
def Geometry.placeBox (geometry : Geometry) (count index : Nat) (ranked : RankedClass) :
    ClassBox :=
  let height := geometry.classHeight ranked.node
  let corner := geometry.corner index count height
  { name := ranked.node.name
    isAbstract := ranked.node.isAbstract
    x := corner.x
    y := corner.y
    width := Float32.ofNat geometry.boxWidth
    height := Float32.ofNat height
    connections := ranked.connections
    attributes := ranked.node.attributes.map Attribute.line
    methods := ranked.node.methods.map Method.line }

/-- The boxes of ranked classes. -/
def Geometry.place (geometry : Geometry) (ranked : List RankedClass) : List ClassBox :=
  ranked.mapIdx (geometry.placeBox ranked.length)

/-! ## Routes -/

/-- The ends of a route between two boxes. It leaves by the side that faces the other box along
the longer of the two distances between the centres. -/
def borderPoints (source target : ClassBox) : Point × Point :=
  let near := source.center
  let far := target.center
  let dx := far.x - near.x
  let dy := far.y - near.y
  if dx.abs > dy.abs then
    if dx > 0 then (⟨source.x + source.width, near.y⟩, ⟨target.x, far.y⟩)
    else (⟨source.x, near.y⟩, ⟨target.x + target.width, far.y⟩)
  else if dy > 0 then (⟨near.x, source.y + source.height⟩, ⟨far.x, target.y⟩)
  else (⟨near.x, source.y⟩, ⟨far.x, target.y + target.height⟩)

/-- The route of a relationship, if both its endpoints have a box. -/
def route? (boxes : List ClassBox) (relationship : Relationship) : Option Route :=
  match findBox? boxes relationship.source, findBox? boxes relationship.target with
  | some source, some target =>
    let ends := borderPoints source target
    some
      { source := relationship.source
        target := relationship.target
        kind := relationship.kind
        label := if relationship.label = "" then none else some relationship.label
        start := ends.1
        finish := ends.2 }
  | _, _ => none

/-! ## The whole layout -/

/-- Why nothing can be laid out. -/
inductive LayoutRefusal where
  | emptyCanvas (width height : Nat)
  | emptyBox
  deriving DecidableEq, Repr

/-- The reason in words. -/
def LayoutRefusal.reason : LayoutRefusal → String
  | .emptyCanvas width height => s!"canvas must have a positive size, got {width}x{height}"
  | .emptyBox => "class box width must be positive"

/-- A canvas or a box without width cannot be drawn on. -/
def Geometry.refusal? (geometry : Geometry) : Option LayoutRefusal :=
  if geometry.width = 0 || geometry.height = 0 then
    some (.emptyCanvas geometry.width geometry.height)
  else if geometry.boxWidth = 0 then some .emptyBox
  else none

/-- The layout of a diagram, whatever the measures. -/
def Geometry.arrange (geometry : Geometry) (diagram : Diagram) : Layout :=
  let boxes := geometry.place diagram.ranked
  { boxes := boxes
    routes := diagram.relationships.filterMap (route? boxes)
    width := Float32.ofNat geometry.width
    height := Float32.ofNat geometry.height }

/-- The layout of a diagram. -/
def Geometry.layout (geometry : Geometry) (diagram : Diagram) : Except LayoutRefusal Layout :=
  match geometry.refusal? with
  | some refusal => .error refusal
  | none => .ok (geometry.arrange diagram)

end ClassChart
