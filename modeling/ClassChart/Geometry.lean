import ClassChart.Diagram

/-!
The measures of a drawing: the canvas, the boxes of classes, and the ellipse that classes are
placed on. All measures are in user units of the drawing.
-/
namespace ClassChart

/-- The measures of a drawing. -/
structure Geometry where
  width : Nat
  height : Nat
  boxWidth : Nat
  radiusX : Float
  radiusY : Float
  headerHeight : Nat
  lineHeight : Nat

namespace Geometry

/-- The measures used where none are given. -/
def standard : Geometry where
  width := 1400
  height := 1200
  boxWidth := 220
  radiusX := 550
  radiusY := 450
  headerHeight := 30
  lineHeight := 15

/-- Another canvas; the ellipse grows and shrinks with it, in the proportions of the standard. -/
def withCanvas (geometry : Geometry) (width height : Nat) : Geometry :=
  { geometry with
    width := width
    height := height
    radiusX := standard.radiusX * width.toFloat / standard.width.toFloat
    radiusY := standard.radiusY * height.toFloat / standard.height.toFloat }

/-- Another canvas on which the ellipse keeps its size. -/
def withSize (geometry : Geometry) (width height : Nat) : Geometry :=
  { geometry with width := width, height := height }

/-- Another width of the class boxes. -/
def withBoxWidth (geometry : Geometry) (boxWidth : Nat) : Geometry :=
  { geometry with boxWidth := boxWidth }

/-- Another ellipse. -/
def withRadii (geometry : Geometry) (radiusX radiusY : Float) : Geometry :=
  { geometry with radiusX := radiusX, radiusY := radiusY }

/-- Another height of the lines in a box. -/
def withLineHeight (geometry : Geometry) (lineHeight : Nat) : Geometry :=
  { geometry with lineHeight := lineHeight }

/-- Another height of the header of a box. -/
def withHeaderHeight (geometry : Geometry) (headerHeight : Nat) : Geometry :=
  { geometry with headerHeight := headerHeight }

/-- The room below the lines of a section. -/
def sectionPadding : Nat := 10

/-- The room at the bottom of a box. -/
def boxPadding : Nat := 5

/-- The height of a box with so many attributes and methods, counted exactly. Measures are kept in 32
bits, so a height is that of a drawing as long as it is below `2 ^ 32`; a larger one is out of range
and belongs to no drawing. -/
def boxHeight (geometry : Geometry) (attributes methods : Nat) : Nat :=
  geometry.headerHeight + (attributes * geometry.lineHeight + sectionPadding) +
    (methods * geometry.lineHeight + sectionPadding) + boxPadding

/-- The height of the box of a class, in the range of `boxHeight`. -/
def classHeight (geometry : Geometry) (node : ClassNode) : Nat :=
  geometry.boxHeight node.attributes.length node.methods.length

end Geometry

end ClassChart
