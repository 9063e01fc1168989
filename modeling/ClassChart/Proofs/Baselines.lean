import ClassChart.Proofs.Showing
import Mathlib.Tactic.Ring

/-! Where the members of a class stand in its box. The height of a box is computed from the numbers
of its members, and the members are written by a cursor that moves down line by line. In exact
numbers the two agree: whatever the measures, every member stands below the header and above the
lower edge of the box, and the line between the sections stands between them. -/
namespace ClassChart

open Markup (named)

/-! ## Rows in exact numbers -/

/-- The cursor behind some rows has moved down once for each of them. -/
theorem behind_rows_eq (start step : Int) (count : Nat) :
    behindRows start step count = start + count * step := by
  induction count generalizing start with
  | zero => simp [behindRows]
  | succ count ih =>
    rw [behindRows, ih]
    push_cast
    ring

/-- No row lies above the start, and each is followed by at least one step up to the cursor. -/
theorem row_between {start step : Int} (down : 0 ≤ step) (listed : y ∈ rowsFrom start step count) :
    start ≤ y ∧ y + step ≤ behindRows start step count := by
  induction count generalizing start with
  | zero => cases listed
  | succ count ih =>
    rw [behindRows]
    rcases List.mem_cons.mp listed with rfl | later
    · rw [behind_rows_eq]
      have room : 0 ≤ (count : Int) * step := Int.mul_nonneg (Int.natCast_nonneg count) down
      omega
    · obtain ⟨below, above⟩ := ih later
      omega

theorem rows_ordered {start step : Int} (down : 0 ≤ step) :
    (rowsFrom start step count).Pairwise (· ≤ ·) := by
  induction count generalizing start with
  | zero => exact .nil
  | succ count ih =>
    refine .cons ?_ ih
    intro y later
    have below := (row_between down later).1
    omega

theorem rows_evenly_spaced (start step : Int) (count : Nat) :
    (rowsFrom start step count).IsChain fun y next => next = y + step := by
  induction count generalizing start with
  | zero => exact .nil
  | succ count ih =>
    cases count with
    | zero => exact .singleton start
    | succ count => exact .cons_cons rfl (ih (start + step))

theorem first_row {start step : Int} (first : (rowsFrom start step count).head? = some y) :
    y = start := by
  cases count with
  | zero => cases first
  | succ count => exact (Option.some.inj first).symm

/-- The cursor stands one step below the last row. -/
theorem last_row {start step : Int} (last : (rowsFrom start step count).getLast? = some y) :
    behindRows start step count = y + step := by
  induction count generalizing start with
  | zero => cases last
  | succ count ih =>
    rw [behindRows]
    cases count with
    | zero =>
      obtain rfl : start = y := Option.some.inj last
      rfl
    | succ count =>
      rw [rowsFrom, rowsFrom, List.getLast?_cons_cons, ← rowsFrom] at last
      exact ih last

/-! ## Rows of a class -/

/-- The rows of the members of a class whose box has its upper edge at `top`, in any numbers that the
measures are given in. -/
def Geometry.rows [Add α] [Sub α] [OfNat α 5] [OfNat α 10] (geometry : Geometry)
    (measure : Nat → α) (node : ClassNode) (top : α) : MemberRows α :=
  memberRows top (measure geometry.headerHeight) (measure geometry.lineHeight)
    node.attributes.length node.methods.length

/-- The rows of a class in exact numbers. -/
def Geometry.exactRows (geometry : Geometry) (node : ClassNode) (top : Int) : MemberRows Int :=
  geometry.rows (fun measure => (measure : Int)) node top

/-- Rows that keep within the box of a class, whose upper edge is at `top`. -/
structure KeepsInside (geometry : Geometry) (node : ClassNode) (top : Int) (rows : MemberRows Int) :
    Prop where
  fit : RowsFit rows (node.attributes.map Attribute.line) (node.methods.map Method.line)
  inside : ∀ y ∈ rows.attributes ++ rows.methods,
    top + geometry.headerHeight + geometry.lineHeight ≤ y ∧ y ≤ top + geometry.classHeight node - 15
  ordered : (rows.attributes ++ rows.methods).Pairwise (· ≤ ·)
  attributesApart : rows.attributes.IsChain fun y next : Int => next = y + geometry.lineHeight
  methodsApart : rows.methods.IsChain fun y next : Int => next = y + geometry.lineHeight
  sectionsApart : ∀ last ∈ rows.attributes.getLast?, ∀ first ∈ rows.methods.head?,
    first = last + (geometry.lineHeight + 10)
  separated : 5 ≤ geometry.lineHeight → ∀ last ∈ rows.attributes.getLast?,
    ∀ first ∈ rows.methods.head?, ∃ y, rows.separator = some y ∧ last ≤ y ∧ y < first

section ExactRows

variable (geometry : Geometry) (node : ClassNode) (top : Int)

/-- The height of a box is that of its header, of a line for each member, and of the room below the
lines of both sections. -/
theorem class_height_eq : (geometry.classHeight node : Int) = geometry.headerHeight +
    node.attributes.length * geometry.lineHeight + node.methods.length * geometry.lineHeight + 25 := by
  rw [Geometry.classHeight, Geometry.boxHeight, Geometry.sectionPadding, Geometry.boxPadding]
  push_cast
  ring

/-- The row of the first member, if that is an attribute. -/
def Geometry.firstRow : Int := top + geometry.headerHeight + geometry.lineHeight

/-- The cursor behind the attributes of a class. -/
def Geometry.behindAttributes : Int :=
  behindRows (geometry.firstRow top) (geometry.lineHeight : Int) node.attributes.length

theorem exact_attributes : (geometry.exactRows node top).attributes =
    rowsFrom (geometry.firstRow top) (geometry.lineHeight : Int) node.attributes.length := by
  rw [Geometry.exactRows, Geometry.rows, memberRows]
  split <;> rfl

theorem exact_methods : (geometry.exactRows node top).methods =
    rowsFrom (geometry.behindAttributes node top + 10) (geometry.lineHeight : Int)
      node.methods.length := by
  rw [Geometry.exactRows, Geometry.rows, memberRows]
  split
  case isTrue none => rw [none, rowsFrom]
  case isFalse => rfl

theorem exact_separator (any : node.methods.length ≠ 0) :
    (geometry.exactRows node top).separator = some (geometry.behindAttributes node top - 5) := by
  rw [Geometry.exactRows, Geometry.rows, memberRows, if_neg any]
  rfl

/-- The cursor behind the methods stands at a fixed distance from the lower edge. -/
theorem behind_methods_eq :
    behindRows (geometry.behindAttributes node top + 10) (geometry.lineHeight : Int)
        node.methods.length =
      top + geometry.classHeight node - 15 + geometry.lineHeight := by
  rw [behind_rows_eq, Geometry.behindAttributes, behind_rows_eq, Geometry.firstRow, class_height_eq]
  ring

section Rows

variable {geometry : Geometry} {node : ClassNode} {top : Int}

theorem attribute_row_between (listed : y ∈ (geometry.exactRows node top).attributes) :
    geometry.firstRow top ≤ y ∧ y + geometry.lineHeight ≤ geometry.behindAttributes node top := by
  rw [exact_attributes] at listed
  exact row_between (Int.natCast_nonneg _) listed

theorem method_row_between (listed : y ∈ (geometry.exactRows node top).methods) :
    geometry.behindAttributes node top + 10 ≤ y ∧ y ≤ top + geometry.classHeight node - 15 := by
  rw [exact_methods] at listed
  have between := row_between (Int.natCast_nonneg _) listed
  rw [behind_methods_eq] at between
  omega

theorem last_attribute_row (last : (geometry.exactRows node top).attributes.getLast? = some y) :
    geometry.behindAttributes node top = y + geometry.lineHeight := by
  rw [exact_attributes] at last
  exact last_row last

theorem first_method_row (first : (geometry.exactRows node top).methods.head? = some y) :
    y = geometry.behindAttributes node top + 10 := by
  rw [exact_methods] at first
  exact first_row first

end Rows

/-- Neither section is less than empty, so the cursor never moves up. -/
theorem rows_have_room : geometry.firstRow top ≤ geometry.behindAttributes node top ∧
    geometry.behindAttributes node top ≤
      top + geometry.classHeight node - 25 + geometry.lineHeight := by
  have attributes := Int.mul_nonneg (Int.natCast_nonneg node.attributes.length)
    (Int.natCast_nonneg geometry.lineHeight)
  have methods := Int.mul_nonneg (Int.natCast_nonneg node.methods.length)
    (Int.natCast_nonneg geometry.lineHeight)
  rw [Geometry.behindAttributes, behind_rows_eq, class_height_eq, Geometry.firstRow]
  omega

theorem exact_rows_keep_inside :
    KeepsInside geometry node top (geometry.exactRows node top) := by
  have down : (0 : Int) ≤ geometry.lineHeight := Int.natCast_nonneg _
  have room := rows_have_room geometry node top
  constructor
  case fit =>
    have fit := memberRows_fit top (geometry.headerHeight : Int) geometry.lineHeight
      (node.attributes.map Attribute.line) (node.methods.map Method.line)
    simpa [Geometry.exactRows, Geometry.rows] using fit
  case inside =>
    intro y listed
    change geometry.firstRow top ≤ y ∧ _
    rcases List.mem_append.mp listed with ofAttribute | ofMethod
    · have between := attribute_row_between ofAttribute
      omega
    · have between := method_row_between ofMethod
      omega
  case ordered =>
    rw [List.pairwise_append]
    refine ⟨?_, ?_, ?_⟩
    · rw [exact_attributes]
      exact rows_ordered down
    · rw [exact_methods]
      exact rows_ordered down
    · intro upper above lower below
      have ofAttribute := attribute_row_between above
      have ofMethod := method_row_between below
      omega
  case attributesApart =>
    rw [exact_attributes]
    exact rows_evenly_spaced _ _ _
  case methodsApart =>
    rw [exact_methods]
    exact rows_evenly_spaced _ _ _
  case sectionsApart =>
    intro last isLast first isFirst
    have cursor := last_attribute_row isLast
    have below := first_method_row isFirst
    omega
  case separated =>
    intro roomy last isLast first isFirst
    have cursor := last_attribute_row isLast
    have below := first_method_row isFirst
    have any : node.methods.length ≠ 0 := by
      intro none
      rw [exact_methods, none, rowsFrom] at isFirst
      cases isFirst
    refine ⟨_, exact_separator geometry node top any, ?_⟩
    omega

end ExactRows

/-! ## Rows of a drawing -/

/-- A text element at this baseline. -/
def WritesAt (content : String) (y : Float32) (element : Markup) : Prop :=
  WritesText content element ∧ ("y", coordinate y) ∈ element.attributes

/-- A level line. -/
def RunsAt (y : Float32) (element : Markup) : Prop :=
  ("y1", coordinate y) ∈ element.attributes ∧ ("y2", coordinate y) ∈ element.attributes

/-- A group that writes the members of a class in these rows below its name, and draws the second
separator there. -/
structure WritesRows (node : ClassNode) (rows : MemberRows Float32) (group : Markup) : Prop where
  members : List.Forall₂ (fun (line, y) element => WritesAt line y element)
    ((node.attributes.map Attribute.line).zip rows.attributes ++
      (node.methods.map Method.line).zip rows.methods)
    (group.named "text").tail
  separators : List.Forall₂ RunsAt rows.separator.toList (group.named "line").tail

theorem member_texts_write_at (box : ClassBox) (slant : List (String × String))
    (lines : List String) (rows : List Float32) :
    List.Forall₂ (fun (line, y) element => WritesAt line y element) (lines.zip rows)
      (List.zipWith (memberText box slant) lines rows) := by
  induction lines generalizing rows with
  | nil => exact .nil
  | cons line lines ih =>
    cases rows with
    | nil => exact .nil
    | cons y rows => exact .cons ⟨⟨_, rfl⟩, by simp [memberText, Markup.textElement]⟩ (ih rows)

theorem box_group_writes_rows (geometry : Geometry) (node : ClassNode)
    (houses : Houses geometry node box) :
    WritesRows node (geometry.rows Float32.ofNat node box.y) (boxGroup geometry box) := by
  have lengths : box.attributes.length = node.attributes.length ∧
      box.methods.length = node.methods.length := by
    rw [houses.attributes, houses.methods, List.length_map, List.length_map]
    exact ⟨rfl, rfl⟩
  have fit : RowsFit (geometry.rows Float32.ofNat node box.y) box.attributes box.methods := by
    rw [Geometry.rows, ← lengths.1, ← lengths.2]
    exact memberRows_fit _ _ _ _ _
  have same : boxGroup geometry box = .element "g" [("class", "uml-class")]
      (boxChildren box (Float32.ofNat geometry.headerHeight)
        (geometry.rows Float32.ofNat node box.y)) := by
    rw [Geometry.rows, ← lengths.1, ← lengths.2]
    rfl
  rw [same]
  constructor
  · rw [Markup.named_element, if_neg (by decide), List.nil_append,
      boxChildren_texts_named _ fit, List.tail_cons, ← houses.attributes, ← houses.methods]
    exact List.rel_append (member_texts_write_at box [] _ _) (member_texts_write_at box italic _ _)
  · rw [Markup.named_element, if_neg (by decide), List.nil_append,
      boxChildren_lines_named _ fit, List.tail_cons]
    cases (geometry.rows Float32.ofNat node box.y).separator with
    | none => exact .nil
    | some y => exact .cons ⟨by simp [separatorLine], by simp [separatorLine]⟩ .nil

/-- The members of a class are written in the rows that its measures give, in a box as high as they
need. Counted in exact numbers, these rows never leave the box: they lie between the header and the
lower edge, in order and evenly spaced, with the separator between the sections. -/
theorem members_stay_in_boxes (geometry : Geometry) :
    (∀ diagram : Diagram, List.Forall₂ (fun node box =>
        box.height = Float32.ofNat (geometry.classHeight node) ∧
          WritesRows node (geometry.rows Float32.ofNat node box.y) (boxGroup geometry box))
      diagram.order (geometry.place diagram.ranked)) ∧
    ∀ (node : ClassNode) (top : Int), KeepsInside geometry node top (geometry.exactRows node top) := by
  refine ⟨fun diagram => ?_, exact_rows_keep_inside geometry⟩
  exact (place_houses geometry diagram).imp fun node box houses =>
    ⟨houses.height, box_group_writes_rows geometry node houses⟩

end ClassChart
