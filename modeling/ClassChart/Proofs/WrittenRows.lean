import ClassChart.Proofs.Baselines
import ClassChart.Proofs.WholeCoordinates

/-! The written rows of a class. The rows of a drawing are computed in 32-bit numbers, and the exact
rows in whole ones. For a box whose upper edge is a whole number, not too far from the origin, they
are the same rows, so what a drawing writes are the decimal digits of rows that stay in the box. -/
namespace ClassChart

open Markup (named)

/-! ## Rows of whole numbers -/

theorem rows_are_whole (isStart : 0 < count → IsWhole start first)
    (isStep : 0 < count → IsWhole step line)
    (near : ∀ row ∈ rowsFrom first line count, row.natAbs < 2 ^ 24) :
    List.Forall₂ IsWhole (rowsFrom start step count) (rowsFrom first line count) := by
  induction count generalizing start first with
  | zero => exact .nil
  | succ count ih =>
    have isFirst := isStart (Nat.succ_pos count)
    have isLine := isStep (Nat.succ_pos count)
    refine .cons isFirst (ih ?_ (fun _ => isLine) fun row later => near row (.tail first later))
    intro more
    refine isFirst.add isLine (near _ (.tail first ?_))
    cases count with
    | zero => cases more
    | succ count => exact .head _

/-- The cursor behind whole rows is whole. -/
theorem cursor_is_whole (isStart : IsWhole start first) (isStep : IsWhole step line)
    (down : 0 ≤ line) (near : behindRows first line count < 2 ^ 24) :
    IsWhole (behindRows start step count) (behindRows first line count) := by
  induction count generalizing start first with
  | zero => exact isStart
  | succ count ih =>
    have room : 0 ≤ (count : Int) * line := Int.mul_nonneg (Int.natCast_nonneg count) down
    have small := isStart.small
    refine ih (isStart.add isStep ?_) near
    rw [behindRows, behind_rows_eq] at near
    omega

/-- Rows that are these whole numbers. -/
structure WholeRows (rows : MemberRows Float32) (exact : MemberRows Int) : Prop where
  attributes : List.Forall₂ IsWhole rows.attributes exact.attributes
  separator : List.Forall₂ IsWhole rows.separator.toList exact.separator.toList
  methods : List.Forall₂ IsWhole rows.methods exact.methods

/-- A box within `2 ^ 23` of the origin, whose upper edge is at the whole number `top`. -/
structure LiesNear (geometry : Geometry) (node : ClassNode) (y : Float32) (top : Int) : Prop where
  isTop : IsWhole y top
  above : -2 ^ 23 ≤ top
  below : top + geometry.classHeight node ≤ 2 ^ 23

/-- A class with members has room for its header and one line. -/
theorem class_height_of_member (geometry : Geometry)
    (any : 0 < node.attributes.length + node.methods.length) :
    geometry.headerHeight + geometry.lineHeight + 25 ≤ geometry.classHeight node := by
  have lines := Nat.mul_le_mul_right geometry.lineHeight any
  have height := class_height_eq geometry node
  rw [Nat.add_mul, Nat.succ_mul] at lines
  omega

/-- Where methods follow, the cursor behind the attributes is still in the box. -/
theorem behind_attributes_inside (geometry : Geometry) (top : Int) (any : 0 < node.methods.length) :
    top ≤ geometry.behindAttributes node top ∧
      geometry.behindAttributes node top ≤ top + geometry.classHeight node - 25 := by
  have lines := Nat.mul_le_mul_right geometry.lineHeight any
  have room := (rows_have_room geometry node top).1
  have cursor := behind_methods_eq geometry node top
  rw [behind_rows_eq] at cursor
  rw [Nat.succ_mul] at lines
  rw [Geometry.firstRow] at room
  omega

/-- The row of the first member as it is drawn. -/
def Geometry.drawnFirstRow (geometry : Geometry) (y : Float32) : Float32 :=
  y + Float32.ofNat geometry.headerHeight + Float32.ofNat geometry.lineHeight

section NearRows
variable (near : LiesNear geometry node y top)
include near

theorem first_row_is_whole (any : 0 < node.attributes.length + node.methods.length) :
    IsWhole (geometry.drawnFirstRow y) (geometry.firstRow top) := by
  have room := class_height_of_member geometry any
  have above := near.above
  have below := near.below
  refine (near.isTop.add (whole_of_nat ?_) ?_).add (whole_of_nat ?_) ?_ <;> omega

theorem line_is_whole (any : 0 < node.attributes.length + node.methods.length) :
    IsWhole (Float32.ofNat geometry.lineHeight) geometry.lineHeight := by
  have room := class_height_of_member geometry any
  have above := near.above
  have below := near.below
  exact whole_of_nat (by omega)

theorem behind_attributes_is_whole (any : 0 < node.methods.length) :
    IsWhole (behindRows (geometry.drawnFirstRow y) (Float32.ofNat geometry.lineHeight)
      node.attributes.length) (geometry.behindAttributes node top) := by
  have member : 0 < node.attributes.length + node.methods.length := Nat.add_pos_right _ any
  have inside := behind_attributes_inside geometry top any
  have below := near.below
  refine cursor_is_whole (first_row_is_whole near member) (line_is_whole near member)
    (Int.natCast_nonneg _) ?_
  change geometry.behindAttributes node top < _
  omega

theorem exact_row_is_near (listed : row ∈ (geometry.exactRows node top).attributes ++
    (geometry.exactRows node top).methods) : row.natAbs < 2 ^ 24 := by
  have inside := (exact_rows_keep_inside geometry node top).inside row listed
  have above := near.above
  have below := near.below
  omega

/-- Near the origin no row is rounded. -/
theorem rows_are_exact :
    WholeRows (geometry.rows Float32.ofNat node y) (geometry.exactRows node top) := by
  have attributes : List.Forall₂ IsWhole
      (rowsFrom (geometry.drawnFirstRow y) (Float32.ofNat geometry.lineHeight)
        node.attributes.length) (geometry.exactRows node top).attributes := by
    rw [exact_attributes]
    refine rows_are_whole (fun any => first_row_is_whole near (Nat.add_pos_left any _))
      (fun any => line_is_whole near (Nat.add_pos_left any _)) fun row listed => ?_
    rw [← exact_attributes] at listed
    exact exact_row_is_near near (List.mem_append_left _ listed)
  rw [Geometry.rows, memberRows]
  by_cases none : node.methods.length = 0
  · rw [if_pos none]
    refine ⟨attributes, ?_, ?_⟩
    · simp [Geometry.exactRows, Geometry.rows, memberRows, none]
    · simp [Geometry.exactRows, Geometry.rows, memberRows, none]
  · have any := Nat.pos_of_ne_zero none
    have cursor := behind_attributes_is_whole near any
    have isStep := line_is_whole near (Nat.add_pos_right node.attributes.length any)
    have inside := behind_attributes_inside geometry top any
    have above := near.above
    have below := near.below
    rw [if_neg none]
    refine ⟨attributes, ?_, ?_⟩
    · rw [exact_separator geometry node top none]
      exact .cons (cursor.sub (whole_of_nat (by decide)) (by omega)) .nil
    · rw [exact_methods]
      refine rows_are_whole (fun _ => cursor.add (whole_of_nat (by decide)) (by omega))
        (fun _ => isStep) fun row listed => ?_
      rw [← exact_methods] at listed
      exact exact_row_is_near near (List.mem_append_right _ listed)

end NearRows

/-! ## Written rows -/

/-- A text element at this exact baseline. -/
def WritesAtWhole (content : String) (row : Int) (element : Markup) : Prop :=
  WritesText content element ∧ ("y", toString row) ∈ element.attributes

/-- A level line at this exact height. -/
def RunsAtWhole (row : Int) (element : Markup) : Prop :=
  ("y1", toString row) ∈ element.attributes ∧ ("y2", toString row) ∈ element.attributes

/-- A group that writes the members of a class in these exact rows. -/
structure WritesWholeRows (node : ClassNode) (rows : MemberRows Int) (group : Markup) : Prop where
  members : List.Forall₂ (fun (line, row) element => WritesAtWhole line row element)
    ((node.attributes.map Attribute.line).zip rows.attributes ++
      (node.methods.map Method.line).zip rows.methods)
    (group.named "text").tail
  separators : List.Forall₂ RunsAtWhole rows.separator.toList (group.named "line").tail

theorem written_at_whole (isWhole : IsWhole y row) (writes : WritesAt line y element) :
    WritesAtWhole line row element := by
  rw [WritesAt, coordinate_of_whole isWhole] at writes
  exact writes

theorem runs_at_whole (isWhole : IsWhole y row) (runs : RunsAt y element) :
    RunsAtWhole row element := by
  rw [RunsAt, coordinate_of_whole isWhole] at runs
  exact runs

theorem forall₂_through {between : α → β → Prop} {holds : β → γ → Prop} {result : α → γ → Prop}
    (step : ∀ a b c, between a b → holds b c → result a c) (firsts : List.Forall₂ between as bs)
    (seconds : List.Forall₂ holds bs cs) : List.Forall₂ result as cs := by
  induction firsts generalizing cs with
  | nil =>
    cases seconds
    exact .nil
  | cons first _ ih =>
    cases seconds with
    | cons second rest => exact .cons (step _ _ _ first second) (ih rest)

theorem zip_with_whole (lines : List String) (whole : List.Forall₂ IsWhole ys rows) :
    List.Forall₂ (fun (line, row) (other, y) => line = other ∧ IsWhole y row)
      (lines.zip rows) (lines.zip ys) := by
  induction lines generalizing ys rows with
  | nil => exact .nil
  | cons line lines ih =>
    cases whole with
    | nil => exact .nil
    | cons isWhole rest => exact .cons ⟨rfl, isWhole⟩ (ih rest)

/-- What is written in some rows is written in the whole numbers that they are. -/
theorem writes_whole_rows (whole : WholeRows rows exactRows) (writes : WritesRows node rows group) :
    WritesWholeRows node exactRows group := by
  constructor
  case members =>
    have sameLines := List.rel_append
      (zip_with_whole (node.attributes.map Attribute.line) whole.attributes)
      (zip_with_whole (node.methods.map Method.line) whole.methods)
    refine forall₂_through (fun (line, row) (other, y) element same writesAt => ?_) sameLines
      writes.members
    obtain ⟨rfl, isWhole⟩ := same
    exact written_at_whole isWhole writesAt
  case separators =>
    have sameRow : List.Forall₂ (fun row y => IsWhole y row)
        exactRows.separator.toList rows.separator.toList := whole.separator.flip
    refine forall₂_through ?_ sameRow writes.separators
    intro row y element isWhole runs
    exact runs_at_whole isWhole runs

/-- Every box near the origin is written with the decimal digits of its exact rows, and these stay
inside it. -/
theorem exact_rows_are_written (geometry : Geometry) (diagram : Diagram) :
    List.Forall₂ (fun node box => ∀ top, LiesNear geometry node box.y top →
        WritesWholeRows node (geometry.exactRows node top) (boxGroup geometry box) ∧
          KeepsInside geometry node top (geometry.exactRows node top))
      diagram.order (geometry.place diagram.ranked) :=
  (place_houses geometry diagram).imp fun node _ houses top near =>
    ⟨writes_whole_rows (rows_are_exact near) (box_group_writes_rows geometry node houses),
      exact_rows_keep_inside geometry node top⟩

/-- The box in the centre has its upper edge at a whole number. -/
theorem central_box_is_whole (geometry : Geometry) (count height : Nat)
    (canvas : geometry.height < 2 ^ 24) (small : height < 2 ^ 24) :
    IsWhole (geometry.corner 0 count height).y (geometry.height / 2 - height / 2 : Int) := by
  refine (whole_of_nat ?_).sub (whole_of_nat ?_) ?_ <;> omega

end ClassChart
