import ClassChart.Markup

/-! The elements of a markup tree in the order in which they begin, and what holds of all of them. -/
namespace ClassChart.Markup

/-- The name of an element. -/
def tag? : Markup → Option String
  | .element name _ _ => some name
  | .text _ => none

@[simp] theorem tag?_element (name : String) (attributes : List (String × String))
    (children : List Markup) : (element name attributes children).tag? = some name :=
  rfl

/-- The attributes of an element. -/
def attributes : Markup → List (String × String)
  | .element _ attributes _ => attributes
  | .text _ => []

@[simp] theorem attributes_element (name : String) (attributes : List (String × String))
    (children : List Markup) : (element name attributes children).attributes = attributes :=
  rfl

/-- What stands directly in an element. -/
def children : Markup → List Markup
  | .element _ _ children => children
  | .text _ => []

mutual

/-- The elements of a tree, each before the elements in it. -/
def elements : Markup → List Markup
  | .text _ => []
  | .element name attributes children =>
    .element name attributes children :: elementsIn children

/-- The elements of several trees. -/
def elementsIn : List Markup → List Markup
  | [] => []
  | child :: children => elements child ++ elementsIn children

end

theorem elementsIn_eq (children : List Markup) :
    elementsIn children = children.flatMap elements := by
  induction children with
  | nil => rfl
  | cons child children ih => rw [elementsIn, ih, List.flatMap_cons]

@[simp] theorem elements_text (content : String) : (text content).elements = [] := by
  rw [elements]

@[simp] theorem elements_element (name : String) (attributes : List (String × String))
    (children : List Markup) :
    (element name attributes children).elements =
      .element name attributes children :: children.flatMap elements := by
  rw [elements, elementsIn_eq]

/-! ## Elements by name -/

/-- The elements of a tree that have this name. -/
def named (tag : String) (tree : Markup) : List Markup :=
  tree.elements.filter (·.tag? = some tag)

@[simp] theorem named_text (tag content : String) : (text content).named tag = [] := by
  simp [named]

@[simp] theorem named_element (tag name : String) (attributes : List (String × String))
    (children : List Markup) :
    (element name attributes children).named tag =
      (if name = tag then [.element name attributes children] else []) ++
        children.flatMap (named tag) := by
  rw [named, elements_element, List.filter_cons, List.filter_flatMap]
  by_cases same : name = tag
  · simp [same]
    rfl
  · simp [same]
    rfl

/-! ## Properties of all elements -/

/-- Every element of these trees has the property. -/
def Every (holds : Markup → Prop) (trees : List Markup) : Prop :=
  ∀ element ∈ trees.flatMap elements, holds element

variable {holds : Markup → Prop}

theorem every_nothing : Every holds [] := by
  simp [Every]

theorem every_append (first : Every holds trees) (second : Every holds others) :
    Every holds (trees ++ others) := by
  intro element inside
  rw [List.flatMap_append, List.mem_append] at inside
  exact inside.elim (first element) (second element)

theorem every_cons_iff :
    Every holds (tree :: trees) ↔ Every holds [tree] ∧ Every holds trees := by
  simp [Every, or_imp, forall_and]

theorem every_each (each : ∀ tree ∈ trees, Every holds [tree]) : Every holds trees := by
  intro element inside
  obtain ⟨tree, listed, within⟩ := List.mem_flatMap.mp inside
  exact each tree listed element (by simpa using within)

theorem every_element_iff {attributes : List (String × String)} {children : List Markup} :
    Every holds [.element name attributes children] ↔
      holds (.element name attributes children) ∧ Every holds children := by
  simp [Every]

end ClassChart.Markup
