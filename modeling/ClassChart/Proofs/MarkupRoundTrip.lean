import ClassChart.Proofs.MarkupReading

/-! Reading undoes the printing of every tree whose names are names, whatever texts and values the
tree holds: no text can be taken for markup. A printed tree is first read with the line breaks
around its nodes, and dropping those gives back the tree. -/
namespace ClassChart.MarkupReading

/-! ## Escaped text -/

theorem cut_append (free : mark ∉ before) (behind : List Char) :
    cutAt? mark (before ++ mark :: behind) = some (before, behind) := by
  induction before with
  | nil => simp [cutAt?]
  | cons c before ih =>
    rw [List.mem_cons, not_or] at free
    rw [List.cons_append, cutAt?, if_neg (Ne.symm free.1), ih free.2]
    rfl

theorem decode_plain (noTag : c ≠ '<') (noReference : c ≠ '&') (rest : List Char) :
    decode (c :: rest) = (decode rest).map (c :: ·) := by
  rw [decode, if_neg noTag, if_neg noReference]

theorem decode_reference (name : List Char) (known : references.lookup name = some meant)
    (free : ';' ∉ name) (rest : List Char) :
    decode ('&' :: name ++ ';' :: rest) = (decode rest).map (meant :: ·) := by
  have cut := cut_append free rest
  rw [List.cons_append, decode, if_neg (by decide), if_pos rfl]
  split
  case h_1 missing => simp [cut] at missing
  case h_2 found =>
    obtain ⟨rfl, rfl⟩ := by simpa [cut] using found
    rw [known]
    rfl

theorem decode_escaped_text (c : Char) (rest : List Char) :
    decode (Markup.escapeInText c ++ rest) = (decode rest).map (c :: ·) := by
  unfold Markup.escapeInText
  split
  · exact decode_reference ['a', 'm', 'p'] rfl (by decide) rest
  · exact decode_reference ['l', 't'] rfl (by decide) rest
  · exact decode_reference ['g', 't'] rfl (by decide) rest
  · exact decode_plain ‹_› ‹_› rest

theorem decode_escaped_value (c : Char) (rest : List Char) :
    decode (Markup.escapeInValue c ++ rest) = (decode rest).map (c :: ·) := by
  unfold Markup.escapeInValue
  split
  · exact decode_reference ['q', 'u', 'o', 't'] rfl (by decide) rest
  · exact decode_reference ['a', 'p', 'o', 's'] rfl (by decide) rest
  · exact decode_escaped_text _ rest

/-- Escaping is undone character by character. -/
theorem decode_escaped (escape : Char → List Char)
    (undone : ∀ c rest, decode (escape c ++ rest) = (decode rest).map (c :: ·))
    (content : List Char) : decode (content.flatMap escape) = some content := by
  induction content with
  | nil => simp [decode]
  | cons c content ih =>
    rw [List.flatMap_cons, undone, ih]
    rfl

theorem bracket_escaped (c : Char) : '<' ∉ Markup.escapeInText c := by
  unfold Markup.escapeInText
  split
  · decide
  · decide
  · decide
  · intro inside
    exact absurd (List.mem_singleton.mp inside).symm ‹_›

theorem quote_escaped (c : Char) : '"' ∉ Markup.escapeInValue c := by
  unfold Markup.escapeInValue Markup.escapeInText
  split
  · decide
  · decide
  · split
    · decide
    · decide
    · decide
    · intro inside
      exact absurd (List.mem_singleton.mp inside).symm ‹_›

/-- A character that is escaped does not occur in escaped text. -/
theorem free_of_escaped (escaped : ∀ c, mark ∉ escape c) (content : List Char) :
    mark ∉ content.flatMap escape := by
  intro inside
  obtain ⟨c, -, within⟩ := List.mem_flatMap.mp inside
  exact escaped c within

/-! ## Names and attributes -/

theorem attributes_end (ends : text.head? ≠ some ' ') : readAttributes text = some ([], text) := by
  rw [readAttributes]
  intro later same
  rw [same] at ends
  exact ends rfl

theorem attributes_go_on (read : readAttribute? text = some (entry, behind)) :
    readAttributes (' ' :: text) =
      (readAttributes behind).map fun (entries, later) => (entry :: entries, later) := by
  rw [readAttributes]
  split
  case h_1 found =>
    cases read.symm.trans found
    rfl
  case h_2 missing => cases read.symm.trans missing

theorem name_append (named : isName name.toList = true) (rest : List Char)
    (ends : ∀ c ∈ rest.head?, isNamePart c = false) :
    readName? (name.toList ++ rest) = some (name, rest) := by
  have parts : ∀ c ∈ name.toList, isNamePart c = true := by
    rw [isName, Bool.and_eq_true] at named
    exact List.all_eq_true.mp named.2
  have stop : rest.takeWhile isNamePart = [] ∧ rest.dropWhile isNamePart = rest := by
    cases rest with
    | nil => simp
    | cons c rest => simp [ends c rfl]
  rw [readName?, List.takeWhile_append_of_pos parts, List.dropWhile_append_of_pos parts, stop.1,
    stop.2, List.append_nil, if_pos named, String.ofList_toList]

theorem attribute_append (named : isName entry.1.toList = true) (rest : List Char) :
    readAttribute? (entry.1.toList ++
      '=' :: '"' :: (entry.2.toList.flatMap Markup.escapeInValue ++ '"' :: rest)) =
      some (entry, rest) := by
  have key := name_append named
    ('=' :: '"' :: (entry.2.toList.flatMap Markup.escapeInValue ++ '"' :: rest)) (by simp; decide)
  have value := cut_append (free_of_escaped quote_escaped entry.2.toList) rest
  rw [readAttribute?, key]
  simp only [value]
  rw [decode_escaped _ decode_escaped_value, Option.map_some, String.ofList_toList]

/-- What ends a row of attributes is no space. -/
theorem attributes_append (named : ∀ key ∈ attributes.map (·.1), isName key.toList = true)
    (ends : rest.head? ≠ some ' ') :
    readAttributes (attributes.flatMap Markup.attributeChars ++ rest) =
      some (attributes, rest) := by
  induction attributes with
  | nil => exact attributes_end ends
  | cons entry attributes ih =>
    rw [List.map_cons] at named
    obtain ⟨first, others⟩ := List.forall_mem_cons.mp named
    have read := attribute_append first (attributes.flatMap Markup.attributeChars ++ rest)
    have spelled : (entry :: attributes).flatMap Markup.attributeChars ++ rest =
        ' ' :: (entry.1.toList ++ '=' :: '"' :: (entry.2.toList.flatMap Markup.escapeInValue ++
          '"' :: (attributes.flatMap Markup.attributeChars ++ rest))) := by
      simp [Markup.attributeChars]
    rw [spelled, attributes_go_on read, ih others]
    rfl

/-! ## Marks of printed trees -/

theorem marks_go_on (read : firstMark? (c :: text) = some (mark, behind)) :
    readMarks (c :: text) = (readMarks behind).map (mark :: ·) := by
  rw [readMarks]
  split
  case h_1 found =>
    cases read.symm.trans found
    rfl
  case h_2 missing => cases read.symm.trans missing

/-- The names of an element and of its attributes can be read, and no attribute is given twice. -/
structure ProperlyNamed (name : String) (keys : List String) : Prop where
  element : isName name.toList = true
  attributes : ∀ key ∈ keys, isName key.toList = true
  distinct : keys.Nodup

instance (name : String) (keys : List String) : Decidable (ProperlyNamed name keys) :=
  decidable_of_iff
    (isName name.toList = true ∧ (∀ key ∈ keys, isName key.toList = true) ∧ keys.Nodup)
    ⟨fun ⟨element, attributes, distinct⟩ => ⟨element, attributes, distinct⟩,
      fun proper => ⟨proper.element, proper.attributes, proper.distinct⟩⟩

section Tags

variable {attributes : List (String × String)}

theorem name_begins (named : isName (c :: name) = true) : c.isAlpha = true := by
  rw [isName, Bool.and_eq_true] at named
  simpa using named.1

/-- Behind the head of a tag neither the name nor the attributes go on. -/
theorem tag_head (proper : ProperlyNamed name (attributes.map (·.1))) (ends : c = '>' ∨ c = '/')
    (rest : List Char) :
    readName? (Markup.headChars name attributes ++ c :: rest) =
        some (name, attributes.flatMap Markup.attributeChars ++ c :: rest) ∧
      readAttributes (attributes.flatMap Markup.attributeChars ++ c :: rest) =
        some (attributes, c :: rest) := by
  constructor
  · rw [Markup.headChars, List.append_assoc]
    apply name_append proper.element
    cases attributes with
    | nil => rcases ends with rfl | rfl <;> simp <;> decide
    | cons entry attributes => simp [Markup.attributeChars]; decide
  · apply attributes_append proper.attributes
    rcases ends with rfl | rfl <;> simp

theorem opening_append (proper : ProperlyNamed name (attributes.map (·.1))) (rest : List Char) :
    readTag? (Markup.headChars name attributes ++ '>' :: rest) =
      some (.opening name attributes, rest) := by
  obtain ⟨named, listed⟩ := tag_head proper (.inl rfl) rest
  simp [readTag?, named, listed, proper.distinct]

theorem empty_append (proper : ProperlyNamed name (attributes.map (·.1))) (rest : List Char) :
    readTag? (Markup.headChars name attributes ++ '/' :: '>' :: rest) =
      some (.empty name attributes, rest) := by
  obtain ⟨named, listed⟩ := tag_head proper (.inr rfl) ('>' :: rest)
  simp [readTag?, named, listed, proper.distinct]

theorem closing_append (named : isName name.toList = true) (rest : List Char) :
    readClosing? (name.toList ++ '>' :: rest) = some (.closing name, rest) := by
  have read := name_append named ('>' :: rest) (by simp; decide)
  simp [readClosing?, read]

/-- A tag that is no closing one is read as such. -/
theorem first_mark_tag (begins : ∀ c ∈ text.head?, c ≠ '/') :
    firstMark? ('<' :: text) = readTag? text := by
  cases text with
  | nil => rfl
  | cons c text =>
    have noSlash : c ≠ '/' := begins c rfl
    unfold firstMark?
    split
    case h_1 same =>
      cases same
      exact absurd rfl noSlash
    case h_2 same =>
      cases same
      rfl
    case h_3 other => exact absurd rfl (other _)

theorem head_begins (named : isName name.toList = true) (attributes : List (String × String))
    (rest : List Char) :
    ∀ c ∈ (Markup.headChars name attributes ++ rest).head?, c ≠ '/' := by
  intro c begins
  cases spelled : name.toList with
  | nil =>
    rw [spelled] at named
    cases named
  | cons first later =>
    obtain rfl : first = c := by simpa [Markup.headChars, spelled] using begins
    rw [spelled] at named
    have letter := name_begins named
    rintro rfl
    revert letter
    decide

theorem marks_opening (proper : ProperlyNamed name (attributes.map (·.1))) (rest : List Char) :
    readMarks ('<' :: (Markup.headChars name attributes ++ '>' :: rest)) =
      (readMarks rest).map (.opening name attributes :: ·) := by
  apply marks_go_on
  rw [first_mark_tag (head_begins proper.element attributes _), opening_append proper]

theorem marks_empty (proper : ProperlyNamed name (attributes.map (·.1))) (rest : List Char) :
    readMarks ('<' :: (Markup.headChars name attributes ++ '/' :: '>' :: rest)) =
      (readMarks rest).map (.empty name attributes :: ·) := by
  apply marks_go_on
  rw [first_mark_tag (head_begins proper.element attributes _), empty_append proper]

theorem marks_closing (named : isName name.toList = true) (rest : List Char) :
    readMarks ('<' :: '/' :: (name.toList ++ '>' :: rest)) =
      (readMarks rest).map (.closing name :: ·) := by
  apply marks_go_on
  rw [firstMark?, closing_append named]

end Tags

/-- What begins with another character than a bracket is a run of text up to the next bracket. -/
theorem first_mark_run (other : c ≠ '<') (text : List Char) :
    firstMark? (c :: text) =
      (decode ((c :: text).takeWhile (· ≠ '<'))).map fun content =>
        (.run (String.ofList content), (c :: text).dropWhile (· ≠ '<')) := by
  unfold firstMark?
  split
  case h_1 same =>
    cases same
    exact absurd rfl other
  case h_2 same =>
    cases same
    exact absurd rfl other
  case h_3 => rfl

theorem marks_run (content : List Char) (nonempty : content ≠ []) (rest : List Char) :
    readMarks (content.flatMap Markup.escapeInText ++ '<' :: rest) =
      (readMarks ('<' :: rest)).map (.run (String.ofList content) :: ·) := by
  have decoded := decode_escaped _ decode_escaped_text content
  have free := free_of_escaped bracket_escaped content
  cases escaped : content.flatMap Markup.escapeInText with
  | nil =>
    rw [escaped, decode] at decoded
    exact absurd (Option.some.inj decoded).symm nonempty
  | cons c later =>
    rw [escaped] at decoded free
    have other : c ≠ '<' := by
      rintro rfl
      exact free (List.mem_cons_self ..)
    have inside : ∀ d ∈ c :: later, decide (d ≠ '<') = true := by
      intro d within
      rw [decide_eq_true_eq]
      rintro rfl
      exact free within
    rw [List.cons_append]
    apply marks_go_on
    rw [first_mark_run other, ← List.cons_append, List.takeWhile_append_of_pos inside,
      List.dropWhile_append_of_pos inside]
    simp [decoded]

/-! ## Line breaks around nodes -/

mutual

/-- A tree with the line breaks that printing puts around its nodes. -/
def withBreaks : Markup → Markup
  | .text content => .text content
  | .element name attributes [] => .element name attributes []
  | .element name attributes (child :: children) =>
    .element name attributes (withBreaksIn [] (child :: children))

/-- Nodes with the line breaks around them, behind text that already stands there. Texts that follow
each other grow together. -/
def withBreaksIn (pending : List Char) : List Markup → List Markup
  | [] => [.text (String.ofList (pending ++ ['\n']))]
  | .text content :: rest => withBreaksIn (pending ++ '\n' :: content.toList) rest
  | .element name attributes children :: rest =>
    .text (String.ofList (pending ++ ['\n'])) ::
      withBreaks (.element name attributes children) :: withBreaksIn [] rest

end

mutual

/-- The marks of a tree. -/
def marks : Markup → List Mark
  | .text content => [.run content]
  | .element name attributes [] => [.empty name attributes]
  | .element name attributes (child :: children) =>
    .opening name attributes :: (marks child ++ marksIn children) ++ [.closing name]

/-- The marks of trees in a row. -/
def marksIn : List Markup → List Mark
  | [] => []
  | child :: children => marks child ++ marksIn children

end

/-- The names in an element can be read back. -/
def Readable (element : Markup) : Prop :=
  ∀ name attributes children, element = .element name attributes children →
    ProperlyNamed name (attributes.map (·.1))

theorem with_breaks_some (pending : List Char) (children : List Markup) :
    withBreaksIn pending children ≠ [] := by
  induction children generalizing pending with
  | nil => simp [withBreaksIn]
  | cons child children ih =>
    cases child with
    | text content =>
      rw [withBreaksIn]
      exact ih _
    | element name attributes parts => simp [withBreaksIn]

theorem marks_of_some (some : children ≠ []) (name : String) (attributes : List (String × String)) :
    marks (.element name attributes children) =
      .opening name attributes :: (marksIn children ++ [.closing name]) := by
  cases children with
  | nil => exact absurd rfl some
  | cons child children => rw [marks, marksIn, List.cons_append]

theorem escaped_line_break (pending : List Char) :
    (pending ++ ['\n']).flatMap Markup.escapeInText =
      pending.flatMap Markup.escapeInText ++ ['\n'] := by
  rw [List.flatMap_append]
  rfl

mutual

/-- The marks of a printed element are those of the element with its line breaks. -/
theorem marks_of_element : ∀ tree : Markup, Markup.Every Readable [tree] → tree.tag?.isSome →
    ∀ rest, readMarks (tree.chars ++ rest) = (readMarks rest).map (marks (withBreaks tree) ++ ·)
  | .text _, _, isElement, _ => by cases isElement
  | .element name attributes [], readable, _, rest => by
    have proper := (Markup.every_element_iff.mp readable).1 _ _ _ rfl
    have read := marks_empty proper rest
    rw [withBreaks, marks, Markup.chars]
    simpa using read
  | .element name attributes (child :: children), readable, _, rest => by
    obtain ⟨own, parts⟩ := Markup.every_element_iff.mp readable
    have proper := own _ _ _ rfl
    have inner := marks_of_children (child :: children) parts []
      ('/' :: (name.toList ++ '>' :: rest))
    have spelled : (Markup.element name attributes (child :: children)).chars ++ rest =
        '<' :: (Markup.headChars name attributes ++ '>' :: (Markup.childrenChars
          (child :: children) ++ '\n' :: '<' :: '/' :: (name.toList ++ '>' :: rest))) := by
      simp [Markup.chars, Markup.childrenChars]
    rw [List.flatMap_nil, List.nil_append] at inner
    rw [spelled, marks_opening proper, inner, marks_closing proper.element, withBreaks,
      marks_of_some (with_breaks_some _ _)]
    cases readMarks rest <;> simp

/-- Printed children are read behind text that is pending: the line break before a child and the
texts before that line break belong to one run. -/
theorem marks_of_children : ∀ children : List Markup, Markup.Every Readable children →
    ∀ pending rest, readMarks (pending.flatMap Markup.escapeInText ++
        (Markup.childrenChars children ++ '\n' :: '<' :: rest)) =
      (readMarks ('<' :: rest)).map (marksIn (withBreaksIn pending children) ++ ·)
  | [], _, pending, rest => by
    have read := marks_run (pending ++ ['\n']) (by simp) rest
    rw [withBreaksIn, marksIn, marks, marksIn, Markup.childrenChars]
    rw [escaped_line_break] at read
    simpa using read
  | .text content :: children, readable, pending, rest => by
    have inner := marks_of_children children (Markup.every_cons_iff.mp readable).2
      (pending ++ '\n' :: content.toList) rest
    rw [withBreaksIn, ← inner, Markup.childrenChars, Markup.chars]
    simp [Markup.escapeInText]
  | .element name attributes parts :: children, readable, pending, rest => by
    obtain ⟨first, others⟩ := Markup.every_cons_iff.mp readable
    have inner := marks_of_children children others [] rest
    have own := marks_of_element (.element name attributes parts) first rfl
      (Markup.childrenChars children ++ '\n' :: '<' :: rest)
    -- the bracket of the child ends the pending run
    obtain ⟨later, opens⟩ : ∃ later,
        (Markup.element name attributes parts).chars = '<' :: later := by
      cases parts <;> exact ⟨_, rfl⟩
    have read := marks_run (pending ++ ['\n']) (by simp)
      (later ++ (Markup.childrenChars children ++ '\n' :: '<' :: rest))
    rw [List.flatMap_nil, List.nil_append] at inner
    rw [← List.cons_append, ← opens, own, inner, escaped_line_break] at read
    rw [withBreaksIn, marksIn, marks, marksIn]
    have spelled : pending.flatMap Markup.escapeInText ++
        (Markup.childrenChars (.element name attributes parts :: children) ++ '\n' :: '<' :: rest) =
        pending.flatMap Markup.escapeInText ++ ['\n'] ++
          ((Markup.element name attributes parts).chars ++
            (Markup.childrenChars children ++ '\n' :: '<' :: rest)) := by
      simp [Markup.childrenChars]
    rw [spelled, read]
    cases readMarks ('<' :: rest) <;> simp

end

/-! ## The tree of the marks -/

/-- An element is opened, its children are read into it, and it is closed. -/
theorem step_element (nonempty : children ≠ [])
    (opens : Progress.step progress (.opening name attributes) =
      some (.inside ⟨name, attributes, []⟩ around))
    (inner : (marksIn children).foldlM Progress.step (.inside ⟨name, attributes, []⟩ around) =
      some (.inside ⟨name, attributes, children⟩ around)) :
    (marks (.element name attributes children)).foldlM Progress.step progress =
      some (.close ⟨name, attributes, children⟩ around) := by
  rw [marks_of_some nonempty, List.foldlM_cons, opens, Option.bind_eq_bind, Option.bind_some,
    List.foldlM_append, inner]
  simp [Progress.step]

mutual

/-- Reading the marks of a tree adds it to the element around it. -/
theorem step_tree : ∀ (tree : Markup) (innermost : OpenElement) (around : List OpenElement),
    (marks tree).foldlM Progress.step (.inside innermost around) =
      some (.inside (innermost.hold [tree]) around)
  | .text content, innermost, around => rfl
  | .element name attributes [], innermost, around => rfl
  | .element name attributes (child :: children), innermost, around => by
    have inner := step_trees (child :: children) ⟨name, attributes, []⟩ (innermost :: around)
    exact step_element (by simp) rfl inner

theorem step_trees : ∀ (trees : List Markup) (innermost : OpenElement) (around : List OpenElement),
    (marksIn trees).foldlM Progress.step (.inside innermost around) =
      some (.inside (innermost.hold trees) around)
  | [], innermost, around => by simp [marksIn, OpenElement.hold]
  | child :: children, innermost, around => by
    rw [marksIn, List.foldlM_append, step_tree child innermost around, Option.bind_eq_bind,
      Option.bind_some, step_trees children]
    simp [OpenElement.hold]

end

theorem build_marks (name : String) (attributes : List (String × String))
    (children : List Markup) : build (marks (.element name attributes children)) =
      some (.element name attributes children) := by
  cases children with
  | nil => rfl
  | cons child children =>
    have inner := step_trees (child :: children) ⟨name, attributes, []⟩ []
    rw [build, step_element (by simp) rfl inner]
    rfl

/-! ## Reading what was printed -/

/-- An element holds one text or nothing but elements. -/
def Unmixed (element : Markup) : Prop :=
  (∃ content, element.children = [.text content]) ∨
    ∀ child ∈ element.children, child.tag?.isSome

theorem between_nodes : betweenBreaks (String.ofList ['\n']) = [] := by
  simp [betweenBreaks]

theorem between_breaks (content : List Char) :
    betweenBreaks (String.ofList ('\n' :: content ++ ['\n'])) =
      [.text (String.ofList content)] := by
  rw [betweenBreaks, String.toList_ofList]
  split
  case h_1 same => simp at same
  case h_2 rest _ same =>
    obtain rfl : content ++ ['\n'] = rest := by simpa using same
    simp
  case h_3 _ other => exact absurd rfl (other _)

theorem with_breaks_element (name : String) (attributes : List (String × String))
    (children : List Markup) : ∃ parts,
      withBreaks (.element name attributes children) = .element name attributes parts := by
  cases children with
  | nil => exact ⟨[], rfl⟩
  | cons child children => exact ⟨_, by rw [withBreaks]⟩

theorem without_breaks_cons (isElement : tree.tag?.isSome) (trees : List Markup) :
    withoutBreaksIn (tree :: trees) = withoutBreaks tree :: withoutBreaksIn trees := by
  cases tree with
  | text content => cases isElement
  | element name attributes children => rw [withoutBreaksIn]

mutual

/-- Putting line breaks around the nodes and dropping them changes nothing. -/
theorem breaks_cancel : ∀ tree : Markup, Markup.Every Unmixed [tree] →
    withoutBreaks (withBreaks tree) = tree
  | .text content, _ => rfl
  | .element name attributes [], _ => rfl
  | .element name attributes (child :: children), unmixed => by
    obtain ⟨own, parts⟩ := Markup.every_element_iff.mp unmixed
    rw [withBreaks, withoutBreaks]
    rcases own with ⟨content, single⟩ | elements
    · obtain ⟨rfl, rfl⟩ : child = .text content ∧ children = [] := by
        simpa [Markup.children] using single
      have cleared := between_breaks content.toList
      rw [String.ofList_toList] at cleared
      rw [withBreaksIn, withBreaksIn, withoutBreaksIn, List.nil_append, cleared]
      rfl
    · rw [breaks_cancel_in (child :: children) parts elements]

/-- Between elements every run is a line break, which stands for no text. -/
theorem breaks_cancel_in : ∀ children : List Markup, Markup.Every Unmixed children →
    (∀ child ∈ children, child.tag?.isSome) →
      withoutBreaksIn (withBreaksIn [] children) = children
  | [], _, _ => by
    rw [withBreaksIn, withoutBreaksIn, List.nil_append, between_nodes]
    rfl
  | .text content :: _, _, elements => by
    have noElement := elements (.text content) (List.mem_cons_self ..)
    cases noElement
  | .element name attributes parts :: children, unmixed, elements => by
    obtain ⟨first, others⟩ := Markup.every_cons_iff.mp unmixed
    have own := breaks_cancel (.element name attributes parts) first
    have rest := breaks_cancel_in children others fun child listed =>
      elements child (List.mem_cons_of_mem _ listed)
    obtain ⟨spaced, same⟩ := with_breaks_element name attributes parts
    rw [withBreaksIn, withoutBreaksIn, List.nil_append, between_nodes, List.nil_append,
      without_breaks_cons (by simp [same]), own, rest]

end

/-- Reading a printed tree gives the tree with line breaks around its nodes. -/
theorem read_print (readable : Markup.Every Readable [tree]) (isElement : tree.tag?.isSome) :
    readMarkup tree.print = some (withBreaks tree) := by
  have read := marks_of_element tree readable isElement []
  rw [List.append_nil, readMarks, Option.map_some, List.append_nil] at read
  rw [readMarkup, Markup.print, String.toList_ofList, read, Option.bind_some]
  cases tree with
  | text content => cases isElement
  | element name attributes children =>
    obtain ⟨parts, same⟩ := with_breaks_element name attributes children
    rw [same]
    exact build_marks name attributes parts

/-- Reading a printed tree and dropping the line breaks gives back the tree. -/
theorem read_print_back (readable : Markup.Every Readable [tree])
    (unmixed : Markup.Every Unmixed [tree]) (isElement : tree.tag?.isSome) :
    (readMarkup tree.print).map withoutBreaks = some tree := by
  rw [read_print readable isElement, Option.map_some, breaks_cancel tree unmixed]

end ClassChart.MarkupReading
