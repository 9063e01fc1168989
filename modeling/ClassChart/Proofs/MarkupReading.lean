import ClassChart.Proofs.MarkupTree
import Mathlib.Data.List.Basic

/-! A reader of markup that is independent of printing. It cuts a text into tags and the runs of
text between them, decodes the references to characters, and builds the tree that the tags nest. The
line breaks that printing puts around nodes are read as text like any other and can be dropped from
the tree afterwards. -/
namespace ClassChart.MarkupReading

/-! ## Runs of text -/

/-- A text before and behind the first of these marks in it. -/
def cutAt? (mark : Char) : List Char → Option (List Char × List Char)
  | [] => none
  | c :: rest =>
    if c = mark then some ([], rest)
    else (cutAt? mark rest).map fun (before, behind) => (c :: before, behind)

theorem cut_shorter (cut : cutAt? mark text = some (before, behind)) :
    behind.length < text.length := by
  induction text generalizing before with
  | nil => cases cut
  | cons c rest ih =>
    rw [cutAt?] at cut
    split at cut
    · cases cut
      simp
    · obtain ⟨⟨earlier, later⟩, deeper, same⟩ := Option.map_eq_some_iff.mp cut
      cases same
      have shorter := ih deeper
      rw [List.length_cons]
      omega

/-- The characters that are written by a reference, under the names they are referred to by. -/
def references : List (List Char × Char) :=
  [(['a', 'm', 'p'], '&'), (['l', 't'], '<'), (['g', 't'], '>'),
    (['q', 'u', 'o', 't'], '"'), (['a', 'p', 'o', 's'], '\x27')]

/-- The characters that a run of text stands for. A bracket that opens a tag is no text, and an
ampersand only begins a reference to a known character. -/
def decode : List Char → Option (List Char)
  | [] => some []
  | c :: rest =>
    if c = '<' then none
    else if c = '&' then
      match _ : cutAt? ';' rest with
      | none => none
      | some (name, behind) =>
        (references.lookup name).bind fun meant => (decode behind).map (meant :: ·)
    else (decode rest).map (c :: ·)
termination_by text => text.length
decreasing_by
  · have shorter := cut_shorter ‹_›
    simp only [List.length_cons]
    omega
  · simp

/-! ## Names and attributes -/

/-- A character of a name. -/
def isNamePart (c : Char) : Bool :=
  c.isAlphanum || ['-', '_', ':', '.'].contains c

/-- A name begins with a letter. -/
def isName (name : List Char) : Bool :=
  name.head?.any Char.isAlpha && name.all isNamePart

/-- The name at the beginning of a text, and the text behind it. -/
def readName? (text : List Char) : Option (String × List Char) :=
  if isName (text.takeWhile isNamePart) then
    some (String.ofList (text.takeWhile isNamePart), text.dropWhile isNamePart)
  else none

theorem name_behind (named : readName? text = some (name, behind)) :
    behind = text.dropWhile isNamePart := by
  unfold readName? at named
  split at named <;> cases named
  rfl

theorem name_no_longer (named : readName? text = some (name, behind)) :
    behind.length ≤ text.length := by
  rw [name_behind named]
  exact (List.dropWhile_suffix isNamePart).length_le

/-- An attribute and the text behind it. The value stands in quotes. -/
def readAttribute? (text : List Char) : Option ((String × String) × List Char) :=
  match readName? text with
  | some (key, '=' :: '"' :: quoted) =>
    match cutAt? '"' quoted with
    | some (value, behind) =>
      (decode value).map fun value => ((key, String.ofList value), behind)
    | none => none
  | _ => none

theorem attribute_shorter (read : readAttribute? text = some (entry, behind)) :
    behind.length < text.length := by
  unfold readAttribute? at read
  split at read
  case h_1 key quoted named =>
    split at read
    case h_1 value later cut =>
      obtain ⟨decoded, -, same⟩ := Option.map_eq_some_iff.mp read
      cases same
      have shorter := cut_shorter cut
      have within := name_no_longer named
      simp only [List.length_cons] at within
      omega
    case h_2 => cases read
  case h_2 => cases read

/-- The attributes at the beginning of a text, each behind a space, and the text behind them. -/
def readAttributes (text : List Char) : Option (List (String × String) × List Char) :=
  match text with
  | ' ' :: rest =>
    match _ : readAttribute? rest with
    | some (entry, behind) =>
      (readAttributes behind).map fun (entries, later) => (entry :: entries, later)
    | none => none
  | text => some ([], text)
termination_by text.length
decreasing_by
  have shorter := attribute_shorter ‹_›
  simp only [List.length_cons]
  omega

theorem attributes_no_longer (read : readAttributes text = some (entries, behind)) :
    behind.length ≤ text.length := by
  fun_induction readAttributes text generalizing entries with
  | case1 rest entry later first ih =>
    obtain ⟨⟨others, last⟩, deeper, same⟩ := Option.map_eq_some_iff.mp read
    cases same
    have shorter := attribute_shorter first
    have within := ih deeper
    simp only [List.length_cons]
    omega
  | case2 => cases read
  | case3 =>
    cases read
    exact Nat.le_refl _

/-! ## Marks -/

/-- What a text of markup is a sequence of: tags, and the runs of text between them. -/
inductive Mark where
  | opening (name : String) (attributes : List (String × String))
  | closing (name : String)
  | empty (name : String) (attributes : List (String × String))
  | run (content : String)
  deriving DecidableEq

/-- A tag that opens an element or is all of it, behind its bracket. No attribute is given twice. -/
def readTag? (text : List Char) : Option (Mark × List Char) := do
  let (name, behind) ← readName? text
  let (attributes, behind) ← readAttributes behind
  if (attributes.map (·.1)).Nodup then
    match behind with
    | '>' :: rest => some (.opening name attributes, rest)
    | '/' :: '>' :: rest => some (.empty name attributes, rest)
    | _ => none
  else none

/-- A tag that closes an element, behind its bracket and slash. -/
def readClosing? (text : List Char) : Option (Mark × List Char) :=
  match readName? text with
  | some (name, '>' :: rest) => some (.closing name, rest)
  | _ => none

/-- The first mark of a text and the text behind it. -/
def firstMark? (text : List Char) : Option (Mark × List Char) :=
  match text with
  | '<' :: '/' :: rest => readClosing? rest
  | '<' :: rest => readTag? rest
  | text =>
    (decode (text.takeWhile (· ≠ '<'))).map fun content =>
      (.run (String.ofList content), text.dropWhile (· ≠ '<'))

theorem tag_shorter (read : readTag? text = some (mark, behind)) :
    behind.length < text.length := by
  obtain ⟨⟨name, afterName⟩, named, within⟩ := Option.bind_eq_some_iff.mp read
  obtain ⟨⟨attributes, last⟩, listed, ends⟩ := Option.bind_eq_some_iff.mp within
  have nameWithin := name_no_longer named
  have attributesWithin := attributes_no_longer listed
  have closes : behind.length < last.length := by
    dsimp only at ends
    split at ends
    · split at ends
      · cases ends
        simp only [List.length_cons]
        omega
      · cases ends
        simp only [List.length_cons]
        omega
      · cases ends
    · cases ends
  omega

theorem closing_shorter (read : readClosing? text = some (mark, behind)) :
    behind.length < text.length := by
  unfold readClosing? at read
  split at read
  case h_1 name rest named =>
    cases read
    have within := name_no_longer named
    rw [List.length_cons] at within
    omega
  case h_2 => cases read

/-- Every mark covers something. -/
theorem mark_shorter (read : firstMark? (c :: text) = some (mark, behind)) :
    behind.length < (c :: text).length := by
  unfold firstMark? at read
  split at read
  case h_1 rest same =>
    cases same
    have shorter := closing_shorter read
    simp only [List.length_cons]
    omega
  case h_2 rest same =>
    cases same
    have shorter := tag_shorter read
    simp only [List.length_cons]
    omega
  case h_3 noTag =>
    obtain ⟨content, -, same⟩ := Option.map_eq_some_iff.mp read
    cases same
    have other : c ≠ '<' := by
      rintro rfl
      exact noTag text rfl
    rw [List.dropWhile_cons_of_pos (by simpa using other), List.length_cons]
    exact Nat.lt_succ_of_le (List.dropWhile_suffix _).length_le

/-- The marks of a text. -/
def readMarks (text : List Char) : Option (List Mark) :=
  match text with
  | [] => some []
  | c :: rest =>
    match _ : firstMark? (c :: rest) with
    | some (mark, behind) => (readMarks behind).map (mark :: ·)
    | none => none
termination_by text.length
decreasing_by exact mark_shorter ‹_›

/-! ## Building the tree -/

/-- An element whose end has not been read yet. -/
structure OpenElement where
  name : String
  attributes : List (String × String)
  children : List Markup

/-- The element with more children. -/
def OpenElement.hold (opened : OpenElement) (children : List Markup) : OpenElement :=
  { opened with children := opened.children ++ children }

/-- The element when its end has been read. -/
def OpenElement.tree (opened : OpenElement) : Markup :=
  .element opened.name opened.attributes opened.children

/-- How far a tree has been read. -/
inductive Progress where
  | before
  | inside (innermost : OpenElement) (around : List OpenElement)
  | complete (root : Markup)

/-- The element that ends becomes a child of the one around it, and the root if there is none. -/
def Progress.close (innermost : OpenElement) : List OpenElement → Progress
  | [] => .complete innermost.tree
  | next :: further => .inside (next.hold [innermost.tree]) further

/-- Reads one more mark. Nothing but one element stands outside of elements, and the end of an
element carries its name. -/
def Progress.step : Progress → Mark → Option Progress
  | .before, .opening name attributes => some (.inside ⟨name, attributes, []⟩ [])
  | .before, .empty name attributes => some (.complete (.element name attributes []))
  | .inside innermost around, .opening name attributes =>
    some (.inside ⟨name, attributes, []⟩ (innermost :: around))
  | .inside innermost around, .empty name attributes =>
    some (.inside (innermost.hold [.element name attributes []]) around)
  | .inside innermost around, .run content =>
    some (.inside (innermost.hold [.text content]) around)
  | .inside innermost around, .closing name =>
    if name = innermost.name then some (.close innermost around) else none
  | _, _ => none

/-- The tree of a row of marks. -/
def build (row : List Mark) : Option Markup :=
  match row.foldlM Progress.step .before with
  | some (.complete root) => some root
  | _ => none

/-! ## Reading -/

/-- The tree that a text of markup stands for. -/
def readMarkup (source : String) : Option Markup :=
  (readMarks source.toList).bind build

/-- An unclosed element, an ampersand without a reference, and a second root are not read. -/
example : readMarkup "<a>x<b></a>" = none ∧ readMarkup "<a>x & y</a>" = none ∧
    readMarkup "<a>x</a><a/>" = none := by decide +kernel

/-- What stands between the line breaks around a run of text. A run of nothing but the line break
between two elements holds no text. -/
def betweenBreaks (content : String) : List Markup :=
  match content.toList with
  | ['\n'] => []
  | '\n' :: rest =>
    if rest.getLast? = some '\n' then [.text (String.ofList rest.dropLast)] else [.text content]
  | _ => [.text content]

mutual

/-- A tree without the line breaks that printing puts around its nodes. -/
def withoutBreaks : Markup → Markup
  | .text content => .text content
  | .element name attributes children => .element name attributes (withoutBreaksIn children)

/-- Nodes without the line breaks around them. -/
def withoutBreaksIn : List Markup → List Markup
  | [] => []
  | .text content :: rest => betweenBreaks content ++ withoutBreaksIn rest
  | .element name attributes children :: rest =>
    withoutBreaks (.element name attributes children) :: withoutBreaksIn rest

end

end ClassChart.MarkupReading
