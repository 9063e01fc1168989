/-!
Markup trees and their text. An element prints its attributes in the order in which they are
given and each of its children on lines of its own; characters that would be read as markup are
written as entity references, so no text can become markup.
-/
namespace ClassChart

/-- A tree of elements and texts. -/
inductive Markup where
  | element (name : String) (attributes : List (String × String)) (children : List Markup)
  | text (content : String)

namespace Markup

/-- A character inside a text. -/
def escapeInText (c : Char) : List Char :=
  match c with
  | '&' => ['&', 'a', 'm', 'p', ';']
  | '<' => ['&', 'l', 't', ';']
  | '>' => ['&', 'g', 't', ';']
  | c => [c]

/-- A character inside the value of an attribute. -/
def escapeInValue (c : Char) : List Char :=
  match c with
  | '"' => ['&', 'q', 'u', 'o', 't', ';']
  | '\x27' => ['&', 'a', 'p', 'o', 's', ';']
  | c => escapeInText c

/-- An attribute with the space before it. -/
def attributeChars (entry : String × String) : List Char :=
  ' ' :: entry.1.toList ++ '=' :: '"' :: entry.2.toList.flatMap escapeInValue ++ ['"']

/-- The name and the attributes of an element. -/
def headChars (name : String) (attributes : List (String × String)) : List Char :=
  name.toList ++ attributes.flatMap attributeChars

mutual

/-- The characters of a tree. -/
def chars : Markup → List Char
  | .text content => content.toList.flatMap escapeInText
  | .element name attributes [] => '<' :: headChars name attributes ++ ['/', '>']
  | .element name attributes (child :: children) =>
    '<' :: headChars name attributes ++ '>' :: '\n' :: chars child ++ childrenChars children ++
      '\n' :: '<' :: '/' :: name.toList ++ ['>']

/-- The characters of further children, each behind a line break. -/
def childrenChars : List Markup → List Char
  | [] => []
  | child :: children => '\n' :: chars child ++ childrenChars children

end

/-- The text of a tree. -/
def print (tree : Markup) : String :=
  String.ofList tree.chars

/-- An element that holds one text. -/
def textElement (name : String) (attributes : List (String × String)) (content : String) :
    Markup :=
  .element name attributes [.text content]

end Markup

end ClassChart
