import ClassChart.Parse

/-! The grammar of documents, as relations between the tokens of a phrase and what the phrase
says. No reader occurs in these relations: a phrase is exactly its own tokens, with no regard to
what follows them. The meaning of a list of declarations is given a second time here, as the
diagram that grows by one declaration after the other. -/
namespace ClassChart.Grammar

/-- Phrases of one sort in a row; what they say comes in the same order. -/
inductive Repeated (Phrase : List Token → List α → Prop) : List Token → List α → Prop where
  | none : Repeated Phrase [] []
  | more (first : Phrase portion said) (later : Repeated Phrase rest saidLater) :
      Repeated Phrase (portion ++ rest) (said ++ saidLater)

theorem repeated_append (first : Repeated Phrase portion said) (second : Repeated Phrase rest saidLater) :
    Repeated Phrase (portion ++ rest) (said ++ saidLater) := by
  induction first with
  | none => exact second
  | more phrase later ih =>
    rw [List.append_assoc, List.append_assoc]
    exact .more phrase ih

/-- Words name members and types. The words that begin a declaration are among them. -/
def IsWord (token : Token) : Prop :=
  token.kind ∈ [TokenKind.identifier, .classWord, .abstractWord, .titleWord]

theorem is_word_iff : IsWord token ↔ token.kind.isMemberWord = true := by
  unfold IsWord TokenKind.isMemberWord
  cases token.kind <;> simp

/-! ## Members and class bodies -/

/-- An optional visibility mark. -/
inductive VisibilityPhrase : List Token → Option Visibility → Prop where
  | omitted : VisibilityPhrase [] none
  | marked (mark : token.kind = .visibilityMark visibility) :
      VisibilityPhrase [token] (some visibility)

/-- An optional colon with a word for the type; an omitted type is the usual one. -/
inductive TypePhrase (usual : String) : List Token → String → Prop where
  | omitted : TypePhrase usual [] usual
  | given (colon : mark.kind = .colon) (word : IsWord type) :
      TypePhrase usual [mark, type] type.lexeme

/-- A member: a word with a type, or a word with parameters and a type. The parameters run to
the first closing parenthesis and may hold any other token, line breaks included. -/
inductive MemberPhrase : List Token → Member → Prop where
  | ofAttribute (marked : VisibilityPhrase marks visibility)
      (word : IsWord name)
      (typed : TypePhrase defaultAttributeType types type) :
      MemberPhrase (marks ++ name :: types) (.ofAttribute ⟨visibility, name.lexeme, type⟩)
  | ofMethod (marked : VisibilityPhrase marks visibility)
      (word : IsWord name) (opens : opening.kind = .openParen)
      (inside : ∀ token ∈ parameters, token.kind ≠ .closeParen)
      (closes : closing.kind = .closeParen)
      (typed : TypePhrase defaultReturnType types type) :
      MemberPhrase (marks ++ name :: opening :: (parameters ++ closing :: types))
        (.ofMethod ⟨visibility, name.lexeme, type⟩)

/-- What stands inside the braces of a class: a line break or a member. -/
inductive BodyItem : List Token → List Member → Prop where
  | lineBreak (line : token.kind = .newline) : BodyItem [token] []
  | member (phrase : MemberPhrase portion member) : BodyItem portion [member]

/-- The optional body of a class. -/
inductive BodyPhrase : List Token → List Member → Prop where
  | omitted : BodyPhrase [] []
  | given (opens : opening.kind = .openBrace) (inside : Repeated BodyItem portion members)
      (closes : closing.kind = .closeBrace) :
      BodyPhrase (opening :: (portion ++ [closing])) members

/-! ## Declarations -/

/-- The words before the name of a class; `abstract` may stand alone. -/
inductive HeadPhrase : List Token → Bool → Prop where
  | plain (word : token.kind = .classWord) : HeadPhrase [token] false
  | abstractAlone (word : token.kind = .abstractWord) : HeadPhrase [token] true
  | abstractClass (first : token.kind = .abstractWord) (second : next.kind = .classWord) :
      HeadPhrase [token, next] true

/-- The declaration of a class. -/
inductive ClassPhrase : List Token → ClassDeclaration → Prop where
  | declared (head : HeadPhrase words isAbstract) (named : name.kind = .identifier)
      (body : BodyPhrase portion members) :
      ClassPhrase (words ++ name :: portion) ⟨name.lexeme, isAbstract, members⟩

/-- The declaration of a relationship; a label takes the rest of its line. -/
inductive RelationshipPhrase : List Token → Relationship → Prop where
  | plain (first : source.kind = .identifier) (connects : operator.kind = .operator kind)
      (second : target.kind = .identifier) :
      RelationshipPhrase [source, operator, target] ⟨source.lexeme, target.lexeme, kind, ""⟩
  | labelled (first : source.kind = .identifier) (connects : operator.kind = .operator kind)
      (second : target.kind = .identifier) (colon : mark.kind = .colon)
      (inside : ∀ token ∈ text, token.kind ≠ .newline) (line : lineEnd.kind = .newline) :
      RelationshipPhrase (source :: operator :: target :: mark :: (text ++ [lineEnd]))
        ⟨source.lexeme, target.lexeme, kind, freeText text⟩

/-- The declaration of a title, which takes the rest of its line. -/
inductive TitlePhrase : List Token → String → Prop where
  | declared (word : token.kind = .titleWord) (inside : ∀ token ∈ text, token.kind ≠ .newline)
      (line : lineEnd.kind = .newline) :
      TitlePhrase (token :: (text ++ [lineEnd])) (freeText text)

/-- What stands between the markers: a line break or a declaration. -/
inductive Item : List Token → List Declaration → Prop where
  | lineBreak (line : token.kind = .newline) : Item [token] []
  | ofClass (phrase : ClassPhrase portion declared) : Item portion [.ofClass declared]
  | ofRelationship (phrase : RelationshipPhrase portion declared) :
      Item portion [.ofRelationship declared]
  | ofTitle (phrase : TitlePhrase portion text) : Item portion [.ofTitle text]

/-- A document: items between the two markers, and nothing but line breaks around them. -/
inductive Document : List Token → List Declaration → Prop where
  | document (above : ∀ token ∈ before, token.kind = .newline)
      (starts : opening.kind = .startMarker) (items : Repeated Item portion declarations)
      (ends : closing.kind = .endMarker) (below : ∀ token ∈ behind, token.kind = .newline) :
      Document (before ++ opening :: (portion ++ closing :: behind)) declarations

/-! ## Meaning -/

/-- The class with one more member. -/
def addMember (node : ClassNode) : Member → ClassNode
  | .ofAttribute declared => node.addAttribute declared
  | .ofMethod declared => node.addMethod declared

/-- The class that a declaration builds, one member after the other. -/
def buildClass (declared : ClassDeclaration) : ClassNode :=
  declared.members.foldl addMember ((ClassNode.empty declared.name).withAbstract declared.isAbstract)

/-- The diagram after one more declaration. A title replaces the one before it, and an empty
title leaves the diagram without one. -/
def declare (diagram : Diagram) : Declaration → Diagram
  | .ofClass declared => { diagram with classes := diagram.classes ++ [buildClass declared] }
  | .ofRelationship declared =>
    { diagram with relationships := diagram.relationships ++ [declared] }
  | .ofTitle text => { diagram with title := if text = "" then none else some text }
  | .unrecognized _ => diagram

/-- The diagram that declarations build from nothing. -/
def meaning (declarations : List Declaration) : Diagram :=
  declarations.foldl declare ⟨none, [], []⟩

theorem title_in_effect_some (text : String) :
    titleInEffect (some text) = if text = "" then none else some text := by
  by_cases empty : text = "" <;> simp [titleInEffect, Option.filter, empty]

private theorem foldl_addMember (node : ClassNode) (members : List Member) :
    members.foldl addMember node =
      { node with
        attributes := node.attributes ++ members.filterMap Member.attribute?
        methods := node.methods ++ members.filterMap Member.method? } := by
  induction members generalizing node with
  | nil => simp
  | cons member members ih =>
    rw [List.foldl_cons, ih]
    cases member with
    | ofAttribute declared =>
      simp [addMember, ClassNode.addAttribute, List.filterMap_cons, Member.attribute?, Member.method?]
    | ofMethod declared =>
      simp [addMember, ClassNode.addMethod, List.filterMap_cons, Member.attribute?, Member.method?]

/-- Building a class member by member gives the class that its declaration stands for. -/
theorem build_class_eq_toNode (declared : ClassDeclaration) :
    buildClass declared = declared.toNode := by
  rw [buildClass, foldl_addMember]
  simp [ClassNode.empty, ClassNode.withAbstract, ClassDeclaration.toNode]

private theorem foldl_declare (diagram : Diagram) (declarations : List Declaration) :
    declarations.foldl declare diagram =
      { title := match (declarations.filterMap Declaration.title?).getLast? with
          | none => diagram.title
          | some text => titleInEffect (some text)
        classes := diagram.classes ++ declarations.filterMap Declaration.class?
        relationships := diagram.relationships ++
          declarations.filterMap Declaration.relationship? } := by
  induction declarations generalizing diagram with
  | nil => simp
  | cons declaration declarations ih =>
    rw [List.foldl_cons, ih]
    simp only [List.filterMap_cons]
    cases declaration with
    | ofClass declared =>
      simp [declare, Declaration.title?, Declaration.class?, Declaration.relationship?,
        build_class_eq_toNode]
    | ofRelationship declared | unrecognized token =>
      simp [declare, Declaration.title?, Declaration.class?, Declaration.relationship?]
    | ofTitle text =>
      -- The later titles decide; this one counts only when there are none.
      simp only [declare, Declaration.title?, Declaration.class?, Declaration.relationship?,
        List.getLast?_cons]
      cases (declarations.filterMap Declaration.title?).getLast? with
      | some later => simp
      | none => simp [title_in_effect_some]

/-- Growing a diagram declaration by declaration gives the diagram that they stand for. -/
theorem meaning_eq_ofDeclarations (declarations : List Declaration) :
    meaning declarations = .ofDeclarations declarations := by
  rw [meaning, foldl_declare, Diagram.ofDeclarations]
  cases (declarations.filterMap Declaration.title?).getLast? <;> simp [titleInEffect]

/-! ## How phrases begin -/

/-- A member begins with a visibility mark or a word. -/
theorem member_begins (phrase : MemberPhrase portion member) :
    ∃ token rest, portion = token :: rest ∧
      ((∃ visibility, token.kind = .visibilityMark visibility) ∨ IsWord token) := by
  cases phrase with
  | ofAttribute marked word typed | ofMethod marked word opens inside closes typed =>
    cases marked with
    | omitted => exact ⟨_, _, rfl, .inr word⟩
    | marked mark => exact ⟨_, _, rfl, .inl ⟨_, mark⟩⟩

/-- An item begins with a line break, a word of its own or an identifier. -/
theorem item_begins (item : Item portion declarations) :
    ∃ token rest, portion = token :: rest ∧
      token.kind ∈ [TokenKind.newline, .classWord, .abstractWord, .titleWord, .identifier] := by
  cases item with
  | lineBreak line => exact ⟨_, [], rfl, by simp [line]⟩
  | ofClass phrase =>
    cases phrase with
    | declared head named body =>
      cases head with
      | plain word | abstractAlone word => exact ⟨_, _, rfl, by simp [word]⟩
      | abstractClass first second => exact ⟨_, _, rfl, by simp [first]⟩
  | ofRelationship phrase =>
    cases phrase with
    | plain first connects second | labelled first connects second colon inside line =>
      exact ⟨_, _, rfl, by simp [first]⟩
  | ofTitle phrase =>
    cases phrase with
    | declared word inside line => exact ⟨_, _, rfl, by simp [word]⟩

end ClassChart.Grammar
