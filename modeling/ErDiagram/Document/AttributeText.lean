import ErDiagram.Character.Blank
import ErDiagram.Diagram

/-! Attributes in a statement. Commas separate them, but a comma inside a closed value list belongs to the name; a list
    that is never closed ends the attribute before its parenthesis. -/

namespace ErDiagram
open Character

namespace Document

/-- The longest beginning of the text that is made of closed value lists and of characters that end no attribute, and
    what is left. The flag says whether the text starts inside a list. -/
def attributeText : Bool → List Char → List Char × List Char
  | _, [] => ([], [])
  | true, c :: s =>
    let (text, rest) := attributeText (c ≠ ')') s
    (c :: text, rest)
  | false, c :: s =>
    if c = '(' && !s.contains ')' || endsAttribute c then ([], c :: s)
    else
      let (text, rest) := attributeText (c = '(') s
      (c :: text, rest)

/-- Nothing is lost. -/
theorem attributeText_append (inList : Bool) (s : List Char) :
    (attributeText inList s).1 ++ (attributeText inList s).2 = s := by
  fun_induction attributeText inList s <;> simp_all

/-- The texts of a list of attributes, and what is left. Spacing before an attribute is no part of it. Where an
    attribute is missing nothing is taken, nor is the comma before it. -/
def attributeTexts (s : List Char) : List (List Char) × List Char :=
  let first := attributeText false (skipSpacing s)
  if first.1 = [] then ([], s)
  else
    match _h : first.2 with
    | ',' :: more =>
      let others := attributeTexts more
      if others.1 = [] then ([first.1], first.2) else (first.1 :: others.1, others.2)
    | _ => ([first.1], first.2)
termination_by s.length
decreasing_by
  have total := congrArg List.length (attributeText_append false (skipSpacing s))
  have shorter := length_skipSpacing_le s
  have left := congrArg List.length _h
  simp only [List.length_append, List.length_cons, first] at total left
  omega

end Document

/-- The attribute that a text of an entity's list stands for. A mark at the start gives it its role. -/
def Attribute.ofText (text : List Char) : Attribute :=
  match trimEnd text with
  | 'd' :: 'u' :: '.' :: name => ⟨String.ofList name, .partialKey⟩
  | 'u' :: '.' :: name => ⟨String.ofList name, .primary⟩
  | name => ⟨String.ofList name, .plain⟩

/-- The attribute that a text of a relationship's list stands for: there are no roles. -/
def Attribute.ofPlainText (text : List Char) : Attribute := ⟨String.ofList (trimEnd text), .plain⟩

end ErDiagram
