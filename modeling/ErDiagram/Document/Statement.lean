import ErDiagram.Document.AttributeText
import ErDiagram.Document.Word

/-! Reading the two kinds of statements. An entity statement is a header of words joined by points, and then its
    attributes. A relationship statement is a row of words, and then its attributes in braces. -/

namespace ErDiagram
open Character Document

/-! ### Entities -/

namespace Document

/-- The options of a header: each is an identifier after a point. A point without one is left. -/
def headerOptions (s : List Char) : List String × List Char :=
  match s with
  | '.' :: start =>
    match start.takeWhile isIdentifierChar with
    | [] => ([], s)
    | name =>
      let (names, rest) := headerOptions (start.dropWhile isIdentifierChar)
      (String.ofList name :: names, rest)
  | _ => ([], s)
termination_by s.length
decreasing_by
  have shorter := (List.dropWhile_sublist (l := start) isIdentifierChar).length_le
  simp only [List.length_cons]
  omega

/-- The kind after the name: an entity without a kind is strong. -/
def headerKind (s : List Char) : Except Halt (EntityKind × List Char) :=
  match s with
  | '.' :: rest => tokenOf EntityKind rest
  | _ => .ok (.strong, s)

/-- The attributes of an entity, if spacing and at least one attribute follow the header. -/
def entityAttributes (s : List Char) : List Attribute × List Char :=
  match s with
  | c :: _ =>
    if isSpacing c then
      match attributeTexts s with
      | ([], _) => ([], s)
      | (texts, rest) => (texts.map Attribute.ofText, rest)
    else ([], s)
  | [] => ([], s)

end Document

def Entity.read (s : List Char) : Except Halt (Entity × List Char) := do
  let (name, s) ← identifier s
  let (kind, s) ← headerKind s
  let (options, s) := headerOptions s
  let (attributes, s) := entityAttributes s
  return (⟨name, kind, options, attributes⟩, skipSpacing s)

/-! ### Relationships -/

namespace Document

/-- The kind of the line, which a further word gives. Without one the line is single. -/
def lineKind (s : List Char) : Except Halt (LineKind × List Char) :=
  match trimStart s with
  | c :: _ => if isIdentifierChar c then do tokenOf LineKind (← spacing s) else .ok (.single, s)
  | [] => .ok (.single, s)

/-- The attributes of a relationship, if there is a list in braces. A list that is not closed is left. -/
def relationshipAttributes (s : List Char) : List Attribute × List Char :=
  match skipSpacing s with
  | '{' :: inside =>
    let (texts, rest) := attributeTexts inside
    match skipSpacing rest with
    | '}' :: rest => (texts.map Attribute.ofPlainText, rest)
    | _ => ([], s)
  | _ => ([], s)

end Document

def Relationship.read (s : List Char) : Except Halt (Relationship × List Char) := do
  let (source, s) ← identifier s
  let s ← spacing s
  let (towardSource, s) ← tokenOf Cardinality s
  let s ← spacing s
  let (name, s) ← word (!isBlank ·) s
  let s ← spacing s
  let (towardTarget, s) ← tokenOf Cardinality s
  let s ← spacing s
  let (target, s) ← identifier s
  let (line, s) ← lineKind s
  let (attributes, s) := relationshipAttributes s
  return (⟨source, towardSource, name, towardTarget, target, line, attributes⟩, skipSpacing s)

end ErDiagram
