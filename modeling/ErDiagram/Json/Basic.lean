/-! JSON values as a diagram is written in them: strings, arrays and objects. Members of an object keep their order. A
    layout says where line breaks and spaces go; they are spacing, so a text reads back alike in every layout. -/

namespace ErDiagram

inductive Json where
  | string (text : String)
  | array (items : List Json)
  | object (members : List (String × Json))

namespace Json

/-- What a layout puts between the tokens: before each item and each closing bracket, at a depth of nesting, and after
    the colon of a member. -/
structure Layout where
  lineBreak : Nat → List Char
  afterColon : List Char

def Layout.compact : Layout := ⟨fun _ => [], []⟩

/-- Each item on a line of its own, indented by two spaces for each level. -/
def Layout.pretty : Layout := ⟨fun depth => '\n' :: List.replicate (2 * depth) ' ', [' ']⟩

/-- A character of a string. Quotes, backslashes and the controls below the space are escaped, and nothing else. -/
def writtenChar (c : Char) : List Char :=
  if c = '"' then ['\\', '"']
  else if c = '\\' then ['\\', '\\']
  else if c = '\x08' then ['\\', 'b']
  else if c = '\x0c' then ['\\', 'f']
  else if c = '\n' then ['\\', 'n']
  else if c = '\r' then ['\\', 'r']
  else if c = '\t' then ['\\', 't']
  else if c.toNat < 0x20 then
    '\\' :: 'u' :: '0' :: '0' :: [Nat.digitChar (c.toNat / 16), Nat.digitChar (c.toNat % 16)]
  else [c]

def writtenString (text : String) : List Char := '"' :: text.toList.flatMap writtenChar ++ ['"']

mutual

def written (l : Layout) (depth : Nat) : Json → List Char
  | .string text => writtenString text
  | .array [] => ['[', ']']
  | .array (item :: items) =>
    '[' :: l.lineBreak (depth + 1) ++ written l (depth + 1) item ++ writtenItems l (depth + 1) items ++
      l.lineBreak depth ++ [']']
  | .object [] => ['{', '}']
  | .object ((name, value) :: members) =>
    '{' :: l.lineBreak (depth + 1) ++ writtenString name ++ ':' :: l.afterColon ++ written l (depth + 1) value ++
      writtenMembers l (depth + 1) members ++ l.lineBreak depth ++ ['}']

/-- The items after the first. -/
def writtenItems (l : Layout) (depth : Nat) : List Json → List Char
  | [] => []
  | item :: items => ',' :: l.lineBreak depth ++ written l depth item ++ writtenItems l depth items

/-- The members after the first. -/
def writtenMembers (l : Layout) (depth : Nat) : List (String × Json) → List Char
  | [] => []
  | (name, value) :: members =>
    ',' :: l.lineBreak depth ++ writtenString name ++ ':' :: l.afterColon ++ written l depth value ++
      writtenMembers l depth members

end

def compact (j : Json) : String := String.ofList (written .compact 0 j)

def pretty (j : Json) : String := String.ofList (written .pretty 0 j)

end Json
end ErDiagram
