import ErDiagram.Character.Blank
import ErDiagram.Name
import ErDiagram.Vocabulary

/-! The words of a statement. A reader takes something from the start of a text and returns it with what is left; where
    it fails it says how far the text had been read. -/

namespace ErDiagram.Document
open Character Vocabulary

/-- A stop in the middle of a statement: what was left, and the token that is unknown, if that is the reason. -/
structure Halt where
  rest : List Char
  unknown : Option UnknownToken

/-- The longest word of characters with the property, which must not be empty. -/
def word (p : Char → Bool) (s : List Char) : Except Halt (String × List Char) :=
  match s.takeWhile p with
  | [] => .error ⟨s, none⟩
  | taken => .ok (String.ofList taken, s.dropWhile p)

def identifier (s : List Char) : Except Halt (String × List Char) := word isIdentifierChar s

/-- An identifier that is a token of the vocabulary. -/
def tokenOf (α : Type) [Vocabulary α] (s : List Char) : Except Halt (α × List Char) := do
  let (text, rest) ← identifier s
  match ofToken α text with
  | .ok a => .ok (a, rest)
  | .error unknown => .error ⟨s, some unknown⟩

def spacing (s : List Char) : Except Halt (List Char) :=
  match s with
  | c :: rest => if isSpacing c then .ok (skipSpacing rest) else .error ⟨s, none⟩
  | [] => .error ⟨s, none⟩

/-- What follows a fixed beginning. -/
def after? (start s : List Char) : Option (List Char) :=
  if start.isPrefixOf s then some (s.drop start.length) else none

/-- A reader applied to a whole text: nothing may be left. -/
def whole {α : Type} (read : List Char → Except Halt (α × List Char)) (s : List Char) : Except Halt α :=
  match read s with
  | .ok (a, []) => .ok a
  | .ok (_, rest) => .error ⟨rest, none⟩
  | .error halt => .error halt

end ErDiagram.Document
