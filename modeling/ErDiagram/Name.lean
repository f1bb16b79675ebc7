import ErDiagram.Character.Alphanumeric
import ErDiagram.Character.Blank
import ErDiagram.Character.Lowercase

/-! Names. Two names are the same when they agree letter by letter in lowercase, so a reference finds its entity
    however it is capitalised. The second half says which names a statement can hold: identifiers for entities, one
    word for a relationship, and for an attribute any text whose separators stand inside closed value lists. -/

namespace ErDiagram
open Character

/-- The name in small letters; a letter may become several. -/
def folded (name : String) : List Char := name.toList.flatMap lowercase

/-- The two names differ at most in capitals. -/
def sameName (a b : String) : Bool := folded a == folded b

theorem sameName_iff {a b : String} : sameName a b = true ↔ folded a = folded b := by
  simp [sameName]

theorem sameName_refl (a : String) : sameName a a = true := sameName_iff.2 rfl

theorem sameName_comm (a b : String) : sameName a b = sameName b a := by
  rw [Bool.eq_iff_iff, sameName_iff, sameName_iff, eq_comm]

theorem sameName_trans {a b c : String} (hab : sameName a b = true) (hbc : sameName b c = true) :
    sameName a c = true :=
  sameName_iff.2 ((sameName_iff.1 hab).trans (sameName_iff.1 hbc))

def isIdentifierChar (c : Char) : Bool := isAlphanumeric c || c = '_' || c = '-'

/-- One word of letters, digits, underscores and hyphens. -/
def isIdentifier (name : String) : Bool := name ≠ "" && name.toList.all isIdentifierChar

/-- These two end a statement or a block header wherever they stand. -/
def endsStatement (c : Char) : Bool := c = ';' || c = ':'

/-- A relationship's name reaches to the next blank. -/
def isRelationshipName (name : String) : Bool :=
  name ≠ "" && name.toList.all fun c => !isBlank c && !endsStatement c

/-- These end an attribute's name, unless they stand in a value list. -/
def endsAttribute (c : Char) : Bool := c = ',' || c = '{' || c = '}'

/-- Every value list is closed, and what would end the name stands inside a list. The flag says whether the text starts
    inside a list; lists do not nest. -/
def hasClosedLists : Bool → List Char → Bool
  | inList, [] => !inList
  | inList, c :: s =>
    if endsStatement c then false
    else if inList then hasClosedLists (c ≠ ')') s
    else if c = '(' then hasClosedLists true s
    else !endsAttribute c && hasClosedLists false s

/-- An attribute's name is not empty, has no blanks at its ends, and closes its value lists. -/
def isAttributeName (name : String) : Bool :=
  name ≠ "" && trim name.toList = name.toList && hasClosedLists false name.toList

end ErDiagram
