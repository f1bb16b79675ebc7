/-! Sets of characters as ascending ranges of code points. A set is searched from its lowest range, and the search ends
    at the first range that does not lie wholly below the character. -/

namespace ErDiagram.Character

/-- Ranges of code points, both ends included, in ascending order. -/
abbrev Ranges := List (Nat × Nat)

def Ranges.contains : Ranges → Nat → Bool
  | [], _ => false
  | (low, high) :: rest, n => if n ≤ high then low ≤ n else Ranges.contains rest n

end ErDiagram.Character
