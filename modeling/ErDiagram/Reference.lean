import ErDiagram.Diagram

/-! References. Relationships name their ends and a subclass names its parent; a name refers to the entities of the
    same name, and it is resolved when there is exactly one. -/

namespace ErDiagram

/-- What a name refers to: one entity and its place, none, or several. -/
inductive Resolution where
  | found (index : Nat) (entity : Entity)
  | missing
  | ambiguous (count : Nat)
  deriving DecidableEq, Repr

/-- The entities of the name, each with its place. -/
def Diagram.named (d : Diagram) (name : String) : List (Entity × Nat) :=
  d.entities.zipIdx.filter fun (e, _) => sameName e.name name

def Diagram.resolve (d : Diagram) (name : String) : Resolution :=
  match d.named name with
  | [] => .missing
  | [(e, index)] => .found index e
  | several => .ambiguous several.length

/-- The name as its entity declares it; a name that is not resolved stays as it is. -/
def Diagram.canonicalName (d : Diagram) (name : String) : String :=
  match d.resolve name with
  | .found _ e => e.name
  | _ => name

/-- The end opposite to the named one. Where both ends have the name, the source counts as named. -/
def Relationship.otherEnd? (r : Relationship) (name : String) : Option String :=
  if sameName r.source name then some r.target
  else if sameName r.target name then some r.source
  else none

/-- The owner that the relationship gives a weak entity. Only a double line owns, and never from an entity to
    itself. -/
def Relationship.ownerOf? (r : Relationship) (weak : String) : Option String :=
  if r.line = .double then (r.otherEnd? weak).filter fun owner => !sameName owner weak else none

end ErDiagram
