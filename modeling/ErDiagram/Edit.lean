import ErDiagram.Diagram

/-! Changes to a diagram, step by step. Parts are inserted, appended and dropped as the items of two lists. A part is
    changed where it stands by `Entity.withOptions`, `Entity.withAttributes` or `Relationship.double`, with which parts
    are built in the first place. Places count from zero, and a step at a place that does not exist changes nothing. -/

namespace ErDiagram

inductive Edit where
  /-- The empty diagram. -/
  | clear
  /-- A new entity at a place, or at the end. -/
  | insertEntity (place : Option Nat) (entity : Entity)
  /-- A new relationship at the end. -/
  | appendRelationship (relationship : Relationship)
  | dropEntity (place : Nat)
  | dropRelationship (place : Nat)
  /-- `Entity.withOptions` on the entity at a place. -/
  | setOptions (place : Nat) (options : List String)
  /-- `Entity.withAttributes` on the entity at a place. -/
  | setAttributes (place : Nat) (attributes : List Attribute)
  /-- `Relationship.double` on the relationship at a place. -/
  | doubleLine (place : Nat)

namespace Diagram

def insertEntity? (d : Diagram) (place : Nat) (e : Entity) : Option Diagram :=
  if place ≤ d.entities.length then some { d with entities := d.entities.insertIdx place e } else none

def modifyEntity? (d : Diagram) (place : Nat) (f : Entity → Entity) : Option Diagram :=
  if place < d.entities.length then some { d with entities := d.entities.modify place f } else none

def modifyRelationship? (d : Diagram) (place : Nat) (f : Relationship → Relationship) : Option Diagram :=
  if place < d.relationships.length then some { d with relationships := d.relationships.modify place f } else none

/-- The diagram after a step, if the place exists. -/
def edit? (d : Diagram) : Edit → Option Diagram
  | .clear => some empty
  | .insertEntity place e => d.insertEntity? (place.getD d.entities.length) e
  | .appendRelationship r => some { d with relationships := d.relationships ++ [r] }
  | .dropEntity place =>
    if place < d.entities.length then some { d with entities := d.entities.eraseIdx place } else none
  | .dropRelationship place =>
    if place < d.relationships.length then some { d with relationships := d.relationships.eraseIdx place } else none
  | .setOptions place options => d.modifyEntity? place (·.withOptions options)
  | .setAttributes place attributes => d.modifyEntity? place (·.withAttributes attributes)
  | .doubleLine place => d.modifyRelationship? place Relationship.double

end Diagram
end ErDiagram
