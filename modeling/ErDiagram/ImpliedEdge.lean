import ErDiagram.Reference

/-! Edges that the kinds of entities imply, beside the relationships: from a superclass to each of its subclasses, and
    from its owner to each weak entity. -/

namespace ErDiagram

inductive ImpliedEdge where
  | hierarchy (superclass subclass : String)
  | ownership (owner weak : String)
  deriving DecidableEq, Repr

/-- The edge from its parent, if the entity is a subclass and the parent is resolved. -/
def Diagram.hierarchyEdge? (d : Diagram) (e : Entity) : Option ImpliedEdge := do
  match d.resolve (← e.parent?) with
  | .found _ parent => some (.hierarchy parent.name e.name)
  | _ => none

/-- The edges from its owners, if the entity is weak. -/
def Diagram.ownershipEdges (d : Diagram) (e : Entity) : List ImpliedEdge :=
  if e.kind = .weak then
    (d.relationships.filterMap (·.ownerOf? e.name)).map fun owner => .ownership (d.canonicalName owner) e.name
  else []

/-- All implied edges: those of the subclasses, then those of the weak entities, each in entity order. -/
def Diagram.impliedEdges (d : Diagram) : List ImpliedEdge :=
  d.entities.filterMap d.hierarchyEdge? ++ d.entities.flatMap d.ownershipEdges

end ErDiagram
