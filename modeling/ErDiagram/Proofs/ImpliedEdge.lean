import ErDiagram.ImpliedEdge

/-! Implied edges. What an edge is made of: a subclass has the edge from its parent where that is resolved, and a weak
    entity one edge for each relationship that gives it an owner, which is an end of that relationship. -/

namespace ErDiagram

section
variable {d : Diagram} {e : Entity} {r : Relationship} {edge : ImpliedEdge} {weak owner : String}

/-- The owner is the end of a double line whose other end is the weak entity, and has a name of its own. -/
theorem Relationship.ownerOf?_eq_some_iff : r.ownerOf? weak = some owner ↔
    r.line = .double ∧ sameName owner weak = false ∧
      (sameName r.source weak = true ∧ r.target = owner ∨ sameName r.target weak = true ∧ r.source = owner) := by
  rw [ownerOf?, otherEnd?]
  constructor
  · intro h
    split at h
    · next double =>
      obtain ⟨h, other⟩ := Option.filter_eq_some_iff.mp h
      rw [Bool.not_eq_true'] at other
      refine ⟨double, other, ?_⟩
      split at h
      · next source => exact Or.inl ⟨source, Option.some.inj h⟩
      · split at h
        · next target => exact Or.inr ⟨target, Option.some.inj h⟩
        · cases h
    · cases h
  · rintro ⟨double, other, ⟨source, rfl⟩ | ⟨target, rfl⟩⟩
    · rw [if_pos double, if_pos source, Option.filter_some, other]
      rfl
    · rw [if_pos double, other, if_neg Bool.false_ne_true, if_pos target, Option.filter_some, other]
      rfl

/-- The owner that a relationship gives is one of its ends. -/
theorem Relationship.mem_ends_of_ownerOf? (h : r.ownerOf? weak = some owner) : owner ∈ [r.source, r.target] := by
  obtain ⟨-, -, ⟨-, rfl⟩ | ⟨-, rfl⟩⟩ := ownerOf?_eq_some_iff.mp h
  · exact List.mem_cons_of_mem _ List.mem_cons_self
  · exact List.mem_cons_self

theorem hierarchyEdge?_eq_some_iff : d.hierarchyEdge? e = some edge ↔
    ∃ name index p, e.parent? = some name ∧ d.resolve name = .found index p ∧ edge = .hierarchy p.name e.name := by
  rw [Diagram.hierarchyEdge?, Option.bind_eq_bind, Option.bind_eq_some_iff]
  constructor
  · rintro ⟨name, parent, h⟩
    split at h
    · next index p found => exact ⟨name, index, p, parent, found, (Option.some.inj h).symm⟩
    · cases h
  · rintro ⟨name, index, p, parent, found, rfl⟩
    exact ⟨name, parent, by rw [found]⟩

/-- The names of the owners of a weak entity, one for each relationship that owns. -/
def Diagram.owners (d : Diagram) (weak : String) : List String :=
  d.relationships.filterMap fun r => (r.ownerOf? weak).map d.canonicalName

theorem ownershipEdges_eq (d : Diagram) (e : Entity) :
    d.ownershipEdges e = if e.kind = .weak then (d.owners e.name).map (.ownership · e.name) else [] := by
  rw [Diagram.ownershipEdges, Diagram.owners, ← List.map_filterMap, List.map_map]
  rfl

end

end ErDiagram
