import ErDiagram.Proofs.ImpliedEdge
import ErDiagram.Proofs.Policy

/-! Capitals in references. Diagrams that differ in nothing but the capitals of their references have the same
    references resolved, and resolved references have the same canonical spelling. So nothing that is made of a diagram
    tells them apart: a policy writes both or neither, and the same text, and both imply the same edges. -/

namespace ErDiagram

/-! ### Respelling is mutual -/

theorem Entity.Respelt.symm {e e' : Entity} (h : e.Respelt e') : e'.Respelt e where
  rest := by rw [h.rest]
  options := by
    rcases h.options with same | ⟨kind, parent, parent', others, before, after, respelt⟩
    · exact Or.inl same.symm
    · rw [sameName_comm] at respelt
      exact Or.inr ⟨h.kind.trans kind, parent', parent, others, after, before, respelt⟩

theorem Relationship.Respelt.symm {r r' : Relationship} (h : r.Respelt r') : r'.Respelt r where
  rest := by rw [h.rest]
  source := by rw [sameName_comm, h.source]
  target := by rw [sameName_comm, h.target]

theorem Entity.Respelt.exists_options {e e' : Entity} (h : e.Respelt e') {parent : String} {others : List String}
    (options : e.options = parent :: others) :
    ∃ parent', e'.options = parent' :: others ∧ sameName parent parent' = true := by
  rcases h.options with same | ⟨-, before, after, rest, original, respelt, both⟩
  · exact ⟨parent, same.trans options, sameName_refl parent⟩
  · rw [options] at original
    obtain ⟨rfl, rfl⟩ := List.cons.inj original
    exact ⟨after, respelt, both⟩

theorem Diagram.Respelt.symm {d d' : Diagram} (h : d.Respelt d') : d'.Respelt d :=
  ⟨h.entities.flip.imp fun _ _ => Entity.Respelt.symm, h.relationships.flip.imp fun _ _ => Relationship.Respelt.symm⟩

/-- Items that are related in pairs are mapped alike where each pair is. -/
theorem map_eq_map_of_forall₂ {α β γ : Type} {l : List α} {m : List β} {r : α → β → Prop} {f : α → γ} {g : β → γ}
    (h : List.Forall₂ r l m) (step : ∀ a ∈ l, ∀ b, r a b → f a = g b) : l.map f = m.map g := by
  induction h with
  | nil => rfl
  | cons first _ ih =>
    rw [List.forall_mem_cons] at step
    rw [List.map_cons, List.map_cons, step.1 _ first, ih step.2]

namespace Diagram.Respelt
variable {d d' : Diagram} {e e' : Entity} {r r' : Relationship} {name name' : String}

/-! ### The same canonical spelling -/

theorem resolves (h : d.Respelt d') (same : sameName name name' = true) (resolves : d.Resolves name) :
    d'.Resolves name' := by
  obtain ⟨index, e, found⟩ := resolves.exists_found
  rw [sameName_comm] at same
  obtain ⟨e', found', -⟩ := h.symm.resolve_found same found
  exact resolves_of_found found'

theorem resolved (h : d.Respelt d') (resolved : d.Resolved) : d'.Resolved := by
  refine Diagram.resolved_iff.mpr fun element name' refers => ?_
  obtain ⟨name, original, same⟩ := h.refers refers
  exact h.resolves same (Diagram.resolved_iff.mp resolved element name original)

theorem canonicalName (h : d.Respelt d') (same : sameName name name' = true) (resolves : d.Resolves name) :
    d.canonicalName name = d'.canonicalName name' := by
  obtain ⟨index, e', found'⟩ := (h.resolves same resolves).exists_found
  obtain ⟨e, found, respelt⟩ := h.resolve_found same found'
  rw [canonicalName_of_found found, canonicalName_of_found found', respelt.name]

theorem canonicalOptions (h : d.Respelt d') (resolved : d.Resolved) (member : e ∈ d.entities) (respelt : e.Respelt e') :
    d.canonicalOptions e = d'.canonicalOptions e' := by
  by_cases kind : e.kind = .subclass
  · have kind' := respelt.kind.trans kind
    rw [Diagram.canonicalOptions, Diagram.canonicalOptions, kind, kind']
    cases options : e.options with
    | nil => rw [List.eq_nil_of_length_eq_zero (respelt.options_length.trans (congrArg List.length options))]
    | cons parent others =>
      obtain ⟨parent', options', same⟩ := respelt.exists_options options
      have resolves : d.Resolves parent := resolved.parents e member kind parent (by rw [options]; rfl)
      simp only [options', h.canonicalName same resolves]
  · have kind' : e'.kind ≠ .subclass := respelt.kind ▸ kind
    rw [canonicalOptions_of_ne_subclass kind, canonicalOptions_of_ne_subclass kind', respelt.options_eq kind]

/-- Resolved references hide the capitals: spelt canonically both diagrams are one. -/
theorem canonical (h : d.Respelt d') (resolved : d.Resolved) : d.canonical = d'.canonical := by
  have entities : d.canonical.entities = d'.canonical.entities := by
    refine map_eq_map_of_forall₂ h.entities fun e member e' respelt => ?_
    rw [h.canonicalOptions resolved member respelt, respelt.name, respelt.kind, respelt.attributes]
  have relationships : d.canonical.relationships = d'.canonical.relationships := by
    refine map_eq_map_of_forall₂ h.relationships fun r member r' respelt => ?_
    obtain ⟨source, target⟩ := resolved.ends r member
    rw [h.canonicalName respelt.source source, h.canonicalName respelt.target target, respelt.rest]
  calc d.canonical
      = ⟨d.canonical.entities, d.canonical.relationships⟩ := rfl
    _ = ⟨d'.canonical.entities, d'.canonical.relationships⟩ := by rw [entities, relationships]
    _ = d'.canonical := rfl

theorem render (h : d.Respelt d') (resolved : d.Resolved) : d.render = d'.render :=
  Diagram.render_congr (h.canonical resolved)

/-! ### The same edges -/

theorem hierarchyEdge? (h : d.Respelt d') (respelt : e.Respelt e') : d.hierarchyEdge? e = d'.hierarchyEdge? e' := by
  ext edge
  rw [hierarchyEdge?_eq_some_iff, hierarchyEdge?_eq_some_iff, respelt.name]
  constructor
  · rintro ⟨name, index, p, parent, found, rfl⟩
    obtain ⟨name', parent', same⟩ := respelt.symm.exists_parent parent
    obtain ⟨p', found', other⟩ := h.symm.resolve_found same found
    exact ⟨name', index, p', parent', found', by rw [other.name]⟩
  · rintro ⟨name', index, p', parent', found', rfl⟩
    obtain ⟨name, parent, same⟩ := respelt.exists_parent parent'
    obtain ⟨p, found, other⟩ := h.resolve_found same found'
    exact ⟨name, index, p, parent, found, by rw [other.name]⟩

/-- Both spellings of an owner have the canonical name of the entity that they are resolved to. -/
theorem owner (h : d.Respelt d') (resolved : d.Resolved) (member : r ∈ d.relationships) (respelt : r.Respelt r')
    (weak : String) : (r.ownerOf? weak).map d.canonicalName = (r'.ownerOf? weak).map d'.canonicalName := by
  have same := respelt.ownerOf? weak
  cases owner : r.ownerOf? weak with
  | none =>
    rw [owner] at same
    cases owner' : r'.ownerOf? weak <;> rw [owner'] at same <;> cases same
    rfl
  | some name =>
    rw [owner] at same
    cases owner' : r'.ownerOf? weak <;> rw [owner'] at same <;> cases same
    have resolves : d.Resolves name := by
      obtain ⟨source, target⟩ := resolved.ends r member
      rcases List.mem_pair.mp (Relationship.mem_ends_of_ownerOf? owner) with rfl | rfl
      · exact source
      · exact target
    exact congrArg some (h.canonicalName ‹_› resolves)

theorem owners (h : d.Respelt d') (resolved : d.Resolved) (weak : String) : d.owners weak = d'.owners weak := by
  have names : (d.relationships.map fun r => (r.ownerOf? weak).map d.canonicalName) =
      d'.relationships.map fun r => (r.ownerOf? weak).map d'.canonicalName :=
    map_eq_map_of_forall₂ h.relationships fun r member r' respelt => h.owner resolved member respelt weak
  have both := congrArg (List.filterMap id) names
  rw [List.filterMap_map, List.filterMap_map] at both
  exact both

theorem ownershipEdges (h : d.Respelt d') (resolved : d.Resolved) (respelt : e.Respelt e') :
    d.ownershipEdges e = d'.ownershipEdges e' := by
  rw [ownershipEdges_eq, ownershipEdges_eq, respelt.name, respelt.kind, h.owners resolved]

/-- With its references resolved, each of two respelt diagrams implies the edges of the other. -/
theorem impliedEdges (h : d.Respelt d') (resolved : d.Resolved) : d.impliedEdges = d'.impliedEdges := by
  have hierarchy : d.entities.map d.hierarchyEdge? = d'.entities.map d'.hierarchyEdge? :=
    map_eq_map_of_forall₂ h.entities fun _ _ _ => h.hierarchyEdge?
  have ownership : d.entities.map d.ownershipEdges = d'.entities.map d'.ownershipEdges :=
    map_eq_map_of_forall₂ h.entities fun _ _ _ => h.ownershipEdges resolved
  have chain : ∀ d : Diagram, d.impliedEdges =
      (d.entities.map d.hierarchyEdge?).filterMap id ++ (d.entities.map d.ownershipEdges).flatten := fun d => by
    rw [Diagram.impliedEdges, List.filterMap_map, List.flatMap_def]
    rfl
  rw [chain, chain, hierarchy, ownership]

/-! ### The same verdicts -/

theorem serialize_tolerant (h : d.Respelt d') {text : String} (written : d.serialize .tolerant = .ok text) :
    d'.serialize .tolerant = .ok text := by
  obtain ⟨resolved, rfl⟩ := Diagram.serialize_tolerant_eq_ok_iff.mp written
  exact Diagram.serialize_tolerant_eq_ok_iff.mpr ⟨h.resolved resolved, (h.render resolved).symm⟩

theorem serialize_strict (h : d.Respelt d')
    (identifiers : ∀ element name, d'.Refers element name → isIdentifier name = true)
    {text : String} (written : d.serialize .strict = .ok text) : d'.serialize .strict = .ok text := by
  obtain ⟨valid, rfl⟩ := Diagram.serialize_strict_eq_ok_iff.mp written
  refine Diagram.serialize_strict_eq_ok_iff.mpr ⟨h.valid (identifiers _ _) valid, ?_⟩
  exact (h.render valid.resolved).symm

end Diagram.Respelt

/-- Diagrams that differ in the capitals of references only are written alike by the tolerant policy, and by the strict
    one where all their references are identifiers. Where the references are resolved the diagrams imply the same edges.
    In canonical spelling a valid diagram stays valid and keeps its text. -/
theorem Diagram.Respelt.serialize_and_impliedEdges_agree {d d' : Diagram} (h : d.Respelt d') :
    (∀ text, d.serialize .tolerant = .ok text ↔ d'.serialize .tolerant = .ok text) ∧
      ((∀ element name, d.Refers element name ∨ d'.Refers element name → isIdentifier name = true) →
        ∀ text, d.serialize .strict = .ok text ↔ d'.serialize .strict = .ok text) ∧
      (d.Resolved → d.impliedEdges = d'.impliedEdges) ∧
      (d.Valid → d.canonical.Valid ∧
        ∀ policy, d.serialize policy = .ok d.render ∧ d.canonical.serialize policy = .ok d.render) := by
  refine ⟨fun text => ⟨h.serialize_tolerant, h.symm.serialize_tolerant⟩, fun identifiers text => ⟨?_, ?_⟩,
    h.impliedEdges, fun valid => ⟨valid.canonical, fun policy => ⟨valid.serialize policy, ?_⟩⟩⟩
  · exact h.serialize_strict fun element name refers => identifiers element name (Or.inr refers)
  · exact h.symm.serialize_strict fun element name refers => identifiers element name (Or.inl refers)
  · rw [valid.canonical.serialize policy, d.render_canonical]

/-- A superclass, a subclass of it and a weak entity, under the references that are given. The letter `ß` has the
    capital form `ẞ`. -/
def Diagram.street (parent owner weak : String) : Diagram where
  entities := [
    ⟨"Straße", .superclass, ["total", "disjoint"], [⟨"name", .primary⟩, ⟨"art", .plain⟩]⟩,
    ⟨"Gasse", .subclass, [parent], []⟩,
    ⟨"Haus", .weak, [], [⟨"nummer", .partialKey⟩]⟩]
  relationships := [⟨owner, .exactlyOne, "säumt", .zeroOrMany, weak, .double, []⟩]

def Diagram.smallStreet : Diagram := street "straße" "Straße" "haus"

def Diagram.capitalStreet : Diagram := street "STRAẞE" "sTRAẞE" "HAUS"

theorem Diagram.Respelt.serialize_and_impliedEdges_agree_street :
    smallStreet.Respelt capitalStreet ∧ smallStreet.Valid ∧ capitalStreet.Valid ∧
      (∀ text, smallStreet.serialize .tolerant = .ok text ↔ capitalStreet.serialize .tolerant = .ok text) ∧
      (∀ text, smallStreet.serialize .strict = .ok text ↔ capitalStreet.serialize .strict = .ok text) ∧
      smallStreet.impliedEdges = capitalStreet.impliedEdges ∧ smallStreet.canonical.Valid := by
  have small : smallStreet.Valid := by decide +kernel
  have capital : capitalStreet.Valid := by decide +kernel
  have respelt : smallStreet.Respelt capitalStreet := by
    refine ⟨.cons ⟨rfl, Or.inl rfl⟩ (.cons ⟨rfl, Or.inr ?_⟩ (.cons ⟨rfl, Or.inl rfl⟩ .nil)), .cons ⟨rfl, ?_, ?_⟩ .nil⟩
    · exact ⟨rfl, "straße", "STRAẞE", [], rfl, rfl, by decide +kernel⟩
    · decide +kernel
    · decide +kernel
  obtain ⟨tolerant, strict, edges, canonical⟩ := serialize_and_impliedEdges_agree respelt
  refine ⟨respelt, small, capital, tolerant, strict ?_, edges small.resolved, (canonical small).1⟩
  rintro element name (refers | refers)
  · exact small.isIdentifier_reference refers
  · exact capital.isIdentifier_reference refers

end ErDiagram
