import ErDiagram.Proofs.RoundTrip
import Mathlib.Data.List.Forall2

/-! Respelt references. Two diagrams that differ in the capitals of references only resolve every reference to the same
    place, so a rule that one of them breaks the other breaks as well. Spelling all references as their entities declare
    them is such a change; done again it changes nothing. -/

namespace ErDiagram

/-! ### Diagrams that differ in capitals -/

/-- The same entity, but that a subclass may name its parent in other capitals. -/
structure Entity.Respelt (e e' : Entity) : Prop where
  rest : e' = { e with options := e'.options }
  options : e'.options = e.options ∨ e.kind = .subclass ∧ ∃ parent parent' others,
    e.options = parent :: others ∧ e'.options = parent' :: others ∧ sameName parent parent' = true

/-- The same relationship, but that its ends may be named in other capitals. -/
structure Relationship.Respelt (r r' : Relationship) : Prop where
  rest : r' = { r with source := r'.source, target := r'.target }
  source : sameName r.source r'.source = true
  target : sameName r.target r'.target = true

/-- The same diagram up to capitals in its references. -/
structure Diagram.Respelt (d d' : Diagram) : Prop where
  entities : List.Forall₂ Entity.Respelt d.entities d'.entities
  relationships : List.Forall₂ Relationship.Respelt d.relationships d'.relationships

namespace Entity.Respelt
variable {e e' : Entity}

theorem name (h : e.Respelt e') : e'.name = e.name := by rw [h.rest]

theorem kind (h : e.Respelt e') : e'.kind = e.kind := by rw [h.rest]

theorem attributes (h : e.Respelt e') : e'.attributes = e.attributes := by rw [h.rest]

theorem options_length (h : e.Respelt e') : e'.options.length = e.options.length := by
  rcases h.options with same | ⟨-, parent, parent', others, before, after, -⟩
  · rw [same]
  · rw [before, after, List.length_cons, List.length_cons]

theorem options_eq (h : e.Respelt e') (kind : e.kind ≠ .subclass) : e'.options = e.options :=
  h.options.resolve_right fun other => kind other.1

theorem keyed (h : e.Respelt e') (key : KeyKind) : e'.keyed key = e.keyed key := by
  rw [Entity.keyed, Entity.keyed, h.attributes]

theorem discriminator? (h : e.Respelt e') : e'.discriminator? = e.discriminator? := by
  rw [Entity.discriminator?, Entity.discriminator?, h.attributes]

theorem element (h : e.Respelt e') (index : Nat) : e'.element index = e.element index := by
  rw [Entity.element, Entity.element, h.name]

theorem exists_parent (h : e.Respelt e') {name' : String} (parent : e'.parent? = some name') :
    ∃ name, e.parent? = some name ∧ sameName name name' = true := by
  obtain ⟨kind, option⟩ := Entity.parent?_eq_some_iff.mp parent
  rw [h.kind] at kind
  rcases h.options with same | ⟨-, before, after, others, options, options', respelt⟩
  · rw [same] at option
    exact ⟨name', Entity.parent?_eq_some_iff.mpr ⟨kind, option⟩, sameName_refl name'⟩
  · rw [options', List.head?_cons, Option.some.injEq] at option
    have original : e.options.head? = some before := by rw [options, List.head?_cons]
    exact ⟨before, Entity.parent?_eq_some_iff.mpr ⟨kind, original⟩, option ▸ respelt⟩

end Entity.Respelt

namespace Relationship.Respelt
variable {r r' : Relationship}

theorem name (h : r.Respelt r') : r'.name = r.name := by rw [h.rest]

theorem line (h : r.Respelt r') : r'.line = r.line := by rw [h.rest]

theorem attributes (h : r.Respelt r') : r'.attributes = r.attributes := by rw [h.rest]

theorem otherEnd? (h : r.Respelt r') (weak : String) :
    Option.Rel (fun a b => sameName a b = true) (r.otherEnd? weak) (r'.otherEnd? weak) := by
  rw [Relationship.otherEnd?, Relationship.otherEnd?, sameName_congr_left h.source, sameName_congr_left h.target]
  split
  · exact .some h.target
  · split
    · exact .some h.source
    · exact .none

/-- Both give a weak entity the same owner. -/
theorem ownerOf? (h : r.Respelt r') (weak : String) :
    Option.Rel (fun a b => sameName a b = true) (r.ownerOf? weak) (r'.ownerOf? weak) := by
  rw [Relationship.ownerOf?, Relationship.ownerOf?, h.line]
  split
  · have ends := h.otherEnd? weak
    generalize r.otherEnd? weak = a at ends
    generalize r'.otherEnd? weak = b at ends
    cases ends with
    | none => exact .none
    | some same =>
      rw [Option.filter_some, Option.filter_some, sameName_congr_left same]
      split
      · exact .some same
      · exact .none
  · exact .none

end Relationship.Respelt

/-! ### Resolving in both -/

theorem forall₂_zipIdx {α β : Type} {r : α → β → Prop} {l : List α} {m : List β} (h : List.Forall₂ r l m)
    (start : Nat) : List.Forall₂ (fun x y => r x.1 y.1 ∧ x.2 = y.2) (l.zipIdx start) (m.zipIdx start) := by
  induction h generalizing start with
  | nil => exact .nil
  | cons first _ ih => exact .cons ⟨first, rfl⟩ (ih (start + 1))

theorem exists_getElem?_of_forall₂ {α β : Type} {r : α → β → Prop} {l : List α} {m : List β}
    (h : List.Forall₂ r l m) {index : Nat} {b : β} (at_index : m[index]? = some b) :
    ∃ a, l[index]? = some a ∧ r a b := by
  induction h generalizing index with
  | nil => simp at at_index
  | @cons a b' l m first _ ih =>
    cases index with
    | zero =>
      rw [List.getElem?_cons_zero, Option.some.injEq] at at_index
      exact ⟨a, List.getElem?_cons_zero, at_index ▸ first⟩
    | succ index =>
      rw [List.getElem?_cons_succ] at at_index
      exact ih at_index

/-- The same outcome, with the entity as each of the two diagrams has it. -/
inductive Resolution.Respelt : Resolution → Resolution → Prop where
  | found {index : Nat} {e e' : Entity} (entity : e.Respelt e') : Respelt (.found index e) (.found index e')
  | missing : Respelt .missing .missing
  | ambiguous (count : Nat) : Respelt (.ambiguous count) (.ambiguous count)

namespace Diagram.Respelt
variable {d d' : Diagram} {name name' : String} {index : Nat} {e' : Entity} {r' : Relationship} {v' : Violation}

theorem entity (h : d.Respelt d') (at_index : d'.entities[index]? = some e') :
    ∃ e, d.entities[index]? = some e ∧ e.Respelt e' :=
  exists_getElem?_of_forall₂ h.entities at_index

theorem relationship (h : d.Respelt d') (at_index : d'.relationships[index]? = some r') :
    ∃ r, d.relationships[index]? = some r ∧ r.Respelt r' :=
  exists_getElem?_of_forall₂ h.relationships at_index

theorem entity_of_mem (h : d.Respelt d') (member : e' ∈ d'.entities) : ∃ e ∈ d.entities, e.Respelt e' := by
  obtain ⟨index, at_index⟩ := List.getElem?_of_mem member
  obtain ⟨e, found, respelt⟩ := h.entity at_index
  exact ⟨e, List.mem_of_getElem? found, respelt⟩

theorem relationship_of_mem (h : d.Respelt d') (member : r' ∈ d'.relationships) :
    ∃ r ∈ d.relationships, r.Respelt r' := by
  obtain ⟨index, at_index⟩ := List.getElem?_of_mem member
  obtain ⟨r, found, respelt⟩ := h.relationship at_index
  exact ⟨r, List.mem_of_getElem? found, respelt⟩

theorem map_name (h : d.Respelt d') : d'.entities.map (·.name) = d.entities.map (·.name) := by
  have pairs := h.entities
  generalize d.entities = l at pairs
  generalize d'.entities = m at pairs
  induction pairs with
  | nil => rfl
  | cons first _ ih => rw [List.map_cons, List.map_cons, first.name, ih]

theorem named (h : d.Respelt d') (same : sameName name name' = true) :
    List.Forall₂ (fun x y => x.1.Respelt y.1 ∧ x.2 = y.2) (d.named name) (d'.named name') := by
  refine List.rel_filter ?_ (forall₂_zipIdx h.entities 0)
  intro x y both
  change sameName x.1.name name = true ↔ sameName y.1.name name' = true
  rw [both.1.name, sameName_congr same]

theorem resolve (h : d.Respelt d') (same : sameName name name' = true) :
    (d.resolve name).Respelt (d'.resolve name') := by
  have both := h.named same
  rw [Diagram.resolve, Diagram.resolve]
  generalize d.named name = l at both
  generalize d'.named name' = m at both
  cases both with
  | nil => exact .missing
  | @cons x y l m first others =>
    obtain ⟨e, i⟩ := x
    obtain ⟨e', i'⟩ := y
    obtain ⟨entity, rfl⟩ := first
    cases others with
    | nil => exact .found entity
    | cons second others =>
      simp only [List.length_cons, others.length_eq]
      exact .ambiguous _

theorem resolve_found (h : d.Respelt d') (same : sameName name name' = true)
    (found : d'.resolve name' = .found index e') : ∃ e, d.resolve name = .found index e ∧ e.Respelt e' := by
  have both := h.resolve same
  rw [found] at both
  cases outcome : d.resolve name <;> rw [outcome] at both <;> cases both
  exact ⟨_, rfl, ‹_›⟩

theorem resolve_missing (h : d.Respelt d') (same : sameName name name' = true) (missing : d'.resolve name' = .missing) :
    d.resolve name = .missing := by
  have both := h.resolve same
  rw [missing] at both
  cases outcome : d.resolve name <;> rw [outcome] at both <;> cases both

theorem resolve_ambiguous (h : d.Respelt d') (same : sameName name name' = true) {count : Nat}
    (several : d'.resolve name' = .ambiguous count) : d.resolve name = .ambiguous count := by
  have both := h.resolve same
  rw [several] at both
  cases outcome : d.resolve name <;> rw [outcome] at both <;> cases both
  rfl

theorem refers (h : d.Respelt d') {element : Element} (refers : d'.Refers element name') :
    ∃ name, d.Refers element name ∧ sameName name name' = true := by
  cases refers with
  | parent at_index parent =>
    obtain ⟨e, found, respelt⟩ := h.entity at_index
    obtain ⟨name, original, same⟩ := respelt.exists_parent parent
    exact ⟨name, respelt.element _ ▸ .parent found original, same⟩
  | source at_index =>
    obtain ⟨r, found, respelt⟩ := h.relationship at_index
    exact ⟨r.source, respelt.name ▸ .source found, respelt.source⟩
  | target at_index =>
    obtain ⟨r, found, respelt⟩ := h.relationship at_index
    exact ⟨r.target, respelt.name ▸ .target found, respelt.target⟩

theorem owners_length (h : d.Respelt d') (weak : String) :
    (d'.relationships.filterMap (·.ownerOf? weak)).length = (d.relationships.filterMap (·.ownerOf? weak)).length :=
  (List.rel_filterMap (fun _ _ respelt => respelt.ownerOf? weak) h.relationships).length_eq.symm

theorem find_earlier (h : d.Respelt d') (index : Nat) (name : String) :
    ((d'.entities.take index).find? (sameName ·.name name)).map (·.name) =
      ((d.entities.take index).find? (sameName ·.name name)).map (·.name) := by
  have names : ∀ es : List Entity, ((es.take index).find? (sameName ·.name name)).map (·.name) =
      ((es.map (·.name)).take index).find? (sameName · name) := fun es => by
    rw [← List.map_take, List.find?_map]
    rfl
  rw [names, names, h.map_name]

/-- A rule that the respelt diagram breaks is broken by the other, unless it is that a reference is malformed. -/
theorem breach (h : d.Respelt d') (identifiers : ∀ {element name}, d'.Refers element name → isIdentifier name = true)
    (breach : d'.Breach v') : ∃ v, d.Breach v ∧ v.rule = v'.rule := by
  cases breach with
  | @duplicateEntityName index _ _ at_index earlier =>
    obtain ⟨e, found, respelt⟩ := h.entity at_index
    have first := h.find_earlier index e.name
    rw [respelt.name] at earlier
    rw [earlier] at first
    obtain ⟨other, original, -⟩ := Option.map_eq_some_iff.mp first.symm
    exact ⟨_, .duplicateEntityName found original, rfl⟩
  | entityName at_index malformed =>
    obtain ⟨e, found, respelt⟩ := h.entity at_index
    exact ⟨_, .entityName found (respelt.name ▸ malformed), rfl⟩
  | entityAttributeName member at_place malformed =>
    obtain ⟨e, original, respelt⟩ := h.entity_of_mem member
    rw [respelt.attributes] at at_place
    exact ⟨_, .entityAttributeName original at_place malformed, rfl⟩
  | relationshipName at_index malformed =>
    obtain ⟨r, found, respelt⟩ := h.relationship at_index
    exact ⟨_, .relationshipName found (respelt.name ▸ malformed), rfl⟩
  | relationshipAttributeName member at_place malformed =>
    obtain ⟨r, original, respelt⟩ := h.relationship_of_mem member
    rw [respelt.attributes] at at_place
    exact ⟨_, .relationshipAttributeName original at_place malformed, rfl⟩
  | referenceName refers malformed =>
    rw [identifiers refers] at malformed
    cases malformed
  | optionCount at_index count =>
    obtain ⟨e, found, respelt⟩ := h.entity at_index
    rw [respelt.options_length, respelt.kind] at count
    exact ⟨_, .optionCount found count, rfl⟩
  | primaryKeyCount at_index kind count =>
    obtain ⟨e, found, respelt⟩ := h.entity at_index
    rw [respelt.kind] at kind
    rw [respelt.keyed] at count
    exact ⟨_, .primaryKeyCount found kind count, rfl⟩
  | partialKeyCount at_index kind count =>
    obtain ⟨e, found, respelt⟩ := h.entity at_index
    rw [respelt.kind] at kind
    rw [respelt.keyed] at count
    exact ⟨_, .partialKeyCount found kind count, rfl⟩
  | unexpectedPrimaryKey member at_place key kind =>
    obtain ⟨e, original, respelt⟩ := h.entity_of_mem member
    rw [respelt.attributes] at at_place
    rw [respelt.kind] at kind
    exact ⟨_, .unexpectedPrimaryKey original at_place key kind, rfl⟩
  | unexpectedPartialKey member at_place key kind =>
    obtain ⟨e, original, respelt⟩ := h.entity_of_mem member
    rw [respelt.attributes] at at_place
    rw [respelt.kind] at kind
    exact ⟨_, .unexpectedPartialKey original at_place key kind, rfl⟩
  | participation at_index kind option other =>
    obtain ⟨e, found, respelt⟩ := h.entity at_index
    rw [respelt.kind] at kind
    rw [respelt.options_eq (by simp [kind])] at option
    exact ⟨_, .participation found kind option other, rfl⟩
  | disjointness at_index kind option other =>
    obtain ⟨e, found, respelt⟩ := h.entity at_index
    rw [respelt.kind] at kind
    rw [respelt.options_eq (by simp [kind])] at option
    exact ⟨_, .disjointness found kind option other, rfl⟩
  | missingDiscriminator at_index kind missing =>
    obtain ⟨e, found, respelt⟩ := h.entity at_index
    rw [respelt.kind] at kind
    rw [respelt.discriminator?] at missing
    exact ⟨_, .missingDiscriminator found kind missing, rfl⟩
  | discriminatorShape member kind last shape =>
    obtain ⟨e, original, respelt⟩ := h.entity_of_mem member
    rw [respelt.kind] at kind
    rw [respelt.discriminator?] at last
    rw [respelt.options_eq (by simp [kind])] at shape
    exact ⟨_, .discriminatorShape original kind last shape, rfl⟩
  | parentNotSuperclass at_index parent found kind =>
    obtain ⟨e, original, respelt⟩ := h.entity at_index
    obtain ⟨name, reference, same⟩ := respelt.exists_parent parent
    obtain ⟨p, resolved, respelt⟩ := h.resolve_found same found
    rw [respelt.kind] at kind
    exact ⟨_, .parentNotSuperclass original reference resolved kind, rfl⟩
  | superclassAfterSubclass at_index parent found after =>
    obtain ⟨e, original, respelt⟩ := h.entity at_index
    obtain ⟨name, reference, same⟩ := respelt.exists_parent parent
    obtain ⟨p, resolved, -⟩ := h.resolve_found same found
    exact ⟨_, .superclassAfterSubclass original reference resolved after, rfl⟩
  | weakOwnerCount at_index kind count =>
    obtain ⟨e, found, respelt⟩ := h.entity at_index
    rw [respelt.kind] at kind
    rw [respelt.name, h.owners_length] at count
    exact ⟨_, .weakOwnerCount found kind count, rfl⟩
  | relationshipAttributeKey member at_place key =>
    obtain ⟨r, original, respelt⟩ := h.relationship_of_mem member
    rw [respelt.attributes] at at_place
    exact ⟨_, .relationshipAttributeKey original at_place key, rfl⟩
  | unresolvedReference refers missing =>
    obtain ⟨name, reference, same⟩ := h.refers refers
    exact ⟨_, .unresolvedReference reference (h.resolve_missing same missing), rfl⟩
  | ambiguousReference refers several =>
    obtain ⟨name, reference, same⟩ := h.refers refers
    exact ⟨_, .ambiguousReference reference (h.resolve_ambiguous same several), rfl⟩

theorem valid (h : d.Respelt d') (identifiers : ∀ {element name}, d'.Refers element name → isIdentifier name = true)
    (valid : d.Valid) : d'.Valid := by
  refine valid_iff.mpr fun v' breach => ?_
  obtain ⟨v, original, -⟩ := h.breach identifiers breach
  exact valid_iff.mp valid v original

end Diagram.Respelt

/-! ### Canonical spelling -/

namespace Diagram
variable {d : Diagram}

theorem respelt_canonical (d : Diagram) : d.Respelt d.canonical := by
  constructor
  · rw [canonical, List.forall₂_map_right_iff, List.forall₂_same]
    refine fun e _ => ⟨rfl, ?_⟩
    rw [canonicalOptions]
    split
    · next parent others kind options =>
      refine Or.inr ⟨kind, parent, d.canonicalName parent, others, options, rfl, ?_⟩
      rw [sameName_comm]
      exact sameName_canonicalName d parent
    · exact Or.inl rfl
  · rw [canonical, List.forall₂_map_right_iff, List.forall₂_same]
    refine fun r _ => ⟨rfl, ?_, ?_⟩
    · rw [sameName_comm]
      exact sameName_canonicalName d r.source
    · rw [sameName_comm]
      exact sameName_canonicalName d r.target

theorem canonicalName_canonical (d : Diagram) (name : String) :
    d.canonical.canonicalName (d.canonicalName name) = d.canonicalName name := by
  rw [canonicalName]
  split
  · next found =>
    obtain ⟨e, outcome, respelt⟩ := d.respelt_canonical.resolve_found (sameName_refl (d.canonicalName name)) found
    rw [resolve_congr (sameName_canonicalName d name)] at outcome
    rw [canonicalName_of_found outcome]
    exact respelt.name
  · rfl

theorem canonicalOptions_canonical (d : Diagram) (e : Entity) :
    d.canonical.canonicalOptions { e with options := d.canonicalOptions e } = d.canonicalOptions e := by
  rw [canonicalOptions]
  split
  · next parent' others kind options =>
    simp only at kind options
    rw [canonicalOptions] at options ⊢
    split at options
    · next parent others _ _ =>
      obtain ⟨rfl, rfl⟩ := List.cons.inj options
      rw [canonicalName_canonical]
    · next other => exact absurd options (other _ _ kind)
  · rfl

/-- Spelling references canonically a second time changes nothing. -/
theorem canonical_canonical (d : Diagram) : d.canonical.canonical = d.canonical := by
  have entities : d.canonical.canonical.entities = d.canonical.entities := by
    refine List.map_map.trans (List.map_congr_left fun e _ => ?_)
    exact congrArg (Entity.mk e.name e.kind · e.attributes) (d.canonicalOptions_canonical e)
  have relationships : d.canonical.canonical.relationships = d.canonical.relationships := by
    refine List.map_map.trans (List.map_congr_left fun r _ => ?_)
    simp only [Function.comp_apply, canonicalName_canonical]
  calc d.canonical.canonical
      = ⟨d.canonical.canonical.entities, d.canonical.canonical.relationships⟩ := rfl
    _ = ⟨d.canonical.entities, d.canonical.relationships⟩ := by rw [entities, relationships]
    _ = d.canonical := rfl

theorem render_canonical (d : Diagram) : d.canonical.render = d.render := render_congr d.canonical_canonical

/-- A reference of the canonical diagram is one of the diagram itself, spelt canonically. -/
theorem exists_refers_of_canonical {element : Element} {name' : String} (refers : d.canonical.Refers element name') :
    ∃ name, d.Refers element name ∧ name' = d.canonicalName name := by
  cases refers with
  | @parent index e' _ at_index parent =>
    rw [canonical, List.getElem?_map, Option.map_eq_some_iff] at at_index
    obtain ⟨e, found, rfl⟩ := at_index
    obtain ⟨kind, option⟩ := Entity.parent?_eq_some_iff.mp parent
    simp only at kind option
    cases options : e.options with
    | nil => simp [canonicalOptions, kind, options] at option
    | cons name others =>
      rw [canonicalOptions, kind, options, List.head?_cons] at option
      have original : e.options.head? = some name := by rw [options, List.head?_cons]
      have refers : d.Refers (e.element index) name := .parent found (Entity.parent?_eq_some_iff.mpr ⟨kind, original⟩)
      exact ⟨name, refers, (Option.some.inj option).symm⟩
  | @source index r' at_index =>
    rw [canonical, List.getElem?_map, Option.map_eq_some_iff] at at_index
    obtain ⟨r, found, rfl⟩ := at_index
    exact ⟨r.source, .source found, rfl⟩
  | @target index r' at_index =>
    rw [canonical, List.getElem?_map, Option.map_eq_some_iff] at at_index
    obtain ⟨r, found, rfl⟩ := at_index
    exact ⟨r.target, .target found, rfl⟩

theorem Valid.canonical (h : d.Valid) : d.canonical.Valid := by
  refine d.respelt_canonical.valid (fun refers => ?_) h
  obtain ⟨name, original, rfl⟩ := exists_refers_of_canonical refers
  have names : ∀ e ∈ d.entities, isIdentifier e.name = true := fun _ => h.expressible.isIdentifier_name
  exact isIdentifier_canonicalName names (h.expressible.isIdentifier_reference original)

end Diagram

end ErDiagram
