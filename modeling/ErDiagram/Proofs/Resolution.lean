import ErDiagram.Reference

/-! Resolution of names. A name is resolved by the entities that have it, wherever they stand, so names that are the
    same resolve alike. It is resolved when their number is one, and then it is the same as the name of that entity. The
    canonical diagram is the one that has these names as its references. -/

namespace ErDiagram

section
variable {d : Diagram} {e : Entity} {name other : String} {index : Nat}

theorem sameName_congr (h : sameName name other = true) (a : String) : sameName a name = sameName a other := by
  rw [Bool.eq_iff_iff]
  exact ⟨fun ha => sameName_trans ha h, fun ha => sameName_trans ha (sameName_comm name other ▸ h)⟩

theorem sameName_congr_left (h : sameName name other = true) (a : String) : sameName name a = sameName other a := by
  rw [sameName_comm name, sameName_comm other, sameName_congr h]

theorem mem_named : (e, index) ∈ d.named name ↔ d.entities[index]? = some e ∧ sameName e.name name = true := by
  rw [Diagram.named, List.mem_filter, List.mem_zipIdx_iff_getElem?]

theorem named_congr (h : sameName name other = true) : d.named name = d.named other :=
  List.filter_congr fun _ _ => sameName_congr h _

theorem resolve_congr (h : sameName name other = true) : d.resolve name = d.resolve other := by
  rw [Diagram.resolve, Diagram.resolve, named_congr h]

theorem resolve_eq_found_iff : d.resolve name = .found index e ↔ d.named name = [(e, index)] := by
  rw [Diagram.resolve]
  split
  · next none => simp [none]
  · next e' index' one => simp [one, and_comm]
  · next other => simpa using other e index

theorem resolve_eq_missing_iff : d.resolve name = .missing ↔ d.named name = [] := by
  rw [Diagram.resolve]
  split
  · next none => simp [none]
  · next one => simp [one]
  · next none _ => simpa using none

theorem resolve_eq_ambiguous_iff {count : Nat} :
    d.resolve name = .ambiguous count ↔ 2 ≤ count ∧ (d.named name).length = count := by
  rw [Diagram.resolve]
  match d.named name with
  | [] => exact iff_of_false (by simp) (by rw [List.length_nil]; omega)
  | [(e, index)] => exact iff_of_false (by simp) (by rw [List.length_singleton]; omega)
  | x :: y :: others =>
    rw [Resolution.ambiguous.injEq]
    refine ⟨fun same => ⟨?_, same⟩, And.right⟩
    rw [← same]
    simp

/-- What a name resolves to stands at the place and has the name. -/
theorem of_resolve_eq_found (h : d.resolve name = .found index e) :
    d.entities[index]? = some e ∧ sameName e.name name = true := by
  rw [← mem_named, resolve_eq_found_iff.mp h]
  exact List.mem_singleton_self _

/-- Where names are distinct no reference is ambiguous. -/
theorem resolve_ne_ambiguous (distinct : d.entities.Pairwise fun e other => sameName e.name other.name = false)
    (count : Nat) : d.resolve name ≠ .ambiguous count := by
  rw [← List.zipIdx_map_fst 0 d.entities, List.pairwise_map] at distinct
  have pairs : (d.named name).Pairwise fun x y => sameName x.1.name y.1.name = false := distinct.filter _
  intro outcome
  obtain ⟨two, length⟩ := resolve_eq_ambiguous_iff.mp outcome
  rw [← length] at two
  match several : d.named name with
  | [] => simp [several] at two
  | [_] => simp [several] at two
  | x :: y :: others =>
    -- Two entities that have the name have the same name.
    have hx : x ∈ d.named name := several ▸ List.mem_cons_self
    have hy : y ∈ d.named name := several ▸ List.mem_cons_of_mem _ List.mem_cons_self
    have same := sameName_trans (mem_named.mp hx).2 (sameName_comm y.1.name name ▸ (mem_named.mp hy).2)
    rw [several, List.pairwise_cons] at pairs
    rw [pairs.1 y List.mem_cons_self] at same
    cases same

/-! ### Resolved names -/

/-- Exactly one entity has the name. -/
def Diagram.Resolves (d : Diagram) (name : String) : Prop := d.entities.countP (sameName ·.name name) = 1

/-- Pairing the items of a list with their places does not change how many of them have a property. -/
theorem length_filter_zipIdx {α : Type} (l : List α) (p : α → Bool) :
    (l.zipIdx.filter fun x => p x.1).length = l.countP p := by
  have items : (l.zipIdx.map Prod.fst).countP p = l.countP p := by rw [List.zipIdx_map_fst]
  rw [← List.countP_eq_length_filter, ← items, List.countP_map]
  rfl

theorem length_named (d : Diagram) (name : String) :
    (d.named name).length = d.entities.countP (sameName ·.name name) :=
  length_filter_zipIdx d.entities (sameName ·.name name)

theorem resolves_of_found (found : d.resolve name = .found index e) : d.Resolves name := by
  rw [Diagram.Resolves, ← length_named, resolve_eq_found_iff.mp found, List.length_singleton]

theorem Diagram.Resolves.exists_found (h : d.Resolves name) : ∃ index e, d.resolve name = .found index e := by
  rw [Diagram.Resolves, ← length_named] at h
  obtain ⟨⟨e, index⟩, one⟩ := List.length_eq_one_iff.mp h
  exact ⟨index, e, resolve_eq_found_iff.mpr one⟩

theorem Diagram.Resolves.not_missing (h : d.Resolves name) : d.resolve name ≠ .missing := by
  obtain ⟨index, e, found⟩ := h.exists_found
  simp [found]

theorem Diagram.Resolves.not_ambiguous (h : d.Resolves name) (count : Nat) : d.resolve name ≠ .ambiguous count := by
  obtain ⟨index, e, found⟩ := h.exists_found
  simp [found]

/-- A resolved name is resolved to the entity that has it. -/
theorem Diagram.Resolves.found (h : d.Resolves name) (at_index : d.entities[index]? = some e)
    (same : sameName e.name name = true) : d.resolve name = .found index e := by
  obtain ⟨place, only, found⟩ := h.exists_found
  have member : (e, index) ∈ d.named name := mem_named.mpr ⟨at_index, same⟩
  rw [resolve_eq_found_iff.mp found, List.mem_singleton] at member
  obtain ⟨rfl, rfl⟩ := Prod.mk.inj member
  exact found

/-- Where names are distinct each entity is the one that its name refers to. -/
theorem resolve_name (distinct : d.entities.Pairwise fun e other => sameName e.name other.name = false)
    (at_index : d.entities[index]? = some e) : d.resolve e.name = .found index e := by
  have member : (e, index) ∈ d.named e.name := mem_named.mpr ⟨at_index, sameName_refl e.name⟩
  cases outcome : d.resolve e.name with
  | found place only =>
    rw [← outcome]
    exact (resolves_of_found outcome).found at_index (sameName_refl e.name)
  | missing => rw [resolve_eq_missing_iff.mp outcome] at member; cases member
  | ambiguous count => exact absurd outcome (resolve_ne_ambiguous distinct count)

/-! ### Canonical names -/

/-- The options of an entity with the parent of a subclass as its entity declares it. -/
def Diagram.canonicalOptions (d : Diagram) (e : Entity) : List String :=
  match e.kind, e.options with
  | .subclass, parent :: others => d.canonicalName parent :: others
  | _, options => options

/-- The diagram with every reference spelt as its entity declares it. -/
def Diagram.canonical (d : Diagram) : Diagram where
  entities := d.entities.map fun e => { e with options := d.canonicalOptions e }
  relationships := d.relationships.map fun r =>
    { r with source := d.canonicalName r.source, target := d.canonicalName r.target }

theorem canonicalName_of_found (h : d.resolve name = .found index e) : d.canonicalName name = e.name := by
  rw [Diagram.canonicalName, h]

/-- Spelling a reference as its entity declares it keeps it an identifier. -/
theorem isIdentifier_canonicalName (names : ∀ e ∈ d.entities, isIdentifier e.name = true)
    (identifier : isIdentifier name = true) : isIdentifier (d.canonicalName name) = true := by
  rw [Diagram.canonicalName]
  split
  · next found => exact names _ (List.mem_of_getElem? (of_resolve_eq_found found).1)
  · exact identifier

/-- Only a subclass has a reference among its options. -/
theorem canonicalOptions_of_ne_subclass (kind : e.kind ≠ .subclass) : d.canonicalOptions e = e.options := by
  rw [Diagram.canonicalOptions]
  split
  · next subclass _ => exact absurd subclass kind
  · rfl

theorem isIdentifier_canonicalOptions (names : ∀ e ∈ d.entities, isIdentifier e.name = true)
    (identifiers : ∀ o ∈ e.options, isIdentifier o = true) : ∀ o ∈ d.canonicalOptions e, isIdentifier o = true := by
  rw [Diagram.canonicalOptions]
  split
  · next parent others kind options =>
    rw [options, List.forall_mem_cons] at identifiers
    exact List.forall_mem_cons.mpr ⟨isIdentifier_canonicalName names identifiers.1, identifiers.2⟩
  · exact identifiers

theorem sameName_canonicalName (d : Diagram) (name : String) : sameName (d.canonicalName name) name = true := by
  rw [Diagram.canonicalName]
  split
  · next found => exact (of_resolve_eq_found found).2
  · exact sameName_refl name

end

end ErDiagram
