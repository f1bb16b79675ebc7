import ErDiagram.Proofs.AttributeName
import ErDiagram.Proofs.Breach
import ErDiagram.Proofs.Resolution
import ErDiagram.Proofs.Word

/-! Well-formed diagrams. The rules are said here of the names, options, keys and references of a diagram and not of the
    checks that look for them: what an entity must be like at its place, what a relationship must be like, and that no
    two entities share a name. Each rule has a bridge to the breach that reports it, so a diagram has no violations
    exactly when it keeps them all. -/

namespace ErDiagram
open Character

/-! ### Names -/

/-- A name that a statement can hold as one attribute: there is something of it, no blank stands at an end of it,
    nothing in it ends a statement, and its commas and braces stand in value lists, which are all closed. -/
structure IsAttributeName (name : String) : Prop where
  ne_empty : name ≠ ""
  start : ∀ c ∈ name.toList.head?, isBlank c = false
  last : ∀ c ∈ name.toList.getLast?, isBlank c = false
  quiet : ∀ c ∈ name.toList, c ≠ ';' ∧ c ≠ ':'
  closed : Closed name.toList

/-- A name that a statement can hold as the name of a relationship: one word, in which nothing ends the statement. -/
structure IsRelationshipName (name : String) : Prop where
  ne_empty : name ≠ ""
  chars : ∀ c ∈ name.toList, isBlank c = false ∧ c ≠ ';' ∧ c ≠ ':'

theorem isAttributeName_eq_true_iff {name : String} : isAttributeName name = true ↔ IsAttributeName name := by
  rw [isAttributeName_iff]
  constructor
  · rintro ⟨ne, start, read⟩
    refine ⟨ne, start, trimEnd_eq_self_iff.mp read.trimmed, fun c hc => ?_, read.closed⟩
    exact endsStatement_eq_false_iff.mp (read.quiet c hc)
  · rintro ⟨ne, start, last, quiet, closed⟩
    refine ⟨ne, start, closed, fun c hc => ?_, trimEnd_eq_self_iff.mpr last⟩
    exact endsStatement_eq_false_iff.mpr (quiet c hc)

theorem isRelationshipName_eq_true_iff {name : String} :
    isRelationshipName name = true ↔ IsRelationshipName name := by
  simp only [isRelationshipName_iff, endsStatement_eq_false_iff]
  exact ⟨fun h => ⟨h.1, h.2⟩, fun h => ⟨h.ne_empty, h.chars⟩⟩

theorem Attribute.readsAsKey_eq_false_iff {a : Attribute} : a.readsAsKey = false ↔
    ¬"u.".toList <+: a.name.toList ∧ ¬"du.".toList <+: a.name.toList := by
  rw [readsAsKey, Bool.or_eq_false_iff, Bool.eq_false_iff, Bool.eq_false_iff, ne_eq, ne_eq, List.isPrefixOf_iff_prefix,
    List.isPrefixOf_iff_prefix]
  rfl

/-! ### Options -/

/-- The options are those that the kind asks for: participation and disjointness of a superclass, the parent of a
    subclass, and nothing else. -/
def Entity.HasOptions (e : Entity) : Prop :=
  match e.kind with
  | .superclass => ∃ participation ∈ ["total", "partial"], ∃ disjointness ∈ ["disjoint", "overlap"],
      e.options = [participation, disjointness]
  | .subclass => ∃ parent, isIdentifier parent = true ∧ e.options = [parent]
  | .strong | .weak | .associative => e.options = []

/-- The options by their number and by what is asked of each. -/
theorem Entity.hasOptions_iff {e : Entity} : e.HasOptions ↔
    e.options.length = e.kind.optionCount ∧
      (e.kind = .superclass → (∀ word ∈ e.options[0]?, word ∈ ["total", "partial"]) ∧
        ∀ word ∈ e.options[1]?, word ∈ ["disjoint", "overlap"]) ∧
      ∀ parent ∈ e.parent?, isIdentifier parent = true := by
  obtain ⟨name, kind, options, attributes⟩ := e
  cases kind with
  | superclass =>
    simp only [HasOptions, EntityKind.optionCount, parent?, reduceCtorEq, ↓reduceIte, Option.not_mem_none, false_implies,
      implies_true, and_true, true_implies]
    constructor
    · rintro ⟨participation, hp, disjointness, hd, rfl⟩
      refine ⟨rfl, fun word hw => ?_, fun word hw => ?_⟩
      · cases hw
        exact hp
      · cases hw
        exact hd
    · rintro ⟨count, participation, disjointness⟩
      obtain ⟨p, q, rfl⟩ := List.length_eq_two.mp count
      exact ⟨p, participation p rfl, q, disjointness q rfl, rfl⟩
  | subclass =>
    simp only [HasOptions, EntityKind.optionCount, parent?, reduceCtorEq, ↓reduceIte, false_implies, true_and]
    constructor
    · rintro ⟨parent, identifier, rfl⟩
      refine ⟨rfl, fun word hw => ?_⟩
      cases hw
      exact identifier
    · rintro ⟨count, identifier⟩
      obtain ⟨parent, rfl⟩ := List.length_eq_one_iff.mp count
      exact ⟨parent, identifier parent rfl, rfl⟩
  | _ => simp [HasOptions, EntityKind.optionCount, parent?]

/-! ### Keys -/

/-- How many attributes have the role. -/
def Entity.keyCount (e : Entity) (key : KeyKind) : Nat := e.attributes.countP (·.key = key)

/-- The numbers of primary and of partial keys that the kind asks for. -/
def EntityKind.keyCounts : EntityKind → Nat × Nat
  | .strong | .superclass => (1, 0)
  | .weak => (0, 1)
  | .subclass | .associative => (0, 0)

theorem Entity.length_keyed (e : Entity) (key : KeyKind) : (e.keyed key).length = e.keyCount key :=
  length_filter_zipIdx e.attributes (·.key = key)

theorem Entity.keyCount_eq_zero_iff {e : Entity} {key : KeyKind} :
    e.keyCount key = 0 ↔ ∀ a ∈ e.attributes, a.key ≠ key := by
  simp only [keyCount, List.countP_eq_zero, decide_eq_true_eq, ne_eq]

theorem Entity.keyCounts_iff {e : Entity} : (e.keyCount .primary, e.keyCount .partialKey) = e.kind.keyCounts ↔
    e.keyCount .primary = (if e.kind.hasPrimaryKey then 1 else 0) ∧
      e.keyCount .partialKey = if e.kind.hasPartialKey then 1 else 0 := by
  rw [← Prod.mk.injEq]
  cases e.kind <;> rfl

/-! ### Discriminators -/

/-- The last attribute of a superclass tells its subclasses apart: it is no key, and it has several values at once when
    they overlap and not when they are disjoint. -/
def Entity.HasDiscriminator (e : Entity) : Prop :=
  ∃ a, e.attributes.getLast? = some a ∧ a.key = .plain ∧
    (e.options[1]? = some "overlap" → a.isMultiValued = true) ∧
    (e.options[1]? = some "disjoint" → a.isMultiValued = false)

theorem Entity.suits_iff {disjointness : Option String} {a : Attribute} : Entity.suits disjointness a = true ↔
    (disjointness = some "overlap" → a.isMultiValued = true) ∧
      (disjointness = some "disjoint" → a.isMultiValued = false) := by
  rw [suits]
  split
  · next overlap => simp [overlap]
  · split
    · next disjoint => simp [disjoint]
    · next neither other => simp [neither, other]

theorem Entity.hasDiscriminator_iff {e : Entity} :
    e.HasDiscriminator ↔ ∃ a, e.discriminator? = some a ∧ Entity.suits e.options[1]? a = true := by
  simp only [HasDiscriminator, discriminator?, Option.filter_eq_some_iff, decide_eq_true_eq, suits_iff, and_assoc]

/-! ### References -/

/-- The name is that of one entity, which is a superclass and declared before the place. -/
def Diagram.HasSuperclass (d : Diagram) (index : Nat) (name : String) : Prop :=
  d.Resolves name ∧ ∃ place < index, ∃ p, d.entities[place]? = some p ∧ sameName p.name name = true ∧
    p.kind = .superclass

/-- The line is double and ties the weak entity to another one: just one of its ends has the name. -/
def Relationship.binds (r : Relationship) (weak : String) : Bool :=
  r.line = .double && sameName r.source weak != sameName r.target weak

theorem Diagram.hasSuperclass_iff {d : Diagram} {index : Nat} {name : String} : d.HasSuperclass index name ↔
    ∃ place p, d.resolve name = .found place p ∧ p.kind = .superclass ∧ place < index := by
  constructor
  · rintro ⟨resolves, place, before, p, at_place, same, kind⟩
    exact ⟨place, p, resolves.found at_place same, kind, before⟩
  · rintro ⟨place, p, found, kind, before⟩
    obtain ⟨at_place, same⟩ := of_resolve_eq_found found
    exact ⟨resolves_of_found found, place, before, p, at_place, same, kind⟩

theorem Relationship.isSome_ownerOf? (r : Relationship) (weak : String) :
    (r.ownerOf? weak).isSome = r.binds weak := by
  rw [ownerOf?, binds]
  cases r.line with
  | single => rfl
  | double =>
    rw [otherEnd?]
    cases source : sameName r.source weak <;> cases target : sameName r.target weak <;> simp [source, target]

theorem Diagram.length_owners (d : Diagram) (weak : String) :
    (d.relationships.filterMap (·.ownerOf? weak)).length = d.relationships.countP (·.binds weak) := by
  rw [List.length_filterMap_eq_countP]
  simp only [Relationship.isSome_ownerOf?]

/-! ### Diagrams -/

/-- What is asked of an entity at its place in the diagram. -/
structure Entity.WellFormed (e : Entity) (d : Diagram) (index : Nat) : Prop where
  name : isIdentifier e.name = true
  attributes : ∀ a ∈ e.attributes, IsAttributeName a.name ∧
    (a.key = .plain → ¬"u.".toList <+: a.name.toList ∧ ¬"du.".toList <+: a.name.toList)
  options : e.HasOptions
  keys : (e.keyCount .primary, e.keyCount .partialKey) = e.kind.keyCounts
  discriminator : e.kind = .superclass → e.HasDiscriminator
  parent : ∀ name ∈ e.parent?, d.HasSuperclass index name
  owner : e.kind = .weak → d.relationships.countP (·.binds e.name) = 1

/-- What is asked of a relationship of the diagram. -/
structure Relationship.WellFormed (r : Relationship) (d : Diagram) : Prop where
  name : IsRelationshipName r.name
  ends : ∀ name ∈ [r.source, r.target], isIdentifier name = true ∧ d.Resolves name
  attributes : ∀ a ∈ r.attributes, IsAttributeName a.name ∧ a.key = .plain

/-- The rules of a diagram. -/
structure Diagram.WellFormed (d : Diagram) : Prop where
  distinct : d.entities.Pairwise fun e other => sameName e.name other.name = false
  entities : ∀ (index : Nat) (e : Entity), d.entities[index]? = some e → e.WellFormed d index
  relationships : ∀ r ∈ d.relationships, r.WellFormed d

section
variable {d : Diagram} {e : Entity} {r : Relationship} {element : Element} {name : String} {index : Nat} {v : Violation}

/-! ### References and breaches -/

/-- A reference that is not resolved is reported in the class of the rules on references. -/
theorem Diagram.Refers.exists_breach (refers : d.Refers element name) (unresolved : ¬d.Resolves name) :
    ∃ v, d.Breach v ∧ v.class = .reference := by
  cases outcome : d.resolve name with
  | found index e => exact absurd (resolves_of_found outcome) unresolved
  | missing => exact ⟨_, .unresolvedReference refers outcome, rfl⟩
  | ambiguous count => exact ⟨_, .ambiguousReference refers outcome, rfl⟩

/-- Nothing else is reported in that class. -/
theorem Diagram.Breach.exists_refers (breach : d.Breach v) (reference : v.class = .reference) :
    ∃ element name, d.Refers element name ∧ ¬d.Resolves name := by
  cases breach with
  | unresolvedReference refers missing => exact ⟨_, _, refers, fun resolves => resolves.not_missing missing⟩
  | ambiguousReference refers several => exact ⟨_, _, refers, fun resolves => resolves.not_ambiguous _ several⟩
  | _ => cases reference

/-! ### From valid to well-formed -/

theorem Diagram.Valid.resolves (h : d.Valid) (refers : d.Refers element name) : d.Resolves name := by
  by_contra unresolved
  obtain ⟨v, breach, -⟩ := refers.exists_breach unresolved
  exact valid_iff.mp h v breach

theorem Diagram.Valid.isIdentifier_reference (h : d.Valid) (refers : d.Refers element name) :
    isIdentifier name = true := by
  by_contra malformed
  exact valid_iff.mp h _ (.referenceName refers (Bool.eq_false_iff.mpr malformed))

theorem Diagram.Valid.hasOptions (h : d.Valid) (at_index : d.entities[index]? = some e) : e.HasOptions := by
  refine Entity.hasOptions_iff.mpr ⟨?_, fun kind => ⟨fun word option => ?_, fun word option => ?_⟩, fun name parent => ?_⟩
  · by_contra count
    exact valid_iff.mp h _ (.optionCount at_index count)
  · by_contra other
    exact valid_iff.mp h _ (.participation at_index kind option other)
  · by_contra other
    exact valid_iff.mp h _ (.disjointness at_index kind option other)
  · exact h.isIdentifier_reference (.parent at_index parent)

theorem Diagram.Valid.keyCounts (h : d.Valid) (at_index : d.entities[index]? = some e) :
    (e.keyCount .primary, e.keyCount .partialKey) = e.kind.keyCounts := by
  have member : e ∈ d.entities := List.mem_of_getElem? at_index
  refine Entity.keyCounts_iff.mpr ⟨?_, ?_⟩
  · split
    · next kind =>
      by_contra count
      exact valid_iff.mp h _ (.primaryKeyCount at_index kind (e.length_keyed .primary ▸ count))
    · next kind =>
      refine Entity.keyCount_eq_zero_iff.mpr fun a ha key => ?_
      obtain ⟨place, at_place⟩ := List.getElem?_of_mem ha
      exact valid_iff.mp h _ (.unexpectedPrimaryKey member at_place key (Bool.eq_false_iff.mpr kind))
  · split
    · next kind =>
      by_contra count
      exact valid_iff.mp h _ (.partialKeyCount at_index kind (e.length_keyed .partialKey ▸ count))
    · next kind =>
      refine Entity.keyCount_eq_zero_iff.mpr fun a ha key => ?_
      obtain ⟨place, at_place⟩ := List.getElem?_of_mem ha
      exact valid_iff.mp h _ (.unexpectedPartialKey member at_place key (Bool.eq_false_iff.mpr kind))

theorem Diagram.Valid.hasDiscriminator (h : d.Valid) (at_index : d.entities[index]? = some e)
    (kind : e.kind = .superclass) : e.HasDiscriminator := by
  rw [Entity.hasDiscriminator_iff]
  cases last : e.discriminator? with
  | none => exact absurd (.missingDiscriminator at_index kind last) (valid_iff.mp h _)
  | some a =>
    refine ⟨a, rfl, ?_⟩
    by_contra shape
    exact valid_iff.mp h _
      (.discriminatorShape (List.mem_of_getElem? at_index) kind last (Bool.eq_false_iff.mpr shape))

theorem Diagram.Valid.hasSuperclass (h : d.Valid) (at_index : d.entities[index]? = some e)
    (parent : e.parent? = some name) : d.HasSuperclass index name := by
  obtain ⟨place, p, found⟩ := (h.resolves (.parent at_index parent)).exists_found
  refine Diagram.hasSuperclass_iff.mpr ⟨place, p, found, ?_, ?_⟩
  · by_contra kind
    exact valid_iff.mp h _ (.parentNotSuperclass at_index parent found kind)
  · by_contra after
    exact valid_iff.mp h _ (.superclassAfterSubclass at_index parent found (Nat.le_of_not_lt after))

theorem Diagram.Valid.entity (h : d.Valid) (at_index : d.entities[index]? = some e) : e.WellFormed d index where
  name := by
    by_contra malformed
    exact valid_iff.mp h _ (.entityName at_index (Bool.eq_false_iff.mpr malformed))
  attributes a ha := by
    obtain ⟨place, at_place⟩ := List.getElem?_of_mem ha
    have sound : ¬(a.key = .plain ∧ a.readsAsKey = true ∨ isAttributeName a.name = false) := fun malformed =>
      valid_iff.mp h _ (.entityAttributeName (List.mem_of_getElem? at_index) at_place malformed)
    rw [not_or, not_and, Bool.not_eq_false, Bool.not_eq_true] at sound
    exact ⟨isAttributeName_eq_true_iff.mp sound.2, fun plain => Attribute.readsAsKey_eq_false_iff.mp (sound.1 plain)⟩
  options := h.hasOptions at_index
  keys := h.keyCounts at_index
  discriminator kind := h.hasDiscriminator at_index kind
  parent _ parent := h.hasSuperclass at_index parent
  owner kind := by
    rw [← d.length_owners]
    by_contra count
    exact valid_iff.mp h _ (.weakOwnerCount at_index kind count)

theorem Diagram.Valid.relationship (h : d.Valid) (member : r ∈ d.relationships) : r.WellFormed d := by
  obtain ⟨index, at_index⟩ := List.getElem?_of_mem member
  refine ⟨?_, fun name end_name => ?_, fun a ha => ⟨?_, ?_⟩⟩
  · rw [← isRelationshipName_eq_true_iff]
    by_contra malformed
    exact valid_iff.mp h _ (.relationshipName at_index (Bool.eq_false_iff.mpr malformed))
  · have refers : d.Refers (.relationship index r.name) name := by
      rw [List.mem_pair] at end_name
      rcases end_name with rfl | rfl
      · exact .source at_index
      · exact .target at_index
    exact ⟨h.isIdentifier_reference refers, h.resolves refers⟩
  · obtain ⟨place, at_place⟩ := List.getElem?_of_mem ha
    rw [← isAttributeName_eq_true_iff]
    by_contra malformed
    exact valid_iff.mp h _ (.relationshipAttributeName member at_place (Bool.eq_false_iff.mpr malformed))
  · obtain ⟨place, at_place⟩ := List.getElem?_of_mem ha
    by_contra key
    exact valid_iff.mp h _ (.relationshipAttributeKey member at_place key)

theorem Diagram.Valid.wellFormed (h : d.Valid) : d.WellFormed where
  distinct := pairwise_of_no_duplicates fun v breach => absurd breach (valid_iff.mp h v)
  entities _ _ at_index := h.entity at_index
  relationships _ member := h.relationship member

/-! ### From well-formed to valid -/

theorem Diagram.WellFormed.entity_of_mem (h : d.WellFormed) (member : e ∈ d.entities) : ∃ index, e.WellFormed d index := by
  obtain ⟨index, at_index⟩ := List.getElem?_of_mem member
  exact ⟨index, h.entities index e at_index⟩

theorem Diagram.WellFormed.reference (h : d.WellFormed) (refers : d.Refers element name) :
    isIdentifier name = true ∧ d.Resolves name := by
  cases refers with
  | @parent index e _ at_index parent =>
    have sound := h.entities index e at_index
    exact ⟨(Entity.hasOptions_iff.mp sound.options).2.2 name parent, (sound.parent name parent).1⟩
  | source at_index => exact (h.relationships _ (List.mem_of_getElem? at_index)).ends _ List.mem_cons_self
  | target at_index =>
    exact (h.relationships _ (List.mem_of_getElem? at_index)).ends _ (List.mem_cons_of_mem _ List.mem_cons_self)

theorem Diagram.WellFormed.not_breach (h : d.WellFormed) : ¬d.Breach v := by
  intro breach
  cases breach with
  | duplicateEntityName at_index earlier => simp [earlier_eq_none h.distinct at_index] at earlier
  | entityName at_index malformed => simp [(h.entities _ _ at_index).name] at malformed
  | entityAttributeName member at_place malformed =>
    obtain ⟨index, sound⟩ := h.entity_of_mem member
    obtain ⟨name, unmarked⟩ := sound.attributes _ (List.mem_of_getElem? at_place)
    rcases malformed with ⟨plain, marked⟩ | malformed
    · simp [Attribute.readsAsKey_eq_false_iff.mpr (unmarked plain)] at marked
    · simp [isAttributeName_eq_true_iff.mpr name] at malformed
  | relationshipName at_index malformed =>
    have name := (h.relationships _ (List.mem_of_getElem? at_index)).name
    simp [isRelationshipName_eq_true_iff.mpr name] at malformed
  | relationshipAttributeName member at_place malformed =>
    have name := ((h.relationships _ member).attributes _ (List.mem_of_getElem? at_place)).1
    simp [isAttributeName_eq_true_iff.mpr name] at malformed
  | referenceName refers malformed => simp [(h.reference refers).1] at malformed
  | optionCount at_index count => exact count (Entity.hasOptions_iff.mp (h.entities _ _ at_index).options).1
  | primaryKeyCount at_index kind count =>
    have keys := (Entity.keyCounts_iff.mp (h.entities _ _ at_index).keys).1
    rw [if_pos kind, ← Entity.length_keyed] at keys
    exact count keys
  | partialKeyCount at_index kind count =>
    have keys := (Entity.keyCounts_iff.mp (h.entities _ _ at_index).keys).2
    rw [if_pos kind, ← Entity.length_keyed] at keys
    exact count keys
  | unexpectedPrimaryKey member at_place key kind =>
    obtain ⟨index, sound⟩ := h.entity_of_mem member
    have keys := (Entity.keyCounts_iff.mp sound.keys).1
    rw [if_neg (Bool.eq_false_iff.mp kind)] at keys
    exact Entity.keyCount_eq_zero_iff.mp keys _ (List.mem_of_getElem? at_place) key
  | unexpectedPartialKey member at_place key kind =>
    obtain ⟨index, sound⟩ := h.entity_of_mem member
    have keys := (Entity.keyCounts_iff.mp sound.keys).2
    rw [if_neg (Bool.eq_false_iff.mp kind)] at keys
    exact Entity.keyCount_eq_zero_iff.mp keys _ (List.mem_of_getElem? at_place) key
  | participation at_index kind option other =>
    exact other (((Entity.hasOptions_iff.mp (h.entities _ _ at_index).options).2.1 kind).1 _ option)
  | disjointness at_index kind option other =>
    exact other (((Entity.hasOptions_iff.mp (h.entities _ _ at_index).options).2.1 kind).2 _ option)
  | missingDiscriminator at_index kind missing =>
    obtain ⟨a, last, -⟩ := Entity.hasDiscriminator_iff.mp ((h.entities _ _ at_index).discriminator kind)
    simp [missing] at last
  | discriminatorShape member kind last shape =>
    obtain ⟨index, sound⟩ := h.entity_of_mem member
    obtain ⟨a, found, suits⟩ := Entity.hasDiscriminator_iff.mp (sound.discriminator kind)
    rw [last, Option.some.injEq] at found
    simp [found, suits] at shape
  | parentNotSuperclass at_index parent found kind =>
    obtain ⟨place, p, only, superclass, -⟩ := Diagram.hasSuperclass_iff.mp ((h.entities _ _ at_index).parent _ parent)
    rw [found] at only
    cases only
    exact kind superclass
  | superclassAfterSubclass at_index parent found after =>
    obtain ⟨place, p, only, -, before⟩ := Diagram.hasSuperclass_iff.mp ((h.entities _ _ at_index).parent _ parent)
    rw [found] at only
    cases only
    exact Nat.not_le_of_lt before after
  | weakOwnerCount at_index kind count =>
    rw [d.length_owners] at count
    exact count ((h.entities _ _ at_index).owner kind)
  | relationshipAttributeKey member at_place key =>
    exact key ((h.relationships _ member).attributes _ (List.mem_of_getElem? at_place)).2
  | unresolvedReference refers missing => exact (h.reference refers).2.not_missing missing
  | ambiguousReference refers several => exact (h.reference refers).2.not_ambiguous _ several

/-- Validation accepts exactly the diagrams that keep the rules. -/
theorem Diagram.valid_iff_wellFormed (d : Diagram) : d.Valid ↔ d.WellFormed :=
  ⟨fun h => h.wellFormed, fun h => valid_iff.mpr fun _ => h.not_breach⟩

end

end ErDiagram
