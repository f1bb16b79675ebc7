import ErDiagram.Validation

/-! Breaches. Each rule of a valid diagram is said here without the order in which the parts are checked: which part
    of the diagram breaks it, and what the report names. The violations of a diagram are its breaches, no more and
    no fewer. -/

namespace ErDiagram

/-- A part of the diagram that refers to an entity by name: a subclass to its parent, a relationship to its ends. -/
inductive Diagram.Refers (d : Diagram) : Element → String → Prop where
  | parent {index : Nat} {e : Entity} {name : String} (at_index : d.entities[index]? = some e)
    (parent : e.parent? = some name) : d.Refers (e.element index) name
  | source {index : Nat} {r : Relationship} (at_index : d.relationships[index]? = some r) :
    d.Refers (.relationship index r.name) r.source
  | target {index : Nat} {r : Relationship} (at_index : d.relationships[index]? = some r) :
    d.Refers (.relationship index r.name) r.target

theorem Entity.parent?_eq_some_iff {e : Entity} {name : String} :
    e.parent? = some name ↔ e.kind = .subclass ∧ e.options.head? = some name := by
  rw [Entity.parent?]
  split
  · next kind => simp [kind]
  · next kind => simp [kind]

/-- The ways to break a rule, each with the violation that reports it. -/
inductive Diagram.Breach (d : Diagram) : Violation → Prop where
  | duplicateEntityName {index : Nat} {e first : Entity} (at_index : d.entities[index]? = some e)
    (earlier : (d.entities.take index).find? (sameName ·.name e.name) = some first) :
    d.Breach ⟨e.element index, .duplicateEntityName, some first.name⟩
  | entityName {index : Nat} {e : Entity} (at_index : d.entities[index]? = some e)
    (malformed : isIdentifier e.name = false) : d.Breach ⟨e.element index, .malformedName, some e.name⟩
  | entityAttributeName {e : Entity} {place : Nat} {a : Attribute} (member : e ∈ d.entities)
    (at_place : e.attributes[place]? = some a)
    (malformed : a.key = .plain ∧ a.readsAsKey = true ∨ isAttributeName a.name = false) :
    d.Breach ⟨e.attributeElement a place, .malformedName, some a.name⟩
  | relationshipName {index : Nat} {r : Relationship} (at_index : d.relationships[index]? = some r)
    (malformed : isRelationshipName r.name = false) :
    d.Breach ⟨.relationship index r.name, .malformedName, some r.name⟩
  | relationshipAttributeName {r : Relationship} {place : Nat} {a : Attribute} (member : r ∈ d.relationships)
    (at_place : r.attributes[place]? = some a) (malformed : isAttributeName a.name = false) :
    d.Breach ⟨.relationshipAttribute r.name place a.name, .malformedName, some a.name⟩
  | referenceName {element : Element} {name : String} (refers : d.Refers element name)
    (malformed : isIdentifier name = false) : d.Breach ⟨element, .malformedName, some name⟩
  | optionCount {index : Nat} {e : Entity} (at_index : d.entities[index]? = some e)
    (count : e.options.length ≠ e.kind.optionCount) :
    d.Breach ⟨e.element index, .optionCount, some (".".intercalate e.options)⟩
  | primaryKeyCount {index : Nat} {e : Entity} (at_index : d.entities[index]? = some e)
    (kind : e.kind.hasPrimaryKey = true) (count : (e.keyed .primary).length ≠ 1) :
    d.Breach ⟨e.element index, .primaryKeyCount, some (toString (e.keyed .primary).length)⟩
  | partialKeyCount {index : Nat} {e : Entity} (at_index : d.entities[index]? = some e)
    (kind : e.kind.hasPartialKey = true) (count : (e.keyed .partialKey).length ≠ 1) :
    d.Breach ⟨e.element index, .partialKeyCount, some (toString (e.keyed .partialKey).length)⟩
  | unexpectedPrimaryKey {e : Entity} {place : Nat} {a : Attribute} (member : e ∈ d.entities)
    (at_place : e.attributes[place]? = some a) (key : a.key = .primary) (kind : e.kind.hasPrimaryKey = false) :
    d.Breach ⟨e.attributeElement a place, .unexpectedPrimaryKey, none⟩
  | unexpectedPartialKey {e : Entity} {place : Nat} {a : Attribute} (member : e ∈ d.entities)
    (at_place : e.attributes[place]? = some a) (key : a.key = .partialKey) (kind : e.kind.hasPartialKey = false) :
    d.Breach ⟨e.attributeElement a place, .unexpectedPartialKey, none⟩
  | participation {index : Nat} {e : Entity} {word : String} (at_index : d.entities[index]? = some e)
    (kind : e.kind = .superclass) (option : e.options[0]? = some word) (other : word ∉ ["total", "partial"]) :
    d.Breach ⟨e.element index, .participation, some word⟩
  | disjointness {index : Nat} {e : Entity} {word : String} (at_index : d.entities[index]? = some e)
    (kind : e.kind = .superclass) (option : e.options[1]? = some word) (other : word ∉ ["disjoint", "overlap"]) :
    d.Breach ⟨e.element index, .disjointness, some word⟩
  | missingDiscriminator {index : Nat} {e : Entity} (at_index : d.entities[index]? = some e)
    (kind : e.kind = .superclass) (missing : e.discriminator? = none) :
    d.Breach ⟨e.element index, .missingDiscriminator, none⟩
  | discriminatorShape {e : Entity} {a : Attribute} (member : e ∈ d.entities) (kind : e.kind = .superclass)
    (last : e.discriminator? = some a) (shape : Entity.suits e.options[1]? a = false) :
    d.Breach ⟨e.attributeElement a (e.attributes.length - 1), .discriminatorShape, e.options[1]?⟩
  | parentNotSuperclass {index place : Nat} {e p : Entity} {name : String} (at_index : d.entities[index]? = some e)
    (parent : e.parent? = some name) (found : d.resolve name = .found place p) (kind : p.kind ≠ .superclass) :
    d.Breach ⟨e.element index, .parentNotSuperclass, some p.name⟩
  | superclassAfterSubclass {index place : Nat} {e p : Entity} {name : String}
    (at_index : d.entities[index]? = some e) (parent : e.parent? = some name)
    (found : d.resolve name = .found place p) (after : index ≤ place) :
    d.Breach ⟨e.element index, .superclassAfterSubclass, some p.name⟩
  | weakOwnerCount {index : Nat} {e : Entity} (at_index : d.entities[index]? = some e) (kind : e.kind = .weak)
    (count : (d.relationships.filterMap (·.ownerOf? e.name)).length ≠ 1) :
    d.Breach ⟨e.element index, .weakOwnerCount,
      some (toString (d.relationships.filterMap (·.ownerOf? e.name)).length)⟩
  | relationshipAttributeKey {r : Relationship} {place : Nat} {a : Attribute} (member : r ∈ d.relationships)
    (at_place : r.attributes[place]? = some a) (key : a.key ≠ .plain) :
    d.Breach ⟨.relationshipAttribute r.name place a.name, .relationshipAttributeKey, none⟩
  | unresolvedReference {element : Element} {name : String} (refers : d.Refers element name)
    (missing : d.resolve name = .missing) : d.Breach ⟨element, .unresolvedReference, some name⟩
  | ambiguousReference {element : Element} {name : String} {count : Nat} (refers : d.Refers element name)
    (several : d.resolve name = .ambiguous count) : d.Breach ⟨element, .ambiguousReference, some name⟩

/-! ### Where violations are reported -/

section
variable {d : Diagram} {e : Entity} {r : Relationship} {v : Violation} {index : Nat}

theorem mem_report {broken : Bool} {element : Element} {rule : Rule} {value : Option String} :
    v ∈ report broken element rule value ↔ broken = true ∧ v = ⟨element, rule, value⟩ := by
  rw [report]
  split
  · next h => simp [h]
  · next h => simp [h]

/-- A change of elements changes a report by its element only. -/
theorem map_report_eq {f : Violation → Violation} {g : Element → Element}
    (moves : ∀ element rule value, f ⟨element, rule, value⟩ = ⟨g element, rule, value⟩) (broken : Bool)
    (element : Element) (rule : Rule) (value : Option String) :
    (report broken element rule value).map f = report broken (g element) rule value := by
  rw [report, report]
  split
  · rw [List.map_singleton, moves]
  · rfl

theorem mem_flatMap_zipIdx {α : Type} {l : List α} {f : α × Nat → List Violation} :
    v ∈ l.zipIdx.flatMap f ↔ ∃ index a, l[index]? = some a ∧ v ∈ f (a, index) := by
  rw [List.mem_flatMap]
  constructor
  · rintro ⟨⟨a, index⟩, member, found⟩
    exact ⟨index, a, List.mem_zipIdx_iff_getElem?.mp member, found⟩
  · rintro ⟨index, a, place, found⟩
    exact ⟨(a, index), List.mem_zipIdx_iff_getElem?.mpr place, found⟩

theorem mem_violations : v ∈ d.violations ↔
    (∃ index e, d.entities[index]? = some e ∧ v ∈ d.entityViolations index e) ∨
      ∃ index r, d.relationships[index]? = some r ∧ v ∈ d.relationshipViolations index r := by
  rw [Diagram.violations, List.mem_append, mem_flatMap_zipIdx, mem_flatMap_zipIdx]

theorem mem_keyed {key : KeyKind} {a : Attribute} {place : Nat} :
    (a, place) ∈ e.keyed key ↔ e.attributes[place]? = some a ∧ a.key = key := by
  rw [Entity.keyed, List.mem_filter, List.mem_zipIdx_iff_getElem?, decide_eq_true_eq]

theorem mem_duplicateViolations : v ∈ d.duplicateViolations index e ↔
    ∃ first, (d.entities.take index).find? (sameName ·.name e.name) = some first ∧
      v = ⟨e.element index, .duplicateEntityName, some first.name⟩ := by
  rw [Diagram.duplicateViolations]
  split
  · next first found => simp [found]
  · next found => simp [found]

theorem mem_wordViolations {place : Nat} {words : List String} {rule : Rule} :
    v ∈ e.wordViolations index place words rule ↔
      ∃ word, e.options[place]? = some word ∧ word ∉ words ∧ v = ⟨e.element index, rule, some word⟩ := by
  rw [Entity.wordViolations]
  split
  · next word found => simp [found, mem_report]
  · next found => simp [found]

theorem mem_referenceViolations {element : Element} {name : String} :
    v ∈ d.referenceViolations element name ↔
      d.resolve name = .missing ∧ v = ⟨element, .unresolvedReference, some name⟩ ∨
        ∃ count, d.resolve name = .ambiguous count ∧ v = ⟨element, .ambiguousReference, some name⟩ := by
  rw [Diagram.referenceViolations]
  split
  · next found => simp [found]
  · next found => simp [found]
  · next found => simp [found]

theorem mem_attributeNameViolations : v ∈ e.attributeNameViolations ↔
    ∃ place a, e.attributes[place]? = some a ∧
      (a.key = .plain ∧ a.readsAsKey = true ∨ isAttributeName a.name = false) ∧
        v = ⟨e.attributeElement a place, .malformedName, some a.name⟩ := by
  rw [Entity.attributeNameViolations, mem_flatMap_zipIdx]
  simp only [mem_report, Bool.or_eq_true, Bool.and_eq_true, decide_eq_true_eq, Bool.not_eq_true']

theorem mem_keyCountViolations : v ∈ e.keyCountViolations index ↔
    (e.kind.hasPrimaryKey = true ∧ (e.keyed .primary).length ≠ 1) ∧
        v = ⟨e.element index, .primaryKeyCount, some (toString (e.keyed .primary).length)⟩ ∨
      (e.kind.hasPartialKey = true ∧ (e.keyed .partialKey).length ≠ 1) ∧
        v = ⟨e.element index, .partialKeyCount, some (toString (e.keyed .partialKey).length)⟩ := by
  simp only [Entity.keyCountViolations, List.mem_append, mem_report, Bool.and_eq_true, decide_eq_true_eq]

theorem mem_keyKindViolations : v ∈ e.keyKindViolations ↔
    (∃ place a, e.attributes[place]? = some a ∧ a.key = .primary ∧ e.kind.hasPrimaryKey = false ∧
        v = ⟨e.attributeElement a place, .unexpectedPrimaryKey, none⟩) ∨
      ∃ place a, e.attributes[place]? = some a ∧ a.key = .partialKey ∧ e.kind.hasPartialKey = false ∧
        v = ⟨e.attributeElement a place, .unexpectedPartialKey, none⟩ := by
  simp only [Entity.keyKindViolations, List.mem_append, List.mem_flatMap, Prod.exists, mem_keyed, mem_report,
    Bool.not_eq_true']
  constructor
  · rintro (⟨a, place, ⟨at_place, key⟩, kind, rfl⟩ | ⟨a, place, ⟨at_place, key⟩, kind, rfl⟩)
    · exact Or.inl ⟨place, a, at_place, key, kind, rfl⟩
    · exact Or.inr ⟨place, a, at_place, key, kind, rfl⟩
  · rintro (⟨place, a, at_place, key, kind, rfl⟩ | ⟨place, a, at_place, key, kind, rfl⟩)
    · exact Or.inl ⟨a, place, ⟨at_place, key⟩, kind, rfl⟩
    · exact Or.inr ⟨a, place, ⟨at_place, key⟩, kind, rfl⟩

theorem mem_discriminatorViolations : v ∈ e.discriminatorViolations index ↔
    e.discriminator? = none ∧ v = ⟨e.element index, .missingDiscriminator, none⟩ ∨
      ∃ a, e.discriminator? = some a ∧ Entity.suits e.options[1]? a = false ∧
        v = ⟨e.attributeElement a (e.attributes.length - 1), .discriminatorShape, e.options[1]?⟩ := by
  rw [Entity.discriminatorViolations]
  split
  · next missing => simp [missing]
  · next a last => simp [last, mem_report]

theorem mem_endViolations {element : Element} {name : String} : v ∈ d.endViolations element name ↔
    isIdentifier name = false ∧ v = ⟨element, .malformedName, some name⟩ ∨
      d.resolve name = .missing ∧ v = ⟨element, .unresolvedReference, some name⟩ ∨
        ∃ count, d.resolve name = .ambiguous count ∧ v = ⟨element, .ambiguousReference, some name⟩ := by
  rw [Diagram.endViolations, List.mem_append, mem_report, Bool.not_eq_true', mem_referenceViolations]

/-- A parent is checked like the end of a relationship, and besides for its kind and its place. -/
theorem mem_parentViolations {name : String} : v ∈ d.parentViolations index e name ↔
    v ∈ d.endViolations (e.element index) name ∨
      ∃ place p, d.resolve name = .found place p ∧
        (p.kind ≠ .superclass ∧ v = ⟨e.element index, .parentNotSuperclass, some p.name⟩ ∨
          index ≤ place ∧ v = ⟨e.element index, .superclassAfterSubclass, some p.name⟩) := by
  rw [Diagram.parentViolations, ← Diagram.endViolations, List.mem_append]
  refine or_congr_right ?_
  constructor
  · intro h
    split at h
    · next place p found =>
      rw [List.mem_append, mem_report, mem_report, decide_eq_true_eq, decide_eq_true_eq] at h
      exact ⟨place, p, found, h⟩
    · cases h
  · rintro ⟨place, p, found, h⟩
    rw [found]
    simp only [List.mem_append, mem_report, decide_eq_true_eq]
    exact h

theorem mem_kindViolations : v ∈ d.kindViolations index e ↔
    e.kind = .superclass ∧ v ∈ e.superclassViolations index ∨
      (∃ name, e.parent? = some name ∧ v ∈ d.parentViolations index e name) ∨
        e.kind = .weak ∧ v ∈ d.ownerViolations index e := by
  have noParent : e.kind ≠ .subclass → e.parent? = none := fun other => if_neg other
  rw [Diagram.kindViolations]
  split
  · next kind => simp [kind, noParent]
  · next kind =>
    rw [Diagram.subclassViolations]
    split
    · next name parent => simp [kind, parent]
    · next missing => simp [kind, missing]
  · next kind => simp [kind, noParent]
  · next kind => simp [kind, noParent]
  · next kind => simp [kind, noParent]

theorem mem_relationshipViolations : v ∈ d.relationshipViolations index r ↔
    isRelationshipName r.name = false ∧ v = ⟨.relationship index r.name, .malformedName, some r.name⟩ ∨
      v ∈ d.endViolations (.relationship index r.name) r.source ∨
      v ∈ d.endViolations (.relationship index r.name) r.target ∨
      ∃ place a, r.attributes[place]? = some a ∧
        (a.key ≠ .plain ∧ v = ⟨.relationshipAttribute r.name place a.name, .relationshipAttributeKey, none⟩ ∨
          isAttributeName a.name = false ∧
            v = ⟨.relationshipAttribute r.name place a.name, .malformedName, some a.name⟩) := by
  simp only [Diagram.relationshipViolations, List.mem_append, mem_flatMap_zipIdx, mem_report, decide_eq_true_eq,
    Bool.not_eq_true', or_assoc]

theorem mem_entityViolations : v ∈ d.entityViolations index e ↔
    v ∈ d.duplicateViolations index e ∨
      isIdentifier e.name = false ∧ v = ⟨e.element index, .malformedName, some e.name⟩ ∨
      v ∈ e.attributeNameViolations ∨
      e.options.length ≠ e.kind.optionCount ∧
        v = ⟨e.element index, .optionCount, some (".".intercalate e.options)⟩ ∨
      v ∈ e.keyCountViolations index ∨ v ∈ e.keyKindViolations ∨ v ∈ d.kindViolations index e := by
  simp only [Diagram.entityViolations, List.mem_append, Entity.nameViolations, Entity.optionViolations, mem_report,
    decide_eq_true_eq, Bool.not_eq_true', or_assoc]

/-! ### Violations and breaches -/

theorem Diagram.Refers.breach {element : Element} {name : String} (refers : d.Refers element name)
    (h : v ∈ d.endViolations element name) : d.Breach v := by
  rcases mem_endViolations.mp h with ⟨malformed, rfl⟩ | ⟨missing, rfl⟩ | ⟨count, several, rfl⟩
  · exact .referenceName refers malformed
  · exact .unresolvedReference refers missing
  · exact .ambiguousReference refers several

theorem breach_of_entityViolations (at_index : d.entities[index]? = some e) (h : v ∈ d.entityViolations index e) :
    d.Breach v := by
  have member : e ∈ d.entities := List.mem_of_getElem? at_index
  rcases mem_entityViolations.mp h with h | ⟨malformed, rfl⟩ | h | ⟨count, rfl⟩ | h | h | h
  · obtain ⟨first, earlier, rfl⟩ := mem_duplicateViolations.mp h
    exact .duplicateEntityName at_index earlier
  · exact .entityName at_index malformed
  · obtain ⟨place, a, at_place, malformed, rfl⟩ := mem_attributeNameViolations.mp h
    exact .entityAttributeName member at_place malformed
  · exact .optionCount at_index count
  · rcases mem_keyCountViolations.mp h with ⟨⟨kind, count⟩, rfl⟩ | ⟨⟨kind, count⟩, rfl⟩
    · exact .primaryKeyCount at_index kind count
    · exact .partialKeyCount at_index kind count
  · rcases mem_keyKindViolations.mp h with ⟨place, a, at_place, key, kind, rfl⟩ | ⟨place, a, at_place, key, kind, rfl⟩
    · exact .unexpectedPrimaryKey member at_place key kind
    · exact .unexpectedPartialKey member at_place key kind
  · rcases mem_kindViolations.mp h with ⟨kind, h⟩ | ⟨name, parent, h⟩ | ⟨kind, h⟩
    · simp only [Entity.superclassViolations, List.mem_append, or_assoc] at h
      rcases h with h | h | h
      · obtain ⟨word, option, other, rfl⟩ := mem_wordViolations.mp h
        exact .participation at_index kind option other
      · obtain ⟨word, option, other, rfl⟩ := mem_wordViolations.mp h
        exact .disjointness at_index kind option other
      · rcases mem_discriminatorViolations.mp h with ⟨missing, rfl⟩ | ⟨a, last, shape, rfl⟩
        · exact .missingDiscriminator at_index kind missing
        · exact .discriminatorShape member kind last shape
    · rcases mem_parentViolations.mp h with h | ⟨place, p, found, ⟨kind, rfl⟩ | ⟨after, rfl⟩⟩
      · exact (Diagram.Refers.parent at_index parent).breach h
      · exact .parentNotSuperclass at_index parent found kind
      · exact .superclassAfterSubclass at_index parent found after
    · obtain ⟨count, rfl⟩ := mem_report.mp h
      exact .weakOwnerCount at_index kind (of_decide_eq_true count)

theorem breach_of_relationshipViolations (at_index : d.relationships[index]? = some r)
    (h : v ∈ d.relationshipViolations index r) : d.Breach v := by
  have member : r ∈ d.relationships := List.mem_of_getElem? at_index
  rcases mem_relationshipViolations.mp h with
    ⟨malformed, rfl⟩ | h | h | ⟨place, a, at_place, ⟨key, rfl⟩ | ⟨malformed, rfl⟩⟩
  · exact .relationshipName at_index malformed
  · exact (Diagram.Refers.source at_index).breach h
  · exact (Diagram.Refers.target at_index).breach h
  · exact .relationshipAttributeKey member at_place key
  · exact .relationshipAttributeName member at_place malformed

/-- A violation of an entity or of a relationship is one of the diagram. -/
theorem mem_violations_of_entity (at_index : d.entities[index]? = some e) (h : v ∈ d.entityViolations index e) :
    v ∈ d.violations :=
  mem_violations.mpr (Or.inl ⟨index, e, at_index, h⟩)

theorem mem_violations_of_relationship (at_index : d.relationships[index]? = some r)
    (h : v ∈ d.relationshipViolations index r) : v ∈ d.violations :=
  mem_violations.mpr (Or.inr ⟨index, r, at_index, h⟩)

theorem mem_violations_of_keyCount (at_index : d.entities[index]? = some e) (h : v ∈ e.keyCountViolations index) :
    v ∈ d.violations :=
  mem_violations_of_entity at_index (mem_entityViolations.mpr (Or.inr (Or.inr (Or.inr (Or.inr (Or.inl h))))))

theorem mem_violations_of_keyKind (member : e ∈ d.entities) (h : v ∈ e.keyKindViolations) : v ∈ d.violations := by
  obtain ⟨index, at_index⟩ := List.getElem?_of_mem member
  refine mem_violations_of_entity at_index (mem_entityViolations.mpr ?_)
  exact Or.inr (Or.inr (Or.inr (Or.inr (Or.inr (Or.inl h)))))

theorem mem_violations_of_kind (at_index : d.entities[index]? = some e) (h : v ∈ d.kindViolations index e) :
    v ∈ d.violations :=
  mem_violations_of_entity at_index (List.mem_append_right _ h)

theorem mem_violations_of_superclass (at_index : d.entities[index]? = some e) (kind : e.kind = .superclass)
    (h : v ∈ e.superclassViolations index) : v ∈ d.violations :=
  mem_violations_of_kind at_index (mem_kindViolations.mpr (Or.inl ⟨kind, h⟩))

theorem mem_violations_of_parent {name : String} (at_index : d.entities[index]? = some e)
    (parent : e.parent? = some name) (h : v ∈ d.parentViolations index e name) : v ∈ d.violations :=
  mem_violations_of_kind at_index (mem_kindViolations.mpr (Or.inr (Or.inl ⟨name, parent, h⟩)))

theorem Diagram.Refers.mem_violations {element : Element} {name : String} (refers : d.Refers element name)
    (h : v ∈ d.endViolations element name) : v ∈ d.violations := by
  cases refers with
  | parent at_index parent => exact mem_violations_of_parent at_index parent (mem_parentViolations.mpr (Or.inl h))
  | source at_index =>
    exact mem_violations_of_relationship at_index (mem_relationshipViolations.mpr (Or.inr (Or.inl h)))
  | target at_index =>
    exact mem_violations_of_relationship at_index (mem_relationshipViolations.mpr (Or.inr (Or.inr (Or.inl h))))

theorem mem_violations_of_breach (h : d.Breach v) : v ∈ d.violations := by
  cases h with
  | duplicateEntityName at_index earlier =>
    refine mem_violations_of_entity at_index (mem_entityViolations.mpr (Or.inl ?_))
    exact mem_duplicateViolations.mpr ⟨_, earlier, rfl⟩
  | entityName at_index malformed =>
    exact mem_violations_of_entity at_index (mem_entityViolations.mpr (Or.inr (Or.inl ⟨malformed, rfl⟩)))
  | entityAttributeName member at_place malformed =>
    obtain ⟨index, at_index⟩ := List.getElem?_of_mem member
    refine mem_violations_of_entity at_index (mem_entityViolations.mpr (Or.inr (Or.inr (Or.inl ?_))))
    exact mem_attributeNameViolations.mpr ⟨_, _, at_place, malformed, rfl⟩
  | relationshipName at_index malformed =>
    exact mem_violations_of_relationship at_index (mem_relationshipViolations.mpr (Or.inl ⟨malformed, rfl⟩))
  | relationshipAttributeName member at_place malformed =>
    obtain ⟨index, at_index⟩ := List.getElem?_of_mem member
    refine mem_violations_of_relationship at_index (mem_relationshipViolations.mpr ?_)
    exact Or.inr (Or.inr (Or.inr ⟨_, _, at_place, Or.inr ⟨malformed, rfl⟩⟩))
  | referenceName refers malformed =>
    exact refers.mem_violations (mem_endViolations.mpr (Or.inl ⟨malformed, rfl⟩))
  | optionCount at_index count =>
    refine mem_violations_of_entity at_index (mem_entityViolations.mpr ?_)
    exact Or.inr (Or.inr (Or.inr (Or.inl ⟨count, rfl⟩)))
  | primaryKeyCount at_index kind count =>
    exact mem_violations_of_keyCount at_index (mem_keyCountViolations.mpr (Or.inl ⟨⟨kind, count⟩, rfl⟩))
  | partialKeyCount at_index kind count =>
    exact mem_violations_of_keyCount at_index (mem_keyCountViolations.mpr (Or.inr ⟨⟨kind, count⟩, rfl⟩))
  | unexpectedPrimaryKey member at_place key kind =>
    exact mem_violations_of_keyKind member (mem_keyKindViolations.mpr (Or.inl ⟨_, _, at_place, key, kind, rfl⟩))
  | unexpectedPartialKey member at_place key kind =>
    exact mem_violations_of_keyKind member (mem_keyKindViolations.mpr (Or.inr ⟨_, _, at_place, key, kind, rfl⟩))
  | participation at_index kind option other =>
    refine mem_violations_of_superclass at_index kind (List.mem_append_left _ (List.mem_append_left _ ?_))
    exact mem_wordViolations.mpr ⟨_, option, other, rfl⟩
  | disjointness at_index kind option other =>
    refine mem_violations_of_superclass at_index kind (List.mem_append_left _ (List.mem_append_right _ ?_))
    exact mem_wordViolations.mpr ⟨_, option, other, rfl⟩
  | missingDiscriminator at_index kind missing =>
    refine mem_violations_of_superclass at_index kind (List.mem_append_right _ ?_)
    exact mem_discriminatorViolations.mpr (Or.inl ⟨missing, rfl⟩)
  | discriminatorShape member kind last shape =>
    obtain ⟨index, at_index⟩ := List.getElem?_of_mem member
    refine mem_violations_of_superclass at_index kind (List.mem_append_right _ ?_)
    exact mem_discriminatorViolations.mpr (Or.inr ⟨_, last, shape, rfl⟩)
  | parentNotSuperclass at_index parent found kind =>
    refine mem_violations_of_parent at_index parent (mem_parentViolations.mpr ?_)
    exact Or.inr ⟨_, _, found, Or.inl ⟨kind, rfl⟩⟩
  | superclassAfterSubclass at_index parent found after =>
    refine mem_violations_of_parent at_index parent (mem_parentViolations.mpr ?_)
    exact Or.inr ⟨_, _, found, Or.inr ⟨after, rfl⟩⟩
  | weakOwnerCount at_index kind count =>
    refine mem_violations_of_kind at_index (mem_kindViolations.mpr (Or.inr (Or.inr ⟨kind, ?_⟩)))
    exact mem_report.mpr ⟨decide_eq_true count, rfl⟩
  | relationshipAttributeKey member at_place key =>
    obtain ⟨index, at_index⟩ := List.getElem?_of_mem member
    refine mem_violations_of_relationship at_index (mem_relationshipViolations.mpr ?_)
    exact Or.inr (Or.inr (Or.inr ⟨_, _, at_place, Or.inl ⟨key, rfl⟩⟩))
  | unresolvedReference refers missing =>
    exact refers.mem_violations (mem_endViolations.mpr (Or.inr (Or.inl ⟨missing, rfl⟩)))
  | ambiguousReference refers several =>
    exact refers.mem_violations (mem_endViolations.mpr (Or.inr (Or.inr ⟨_, several, rfl⟩)))

/-- What validation reports are the breaches. -/
theorem mem_violations_iff : v ∈ d.violations ↔ d.Breach v := by
  constructor
  · intro h
    rcases mem_violations.mp h with ⟨index, e, at_index, found⟩ | ⟨index, r, at_index, found⟩
    · exact breach_of_entityViolations at_index found
    · exact breach_of_relationshipViolations at_index found
  · exact mem_violations_of_breach

theorem valid_iff : d.Valid ↔ ∀ v, ¬d.Breach v := by
  simp only [Diagram.Valid, List.eq_nil_iff_forall_not_mem, mem_violations_iff]

/-! ### Distinct names -/

/-- Where names are distinct an entity of the same name does not stand earlier. -/
theorem earlier_eq_none (distinct : d.entities.Pairwise fun e other => sameName e.name other.name = false)
    (at_index : d.entities[index]? = some e) : (d.entities.take index).find? (sameName ·.name e.name) = none := by
  rw [List.find?_eq_none]
  intro first earlier
  rw [← List.take_append_drop index d.entities, List.pairwise_append] at distinct
  have later : e ∈ d.entities.drop index := by
    rw [List.mem_iff_getElem?]
    exact ⟨0, by rw [List.getElem?_drop]; exact at_index⟩
  rw [distinct.2.2 first earlier e later]
  exact Bool.false_ne_true

theorem pairwise_of_no_duplicates (h : ∀ v, d.Breach v → v.rule ≠ .duplicateEntityName) :
    d.entities.Pairwise fun e other => sameName e.name other.name = false := by
  rw [List.pairwise_iff_getElem]
  intro i j hi hj before
  cases found : (d.entities.take j).find? (sameName ·.name d.entities[j].name) with
  | some first => exact absurd rfl (h _ (.duplicateEntityName (List.getElem?_eq_getElem hj) found))
  | none =>
    have earlier : d.entities[i] ∈ d.entities.take j := List.mem_take_iff_getElem.mpr ⟨i, by omega, rfl⟩
    exact Bool.eq_false_iff.mpr (List.find?_eq_none.mp found _ earlier)

end

end ErDiagram
