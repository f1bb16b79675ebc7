import ErDiagram.Proofs.WellFormed
import Mathlib.Data.List.Nodup

/-! Segments of diagnostics. The violations of a diagram stand in the order of its parts: first a segment for each
    entity and then one for each relationship, and what a segment reports is its part or an attribute of it, by the
    place where it stands. No rule stops the others, so whatever else is wrong, each attribute at fault and each
    reference that is not resolved has a report of its own in the segment of its part. -/

namespace ErDiagram

/-! ### What a segment reports -/

/-- The entity at its place, or an attribute of it at its place among the attributes. -/
inductive Entity.Designates (e : Entity) (index : Nat) : Element → Prop where
  | itself : e.Designates index (.entity index e.name)
  | ofAttribute {place : Nat} {a : Attribute} (at_place : e.attributes[place]? = some a) :
    e.Designates index (.entityAttribute e.name place a.name)

/-- The relationship at its place, or an attribute of it at its place among the attributes. -/
inductive Relationship.Designates (r : Relationship) (index : Nat) : Element → Prop where
  | itself : r.Designates index (.relationship index r.name)
  | ofAttribute {place : Nat} {a : Attribute} (at_place : r.attributes[place]? = some a) :
    r.Designates index (.relationshipAttribute r.name place a.name)

/-- What can be wrong with an attribute of the entity by itself, as a rule and a value: no statement can hold its name,
    it would read as a key, or the kind of the entity does not have its role. -/
inductive Entity.Fault (e : Entity) (a : Attribute) : Rule → Option String → Prop where
  | malformed (malformed : ¬IsAttributeName a.name) : e.Fault a .malformedName (some a.name)
  | marked (plain : a.key = .plain) (marked : "u.".toList <+: a.name.toList ∨ "du.".toList <+: a.name.toList) :
    e.Fault a .malformedName (some a.name)
  | primaryKey (key : a.key = .primary) (kind : e.kind ∉ [.strong, .superclass]) : e.Fault a .unexpectedPrimaryKey none
  | partialKey (key : a.key = .partialKey) (kind : e.kind ≠ .weak) : e.Fault a .unexpectedPartialKey none

/-- What can be wrong with an attribute of a relationship. -/
inductive Relationship.Fault (a : Attribute) : Rule → Option String → Prop where
  | malformed (malformed : ¬IsAttributeName a.name) : Fault a .malformedName (some a.name)
  | key (key : a.key ≠ .plain) : Fault a .relationshipAttributeKey none

/-- What can be wrong with a reference: no entity has the name, or more than one. -/
inductive Diagram.Misses (d : Diagram) (name : String) : Rule → Prop where
  | dangling (none : d.entities.countP (sameName ·.name name) = 0) : d.Misses name .unresolvedReference
  | ambiguous (several : 2 ≤ d.entities.countP (sameName ·.name name)) : d.Misses name .ambiguousReference

/-- The segment of an entity. -/
structure Entity.Diagnosed (e : Entity) (d : Diagram) (index : Nat) (segment : List Violation) : Prop where
  designates : ∀ v ∈ segment, e.Designates index v.element
  attributes : ∀ (place : Nat) (a : Attribute) (rule : Rule) (value : Option String), e.attributes[place]? = some a →
    e.Fault a rule value → segment.count ⟨.entityAttribute e.name place a.name, rule, value⟩ = 1
  parent : ∀ (name : String) (rule : Rule), e.parent? = some name → d.Misses name rule →
    segment.count ⟨.entity index e.name, rule, some name⟩ = 1

/-- The segment of a relationship. Where both ends are the same name there is a report for each. -/
structure Relationship.Diagnosed (r : Relationship) (d : Diagram) (index : Nat) (segment : List Violation) : Prop where
  designates : ∀ v ∈ segment, r.Designates index v.element
  attributes : ∀ (place : Nat) (a : Attribute) (rule : Rule) (value : Option String), r.attributes[place]? = some a →
    Fault a rule value → segment.count ⟨.relationshipAttribute r.name place a.name, rule, value⟩ = 1
  ends : ∀ name ∈ [r.source, r.target], ∀ rule : Rule, d.Misses name rule →
    segment.count ⟨.relationship index r.name, rule, some name⟩ = [r.source, r.target].count name

/-! ### Counting reports -/

section
variable {d : Diagram} {e : Entity} {r : Relationship} {v : Violation} {index place : Nat} {a : Attribute}
  {rule : Rule} {value : Option String} {name : String}

/-- A report that belongs to one place is found only there. -/
theorem count_flatMap_of_place {l : List (Attribute × Nat)} {f : Attribute × Nat → List Violation}
    (distinct : (l.map Prod.snd).Nodup) (member : (a, place) ∈ l) (own : ∀ x ∈ l, v ∈ f x → x.2 = place) :
    (l.flatMap f).count v = (f (a, place)).count v := by
  obtain ⟨before, after, rfl⟩ := List.append_of_mem member
  rw [List.map_append, List.map_cons, List.nodup_middle, List.nodup_cons, List.mem_append, not_or] at distinct
  have none : ∀ m : List (Attribute × Nat), (∀ x ∈ m, x ∈ before ++ (a, place) :: after) → place ∉ m.map Prod.snd →
      (m.flatMap f).count v = 0 := by
    intro m inside absent
    refine List.count_eq_zero_of_not_mem fun found => ?_
    obtain ⟨x, hx, found⟩ := List.mem_flatMap.mp found
    exact absent (own x (inside x hx) found ▸ List.mem_map_of_mem hx)
  rw [List.flatMap_append, List.flatMap_cons, List.count_append, List.count_append,
    none before (by simp +contextual) distinct.1.1, none after (by simp +contextual) distinct.1.2, Nat.zero_add, Nat.add_zero]

theorem nodup_places (l : List Attribute) : (l.zipIdx.map Prod.snd).Nodup := by
  rw [List.zipIdx_map_snd]
  exact List.nodup_range'

theorem count_report {broken : Bool} (h : broken = true) (element : Element) :
    (report broken element rule value).count ⟨element, rule, value⟩ = 1 := by
  rw [report, if_pos h, List.count_singleton_self]

/-! ### Segments of entities -/

theorem Entity.count_attributeNameViolations (at_place : e.attributes[place]? = some a)
    (malformed : a.key = .plain ∧ a.readsAsKey = true ∨ isAttributeName a.name = false) :
    e.attributeNameViolations.count ⟨.entityAttribute e.name place a.name, .malformedName, some a.name⟩ = 1 := by
  have member : (a, place) ∈ e.attributes.zipIdx := List.mem_zipIdx_iff_getElem?.mpr at_place
  rw [Entity.attributeNameViolations, count_flatMap_of_place (nodup_places _) member]
  · refine count_report ?_ _
    simpa using malformed
  · rintro ⟨b, i⟩ - found
    obtain ⟨-, same⟩ := mem_report.mp found
    simp only [Violation.mk.injEq, Entity.attributeElement, Element.entityAttribute.injEq] at same
    exact same.1.2.1.symm

/-- The keys of one role that the kind does not have are reported each for itself. -/
theorem Entity.count_keyed {key : KeyKind} (at_place : e.attributes[place]? = some a) (role : a.key = key)
    {broken : Bool} (h : broken = true) :
    ((e.keyed key).flatMap fun (a, place) => report broken (e.attributeElement a place) rule none).count
      ⟨.entityAttribute e.name place a.name, rule, none⟩ = 1 := by
  have distinct : ((e.keyed key).map Prod.snd).Nodup := (nodup_places _).sublist (List.filter_sublist.map _)
  rw [count_flatMap_of_place distinct (mem_keyed.mpr ⟨at_place, role⟩)]
  · exact count_report h _
  · rintro ⟨b, i⟩ - found
    obtain ⟨-, same⟩ := mem_report.mp found
    simp only [Violation.mk.injEq, Entity.attributeElement, Element.entityAttribute.injEq] at same
    exact same.1.2.1.symm

theorem Entity.count_keyed_other {key : KeyKind} {other : Rule} (ne : v.rule ≠ other) {broken : Bool} :
    ((e.keyed key).flatMap fun (a, place) => report broken (e.attributeElement a place) other none).count v = 0 := by
  refine List.count_eq_zero_of_not_mem fun found => ?_
  obtain ⟨x, -, found⟩ := List.mem_flatMap.mp found
  obtain ⟨-, rfl⟩ := mem_report.mp found
  exact ne rfl

/-- Apart from discriminators, which have a rule of their own, only names and roles of attributes are reported of them. -/
theorem count_entityViolations_attribute (element : Element) (other : ∀ i n, element ≠ .entity i n)
    (shape : rule ≠ .discriminatorShape) : (d.entityViolations index e).count ⟨element, rule, value⟩ =
      e.attributeNameViolations.count ⟨element, rule, value⟩ + e.keyKindViolations.count ⟨element, rule, value⟩ := by
  have duplicate : ⟨element, rule, value⟩ ∉ d.duplicateViolations index e := by
    simp [mem_duplicateViolations, Entity.element, other]
  have name : ⟨element, rule, value⟩ ∉ e.nameViolations index := by
    simp [Entity.nameViolations, mem_report, Entity.element, other]
  have options : ⟨element, rule, value⟩ ∉ e.optionViolations index := by
    simp [Entity.optionViolations, mem_report, Entity.element, other]
  have counts : ⟨element, rule, value⟩ ∉ e.keyCountViolations index := by
    simp [mem_keyCountViolations, Entity.element, other]
  have kind : ⟨element, rule, value⟩ ∉ d.kindViolations index e := by
    simp [mem_kindViolations, Entity.superclassViolations, mem_wordViolations, mem_discriminatorViolations,
      mem_parentViolations, mem_endViolations, Diagram.ownerViolations, mem_report, Entity.element, other, shape]
  simp only [Diagram.entityViolations, List.count_append, List.count_eq_zero_of_not_mem duplicate,
    List.count_eq_zero_of_not_mem name, List.count_eq_zero_of_not_mem options, List.count_eq_zero_of_not_mem counts,
    List.count_eq_zero_of_not_mem kind, Nat.zero_add, Nat.add_zero]

theorem Entity.Fault.count (h : e.Fault a rule value) (at_place : e.attributes[place]? = some a) :
    (d.entityViolations index e).count ⟨.entityAttribute e.name place a.name, rule, value⟩ = 1 := by
  have name : a.key = .plain ∧ a.readsAsKey = true ∨ isAttributeName a.name = false →
      (d.entityViolations index e).count ⟨.entityAttribute e.name place a.name, .malformedName, some a.name⟩ = 1 := by
    intro malformed
    have noKey : ⟨.entityAttribute e.name place a.name, .malformedName, some a.name⟩ ∉ e.keyKindViolations := by
      simp [mem_keyKindViolations]
    rw [count_entityViolations_attribute _ (by simp) (by simp), Entity.count_attributeNameViolations at_place malformed,
      List.count_eq_zero_of_not_mem noKey]
  have key : ∀ rule, rule ∈ [Rule.unexpectedPrimaryKey, .unexpectedPartialKey] →
      (d.entityViolations index e).count ⟨.entityAttribute e.name place a.name, rule, none⟩ =
        e.keyKindViolations.count ⟨.entityAttribute e.name place a.name, rule, none⟩ := by
    intro rule one
    have noName : ⟨.entityAttribute e.name place a.name, rule, none⟩ ∉ e.attributeNameViolations := by
      simp [mem_attributeNameViolations]
    have shape : rule ≠ .discriminatorShape := by
      rintro rfl
      simp at one
    rw [count_entityViolations_attribute _ (by simp) shape, List.count_eq_zero_of_not_mem noName, Nat.zero_add]
  cases h with
  | malformed malformed =>
    exact name (Or.inr (Bool.eq_false_iff.mpr fun sound => malformed (isAttributeName_eq_true_iff.mp sound)))
  | marked plain marked =>
    refine name (Or.inl ⟨plain, ?_⟩)
    by_contra unmarked
    obtain ⟨primary, partialKey⟩ := Attribute.readsAsKey_eq_false_iff.mp (Bool.eq_false_iff.mpr unmarked)
    exact marked.elim primary partialKey
  | primaryKey role kind =>
    have forbidden : (!e.kind.hasPrimaryKey) = true := by
      cases own : e.kind <;> simp_all [EntityKind.hasPrimaryKey]
    rw [key _ (by simp), Entity.keyKindViolations, List.count_append, Entity.count_keyed at_place role forbidden,
      Entity.count_keyed_other (by simp)]
  | partialKey role kind =>
    have forbidden : (!e.kind.hasPartialKey) = true := by
      cases own : e.kind <;> simp_all [EntityKind.hasPartialKey]
    rw [key _ (by simp), Entity.keyKindViolations, List.count_append, Entity.count_keyed at_place role forbidden,
      Entity.count_keyed_other (by simp)]

/-! ### References -/

theorem Diagram.Misses.referenceViolations (h : d.Misses name rule) (element : Element) :
    d.referenceViolations element name = [⟨element, rule, some name⟩] := by
  rw [Diagram.referenceViolations]
  cases h with
  | dangling none =>
    rw [← length_named, List.length_eq_zero_iff] at none
    rw [resolve_eq_missing_iff.mpr none]
  | ambiguous several =>
    rw [← length_named] at several
    rw [resolve_eq_ambiguous_iff.mpr ⟨several, rfl⟩]

theorem Diagram.Misses.eq (h : d.Misses name rule) : rule = .unresolvedReference ∨ rule = .ambiguousReference := by
  cases h with
  | dangling => exact Or.inl rfl
  | ambiguous => exact Or.inr rfl

/-- Where it is checked a reference that is not resolved is reported once, and no other name is reported as it is. -/
theorem Diagram.Misses.count_endViolations (h : d.Misses name rule) (element : Element) (other : String) :
    (d.endViolations element other).count ⟨element, rule, some name⟩ = [other].count name := by
  have malformed : ⟨element, rule, some name⟩ ∉ report (!isIdentifier other) element .malformedName (some other) := by
    rcases h.eq with rfl | rfl <;> simp [mem_report]
  rw [Diagram.endViolations, List.count_append, List.count_eq_zero_of_not_mem malformed, Nat.zero_add]
  by_cases same : other = name
  · subst same
    rw [h.referenceViolations, List.count_singleton_self, List.count_singleton_self]
  · have absent : ⟨element, rule, some name⟩ ∉ d.referenceViolations element other := by
      simp [mem_referenceViolations, Ne.symm same]
    rw [List.count_eq_zero_of_not_mem absent, List.count_eq_zero_of_not_mem (by simp [Ne.symm same])]

theorem Diagram.Misses.count_entityViolations (h : d.Misses name rule) (parent : e.parent? = some name) :
    (d.entityViolations index e).count ⟨.entity index e.name, rule, some name⟩ = 1 := by
  have kind : e.kind = .subclass := (Entity.parent?_eq_some_iff.mp parent).1
  have rest : (d.entityViolations index e).count ⟨.entity index e.name, rule, some name⟩ =
      (d.kindViolations index e).count ⟨.entity index e.name, rule, some name⟩ := by
    rw [Diagram.entityViolations, List.count_append, List.count_eq_zero_of_not_mem, Nat.zero_add]
    rcases h.eq with rfl | rfl <;>
      simp [mem_duplicateViolations, Entity.nameViolations, mem_attributeNameViolations, Entity.optionViolations,
        mem_report, mem_keyCountViolations, mem_keyKindViolations]
  rw [rest, Diagram.kindViolations, kind]
  simp only [Diagram.subclassViolations, parent]
  rw [Diagram.parentViolations, ← Diagram.endViolations]
  split
  · next place p found =>
    have none := h.referenceViolations (e.element index)
    simp [Diagram.referenceViolations, found] at none
  · rw [List.append_nil, Entity.element, h.count_endViolations, List.count_singleton_self]

theorem Entity.designates_of_mem (h : v ∈ d.entityViolations index e) :
    e.Designates index v.element := by
  rcases mem_entityViolations.mp h with h | ⟨-, rfl⟩ | h | ⟨-, rfl⟩ | h | h | h
  · obtain ⟨first, -, rfl⟩ := mem_duplicateViolations.mp h
    exact .itself
  · exact .itself
  · obtain ⟨place, a, at_place, -, rfl⟩ := mem_attributeNameViolations.mp h
    exact .ofAttribute at_place
  · exact .itself
  · rcases mem_keyCountViolations.mp h with ⟨-, rfl⟩ | ⟨-, rfl⟩ <;> exact .itself
  · rcases mem_keyKindViolations.mp h with ⟨place, a, at_place, -, -, rfl⟩ | ⟨place, a, at_place, -, -, rfl⟩ <;>
      exact .ofAttribute at_place
  · rcases mem_kindViolations.mp h with ⟨-, h⟩ | ⟨name, -, h⟩ | ⟨-, h⟩
    · simp only [Entity.superclassViolations, List.mem_append, or_assoc] at h
      rcases h with h | h | h
      · obtain ⟨word, -, -, rfl⟩ := mem_wordViolations.mp h
        exact .itself
      · obtain ⟨word, -, -, rfl⟩ := mem_wordViolations.mp h
        exact .itself
      · rcases mem_discriminatorViolations.mp h with ⟨-, rfl⟩ | ⟨a, last, -, rfl⟩
        · exact .itself
        · have last := (Option.filter_eq_some_iff.mp last).1
          rw [List.getLast?_eq_getElem?] at last
          exact .ofAttribute last
    · rcases mem_parentViolations.mp h with h | ⟨place, p, -, ⟨-, rfl⟩ | ⟨-, rfl⟩⟩
      · rcases mem_endViolations.mp h with ⟨-, rfl⟩ | ⟨-, rfl⟩ | ⟨count, -, rfl⟩ <;> exact .itself
      · exact .itself
      · exact .itself
    · obtain ⟨-, rfl⟩ := mem_report.mp h
      exact .itself

/-! ### Segments of relationships -/

theorem Relationship.designates_of_mem (h : v ∈ d.relationshipViolations index r) : r.Designates index v.element := by
  rcases mem_relationshipViolations.mp h with ⟨-, rfl⟩ | h | h | ⟨place, a, at_place, ⟨-, rfl⟩ | ⟨-, rfl⟩⟩
  · exact .itself
  · rcases mem_endViolations.mp h with ⟨-, rfl⟩ | ⟨-, rfl⟩ | ⟨count, -, rfl⟩ <;> exact .itself
  · rcases mem_endViolations.mp h with ⟨-, rfl⟩ | ⟨-, rfl⟩ | ⟨count, -, rfl⟩ <;> exact .itself
  · exact .ofAttribute at_place
  · exact .ofAttribute at_place

theorem Relationship.Fault.count (h : Fault a rule value) (at_place : r.attributes[place]? = some a) :
    (d.relationshipViolations index r).count ⟨.relationshipAttribute r.name place a.name, rule, value⟩ = 1 := by
  have name : ⟨.relationshipAttribute r.name place a.name, rule, value⟩ ∉
      report (!isRelationshipName r.name) (.relationship index r.name) .malformedName (some r.name) := by
    simp [mem_report]
  have ends : ∀ name, ⟨.relationshipAttribute r.name place a.name, rule, value⟩ ∉
      d.endViolations (.relationship index r.name) name := by
    simp [mem_endViolations]
  rw [Diagram.relationshipViolations, List.count_append, List.count_append, List.count_append,
    List.count_eq_zero_of_not_mem name, List.count_eq_zero_of_not_mem (ends _), List.count_eq_zero_of_not_mem (ends _),
    count_flatMap_of_place (nodup_places _) (List.mem_zipIdx_iff_getElem?.mpr at_place)]
  · simp only [List.count_append, Nat.zero_add]
    cases h with
    | malformed malformed =>
      have checked : isAttributeName a.name = false :=
        Bool.eq_false_iff.mpr fun sound => malformed (isAttributeName_eq_true_iff.mp sound)
      rw [List.count_eq_zero_of_not_mem (by simp [mem_report]), count_report (by simp [checked])]
    | key key =>
      rw [count_report (by simp [key]), List.count_eq_zero_of_not_mem (by simp [mem_report])]
  · rintro ⟨b, i⟩ - found
    simp only [List.mem_append, mem_report, Violation.mk.injEq, Element.relationshipAttribute.injEq] at found
    rcases found with ⟨-, same, -⟩ | ⟨-, same, -⟩ <;> exact same.2.1.symm

theorem Diagram.Misses.count_relationshipViolations (h : d.Misses name rule) (r : Relationship) (index : Nat) :
    (d.relationshipViolations index r).count ⟨.relationship index r.name, rule, some name⟩ =
      [r.source, r.target].count name := by
  have malformed : ⟨.relationship index r.name, rule, some name⟩ ∉
      report (!isRelationshipName r.name) (.relationship index r.name) .malformedName (some r.name) := by
    rcases h.eq with rfl | rfl <;> simp [mem_report]
  have attributes : ⟨.relationship index r.name, rule, some name⟩ ∉ r.attributes.zipIdx.flatMap fun (a, place) =>
      report (a.key ≠ .plain) (.relationshipAttribute r.name place a.name) .relationshipAttributeKey none ++
        report (!isAttributeName a.name) (.relationshipAttribute r.name place a.name) .malformedName (some a.name) := by
    simp [mem_report]
  have ends : [r.source, r.target].count name = [r.source].count name + [r.target].count name := by
    rw [← List.count_append, List.singleton_append]
  rw [Diagram.relationshipViolations, List.count_append, List.count_append, List.count_append,
    List.count_eq_zero_of_not_mem malformed, h.count_endViolations, h.count_endViolations, ends, Nat.zero_add]
  exact congrArg (_ + ·) (List.count_eq_zero_of_not_mem attributes)

end

/-! ### All segments -/

theorem Entity.diagnosed (e : Entity) (d : Diagram) (index : Nat) : e.Diagnosed d index (d.entityViolations index e) where
  designates _ h := designates_of_mem h
  attributes _ _ _ _ at_place fault := fault.count at_place
  parent _ _ parent misses := misses.count_entityViolations parent

theorem Relationship.diagnosed (r : Relationship) (d : Diagram) (index : Nat) :
    r.Diagnosed d index (d.relationshipViolations index r) where
  designates _ h := designates_of_mem h
  attributes _ _ _ _ at_place fault := fault.count at_place
  ends _ _ _ misses := misses.count_relationshipViolations r index

/-- The violations of a diagram are one segment for each entity, in order, and then one for each relationship, in
    order. A segment may be empty. It reports its part and the attributes of its part by their places, and each
    attribute at fault and each reference that is not resolved by a report of its own, whatever else is wrong there or
    elsewhere. -/
theorem Diagram.exists_segments (d : Diagram) : ∃ entities relationships : List (List Violation),
    d.violations = entities.flatten ++ relationships.flatten ∧
      (entities.length = d.entities.length ∧ relationships.length = d.relationships.length) ∧
      (∀ (index : Nat) (e : Entity) (segment : List Violation), d.entities[index]? = some e →
        entities[index]? = some segment → e.Diagnosed d index segment) ∧
      ∀ (index : Nat) (r : Relationship) (segment : List Violation), d.relationships[index]? = some r →
        relationships[index]? = some segment → r.Diagnosed d index segment := by
  refine ⟨d.entities.zipIdx.map fun x => d.entityViolations x.2 x.1,
    d.relationships.zipIdx.map fun x => d.relationshipViolations x.2 x.1, ?_, ⟨?_, ?_⟩, ?_, ?_⟩
  · rw [Diagram.violations, List.flatMap_def, List.flatMap_def]
  · rw [List.length_map, List.length_zipIdx]
  · rw [List.length_map, List.length_zipIdx]
  · intro index e segment at_index at_segment
    simp only [List.getElem?_map, List.getElem?_zipIdx, at_index, Option.map_some, Nat.zero_add, Option.some.injEq]
      at at_segment
    exact at_segment ▸ e.diagnosed d index
  · intro index r segment at_index at_segment
    simp only [List.getElem?_map, List.getElem?_zipIdx, at_index, Option.map_some, Nat.zero_add, Option.some.injEq]
      at at_segment
    exact at_segment ▸ r.diagnosed d index

end ErDiagram
