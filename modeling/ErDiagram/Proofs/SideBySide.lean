import ErDiagram.Proofs.Breach
import ErDiagram.Proofs.ImpliedEdge
import ErDiagram.Proofs.Resolution
import Mathlib.Data.List.Basic

/-! Diagrams side by side. The checks on an entity or a relationship look at the rest of the diagram in three ways only:
    they resolve a name, they look for an earlier entity of a name, and they ask for the owners of a name. Parts that
    declare no name mentioned here, and mention none declared here, leave all three answers as they are, but for the
    places. So two unrelated diagrams are validated side by side as each is alone, and imply the edges that each implies
    alone. -/

namespace ErDiagram

/-! ### Unrelated diagrams -/

/-- The parts of the first diagram, then those of the second. -/
def Diagram.append (d₁ d₂ : Diagram) : Diagram := ⟨d₁.entities ++ d₂.entities, d₁.relationships ++ d₂.relationships⟩

instance : Append Diagram := ⟨Diagram.append⟩

/-- The names of the entities, and all names that refer to entities. -/
def Diagram.mentioned (d : Diagram) : List String :=
  d.entities.map (·.name) ++ d.entities.filterMap (·.parent?) ++ d.relationships.flatMap fun r => [r.source, r.target]

/-- Neither diagram mentions the name of an entity of the other. -/
structure Diagram.Unrelated (d₁ d₂ : Diagram) : Prop where
  first : ∀ e ∈ d₁.entities, ∀ name ∈ d₂.mentioned, sameName e.name name = false
  second : ∀ e ∈ d₂.entities, ∀ name ∈ d₁.mentioned, sameName e.name name = false

section
variable {d d₁ d₂ : Diagram} {e : Entity} {r : Relationship} {name : String}

theorem entities_append (d₁ d₂ : Diagram) : (d₁ ++ d₂).entities = d₁.entities ++ d₂.entities := rfl

theorem relationships_append (d₁ d₂ : Diagram) : (d₁ ++ d₂).relationships = d₁.relationships ++ d₂.relationships := rfl

theorem append_empty (d : Diagram) : d ++ Diagram.empty = d := by
  obtain ⟨entities, relationships⟩ := d
  change Diagram.mk (entities ++ []) (relationships ++ []) = _
  rw [List.append_nil, List.append_nil]

theorem Diagram.Unrelated.symm (h : d₁.Unrelated d₂) : d₂.Unrelated d₁ := ⟨h.second, h.first⟩

theorem unrelated_empty (d : Diagram) : d.Unrelated Diagram.empty where
  first _ _ _ mention := absurd mention List.not_mem_nil
  second _ member := absurd member List.not_mem_nil

theorem mentioned_name (member : e ∈ d.entities) : e.name ∈ d.mentioned :=
  List.mem_append_left _ (List.mem_append_left _ (List.mem_map_of_mem member))

theorem mentioned_parent (member : e ∈ d.entities) (parent : e.parent? = some name) : name ∈ d.mentioned :=
  List.mem_append_left _ (List.mem_append_right _ (List.mem_filterMap.mpr ⟨e, member, parent⟩))

theorem mentioned_end (member : r ∈ d.relationships) (ends : name ∈ [r.source, r.target]) : name ∈ d.mentioned :=
  List.mem_append_right _ (List.mem_flatMap.mpr ⟨r, member, ends⟩)

end

/-! ### Places behind other parts -/

/-- The element at its place behind the parts of another diagram. An attribute keeps its place in its list. -/
def Element.after (before : Diagram) : Element → Element
  | .entity index name => .entity (before.entities.length + index) name
  | .relationship index name => .relationship (before.relationships.length + index) name
  | other => other

def Violation.after (before : Diagram) (v : Violation) : Violation := { v with element := v.element.after before }

def Resolution.after (before : Diagram) : Resolution → Resolution
  | .found index e => .found (before.entities.length + index) e
  | unresolved => unresolved

/-- The checks on the parts of `d` find in `u` what they find in `d`, behind the parts of `before`. -/
structure Diagram.Keeps (before d u : Diagram) : Prop where
  resolve : ∀ name ∈ d.mentioned, u.resolve name = (d.resolve name).after before
  earlier : ∀ index ≤ d.entities.length, ∀ name ∈ d.mentioned,
    (u.entities.take (before.entities.length + index)).find? (sameName ·.name name) =
      (d.entities.take index).find? (sameName ·.name name)
  owners : ∀ e ∈ d.entities,
    u.relationships.filterMap (·.ownerOf? e.name) = d.relationships.filterMap (·.ownerOf? e.name)

section
variable {before d after : Diagram} {e : Entity} {name : String}

theorem filter_zipIdx_eq_nil {α : Type} {l : List α} {p : α → Bool} (none : ∀ a ∈ l, p a = false) (start : Nat) :
    (l.zipIdx start).filter (fun x => p x.1) = [] := by
  rw [List.filter_eq_nil_iff]
  intro x member
  rw [none x.1 (List.fst_mem_of_mem_zipIdx member)]
  exact Bool.false_ne_true

/-- A name that is mentioned in the middle is that of the same entities, each behind the parts that come first. -/
theorem named_between (left : before.Unrelated d) (right : d.Unrelated after) (mention : name ∈ d.mentioned) :
    (before ++ d ++ after).named name = (d.named name).map fun (e, index) => (e, before.entities.length + index) := by
  have none_before : ∀ e ∈ before.entities, sameName e.name name = false := fun e member =>
    left.first e member name mention
  have none_after : ∀ e ∈ after.entities, sameName e.name name = false := fun e member =>
    right.second e member name mention
  have first := filter_zipIdx_eq_nil (p := fun e : Entity => sameName e.name name) none_before
  have last := filter_zipIdx_eq_nil (p := fun e : Entity => sameName e.name name) none_after
  rw [Diagram.named, entities_append, entities_append, List.zipIdx_append, List.zipIdx_append, List.filter_append,
    List.filter_append, first, last, List.nil_append, List.append_nil, Nat.zero_add, List.zipIdx_eq_map_add,
    List.filter_map]
  rfl

/-- Two names of which one is mentioned here and one is declared there are different, so nothing there owns here. -/
theorem ownerOf?_eq_none {d₁ d₂ : Diagram} (h : d₁.Unrelated d₂) (member : e ∈ d₁.entities) :
    ∀ r ∈ d₂.relationships, r.ownerOf? e.name = none := by
  intro r hr
  have source := h.first e member r.source (mentioned_end hr List.mem_cons_self)
  have target := h.first e member r.target (mentioned_end hr (List.mem_cons_of_mem _ List.mem_cons_self))
  rw [sameName_comm] at source target
  rw [Relationship.ownerOf?, Relationship.otherEnd?, source, target]
  exact ite_self none

/-- Between unrelated parts all checks find what they find alone. -/
theorem keeps_between (left : before.Unrelated d) (right : d.Unrelated after) :
    before.Keeps d (before ++ d ++ after) where
  resolve name mention := by
    rw [Diagram.resolve, named_between left right mention, Diagram.resolve]
    rcases d.named name with _ | ⟨x, _ | ⟨y, others⟩⟩
    · rfl
    · rfl
    · simp only [List.map_cons, List.length_cons, List.length_map]
      rfl
  earlier index bound name mention := by
    have first : before.entities.find? (sameName ·.name name) = none := by
      rw [List.find?_eq_none]
      intro e member
      rw [left.first e member name mention]
      exact Bool.false_ne_true
    rw [entities_append, entities_append, List.append_assoc, List.take_length_add_append,
      List.take_append_of_le_length bound, List.find?_append, first, Option.none_or]
  owners e member := by
    have first := List.filterMap_eq_nil_iff.mpr (ownerOf?_eq_none left.symm member)
    have last := List.filterMap_eq_nil_iff.mpr (ownerOf?_eq_none right member)
    rw [relationships_append, relationships_append, List.filterMap_append, List.filterMap_append, first, last,
      List.nil_append, List.append_nil]

end

/-! ### Checks on one part -/

section
variable {before : Diagram} {e : Entity} {index : Nat}

theorem map_report (before : Diagram) (broken : Bool) (element : Element) (rule : Rule) (value : Option String) :
    (report broken element rule value).map (·.after before) = report broken (element.after before) rule value :=
  map_report_eq (fun _ _ _ => rfl) broken element rule value

theorem nameViolations_after :
    e.nameViolations (before.entities.length + index) = (e.nameViolations index).map (·.after before) :=
  (map_report before _ (e.element index) _ _).symm

theorem optionViolations_after :
    e.optionViolations (before.entities.length + index) = (e.optionViolations index).map (·.after before) :=
  (map_report before _ (e.element index) _ _).symm

/-- What is reported on attributes does not tell the place of their entity. -/
theorem attributeNameViolations_after : e.attributeNameViolations = e.attributeNameViolations.map (·.after before) := by
  simp only [Entity.attributeNameViolations, List.map_flatMap, map_report]
  rfl

theorem keyKindViolations_after : e.keyKindViolations = e.keyKindViolations.map (·.after before) := by
  simp only [Entity.keyKindViolations, List.map_append, List.map_flatMap, map_report]
  rfl

theorem keyCountViolations_after :
    e.keyCountViolations (before.entities.length + index) = (e.keyCountViolations index).map (·.after before) := by
  simp only [Entity.keyCountViolations, List.map_append, map_report]
  rfl

theorem wordViolations_after (place : Nat) (words : List String) (rule : Rule) :
    e.wordViolations (before.entities.length + index) place words rule =
      (e.wordViolations index place words rule).map (·.after before) := by
  rw [Entity.wordViolations, Entity.wordViolations]
  cases e.options[place]? with
  | none => rfl
  | some word => exact (map_report before _ (e.element index) _ _).symm

theorem discriminatorViolations_after :
    e.discriminatorViolations (before.entities.length + index) =
      (e.discriminatorViolations index).map (·.after before) := by
  rw [Entity.discriminatorViolations, Entity.discriminatorViolations]
  cases e.discriminator? with
  | none => rfl
  | some a => exact (map_report before _ (e.attributeElement a _) _ _).symm

theorem superclassViolations_after :
    e.superclassViolations (before.entities.length + index) = (e.superclassViolations index).map (·.after before) := by
  simp only [Entity.superclassViolations, List.map_append, wordViolations_after, discriminatorViolations_after]

end

/-! ### Checks on other parts -/

namespace Diagram.Keeps
variable {before d u : Diagram} {e : Entity} {r : Relationship} {name : String} {index : Nat}

theorem duplicateViolations (h : before.Keeps d u) (at_index : d.entities[index]? = some e) :
    u.duplicateViolations (before.entities.length + index) e =
      (d.duplicateViolations index e).map (·.after before) := by
  obtain ⟨bound, -⟩ := List.getElem?_eq_some_iff.mp at_index
  have mention := mentioned_name (List.mem_of_getElem? at_index)
  rw [Diagram.duplicateViolations, h.earlier index (Nat.le_of_lt bound) e.name mention, Diagram.duplicateViolations]
  cases (d.entities.take index).find? (sameName ·.name e.name) <;> rfl

theorem referenceViolations (h : before.Keeps d u) (mention : name ∈ d.mentioned) (element : Element) :
    u.referenceViolations (element.after before) name =
      (d.referenceViolations element name).map (·.after before) := by
  rw [Diagram.referenceViolations, h.resolve name mention, Diagram.referenceViolations]
  cases d.resolve name <;> rfl

theorem endViolations (h : before.Keeps d u) (mention : name ∈ d.mentioned) (element : Element) :
    u.endViolations (element.after before) name = (d.endViolations element name).map (·.after before) := by
  rw [Diagram.endViolations, h.referenceViolations mention, Diagram.endViolations, List.map_append, map_report]

theorem parentViolations (h : before.Keeps d u) (mention : name ∈ d.mentioned) :
    u.parentViolations (before.entities.length + index) e name =
      (d.parentViolations index e name).map (·.after before) := by
  have reference := h.referenceViolations mention (e.element index)
  rw [Diagram.parentViolations, Diagram.parentViolations, List.map_append, List.map_append, map_report, ← reference,
    h.resolve name mention]
  congr 1
  cases d.resolve name with
  | found place p =>
    simp only [Resolution.after, List.map_append, map_report, Nat.add_le_add_iff_left]
    rfl
  | missing => rfl
  | ambiguous count => rfl

theorem subclassViolations (h : before.Keeps d u) (member : e ∈ d.entities) :
    u.subclassViolations (before.entities.length + index) e = (d.subclassViolations index e).map (·.after before) := by
  rw [Diagram.subclassViolations, Diagram.subclassViolations]
  cases parent : e.parent? with
  | none => rfl
  | some name => exact h.parentViolations (mentioned_parent member parent)

theorem ownerViolations (h : before.Keeps d u) (member : e ∈ d.entities) :
    u.ownerViolations (before.entities.length + index) e = (d.ownerViolations index e).map (·.after before) := by
  rw [Diagram.ownerViolations, Diagram.ownerViolations, h.owners e member]
  exact (map_report before _ (e.element index) _ _).symm

theorem kindViolations (h : before.Keeps d u) (member : e ∈ d.entities) :
    u.kindViolations (before.entities.length + index) e = (d.kindViolations index e).map (·.after before) := by
  rw [Diagram.kindViolations, Diagram.kindViolations]
  cases e.kind with
  | superclass => exact superclassViolations_after
  | subclass => exact h.subclassViolations member
  | weak => exact h.ownerViolations member
  | strong => rfl
  | associative => rfl

theorem entityViolations (h : before.Keeps d u) (at_index : d.entities[index]? = some e) :
    u.entityViolations (before.entities.length + index) e = (d.entityViolations index e).map (·.after before) := by
  simp only [Diagram.entityViolations, List.map_append, h.duplicateViolations at_index, nameViolations_after,
    ← attributeNameViolations_after, optionViolations_after, keyCountViolations_after, ← keyKindViolations_after,
    h.kindViolations (List.mem_of_getElem? at_index)]

theorem relationshipViolations (h : before.Keeps d u) (member : r ∈ d.relationships) :
    u.relationshipViolations (before.relationships.length + index) r =
      (d.relationshipViolations index r).map (·.after before) := by
  have source := h.endViolations (mentioned_end member List.mem_cons_self) (.relationship index r.name)
  have target := h.endViolations (mentioned_end member (List.mem_cons_of_mem _ List.mem_cons_self))
    (.relationship index r.name)
  simp only [Diagram.relationshipViolations, List.map_append, List.map_flatMap, map_report, ← source, ← target]
  rfl

/-! ### Edges -/

theorem canonicalName (h : before.Keeps d u) (mention : name ∈ d.mentioned) :
    u.canonicalName name = d.canonicalName name := by
  rw [Diagram.canonicalName, h.resolve name mention, Diagram.canonicalName]
  cases d.resolve name <;> rfl

theorem hierarchyEdge? (h : before.Keeps d u) (member : e ∈ d.entities) : u.hierarchyEdge? e = d.hierarchyEdge? e := by
  rw [Diagram.hierarchyEdge?, Diagram.hierarchyEdge?]
  cases parent : e.parent? with
  | none => rfl
  | some name =>
    simp only [Option.bind_eq_bind, Option.bind_some, h.resolve name (mentioned_parent member parent)]
    cases d.resolve name <;> rfl

theorem ownershipEdges (h : before.Keeps d u) (member : e ∈ d.entities) : u.ownershipEdges e = d.ownershipEdges e := by
  rw [Diagram.ownershipEdges, Diagram.ownershipEdges, h.owners e member]
  refine if_congr Iff.rfl (List.map_congr_left fun owner own => ?_) rfl
  obtain ⟨r, hr, given⟩ := List.mem_filterMap.mp own
  rw [h.canonicalName (mentioned_end hr (Relationship.mem_ends_of_ownerOf? given))]

end Diagram.Keeps

/-! ### The whole diagram -/

/-- What validation reports on the entities and their attributes. -/
def Diagram.violationsOfEntities (d : Diagram) : List Violation :=
  d.entities.zipIdx.flatMap fun (e, index) => d.entityViolations index e

/-- What validation reports on the relationships and their attributes. -/
def Diagram.violationsOfRelationships (d : Diagram) : List Violation :=
  d.relationships.zipIdx.flatMap fun (r, index) => d.relationshipViolations index r

theorem violations_eq (d : Diagram) : d.violations = d.violationsOfEntities ++ d.violationsOfRelationships := rfl

section
variable {before d u d₁ d₂ : Diagram}

theorem map_after_empty (vs : List Violation) : vs.map (·.after .empty) = vs := by
  refine (List.map_congr_left fun v _ => ?_).trans vs.map_id
  obtain ⟨element, rule, value⟩ := v
  cases element with
  | entity index name => exact congrArg (Violation.mk · rule value) (congrArg (Element.entity · name) index.zero_add)
  | relationship index name =>
    exact congrArg (Violation.mk · rule value) (congrArg (Element.relationship · name) index.zero_add)
  | _ => rfl

/-- Reports on the items of a list, behind other items, are the reports on the list alone at their new places. -/
theorem flatMap_zipIdx_after {α : Type} {l : List α} {start : Nat} {f g : α × Nat → List Violation}
    (step : ∀ index a, l[index]? = some a → f (a, start + index) = (g (a, index)).map (·.after before)) :
    (l.zipIdx start).flatMap f = (l.zipIdx.flatMap g).map (·.after before) := by
  rw [List.zipIdx_eq_map_add, List.flatMap_map, List.map_flatMap]
  exact List.flatMap_congr fun x member => step x.2 x.1 (List.mem_zipIdx_iff_getElem?.mp member)

theorem Diagram.Keeps.violationsOfEntities (h : before.Keeps d u) :
    (d.entities.zipIdx before.entities.length).flatMap (fun (e, index) => u.entityViolations index e) =
      d.violationsOfEntities.map (·.after before) :=
  flatMap_zipIdx_after fun _ _ at_index => h.entityViolations at_index

theorem Diagram.Keeps.violationsOfRelationships (h : before.Keeps d u) :
    (d.relationships.zipIdx before.relationships.length).flatMap (fun (r, index) => u.relationshipViolations index r) =
      d.violationsOfRelationships.map (·.after before) :=
  flatMap_zipIdx_after fun _ _ at_index => h.relationshipViolations (List.mem_of_getElem? at_index)

theorem Diagram.Unrelated.keeps_first (h : d₁.Unrelated d₂) : Diagram.empty.Keeps d₁ (d₁ ++ d₂) :=
  keeps_between (unrelated_empty d₁).symm h

theorem Diagram.Unrelated.keeps_second (h : d₁.Unrelated d₂) : d₁.Keeps d₂ (d₁ ++ d₂) := by
  have keeps := keeps_between h (unrelated_empty d₂)
  rwa [append_empty] at keeps

theorem Diagram.Unrelated.violationsOfEntities (h : d₁.Unrelated d₂) : (d₁ ++ d₂).violationsOfEntities =
    d₁.violationsOfEntities ++ d₂.violationsOfEntities.map (·.after d₁) := by
  have first := h.keeps_first.violationsOfEntities
  have second := h.keeps_second.violationsOfEntities
  rw [map_after_empty] at first
  rw [Diagram.violationsOfEntities, entities_append, List.zipIdx_append, List.flatMap_append, Nat.zero_add, second]
  exact congrArg (· ++ _) first

theorem Diagram.Unrelated.violationsOfRelationships (h : d₁.Unrelated d₂) : (d₁ ++ d₂).violationsOfRelationships =
    d₁.violationsOfRelationships ++ d₂.violationsOfRelationships.map (·.after d₁) := by
  have first := h.keeps_first.violationsOfRelationships
  have second := h.keeps_second.violationsOfRelationships
  rw [map_after_empty] at first
  rw [Diagram.violationsOfRelationships, relationships_append, List.zipIdx_append, List.flatMap_append, Nat.zero_add,
    second]
  exact congrArg (· ++ _) first

theorem Diagram.Unrelated.violations (h : d₁.Unrelated d₂) : (d₁ ++ d₂).violations =
    d₁.violationsOfEntities ++ d₂.violationsOfEntities.map (·.after d₁) ++
      d₁.violationsOfRelationships ++ d₂.violationsOfRelationships.map (·.after d₁) := by
  rw [violations_eq, h.violationsOfEntities, h.violationsOfRelationships, List.append_assoc _ _ (List.map _ _)]

theorem Diagram.Unrelated.impliedEdges (h : d₁.Unrelated d₂) : (d₁ ++ d₂).impliedEdges =
    d₁.entities.filterMap d₁.hierarchyEdge? ++ d₂.entities.filterMap d₂.hierarchyEdge? ++
      d₁.entities.flatMap d₁.ownershipEdges ++ d₂.entities.flatMap d₂.ownershipEdges := by
  have hierarchy₁ : d₁.entities.filterMap (d₁ ++ d₂).hierarchyEdge? = d₁.entities.filterMap d₁.hierarchyEdge? :=
    List.filterMap_congr fun _ => h.keeps_first.hierarchyEdge?
  have hierarchy₂ : d₂.entities.filterMap (d₁ ++ d₂).hierarchyEdge? = d₂.entities.filterMap d₂.hierarchyEdge? :=
    List.filterMap_congr fun _ => h.keeps_second.hierarchyEdge?
  have ownership₁ : d₁.entities.flatMap (d₁ ++ d₂).ownershipEdges = d₁.entities.flatMap d₁.ownershipEdges :=
    List.flatMap_congr fun _ => h.keeps_first.ownershipEdges
  have ownership₂ : d₂.entities.flatMap (d₁ ++ d₂).ownershipEdges = d₂.entities.flatMap d₂.ownershipEdges :=
    List.flatMap_congr fun _ => h.keeps_second.ownershipEdges
  rw [Diagram.impliedEdges, entities_append, List.filterMap_append, List.flatMap_append, hierarchy₁, hierarchy₂,
    ownership₁, ownership₂, List.append_assoc _ _ (d₂.entities.flatMap _)]

/-- Of two unrelated diagrams side by side validation reports what it reports of each: on the entities of the first and
    of the second, then on the relationships of the first and of the second, those of the second at their new places.
    So they are valid together when each is valid, and they imply the edges that each implies, the hierarchies first. -/
theorem Diagram.violations_and_impliedEdges_append (h : d₁.Unrelated d₂) :
    (d₁ ++ d₂).violations =
        d₁.violationsOfEntities ++ d₂.violationsOfEntities.map (·.after d₁) ++
          d₁.violationsOfRelationships ++ d₂.violationsOfRelationships.map (·.after d₁) ∧
      ((d₁ ++ d₂).Valid ↔ d₁.Valid ∧ d₂.Valid) ∧
      (d₁ ++ d₂).impliedEdges =
        d₁.entities.filterMap d₁.hierarchyEdge? ++ d₂.entities.filterMap d₂.hierarchyEdge? ++
          d₁.entities.flatMap d₁.ownershipEdges ++ d₂.entities.flatMap d₂.ownershipEdges := by
  refine ⟨h.violations, ?_, h.impliedEdges⟩
  simp only [Diagram.Valid, h.violations, violations_eq d₁, violations_eq d₂, List.append_eq_nil_iff,
    List.map_eq_nil_iff]
  constructor
  · rintro ⟨⟨⟨entities₁, entities₂⟩, relationships₁⟩, relationships₂⟩
    exact ⟨⟨entities₁, relationships₁⟩, entities₂, relationships₂⟩
  · rintro ⟨⟨entities₁, relationships₁⟩, entities₂, relationships₂⟩
    exact ⟨⟨⟨entities₁, entities₂⟩, relationships₁⟩, relationships₂⟩

end

/-- A subclass before its superclass, a repeated name, and a relationship to an entity that is not declared. -/
def Diagram.zoo : Diagram where
  entities := [
    ⟨"Lion", .subclass, ["ANIMAL"], []⟩,
    ⟨"Animal", .superclass, ["total", "disjoint"], [⟨"id", .primary⟩, ⟨"kind", .plain⟩]⟩,
    ⟨"lion", .strong, [], [⟨"id", .primary⟩]⟩]
  relationships := [⟨"keeper", .exactlyOne, "feeds", .zeroOrMany, "Lion", .single, []⟩]

/-- A weak entity with its owner, which lacks a key, and a relationship to the same undeclared entity. -/
def Diagram.library : Diagram where
  entities := [⟨"Copy", .weak, [], [⟨"number", .partialKey⟩]⟩, ⟨"Book", .strong, [], []⟩]
  relationships := [
    ⟨"BOOK", .exactlyOne, "has", .zeroOrMany, "copy", .double, []⟩,
    ⟨"Keeper", .exactlyOne, "guards", .zeroOrMany, "Book", .single, [⟨"since", .primary⟩]⟩]

theorem Diagram.violations_and_impliedEdges_append_zoo : zoo.Unrelated library ∧
    (zoo ++ library).violations =
        zoo.violationsOfEntities ++ library.violationsOfEntities.map (·.after zoo) ++
          zoo.violationsOfRelationships ++ library.violationsOfRelationships.map (·.after zoo) ∧
      ((zoo ++ library).Valid ↔ zoo.Valid ∧ library.Valid) ∧
      (zoo ++ library).impliedEdges =
        zoo.entities.filterMap zoo.hierarchyEdge? ++ library.entities.filterMap library.hierarchyEdge? ++
          zoo.entities.flatMap zoo.ownershipEdges ++ library.entities.flatMap library.ownershipEdges := by
  have first : zoo.mentioned = ["Lion", "Animal", "lion", "ANIMAL", "keeper", "Lion"] := rfl
  have second : library.mentioned = ["Copy", "Book", "BOOK", "copy", "Keeper", "Book"] := rfl
  have unrelated : zoo.Unrelated library := by
    constructor
    · rw [second]
      decide +kernel
    · rw [first]
      decide +kernel
  exact ⟨unrelated, violations_and_impliedEdges_append unrelated⟩

end ErDiagram
