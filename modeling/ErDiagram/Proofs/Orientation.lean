import ErDiagram.Proofs.Policy
import ErDiagram.Proofs.SideBySide

/-! The order and the direction of relationships. An entity is asked only how many owners it has and which, and from
    either end a relationship gives the same owner; what is wrong with a relationship is said of its ends one after the
    other, wherever it stands. So relationships may change places, and each may be read from its other end, and nothing
    but the order and the places of what is reported on them changes. -/

namespace ErDiagram

/-! ### Rearranged diagrams -/

/-- The same relationship, read from its other end. -/
def Relationship.reversed (r : Relationship) : Relationship :=
  { r with source := r.target, towardSource := r.towardTarget, towardTarget := r.towardSource, target := r.source }

/-- The same entities, and the same relationships in another order, of which any may be reversed. -/
structure Diagram.Rearranged (d d' : Diagram) : Prop where
  entities : d'.entities = d.entities
  relationships : ∃ shuffled, d.relationships.Perm shuffled ∧
    List.Forall₂ (fun r r' => r' = r ∨ r' = r.reversed) shuffled d'.relationships

/-- The element without the place of a relationship. -/
def Element.unplaced : Element → Element
  | .relationship _ name => .relationship 0 name
  | other => other

def Violation.unplaced (v : Violation) : Violation := { v with element := v.element.unplaced }

section
variable {d d' : Diagram} {e : Entity} {r : Relationship} {index : Nat} {name : String}

theorem Relationship.ownerOf?_reversed (r : Relationship) (weak : String) :
    r.reversed.ownerOf? weak = r.ownerOf? weak := by
  ext owner
  rw [ownerOf?_eq_some_iff, ownerOf?_eq_some_iff]
  exact and_congr_right fun _ => and_congr_right fun _ => or_comm

theorem flatMap_perm_of_forall₂ {α β γ : Type} {l : List α} {m : List β} {related : α → β → Prop} {f : α → List γ}
    {g : β → List γ} (h : List.Forall₂ related l m) (step : ∀ a b, related a b → (f a).Perm (g b)) :
    (l.flatMap f).Perm (m.flatMap g) := by
  induction h with
  | nil => exact .refl _
  | cons first _ ih =>
    rw [List.flatMap_cons, List.flatMap_cons]
    exact (step _ _ first).append ih

namespace Diagram.Rearranged

/-- What each relationship gives alike from both ends, up to order, all of them give alike up to order. -/
theorem flatMap_perm (h : d.Rearranged d') {γ : Type} {f : Relationship → List γ}
    (step : ∀ r, (f r).Perm (f r.reversed)) : (d.relationships.flatMap f).Perm (d'.relationships.flatMap f) := by
  obtain ⟨shuffled, perm, turned⟩ := h.relationships
  refine (perm.flatMap_right f).trans (flatMap_perm_of_forall₂ turned fun r r' either => ?_)
  rcases either with rfl | rfl
  · exact .refl _
  · exact step r

theorem owners_perm (h : d.Rearranged d') (weak : String) :
    (d.relationships.filterMap (·.ownerOf? weak)).Perm (d'.relationships.filterMap (·.ownerOf? weak)) := by
  rw [List.filterMap_eq_flatMap_toList, List.filterMap_eq_flatMap_toList]
  refine h.flatMap_perm fun r => ?_
  rw [Relationship.ownerOf?_reversed]

/-! ### The same violations -/

theorem resolve (h : d.Rearranged d') (name : String) : d'.resolve name = d.resolve name := by
  rw [Diagram.resolve, Diagram.resolve, Diagram.named, Diagram.named, h.entities]

theorem canonicalName (h : d.Rearranged d') (name : String) : d'.canonicalName name = d.canonicalName name := by
  rw [Diagram.canonicalName, Diagram.canonicalName, h.resolve]

theorem kindViolations (h : d.Rearranged d') : d'.kindViolations index e = d.kindViolations index e := by
  simp only [Diagram.kindViolations, Diagram.subclassViolations, Diagram.parentViolations, Diagram.referenceViolations,
    Diagram.ownerViolations, h.resolve, (h.owners_perm e.name).length_eq]

theorem violationsOfEntities (h : d.Rearranged d') : d'.violationsOfEntities = d.violationsOfEntities := by
  simp only [Diagram.violationsOfEntities, Diagram.entityViolations, Diagram.duplicateViolations, h.kindViolations,
    h.entities]

theorem relationshipViolations (h : d.Rearranged d') :
    d'.relationshipViolations index r = d.relationshipViolations index r := by
  simp only [Diagram.relationshipViolations, Diagram.endViolations, Diagram.referenceViolations, h.resolve]

end Diagram.Rearranged

theorem map_unplaced_report (broken : Bool) (element : Element) (rule : Rule) (value : Option String) :
    (report broken element rule value).map (·.unplaced) = report broken element.unplaced rule value :=
  map_report_eq (fun _ _ _ => rfl) broken element rule value

theorem map_unplaced_endViolations (element : Element) :
    (d.endViolations element name).map (·.unplaced) = d.endViolations element.unplaced name := by
  rw [Diagram.endViolations, Diagram.endViolations, List.map_append, map_unplaced_report, Diagram.referenceViolations,
    Diagram.referenceViolations]
  cases d.resolve name <;> rfl

/-- Without its place, what is reported on a relationship does not depend on where it stands. -/
theorem map_unplaced_relationshipViolations :
    (d.relationshipViolations index r).map (·.unplaced) = d.relationshipViolations 0 r := by
  simp only [Diagram.relationshipViolations, List.map_append, List.map_flatMap, map_unplaced_report,
    map_unplaced_endViolations]
  rfl

/-- The ends are checked one after the other, and the rest is the same from both ends. -/
theorem relationshipViolations_reversed (d : Diagram) (index : Nat) (r : Relationship) :
    (d.relationshipViolations index r).Perm (d.relationshipViolations index r.reversed) := by
  refine List.Perm.append_right _ ?_
  rw [List.append_assoc, List.append_assoc]
  exact List.perm_append_comm.append_left _

theorem map_unplaced_violationsOfRelationships (d : Diagram) :
    d.violationsOfRelationships.map (·.unplaced) = d.relationships.flatMap (d.relationshipViolations 0) := by
  conv_rhs => rw [← List.zipIdx_map_fst 0 d.relationships, List.flatMap_map]
  rw [Diagram.violationsOfRelationships, List.map_flatMap]
  exact List.flatMap_congr fun x _ => map_unplaced_relationshipViolations

theorem Diagram.Rearranged.violations (h : d.Rearranged d') :
    (d.violations.map (·.unplaced)).Perm (d'.violations.map (·.unplaced)) := by
  have relationships : (d.relationships.flatMap (d.relationshipViolations 0)).Perm
      (d'.relationships.flatMap (d'.relationshipViolations 0)) := by
    have same : d'.relationshipViolations 0 = d.relationshipViolations 0 := funext fun _ => h.relationshipViolations
    rw [same]
    exact h.flatMap_perm (relationshipViolations_reversed d 0)
  rw [violations_eq, violations_eq, List.map_append, List.map_append, h.violationsOfEntities,
    map_unplaced_violationsOfRelationships, map_unplaced_violationsOfRelationships]
  exact relationships.append_left _

/-! ### The same verdicts and edges -/

theorem breaksReference_unplaced (vs : List Violation) :
    breaksReference (vs.map (·.unplaced)) = breaksReference vs := by
  rw [breaksReference, breaksReference, List.any_map]
  rfl

theorem permits_congr {vs ws : List Violation} (perm : (vs.map (·.unplaced)).Perm (ws.map (·.unplaced)))
    (policy : Policy) : policy.permits vs = policy.permits ws := by
  have reference : breaksReference vs = breaksReference ws := by
    rw [← breaksReference_unplaced vs, ← breaksReference_unplaced ws]
    exact perm.any_eq
  have length : vs.length = ws.length := by simpa using perm.length_eq
  have none : vs = [] ↔ ws = [] := by rw [← List.length_eq_zero_iff, length, List.length_eq_zero_iff]
  rw [Policy.permits, Policy.permits, reference]
  simp only [none]

theorem Diagram.Rearranged.impliedEdges (h : d.Rearranged d') (valid : d.Valid) : d'.impliedEdges = d.impliedEdges := by
  have hierarchy : d'.hierarchyEdge? = d.hierarchyEdge? := by
    funext e
    simp only [Diagram.hierarchyEdge?, h.resolve]
  have ownership : ∀ e ∈ d.entities, d'.ownershipEdges e = d.ownershipEdges e := fun e member => by
    by_cases kind : e.kind = .weak
    · -- A weak entity has one owner, and one owner has one order.
      obtain ⟨index, at_index⟩ := List.getElem?_of_mem member
      have one := (valid.entity at_index).owner kind
      rw [← Diagram.length_owners] at one
      obtain ⟨owner, only⟩ := List.length_eq_one_iff.mp one
      have only' := (h.owners_perm e.name).symm
      rw [only, List.perm_singleton] at only'
      simp only [Diagram.ownershipEdges, only, only', h.canonicalName]
    · rw [Diagram.ownershipEdges, Diagram.ownershipEdges, if_neg kind, if_neg kind]
  rw [Diagram.impliedEdges, Diagram.impliedEdges, h.entities, hierarchy, List.flatMap_congr ownership]

/-- Relationships in another order, any of them reversed, break the same rules, so a policy writes both diagrams or
    neither. A valid diagram implies the same edges. -/
theorem Diagram.Rearranged.validation_agrees (h : d.Rearranged d') :
    (d.violations.map (·.unplaced)).Perm (d'.violations.map (·.unplaced)) ∧
      (∀ policy : Policy, (∃ text, d.serialize policy = .ok text) ↔ ∃ text, d'.serialize policy = .ok text) ∧
      (d.Valid → d'.impliedEdges = d.impliedEdges) := by
  refine ⟨h.violations, fun policy => ?_, h.impliedEdges⟩
  rw [Diagram.exists_serialize_iff, Diagram.exists_serialize_iff, permits_congr h.violations]

end

/-- Two weak entities with their owners, and a loop. -/
def Diagram.harbour : Diagram where
  entities := [
    ⟨"Ship", .strong, [], [⟨"name", .primary⟩]⟩,
    ⟨"Cabin", .weak, [], [⟨"number", .partialKey⟩]⟩,
    ⟨"Berth", .weak, [], [⟨"deck", .partialKey⟩]⟩,
    ⟨"Crew", .strong, [], [⟨"id", .primary⟩]⟩]
  relationships := [
    ⟨"SHIP", .exactlyOne, "has", .oneOrMany, "cabin", .double, []⟩,
    ⟨"Cabin", .zeroOrMany, "adjoins", .zeroOrOne, "CABIN", .double, []⟩,
    ⟨"crew", .exactlyOne, "sleeps-in", .zeroOrOne, "BERTH", .double, [⟨"since", .plain⟩]⟩]

/-- The same with the last line first, and the loop and this line read from the other side. -/
def Diagram.rearrangedHarbour : Diagram where
  entities := harbour.entities
  relationships := [
    ⟨"BERTH", .zeroOrOne, "sleeps-in", .exactlyOne, "crew", .double, [⟨"since", .plain⟩]⟩,
    ⟨"SHIP", .exactlyOne, "has", .oneOrMany, "cabin", .double, []⟩,
    ⟨"CABIN", .zeroOrOne, "adjoins", .zeroOrMany, "Cabin", .double, []⟩]

theorem Diagram.Rearranged.validation_agrees_harbour : harbour.Rearranged rearrangedHarbour ∧ harbour.Valid ∧
    (harbour.violations.map (·.unplaced)).Perm (rearrangedHarbour.violations.map (·.unplaced)) ∧
      (∀ policy : Policy,
        (∃ text, harbour.serialize policy = .ok text) ↔ ∃ text, rearrangedHarbour.serialize policy = .ok text) ∧
      rearrangedHarbour.impliedEdges = harbour.impliedEdges := by
  have valid : harbour.Valid := by decide +kernel
  have rearranged : harbour.Rearranged rearrangedHarbour := by
    refine ⟨rfl, [harbour.relationships[2], harbour.relationships[0], harbour.relationships[1]], by decide +kernel, ?_⟩
    exact .cons (Or.inr rfl) (.cons (Or.inl rfl) (.cons (Or.inr rfl) .nil))
  obtain ⟨violations, written, edges⟩ := rearranged.validation_agrees
  exact ⟨rearranged, valid, violations, written, edges valid⟩

end ErDiagram
