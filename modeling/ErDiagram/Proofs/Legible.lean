import ErDiagram.Proofs.Breach
import ErDiagram.Proofs.Grammar.Relationship
import ErDiagram.Proofs.Outline
import ErDiagram.Proofs.Resolution
import Mathlib.Data.List.Permutation

/-! What reading guarantees. Whatever the text, the names that come out of a statement are names that a statement can
    hold, up to blanks at the start of an attribute's name: only spacing is skipped there, and a mark may leave
    nothing of the name. So of the rules on names a diagram that was read can break that one only. -/

namespace ErDiagram
open Character Document Grammar

/-! ### Statements -/

section
variable {t : List Char} {e : Entity} {r : Relationship}

/-- The words of an entity are identifiers, and its attributes come from texts of the statement. -/
theorem Entity.parts_of_read (h : whole Entity.read t = .ok e) :
    isIdentifier e.name = true ∧ (∀ o ∈ e.options, isIdentifier o = true) ∧
      ∀ a ∈ e.attributes, ∃ text, a = Attribute.ofText text ∧ IsAttributeText text ∧ ∀ c ∈ text, c ∈ t := by
  obtain ⟨header, tail, rfl, isHeader, isTail⟩ := entityStatement_of_whole_read h
  obtain ⟨name, options⟩ := isHeader.isIdentifier
  refine ⟨name, options, fun a ha => ?_⟩
  obtain ⟨text, named, list, inside⟩ := isTail.exists_text a ha
  exact ⟨text, ((namesMarked_iff text a).mp named).symm, isAttribute_iff.mp list,
    fun c hc => List.mem_append_right _ (inside c hc)⟩

/-- The ends of a relationship are identifiers, its name is a word of the statement, and its attributes come from texts
    of it. -/
theorem Relationship.parts_of_read (h : whole Relationship.read t = .ok r) :
    isIdentifier r.source = true ∧ isIdentifier r.target = true ∧
      (r.name ≠ "" ∧ ∀ c ∈ r.name.toList, isBlank c = false ∧ c ∈ t) ∧
      ∀ a ∈ r.attributes, ∃ text, a = Attribute.ofPlainText text ∧ IsAttributeText text ∧ ∀ c ∈ text, c ∈ t := by
  obtain ⟨first, second, row, line, braces, space, rfl, isRow, words, -, isBraces, -⟩ :=
    relationshipStatement_of_whole_read h
  refine ⟨words.source, words.target, ⟨words.name_ne_empty, fun c hc => ⟨words.name_seen c hc, ?_⟩⟩, fun a ha => ?_⟩
  · exact List.mem_append_left _ (isRow.mem r.name (by simp) c hc)
  · obtain ⟨text, named, list, inside⟩ := isBraces.exists_text a ha
    exact ⟨text, ((namesPlain_iff text a).mp named).symm, isAttribute_iff.mp list, fun c hc => by simp [inside c hc]⟩

end

/-- What reading guarantees of an entity. -/
structure Entity.Legible (e : Entity) : Prop where
  name : isIdentifier e.name = true
  options : ∀ o ∈ e.options, isIdentifier o = true
  attributes : ∀ a ∈ e.attributes, IsReadText a.name.toList ∧ (a.key = .plain → a.readsAsKey = false)

/-- What reading guarantees of a relationship. -/
structure Relationship.Legible (r : Relationship) : Prop where
  source : isIdentifier r.source = true
  name : isRelationshipName r.name = true
  target : isIdentifier r.target = true
  attributes : ∀ a ∈ r.attributes, IsReadText a.name.toList ∧ a.key = .plain

theorem Entity.legible_of_read {t : List Char} {e : Entity} (quiet : ∀ c ∈ t, endsStatement c = false)
    (h : whole Entity.read t = .ok e) : e.Legible := by
  obtain ⟨name, options, texts⟩ := Entity.parts_of_read h
  refine ⟨name, options, fun a ha => ?_⟩
  obtain ⟨text, rfl, list, inside⟩ := texts a ha
  exact Attribute.isReadText_ofText list.closed fun c hc => quiet c (inside c hc)

theorem Relationship.legible_of_read {t : List Char} {r : Relationship} (quiet : ∀ c ∈ t, endsStatement c = false)
    (h : whole Relationship.read t = .ok r) : r.Legible := by
  obtain ⟨source, target, ⟨ne, inside⟩, texts⟩ := Relationship.parts_of_read h
  refine ⟨source, isRelationshipName_iff.mpr ⟨ne, fun c hc => ?_⟩, target, fun a ha => ?_⟩
  · obtain ⟨seen, member⟩ := inside c hc
    exact ⟨seen, quiet c member⟩
  · obtain ⟨text, rfl, list, inside⟩ := texts a ha
    exact ⟨Attribute.isReadText_ofPlainText list.closed fun c hc => quiet c (inside c hc), rfl⟩

/-! ### Diagrams -/

/-- What reading guarantees of a diagram. -/
structure Diagram.Legible (d : Diagram) : Prop where
  entities : ∀ e ∈ d.entities, e.Legible
  distinct : d.entities.Pairwise fun e other => sameName e.name other.name = false
  relationships : ∀ r ∈ d.relationships, r.Legible

theorem forall_mem_of_forall₂ {α β : Type} {l : List α} {m : List β} {r : α → β → Prop} {p : β → Prop}
    (h : List.Forall₂ r l m) (step : ∀ a ∈ l, ∀ b, r a b → p b) : ∀ b ∈ m, p b := by
  induction h with
  | nil => simp
  | cons first _ ih =>
    rw [List.forall_mem_cons] at step ⊢
    exact ⟨step.1 _ first, ih step.2⟩

theorem Document.Block.isStatementText {b : Block} : ∀ t ∈ b.texts, IsStatementText t := by
  intro t ht
  obtain ⟨p, -, rfl⟩ := List.mem_map.mp ht
  exact p.statement

theorem Document.Outline.isStatementText {x : Outline} : ∀ t ∈ x.relationshipTexts, IsStatementText t := by
  rw [relationshipTexts]
  cases x.relationships with
  | none => simp
  | some b => exact b.isStatementText

/-- What holds of all that is read from single statements holds of all parts of a diagram that was read. -/
theorem Diagram.forall_of_parse {text : String} {d : Diagram} {p : Entity → Prop} {q : Relationship → Prop}
    (h : Diagram.parse text = .ok d) (entity : ∀ t e, IsStatementText t → whole Entity.read t = .ok e → p e)
    (relationship : ∀ t r, IsStatementText t → whole Relationship.read t = .ok r → q r) :
    (∀ e ∈ d.entities, p e) ∧ ∀ r ∈ d.relationships, q r := by
  obtain ⟨x, -, entities, read, first, others⟩ := Diagram.parse_eq_ok_iff.mp h
  rw [← distinct_eq_firstOfName] at first
  constructor
  · intro e he
    rw [first] at he
    refine forall_mem_of_forall₂ read (fun t ht e whole => ?_) e (mem_of_mem_distinct he)
    exact entity t e (x.entities.isStatementText t ht) whole
  · refine forall_mem_of_forall₂ others fun t ht r whole => ?_
    exact relationship t r (x.isStatementText t ht) whole

theorem Diagram.legible_of_parse {text : String} {d : Diagram} (h : Diagram.parse text = .ok d) : d.Legible := by
  obtain ⟨entities, relationships⟩ := Diagram.forall_of_parse h
    (fun _ _ statement => Entity.legible_of_read statement.quiet)
    fun _ _ statement => Relationship.legible_of_read statement.quiet
  obtain ⟨x, -, read, -, first, -⟩ := Diagram.parse_eq_ok_iff.mp h
  refine ⟨entities, ?_, relationships⟩
  rw [first, ← distinct_eq_firstOfName]
  exact pairwise_distinct read

/-! ### Violations -/

/-- A name without a first character that can be seen: it is empty, or it starts with a blank. -/
def StartsBlank (name : String) : Prop := name = "" ∨ ¬StartsOutside isBlank name.toList

/-- An attribute, of an entity or of a relationship, whose name starts blank. -/
inductive Element.StartsBlank : Element → Prop where
  | entityAttribute {owner name : String} {index : Nat} (blank : ErDiagram.StartsBlank name) :
    StartsBlank (.entityAttribute owner index name)
  | relationshipAttribute {owner name : String} {index : Nat} (blank : ErDiagram.StartsBlank name) :
    StartsBlank (.relationshipAttribute owner index name)

theorem IsReadText.startsBlank {name : String} (h : IsReadText name.toList)
    (malformed : isAttributeName name = false) : StartsBlank name := by
  by_contra whole
  rw [StartsBlank, not_or, not_not] at whole
  rw [isAttributeName_iff.mpr ⟨whole.1, whole.2, h⟩] at malformed
  cases malformed

theorem Entity.Legible.isIdentifier_parent {e : Entity} (h : e.Legible) {name : String}
    (parent : e.parent? = some name) : isIdentifier name = true := by
  obtain ⟨-, option⟩ := Entity.parent?_eq_some_iff.mp parent
  exact h.options name (List.mem_of_mem_head? option)

namespace Diagram.Legible
variable {d : Diagram} {v : Violation}

/-- Every reference of the diagram is an identifier. -/
theorem isIdentifier_reference (h : d.Legible) {element : Element} {name : String} (refers : d.Refers element name) :
    isIdentifier name = true := by
  cases refers with
  | parent at_index parent => exact (h.entities _ (List.mem_of_getElem? at_index)).isIdentifier_parent parent
  | source at_index => exact (h.relationships _ (List.mem_of_getElem? at_index)).source
  | target at_index => exact (h.relationships _ (List.mem_of_getElem? at_index)).target

theorem breach (h : d.Legible) (breach : d.Breach v) :
    v.rule ∉ [.duplicateEntityName, .ambiguousReference, .relationshipAttributeKey] ∧
      (v.rule = .malformedName → v.element.StartsBlank) := by
  cases breach with
  | duplicateEntityName at_index earlier => simp [earlier_eq_none h.distinct at_index] at earlier
  | ambiguousReference refers several => exact absurd several (resolve_ne_ambiguous h.distinct _)
  | relationshipAttributeKey member at_place key =>
    exact absurd ((h.relationships _ member).attributes _ (List.mem_of_getElem? at_place)).2 key
  | entityName at_index malformed =>
    simp [(h.entities _ (List.mem_of_getElem? at_index)).name] at malformed
  | relationshipName at_index malformed =>
    simp [(h.relationships _ (List.mem_of_getElem? at_index)).name] at malformed
  | referenceName refers malformed => simp [h.isIdentifier_reference refers] at malformed
  | entityAttributeName member at_place malformed =>
    obtain ⟨read, unmarked⟩ := (h.entities _ member).attributes _ (List.mem_of_getElem? at_place)
    refine ⟨by simp, fun _ => .entityAttribute ?_⟩
    rcases malformed with ⟨plain, marked⟩ | malformed
    · simp [unmarked plain] at marked
    · exact read.startsBlank malformed
  | relationshipAttributeName member at_place malformed =>
    obtain ⟨read, -⟩ := (h.relationships _ member).attributes _ (List.mem_of_getElem? at_place)
    exact ⟨by simp, fun _ => .relationshipAttribute (read.startsBlank malformed)⟩
  | _ => simp

end Diagram.Legible

/-- A diagram that was read breaks no rule on duplicate names, ambiguous references or keys of relationships, and the
    rule on names only by an attribute that starts blank. Its names are all legible. -/
theorem Diagram.violations_of_parse {text : String} {d : Diagram} (h : Diagram.parse text = .ok d) :
    (∀ v ∈ d.violations, v.rule ∉ [.duplicateEntityName, .ambiguousReference, .relationshipAttributeKey] ∧
      (v.rule = .malformedName → v.element.StartsBlank)) ∧ d.Legible :=
  ⟨fun _ hv => (legible_of_parse h).breach (mem_violations_iff.mp hv), legible_of_parse h⟩

/-- A text whose attributes start with a no-break space or have no name at all. -/
def blankNames : String := "entities:\n    Person u., \u00a0age;\n"

theorem Diagram.violations_of_parse_blankNames :
    Diagram.parse blankNames = .ok ⟨[⟨"Person", .strong, [], [⟨"", .primary⟩, ⟨"\u00a0age", .plain⟩]⟩], []⟩ ∧
      (∀ v ∈ Diagram.violations ⟨[⟨"Person", .strong, [], [⟨"", .primary⟩, ⟨"\u00a0age", .plain⟩]⟩], []⟩,
        v.rule ∉ [.duplicateEntityName, .ambiguousReference, .relationshipAttributeKey] ∧
          (v.rule = .malformedName → v.element.StartsBlank)) ∧
      Diagram.Legible ⟨[⟨"Person", .strong, [], [⟨"", .primary⟩, ⟨"\u00a0age", .plain⟩]⟩], []⟩ := by
  have read : Diagram.parse blankNames =
      .ok ⟨[⟨"Person", .strong, [], [⟨"", .primary⟩, ⟨"\u00a0age", .plain⟩]⟩], []⟩ := by cbv
  exact ⟨read, violations_of_parse read⟩

end ErDiagram
