import ErDiagram.Proofs.Breach
import ErDiagram.Proofs.Resolution
import ErDiagram.Proofs.Statement

/-! The round trip through statement text. A diagram whose names and options pass their rules has writable statements
    only, and its text is laid out one statement on a line. So it is read back as it was written: references are
    spelt as their entities declare them, repeated entities are dropped, and relationships carry no keys. -/

namespace ErDiagram
open Character Document

/-! ### What a text keeps -/

/-- The relationship as its statement shows it, without the keys of its attributes. -/
def Relationship.unkeyed (r : Relationship) : Relationship :=
  { r with attributes := r.attributes.map fun a => ⟨a.name, .plain⟩ }

/-- The diagram as its text shows it. -/
def Diagram.norm (d : Diagram) : Diagram where
  entities := firstOfName d.canonical.entities
  relationships := d.canonical.relationships.map Relationship.unkeyed

theorem Relationship.statement_unkeyed (r : Relationship) : r.unkeyed.statement = r.statement := by
  have names : r.unkeyed.attributes.map (·.name) = r.attributes.map (·.name) := List.map_map
  have empty : r.unkeyed.attributes = [] ↔ r.attributes = [] := List.map_eq_nil_iff
  have words : r.unkeyed.header r.source r.target = r.header r.source r.target := rfl
  change r.unkeyed.statementBetween r.source r.target = r.statementBetween r.source r.target
  rw [statementBetween, statementBetween, names, words]
  exact congrArg (" ".intercalate (r.header r.source r.target) ++ ·) (if_congr empty rfl rfl)

/-! ### References as the writer spells them -/

namespace Diagram

theorem canonicalOptions_eq (d : Diagram) (e : Entity) : d.canonicalOptions e =
    if e.kind = .subclass then (e.options.take 1).map d.canonicalName ++ e.options.drop 1 else e.options := by
  split
  · next subclass =>
    rw [canonicalOptions, subclass]
    cases e.options with
    | nil => rfl
    | cons parent others => rfl
  · next other => exact canonicalOptions_of_ne_subclass other

theorem entityStatement_eq (d : Diagram) (e : Entity) :
    d.entityStatement e = ({ e with options := d.canonicalOptions e } : Entity).statement := by
  rw [entityStatement, ← canonicalOptions_eq]
  rfl

theorem relationshipStatement_eq (d : Diagram) (r : Relationship) : d.relationshipStatement r =
    ({ r with source := d.canonicalName r.source, target := d.canonicalName r.target } : Relationship).statement :=
  rfl

/-- The writer spells each reference in the statement where it stands. So a text has the statements of the canonical
    diagram, which have their references as they are. -/
theorem lines_eq (d : Diagram) : d.lines =
    entitiesHeader :: d.canonical.entities.map (fun e => statementLine e.statement) ++ "" :: relationshipsHeader ::
      d.canonical.relationships.map (fun r => statementLine r.statement) ++ [indent] := by
  rw [lines, canonical, List.map_map, List.map_map]
  simp only [entityStatement_eq, relationshipStatement_eq, Function.comp_def]

/-- Diagrams with one canonical spelling have one text. -/
theorem render_congr {d d' : Diagram} (h : d.canonical = d'.canonical) : d.render = d'.render := by
  rw [render, render, lines_eq, lines_eq, h]

end Diagram

/-! ### The outline of a rendered text -/

/-- Statements on lines of their own make a block. -/
theorem Document.exists_block_of_lines {texts : List String} (statements : ∀ t ∈ texts, IsStatementText t.toList)
    (space : List Char) (spacing : ∀ c ∈ space, isSpacing c = true) :
    ∃ b : Block, b.texts = texts.map (·.toList) ∧
      b.written = (texts.flatMap fun t => '\n' :: (statementLine t).toList) ++ space := by
  induction texts with
  | nil => exact ⟨⟨[], space, spacing⟩, rfl, rfl⟩
  | cons t texts ih =>
    rw [List.forall_mem_cons] at statements
    obtain ⟨b, others, whole⟩ := ih statements.2
    let p : PlacedStatement := ⟨'\n' :: indent.toList, t.toList, List.all_eq_true.mp (by decide), statements.1⟩
    refine ⟨⟨p :: b.statements, b.space, b.spacing⟩, congrArg (t.toList :: ·) others, ?_⟩
    have line : p.written = '\n' :: (statementLine t).toList := by
      simp only [PlacedStatement.written, statementLine, String.toList_append, List.cons_append, List.append_assoc, p]
      rfl
    rw [Block.written, List.flatMap_cons, List.append_assoc, line, ← Block.written, whole, List.flatMap_cons,
      List.append_assoc]

theorem Diagram.toList_render (d : Diagram) : d.render.toList =
    entitiesHeader.toList ++
      ((((d.canonical.entities.map (·.statement)).flatMap fun t => '\n' :: (statementLine t).toList) ++ ['\n', '\n']) ++
        (relationshipsHeader.toList ++
          (((d.canonical.relationships.map (·.statement)).flatMap fun t => '\n' :: (statementLine t).toList) ++
            '\n' :: indent.toList))) := by
  have feed : "\n".toList = ['\n'] := rfl
  have blank : "".toList = [] := rfl
  rw [render, lines_eq, List.cons_append, List.cons_append, toList_intercalate_cons]
  simp only [List.flatMap_append, List.flatMap_cons, List.flatMap_nil, List.flatMap_map, feed, blank,
    List.append_assoc, List.cons_append, List.nil_append, List.append_nil]

/-- Statements that can be written can be in canonical spelling, too. -/
theorem Diagram.writable_canonical {d : Diagram} (entities : ∀ e ∈ d.entities, e.Writable)
    (relationships : ∀ r ∈ d.relationships, r.unkeyed.Writable) :
    (∀ e ∈ d.canonical.entities, e.Writable) ∧ ∀ r ∈ d.canonical.relationships, r.unkeyed.Writable := by
  have names : ∀ e ∈ d.entities, isIdentifier e.name = true := fun e he => (entities e he).name
  constructor
  · intro e' he'
    obtain ⟨e, he, rfl⟩ := List.mem_map.mp he'
    have writable := entities e he
    refine ⟨writable.name, isIdentifier_canonicalOptions names writable.options, fun strong => ?_, writable.attributes⟩
    rw [← writable.strong strong]
    exact canonicalOptions_of_ne_subclass (by simp [show e.kind = .strong from strong])
  · intro r' hr'
    obtain ⟨r, hr, rfl⟩ := List.mem_map.mp hr'
    have writable := relationships r hr
    exact ⟨isIdentifier_canonicalName names writable.source, writable.name,
      isIdentifier_canonicalName names writable.target, writable.attributes⟩

/-- Where its statements end where they should, a rendered text is read statement by statement. -/
theorem Diagram.parse_render_eq_ok_iff {d d' : Diagram}
    (entities : ∀ e ∈ d.canonical.entities, IsStatementText e.statement.toList)
    (relationships : ∀ r ∈ d.canonical.relationships, IsStatementText r.statement.toList) :
    Diagram.parse d.render = .ok d' ↔ ∃ read,
      List.Forall₂ (fun e e' => whole Entity.read e.statement.toList = .ok e') d.canonical.entities read ∧
        d'.entities = firstOfName read ∧
        List.Forall₂ (fun r r' => whole Relationship.read r.statement.toList = .ok r') d.canonical.relationships
          d'.relationships := by
  obtain ⟨b, firstTexts, first⟩ := exists_block_of_lines (List.forall_mem_map.mpr entities) ['\n', '\n']
    (List.all_eq_true.mp (by decide))
  obtain ⟨c, secondTexts, second⟩ := exists_block_of_lines (List.forall_mem_map.mpr relationships)
    ('\n' :: indent.toList) (List.all_eq_true.mp (by decide))
  let outline : Outline := ⟨[], by simp, b, some c⟩
  have written : d.render.toList = outline.written := by
    rw [d.toList_render, ← first, ← second]
    rfl
  have denotes : outline.Denotes d' ↔ ∃ read, List.Forall₂ (fun t e => whole Entity.read t = .ok e) b.texts read ∧
      d'.entities = firstOfName read ∧
      List.Forall₂ (fun t r => whole Relationship.read t = .ok r) c.texts d'.relationships := Iff.rfl
  have only : Diagram.parse d.render = .ok d' ↔ outline.Denotes d' := by
    rw [Diagram.parse_eq_ok_iff, written]
    exact ⟨fun ⟨x, same, means⟩ => Outline.written_injective same ▸ means, fun means => ⟨outline, rfl, means⟩⟩
  rw [only, denotes, firstTexts, secondTexts]
  simp only [List.forall₂_map_left_iff]

/-- A diagram with writable statements is read back as its text shows it. -/
theorem Diagram.parse_render_of_writable {d : Diagram} (entities : ∀ e ∈ d.entities, e.Writable)
    (relationships : ∀ r ∈ d.relationships, r.unkeyed.Writable) : Diagram.parse d.render = .ok d.norm := by
  obtain ⟨entities, relationships⟩ := Diagram.writable_canonical entities relationships
  rw [Diagram.parse_render_eq_ok_iff (fun e he => (entities e he).isStatementText) fun r hr =>
    r.statement_unkeyed ▸ (relationships r hr).isStatementText]
  refine ⟨d.canonical.entities, List.forall₂_same.mpr fun e he => (entities e he).whole_read, rfl, ?_⟩
  rw [Diagram.norm, List.forall₂_map_right_iff, List.forall₂_same]
  intro r hr
  rw [← r.statement_unkeyed]
  exact (relationships r hr).whole_read

/-! ### Diagrams that a text can express -/

/-- The names and the options of the diagram pass their rules. Whatever else is wrong with it does not matter. -/
def Diagram.Expressible (d : Diagram) : Prop :=
  ∀ v ∈ d.violations, v.rule ∉ [.malformedName, .optionCount, .participation, .disjointness]

instance (d : Diagram) : Decidable d.Expressible := inferInstanceAs (Decidable (∀ v ∈ d.violations, _))

namespace Diagram.Expressible
variable {d : Diagram} {e : Entity} {r : Relationship} {a : Attribute} {v : Violation}

theorem not_breach (h : d.Expressible) (rule : v.rule ∈ [.malformedName, .optionCount, .participation, .disjointness]) :
    ¬d.Breach v := fun breach => h v (mem_violations_iff.mpr breach) rule

theorem isIdentifier_name (h : d.Expressible) (member : e ∈ d.entities) : isIdentifier e.name = true := by
  obtain ⟨index, at_index⟩ := List.getElem?_of_mem member
  by_contra malformed
  exact h.not_breach (by simp) (.entityName at_index (Bool.eq_false_iff.mpr malformed))

theorem isIdentifier_reference (h : d.Expressible) {element : Element} {name : String}
    (refers : d.Refers element name) : isIdentifier name = true := by
  by_contra malformed
  exact h.not_breach (by simp) (.referenceName refers (Bool.eq_false_iff.mpr malformed))

theorem options_length (h : d.Expressible) (member : e ∈ d.entities) : e.options.length = e.kind.optionCount := by
  obtain ⟨index, at_index⟩ := List.getElem?_of_mem member
  by_contra count
  exact h.not_breach (by simp) (.optionCount at_index count)

/-- The words of a superclass pass the check on words, so they are identifiers. -/
theorem isIdentifier_words (h : d.Expressible) (member : e ∈ d.entities) (kind : e.kind = .superclass) :
    ∀ o ∈ e.options, isIdentifier o = true := by
  intro o ho
  obtain ⟨index, at_index⟩ := List.getElem?_of_mem member
  obtain ⟨place, option⟩ := List.getElem?_of_mem ho
  have count := h.options_length member
  obtain ⟨bound, -⟩ := List.getElem?_eq_some_iff.mp option
  rw [count, kind] at bound
  have word : o ∈ ["total", "partial"] ∨ o ∈ ["disjoint", "overlap"] := by
    by_contra other
    rw [not_or] at other
    match place, bound with
    | 0, _ => exact h.not_breach (by simp) (.participation at_index kind option other.1)
    | 1, _ => exact h.not_breach (by simp) (.disjointness at_index kind option other.2)
  have words : ∀ w ∈ ["total", "partial", "disjoint", "overlap"], isIdentifier w = true := by decide +kernel
  refine words o ?_
  rcases word with word | word
  · exact List.mem_append_left ["disjoint", "overlap"] word
  · exact List.mem_append_right ["total", "partial"] word

theorem isIdentifier_options (h : d.Expressible) (member : e ∈ d.entities) :
    ∀ o ∈ e.options, isIdentifier o = true := by
  have count := h.options_length member
  cases kind : e.kind with
  | superclass => exact h.isIdentifier_words member kind
  | subclass =>
    rw [kind] at count
    obtain ⟨parent, options⟩ := List.length_eq_one_iff.mp count
    obtain ⟨index, at_index⟩ := List.getElem?_of_mem member
    have refers : d.Refers (e.element index) parent :=
      .parent at_index (Entity.parent?_eq_some_iff.mpr ⟨kind, by rw [options, List.head?_cons]⟩)
    rw [options, List.forall_mem_singleton]
    exact h.isIdentifier_reference refers
  | _ =>
    rw [kind] at count
    rw [List.eq_nil_of_length_eq_zero count]
    simp

theorem attribute_writable (h : d.Expressible) (member : e ∈ d.entities) (ha : a ∈ e.attributes) :
    IsWritableText a.marked.toList ∧ (a.key = .plain → a.readsAsKey = false) := by
  obtain ⟨place, at_place⟩ := List.getElem?_of_mem ha
  have sound : ¬(a.key = .plain ∧ a.readsAsKey = true ∨ isAttributeName a.name = false) := fun malformed =>
    h.not_breach (by simp) (.entityAttributeName member at_place malformed)
  rw [not_or, Bool.not_eq_false, isAttributeName_iff] at sound
  obtain ⟨unmarked, ne, start, read⟩ := sound
  refine ⟨Attribute.isWritableText_marked read fun _ => ⟨ne, fun c hc => ?_⟩, fun plain => ?_⟩
  · exact isSpacing_eq_false_of_isBlank_eq_false (start c hc)
  · exact Bool.eq_false_iff.mpr fun marked => unmarked ⟨plain, marked⟩

theorem entity_writable (h : d.Expressible) (member : e ∈ d.entities) : e.Writable := by
  refine ⟨h.isIdentifier_name member, h.isIdentifier_options member, fun strong => ?_,
    fun a ha => h.attribute_writable member ha⟩
  have count := h.options_length member
  rw [strong] at count
  exact List.eq_nil_of_length_eq_zero count

theorem relationship_writable (h : d.Expressible) (member : r ∈ d.relationships) : r.unkeyed.Writable := by
  obtain ⟨index, at_index⟩ := List.getElem?_of_mem member
  have source : isIdentifier r.source = true := h.isIdentifier_reference (.source at_index)
  have target : isIdentifier r.target = true := h.isIdentifier_reference (.target at_index)
  have name : isRelationshipName r.name = true := by
    by_contra malformed
    exact h.not_breach (by simp) (.relationshipName at_index (Bool.eq_false_iff.mpr malformed))
  refine ⟨source, name, target, fun a ha => ?_⟩
  obtain ⟨b, hb, rfl⟩ := List.mem_map.mp ha
  obtain ⟨place, at_place⟩ := List.getElem?_of_mem hb
  have sound : isAttributeName b.name = true := by
    by_contra malformed
    exact h.not_breach (by simp) (.relationshipAttributeName member at_place (Bool.eq_false_iff.mpr malformed))
  obtain ⟨ne, start, read⟩ := isAttributeName_iff.mp sound
  refine ⟨⟨read, toList_ne_nil ne, fun c hc => ?_⟩, rfl⟩
  exact isSpacing_eq_false_of_isBlank_eq_false (start c hc)

end Diagram.Expressible

theorem Diagram.Expressible.parse {d : Diagram} (h : d.Expressible) : Diagram.parse d.render = .ok d.norm :=
  Diagram.parse_render_of_writable (fun _ => h.entity_writable) fun _ => h.relationship_writable

/-! ### Valid diagrams -/

theorem Diagram.Valid.expressible {d : Diagram} (h : d.Valid) : d.Expressible := by
  rw [Expressible, h]
  simp

/-- The text shows all of a diagram without repeated names and keys of relationships. -/
theorem Diagram.norm_eq_canonical {d : Diagram}
    (distinct : d.entities.Pairwise fun e other => sameName e.name other.name = false)
    (plain : ∀ r ∈ d.relationships, ∀ a ∈ r.attributes, a.key = .plain) : d.norm = d.canonical := by
  have entities : firstOfName d.canonical.entities = d.canonical.entities := by
    rw [← distinct_eq_firstOfName, distinct_eq_self]
    rw [canonical, List.pairwise_map]
    exact distinct
  have relationships : d.canonical.relationships.map Relationship.unkeyed = d.canonical.relationships := by
    rw [canonical, List.map_map]
    refine List.map_congr_left fun r hr => ?_
    have same : (r.attributes.map fun a => (⟨a.name, .plain⟩ : Attribute)) = r.attributes := by
      refine map_eq_self fun a ha => ?_
      rw [← plain r hr a ha]
    simp only [Function.comp_apply, Relationship.unkeyed, same]
  rw [Diagram.norm, entities, relationships]

theorem Diagram.Valid.norm {d : Diagram} (h : d.Valid) : d.norm = d.canonical := by
  refine Diagram.norm_eq_canonical ?_ fun r hr a ha => ?_
  · exact pairwise_of_no_duplicates fun v breach => absurd breach (valid_iff.mp h v)
  · obtain ⟨place, at_place⟩ := List.getElem?_of_mem ha
    by_contra key
    exact valid_iff.mp h _ (.relationshipAttributeKey hr at_place key)

/-- Reading back what was rendered gives the diagram as its text shows it, and all of a valid diagram. -/
theorem Diagram.parse_render {d : Diagram} (h : d.Expressible) :
    Diagram.parse d.render = .ok d.norm ∧ (d.Valid → d.norm = d.canonical) :=
  ⟨h.parse, Valid.norm⟩

/-- A diagram with a repeated name, references in other capitals, a missing key and a key that its text loses. -/
def Diagram.careless : Diagram where
  entities := [
    ⟨"Person", .superclass, ["total", "overlap"], [⟨"id", .primary⟩, ⟨"role(a, b)", .plain⟩]⟩,
    ⟨"Staff", .subclass, ["PERSON"], []⟩,
    ⟨"Visit", .weak, [], [⟨"name", .primary⟩]⟩,
    ⟨"VISIT", .strong, [], []⟩]
  relationships := [⟨"staff", .exactlyOne, "works", .zeroOrMany, "pERSON", .double, [⟨"since", .primary⟩]⟩]

theorem Diagram.parse_render_careless :
    careless.Expressible ∧ Diagram.parse careless.render = .ok careless.norm ∧
      (careless.Valid → careless.norm = careless.canonical) :=
  ⟨by decide +kernel, parse_render (by decide +kernel)⟩

end ErDiagram
