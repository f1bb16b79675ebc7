import ErDiagram.Proofs.Legible
import ErDiagram.Proofs.Respelling

/-! Rendering what was read. A diagram that was read may break most rules, and still its text reads back: its words are
    identifiers, however many they are, and an attribute without a mark starts where the spacing before it ended. So the
    second reading gives the first one in canonical spelling, and after the first rendering the text stays as it is. -/

namespace ErDiagram
open Character Document

/-! ### Where attributes start -/

section
variable {t : List Char}

/-- Cutting the end off a text leaves its start. -/
theorem startsOutside_trimEnd {p : Char → Bool} (h : StartsOutside p t) : StartsOutside p (trimEnd t) := by
  obtain ⟨b, split, -⟩ := exists_trimEnd_append t
  rw [split] at h
  exact h.of_append

theorem Attribute.startsOutside_ofText (h : StartsOutside isSpacing t) (plain : (Attribute.ofText t).key = .plain) :
    StartsOutside isSpacing (Attribute.ofText t).name.toList := by
  rw [Attribute.ofText] at plain ⊢
  split at plain
  · cases plain
  · cases plain
  · rw [String.toList_ofList]
    exact startsOutside_trimEnd h

theorem Attribute.startsOutside_ofPlainText (h : StartsOutside isSpacing t) :
    StartsOutside isSpacing (Attribute.ofPlainText t).name.toList := by
  rw [Attribute.ofPlainText, String.toList_ofList]
  exact startsOutside_trimEnd h

/-- The attribute could have been read: spacing before its name was skipped, unless a mark stood between them. -/
def Attribute.SkipsSpacing (a : Attribute) : Prop := a.key = .plain → StartsOutside isSpacing a.name.toList

theorem Diagram.skipsSpacing_of_parse {text : String} {d : Diagram} (h : Diagram.parse text = .ok d) :
    (∀ e ∈ d.entities, ∀ a ∈ e.attributes, a.SkipsSpacing) ∧
      ∀ r ∈ d.relationships, ∀ a ∈ r.attributes, a.SkipsSpacing := by
  refine Diagram.forall_of_parse h (fun t e _ read a ha => ?_) fun t r _ read a ha => ?_
  · obtain ⟨-, -, texts⟩ := Entity.parts_of_read read
    obtain ⟨text, rfl, list, -⟩ := texts a ha
    exact Attribute.startsOutside_ofText list.start
  · obtain ⟨-, -, -, texts⟩ := Relationship.parts_of_read read
    obtain ⟨text, rfl, list, -⟩ := texts a ha
    exact fun _ => Attribute.startsOutside_ofPlainText list.start

end

/-! ### Writable again -/

/-- The diagram has nothing that its text cannot show: no options of a strong entity, whose kind is not written, and no
    attribute with neither a mark nor a name. -/
structure Diagram.Shown (d : Diagram) : Prop where
  strong : ∀ e ∈ d.entities, e.kind = .strong → e.options = []
  entityAttributes : ∀ e ∈ d.entities, ∀ a ∈ e.attributes, a.key = .plain → a.name ≠ ""
  relationshipAttributes : ∀ r ∈ d.relationships, ∀ a ∈ r.attributes, a.key = .plain → a.name ≠ ""

section
variable {d : Diagram} {e : Entity} {r : Relationship}

theorem Entity.Legible.writable (h : e.Legible) (strong : e.kind = .strong → e.options = [])
    (shown : ∀ a ∈ e.attributes, a.SkipsSpacing ∧ (a.key = .plain → a.name ≠ "")) : e.Writable := by
  refine ⟨h.name, h.options, strong, fun a ha => ?_⟩
  obtain ⟨read, unmarked⟩ := h.attributes a ha
  obtain ⟨start, ne⟩ := shown a ha
  exact ⟨Attribute.isWritableText_marked read fun plain => ⟨ne plain, start plain⟩, unmarked⟩

theorem Relationship.Legible.writable (h : r.Legible)
    (shown : ∀ a ∈ r.attributes, a.SkipsSpacing ∧ (a.key = .plain → a.name ≠ "")) : r.unkeyed.Writable := by
  refine ⟨h.source, h.name, h.target, fun a ha => ?_⟩
  obtain ⟨b, hb, rfl⟩ := List.mem_map.mp ha
  obtain ⟨read, plain⟩ := h.attributes b hb
  obtain ⟨start, ne⟩ := shown b hb
  exact ⟨⟨read, toList_ne_nil (ne plain), start plain⟩, rfl⟩

end

/-! ### Normal forms -/

/-- A text that reads as a diagram which it shows in full is rendered to a normal form: that reads as the diagram in
    canonical spelling, and rendering it once more changes nothing. The diagram need not be valid. -/
theorem Diagram.parse_render_of_parse {text : String} {d : Diagram} (h : Diagram.parse text = .ok d) (shown : d.Shown) :
    Diagram.parse d.render = .ok d.canonical ∧ d.canonical.render = d.render ∧
      (Diagram.parse d.render).map Diagram.render = .ok d.render := by
  have legible : d.Legible := Diagram.legible_of_parse h
  obtain ⟨entityStarts, relationshipStarts⟩ := Diagram.skipsSpacing_of_parse h
  have entities : ∀ e ∈ d.entities, e.Writable := fun e he =>
    (legible.entities e he).writable (shown.strong e he) fun a ha =>
      ⟨entityStarts e he a ha, shown.entityAttributes e he a ha⟩
  have relationships : ∀ r ∈ d.relationships, r.unkeyed.Writable := fun r hr =>
    (legible.relationships r hr).writable fun a ha =>
      ⟨relationshipStarts r hr a ha, shown.relationshipAttributes r hr a ha⟩
  have norm : d.norm = d.canonical :=
    Diagram.norm_eq_canonical legible.distinct fun r hr a ha => ((legible.relationships r hr).attributes a ha).2
  have read : Diagram.parse d.render = .ok d.canonical := by
    rw [← norm]
    exact Diagram.parse_render_of_writable entities relationships
  refine ⟨read, d.render_canonical, ?_⟩
  rw [read]
  exact congrArg Except.ok d.render_canonical

/-- A text with an option too many, references in other capitals and to nothing, and attributes whose names are empty or
    start with a no-break space. -/
def untidyText : String :=
  "entities: Pet.sub.PET.odd  u. , \u00a0age,du.\u00a0(a, b) ; relationships: PET 11 eats 0m it \x7b now \x7d;"

/-- The diagram in that text. -/
def Diagram.untidy : Diagram where
  entities := [
    ⟨"Pet", .subclass, ["PET", "odd"], [⟨"", .primary⟩, ⟨"\u00a0age", .plain⟩, ⟨"\u00a0(a, b)", .partialKey⟩]⟩]
  relationships := [⟨"PET", .exactlyOne, "eats", .zeroOrMany, "it", .single, [⟨"now", .plain⟩]⟩]

theorem Diagram.parse_render_of_parse_untidy :
    Diagram.parse untidyText = .ok Diagram.untidy ∧ Diagram.untidy.Shown ∧
      Diagram.parse Diagram.untidy.render = .ok Diagram.untidy.canonical ∧
      Diagram.untidy.canonical.render = Diagram.untidy.render ∧
      (Diagram.parse Diagram.untidy.render).map Diagram.render = .ok Diagram.untidy.render := by
  have read : Diagram.parse untidyText = .ok Diagram.untidy := by cbv
  have shown : Diagram.untidy.Shown := ⟨by decide, by decide, by decide⟩
  exact ⟨read, shown, parse_render_of_parse read shown⟩

end ErDiagram
