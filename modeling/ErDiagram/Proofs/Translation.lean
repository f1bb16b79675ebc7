import ErDiagram.Translation
import ErDiagram.Proofs.Respelling
import ErDiagram.Proofs.Json.RoundTrip

/-! Translation and its reverse. Of a translated diagram the text shows everything but the spelling of its references,
    and in canonical spelling the diagram is valid again and has the same text. So after the first text nothing changes
    any more, however often it is turned to JSON and back. -/

namespace ErDiagram
open Character Json

/-! ### JSON of a diagram -/

theorem Diagram.ofJson_of_decode {text : String} {d : Diagram} (h : Diagram.reader.decode text = .ok d) :
    Diagram.ofJson text = .ok d := by
  rw [Diagram.ofJson, h]
  rfl

theorem Diagram.ofJson_compact (d : Diagram) : Diagram.ofJson d.toJson.compact = .ok d :=
  Diagram.ofJson_of_decode (Reader.decode_written fun _ h => d.takes_written h 0).1

theorem Diagram.ofJson_pretty (d : Diagram) : Diagram.ofJson d.toJson.pretty = .ok d :=
  Diagram.ofJson_of_decode (Reader.decode_written fun _ h => d.takes_written h 0).2

/-- A line feed ends the JSON that is printed. -/
theorem Diagram.ofJson_printed (d : Diagram) : Diagram.ofJson (d.toJson.pretty ++ "\n") = .ok d := by
  have spacing : ∀ c ∈ ['\n'], isSpacing c = true := List.forall_mem_singleton.mpr rfl
  have read := (d.takes_written Layout.isSpacing_pretty 0).decode spacing
  rw [String.ofList_append] at read
  exact Diagram.ofJson_of_decode read

/-! ### Strict translation -/

theorem Diagram.serialize_strict_eq_ok_iff {d : Diagram} {t : String} :
    d.serialize .strict = .ok t ↔ d.Valid ∧ d.render = t := by
  rw [Diagram.serialize, Policy.permits, Diagram.Valid]
  by_cases valid : d.violations = []
  · simp [valid]
  · simp [valid]

theorem translate_strict_eq_ok_iff {j t : String} :
    translate .strict j = .ok t ↔ ∃ d, Diagram.ofJson j = .ok d ∧ d.Valid ∧ d.render = t := by
  rw [translate]
  cases Diagram.ofJson j with
  | error failure => exact ⟨nofun, nofun⟩
  | ok d =>
    refine Diagram.serialize_strict_eq_ok_iff.trans ⟨fun written => ⟨d, rfl, written⟩, ?_⟩
    rintro ⟨d', same, written⟩
    cases same
    exact written

theorem reverse_of_parse {t : String} {d : Diagram} (h : Diagram.parse t = .ok d) :
    reverse t = .ok d.toJson.pretty := by
  rw [reverse, Diagram.ofDocument, h]
  rfl

/-! ### Back and forth -/

theorem Diagram.Valid.parse {d : Diagram} (h : d.Valid) : Diagram.parse d.render = .ok d.canonical := by
  rw [h.expressible.parse, h.norm]

/-- The text of a valid diagram is also that of its canonical spelling. -/
theorem Diagram.Valid.translate {d : Diagram} (h : d.Valid) {j : String} (read : Diagram.ofJson j = .ok d.canonical) :
    ErDiagram.translate .strict j = .ok d.render :=
  translate_strict_eq_ok_iff.mpr ⟨d.canonical, read, h.canonical, d.render_canonical⟩

/-- A translated text reads back as a valid diagram whose JSON is translated to the same text. -/
theorem translate_reverse {j t : String} (h : translate .strict j = .ok t) :
    ∃ d, Diagram.parse t = .ok d ∧ d.Valid ∧ reverse t = .ok d.toJson.pretty ∧
      translate .strict d.toJson.pretty = .ok t ∧ translate .strict (d.toJson.pretty ++ "\n") = .ok t := by
  obtain ⟨d, -, valid, rfl⟩ := translate_strict_eq_ok_iff.mp h
  refine ⟨d.canonical, valid.parse, valid.canonical, reverse_of_parse valid.parse, ?_, ?_⟩
  · exact valid.translate d.canonical.ofJson_pretty
  · exact valid.translate d.canonical.ofJson_printed

/-- A valid diagram with references in other capitals. -/
def Diagram.shouted : Diagram where
  entities := [
    ⟨"Pet", .superclass, ["total", "disjoint"], [⟨"id", .primary⟩, ⟨"kind", .plain⟩]⟩,
    ⟨"Dog", .subclass, ["PET"], []⟩]
  relationships := [⟨"DOG", .exactlyOne, "chases", .zeroOrMany, "pet", .single, []⟩]

def shoutedText : String :=
  "entities:\n    Pet.super.total.disjoint u.id, kind;\n    Dog.sub.Pet;\n\n" ++
    "relationships:\n    Dog 11 chases 0m Pet;\n    "

theorem translate_reverse_shouted :
    translate .strict Diagram.shouted.toJson.compact = .ok shoutedText ∧
      ∃ d, Diagram.parse shoutedText = .ok d ∧ d.Valid ∧ reverse shoutedText = .ok d.toJson.pretty ∧
        translate .strict d.toJson.pretty = .ok shoutedText ∧
        translate .strict (d.toJson.pretty ++ "\n") = .ok shoutedText := by
  have translated : translate .strict Diagram.shouted.toJson.compact = .ok shoutedText :=
    translate_strict_eq_ok_iff.mpr
      ⟨Diagram.shouted, Diagram.shouted.ofJson_compact, by decide +kernel, by decide +kernel⟩
  exact ⟨translated, translate_reverse translated⟩

end ErDiagram
