import ErDiagram.Proofs.Breach
import ErDiagram.Proofs.Resolution
import Mathlib.Data.List.Induction

/-! Duplicate names. Validation looks for the name of an entity among the entities before it, while a reference counts
    the entities of its name wherever they stand. The two agree: of the entities of one name all but the first are
    reported, each once and with the name of the first. So nothing is reported just where every entity is found by its
    own name, and a reference that is ambiguous never comes without a duplicate. -/

namespace ErDiagram

/-- The first entity of the diagram that has the name. -/
structure Diagram.IsFirst (d : Diagram) (name : String) (place : Nat) (first : Entity) : Prop where
  at_place : d.entities[place]? = some first
  same : sameName first.name name = true
  before : ∀ k < place, ∀ other, d.entities[k]? = some other → sameName other.name name = false

/-- The violation reports an entity as a duplicate of one that has the name. -/
def Violation.repeats (v : Violation) (name : String) : Bool :=
  v.rule = .duplicateEntityName && v.value.any (sameName · name)

section
variable {d : Diagram} {e first : Entity} {r : Relationship} {v : Violation} {element : Element} {value : Option String}
  {name : String} {index : Nat}

/-! ### The first entity of a name -/

/-- The search among the entities before a place ends at the first one of the name, if it stands there. -/
theorem find?_take_eq_some_iff : (d.entities.take index).find? (sameName ·.name name) = some first ↔
    ∃ place < index, d.IsFirst name place first := by
  rw [List.find?_eq_some_iff_getElem]
  constructor
  · rintro ⟨same, place, inside, rfl, none⟩
    rw [List.length_take, Nat.lt_min] at inside
    refine ⟨place, inside.1, ?_, same, fun k before other at_k => ?_⟩
    · rw [List.getElem_take, List.getElem?_eq_getElem]
    · obtain ⟨_, rfl⟩ := List.getElem?_eq_some_iff.mp at_k
      simpa [List.getElem_take] using none k before
  · rintro ⟨place, before, found⟩
    obtain ⟨inside, at_place⟩ := List.getElem?_eq_some_iff.mp found.at_place
    refine ⟨found.same, place, by rw [List.length_take]; omega, by rw [List.getElem_take, at_place], fun k hk => ?_⟩
    rw [List.getElem_take, found.before k hk _ (List.getElem?_eq_getElem (by omega))]
    rfl

theorem exists_isFirst_iff : (∃ place < index, ∃ first, d.IsFirst name place first) ↔
    ∃ place < index, ∃ other, d.entities[place]? = some other ∧ sameName other.name name = true := by
  constructor
  · rintro ⟨place, before, first, found⟩
    exact ⟨place, before, first, found.at_place, found.same⟩
  · rintro ⟨place, before, other, at_place, same⟩
    have earlier : other ∈ d.entities.take index :=
      List.mem_of_getElem? ((List.getElem?_take_of_lt before).trans at_place)
    cases outcome : (d.entities.take index).find? (sameName ·.name name) with
    | none => exact absurd same (List.find?_eq_none.mp outcome other earlier)
    | some first =>
      obtain ⟨k, hk, found⟩ := find?_take_eq_some_iff.mp outcome
      exact ⟨k, hk, first, found⟩

theorem Diagram.Breach.exists_isFirst (breach : d.Breach v) (rule : v.rule = .duplicateEntityName) :
    ∃ index e, d.entities[index]? = some e ∧ ∃ place < index, ∃ first, d.IsFirst e.name place first ∧
      v = ⟨.entity index e.name, .duplicateEntityName, some first.name⟩ := by
  cases breach with
  | duplicateEntityName at_index earlier =>
    obtain ⟨place, before, found⟩ := find?_take_eq_some_iff.mp earlier
    exact ⟨_, _, at_index, place, before, _, found, rfl⟩
  | _ => cases rule

theorem duplicate_mem_violations_iff (at_index : d.entities[index]? = some e) :
    ⟨.entity index e.name, .duplicateEntityName, value⟩ ∈ d.violations ↔
      ∃ place < index, ∃ first, d.IsFirst e.name place first ∧ value = some first.name := by
  rw [mem_violations_iff]
  constructor
  · intro breach
    obtain ⟨i, other, at_i, place, before, first, found, same⟩ := breach.exists_isFirst rfl
    simp only [Violation.mk.injEq, Element.entity.injEq, true_and] at same
    obtain ⟨⟨rfl, -⟩, rfl⟩ := same
    rw [at_index, Option.some.injEq] at at_i
    exact ⟨place, before, first, at_i ▸ found, rfl⟩
  · rintro ⟨place, before, first, found, rfl⟩
    exact .duplicateEntityName at_index (find?_take_eq_some_iff.mpr ⟨place, before, found⟩)

/-! ### Only the search reports duplicates -/

theorem ne_duplicate_of_mem_endViolations (h : v ∈ d.endViolations element name) : v.rule ≠ .duplicateEntityName := by
  rcases mem_endViolations.mp h with ⟨-, rfl⟩ | ⟨-, rfl⟩ | ⟨count, -, rfl⟩ <;> simp

theorem ne_duplicate_of_mem_kindViolations (h : v ∈ d.kindViolations index e) : v.rule ≠ .duplicateEntityName := by
  rcases mem_kindViolations.mp h with ⟨-, h⟩ | ⟨name, -, h⟩ | ⟨-, h⟩
  · simp only [Entity.superclassViolations, List.mem_append, mem_wordViolations, mem_discriminatorViolations] at h
    rcases h with (⟨word, -, -, rfl⟩ | ⟨word, -, -, rfl⟩) | ⟨-, rfl⟩ | ⟨a, -, -, rfl⟩ <;> simp
  · rcases mem_parentViolations.mp h with h | ⟨place, p, -, ⟨-, rfl⟩ | ⟨-, rfl⟩⟩
    · exact ne_duplicate_of_mem_endViolations h
    · simp
    · simp
  · obtain ⟨-, rfl⟩ := mem_report.mp h
    simp

theorem ne_duplicate_of_mem_relationshipViolations (h : v ∈ d.relationshipViolations index r) :
    v.rule ≠ .duplicateEntityName := by
  rcases mem_relationshipViolations.mp h with ⟨-, rfl⟩ | h | h | ⟨place, a, -, ⟨-, rfl⟩ | ⟨-, rfl⟩⟩
  · simp
  · exact ne_duplicate_of_mem_endViolations h
  · exact ne_duplicate_of_mem_endViolations h
  · simp
  · simp

/-! ### Counting duplicates -/

/-- Of the items with a property all but the first come after another one. -/
theorem countP_zipIdx_after {α : Type} (p : α → Bool) (l : List α) :
    l.zipIdx.countP (fun x => p x.1 && (l.take x.2).any p) = l.countP p - 1 := by
  induction l using List.reverseRecOn with
  | nil => rfl
  | append_singleton l a ih =>
    have before : l.zipIdx.countP (fun x => p x.1 && ((l ++ [a]).take x.2).any p) = l.countP p - 1 := by
      rw [← ih]
      refine List.countP_congr fun x member => ?_
      rw [List.take_append_of_le_length (Nat.le_of_lt (List.mem_zipIdx' member).1)]
    have any : l.any p = decide (0 < l.countP p) := by
      rw [Bool.eq_iff_iff, List.any_eq_true, decide_eq_true_eq, List.countP_pos_iff]
    rw [List.zipIdx_append, List.countP_append, List.countP_append, before, List.zipIdx_singleton,
      List.countP_singleton, List.countP_singleton, Nat.zero_add, List.take_left, any]
    cases p a with
    | false => simp
    | true =>
      simp only [Bool.true_and, decide_eq_true_eq, if_true]
      split <;> omega

/-- Where each item brings one result with a property or none, the results are counted by the items. -/
theorem countP_flatMap_eq_countP {α β : Type} {l : List α} {f : α → List β} {p : β → Bool} {q : α → Bool}
    (h : ∀ a ∈ l, (f a).countP p = if q a then 1 else 0) : (l.flatMap f).countP p = l.countP q := by
  induction l with
  | nil => rfl
  | cons a l ih =>
    rw [List.forall_mem_cons] at h
    rw [List.flatMap_cons, List.countP_append, List.countP_cons, h.1, ih h.2, Nat.add_comm]

theorem countP_repeats_eq_zero {l : List Violation} (h : ∀ v ∈ l, v.rule ≠ .duplicateEntityName) (name : String) :
    l.countP (·.repeats name) = 0 := by
  rw [List.countP_eq_zero]
  intro v member repeats
  rw [Violation.repeats, Bool.and_eq_true, decide_eq_true_eq] at repeats
  exact h v member repeats.1

theorem countP_duplicateViolations (name : String) : (d.duplicateViolations index e).countP (·.repeats name) =
    if sameName e.name name && (d.entities.take index).any (sameName ·.name name) then 1 else 0 := by
  rw [Diagram.duplicateViolations]
  split
  · next first found =>
    -- The entity has a name just if the first one of its name has it.
    have any : sameName first.name name = true → (d.entities.take index).any (sameName ·.name name) = true :=
      fun same => List.any_eq_true.mpr ⟨first, List.mem_of_find?_eq_some found, same⟩
    have own : sameName first.name e.name = true := by simpa using List.find?_some found
    rw [List.countP_singleton, Violation.repeats, ← sameName_congr_left own]
    cases same : sameName first.name name with
    | false => simp [same]
    | true => simp [same, any same]
  · next none =>
    rw [List.countP_nil, if_neg]
    rw [Bool.and_eq_true, List.any_eq_true]
    rintro ⟨same, other, earlier, other_same⟩
    exact List.find?_eq_none.mp none other earlier (sameName_congr same other.name ▸ other_same)

theorem countP_entityViolations (name : String) : (d.entityViolations index e).countP (·.repeats name) =
    if sameName e.name name && (d.entities.take index).any (sameName ·.name name) then 1 else 0 := by
  simp only [Diagram.entityViolations, List.append_assoc]
  rw [List.countP_append, countP_duplicateViolations, countP_repeats_eq_zero, Nat.add_zero]
  intro v h
  simp only [Entity.nameViolations, Entity.optionViolations, List.mem_append, mem_report, mem_attributeNameViolations,
    mem_keyCountViolations, mem_keyKindViolations] at h
  rcases h with ⟨-, rfl⟩ | ⟨place, a, -, -, rfl⟩ | ⟨-, rfl⟩ | (⟨-, rfl⟩ | ⟨-, rfl⟩) |
    (⟨place, a, -, -, -, rfl⟩ | ⟨place, a, -, -, -, rfl⟩) | h
  case inr.inr.inr.inr.inr => exact ne_duplicate_of_mem_kindViolations h
  all_goals simp

/-- Where a reference by the name counts any entities, one duplicate fewer is reported of the name. -/
theorem Diagram.countP_repeats (d : Diagram) (name : String) :
    d.violations.countP (·.repeats name) = d.entities.countP (sameName ·.name name) - 1 := by
  rw [Diagram.violations, List.countP_append, countP_flatMap_eq_countP fun x _ => countP_entityViolations name,
    countP_zipIdx_after fun e : Entity => sameName e.name name, countP_repeats_eq_zero, Nat.add_zero]
  intro v h
  obtain ⟨index, r, -, found⟩ := mem_flatMap_zipIdx.mp h
  exact ne_duplicate_of_mem_relationshipViolations found

/-! ### Duplicates and references -/

theorem Diagram.no_duplicates_iff : (∀ v ∈ d.violations, v.rule ≠ .duplicateEntityName) ↔
    ∀ (index : Nat) (e : Entity), d.entities[index]? = some e → d.resolve e.name = .found index e := by
  constructor
  · intro none index e at_index
    have distinct := pairwise_of_no_duplicates fun v breach => none v (mem_violations_of_breach breach)
    exact resolve_name distinct at_index
  · intro found v member rule
    obtain ⟨index, e, at_index, place, before, first, earlier, -⟩ := (mem_violations_iff.mp member).exists_isFirst rule
    have named : (first, place) ∈ d.named e.name := mem_named.mpr ⟨earlier.at_place, earlier.same⟩
    rw [resolve_eq_found_iff.mp (found index e at_index), List.mem_singleton, Prod.mk.injEq] at named
    exact Nat.ne_of_lt before named.2

theorem Diagram.exists_duplicate_of_ambiguous (member : v ∈ d.violations) (rule : v.rule = .ambiguousReference) :
    ∃ other ∈ d.violations, other.rule = .duplicateEntityName := by
  cases mem_violations_iff.mp member with
  | @ambiguousReference _ name count refers several =>
    obtain ⟨two, length⟩ := resolve_eq_ambiguous_iff.mp several
    rw [length_named] at length
    have positive : 0 < d.violations.countP (·.repeats name) := by
      rw [d.countP_repeats]
      omega
    obtain ⟨other, found, repeats⟩ := List.countP_pos_iff.mp positive
    rw [Violation.repeats, Bool.and_eq_true, decide_eq_true_eq] at repeats
    exact ⟨other, found, repeats.1⟩
  | _ => cases rule

/-- Validation and references agree on duplicate names. An entity is reported as a duplicate just if an earlier one has
    its name, with the name of the first that has it. No duplicate is reported just if every entity is found by its own
    name. A name is ambiguous with the number of its entities when they are two or more, and one duplicate fewer is
    reported of it. So where a reference is reported as ambiguous a duplicate is reported too. -/
theorem Diagram.duplicates_and_resolution_agree (d : Diagram) :
    (∀ (index : Nat) (e : Entity), d.entities[index]? = some e →
      ((∃ value, ⟨.entity index e.name, .duplicateEntityName, value⟩ ∈ d.violations) ↔
          ∃ place < index, ∃ other, d.entities[place]? = some other ∧ sameName other.name e.name = true) ∧
        ∀ value, ⟨.entity index e.name, .duplicateEntityName, value⟩ ∈ d.violations ↔
          ∃ place < index, ∃ first, d.IsFirst e.name place first ∧ value = some first.name) ∧
      ((∀ v ∈ d.violations, v.rule ≠ .duplicateEntityName) ↔
        ∀ (index : Nat) (e : Entity), d.entities[index]? = some e → d.resolve e.name = .found index e) ∧
      (∀ (name : String) (count : Nat), d.resolve name = .ambiguous count ↔
        2 ≤ count ∧ d.entities.countP (sameName ·.name name) = count) ∧
      (∀ name : String, d.violations.countP (·.repeats name) = d.entities.countP (sameName ·.name name) - 1) ∧
      ∀ v ∈ d.violations, v.rule = .ambiguousReference → ∃ other ∈ d.violations, other.rule = .duplicateEntityName := by
  refine ⟨fun index e at_index => ⟨?_, fun value => duplicate_mem_violations_iff at_index⟩, Diagram.no_duplicates_iff,
    fun name count => ?_, d.countP_repeats, fun v member rule => Diagram.exists_duplicate_of_ambiguous member rule⟩
  · rw [← exists_isFirst_iff]
    constructor
    · rintro ⟨value, reported⟩
      obtain ⟨place, before, first, found, -⟩ := (duplicate_mem_violations_iff at_index).mp reported
      exact ⟨place, before, first, found⟩
    · rintro ⟨place, before, first, found⟩
      exact ⟨_, (duplicate_mem_violations_iff at_index).mpr ⟨place, before, first, found, rfl⟩⟩
  · rw [resolve_eq_ambiguous_iff, length_named]

end

/-- Three entities of one name in other capitals, one of them between other entities, and a relationship to them. -/
def Diagram.marina : Diagram where
  entities := [
    ⟨"Boat", .strong, [], [⟨"id", .primary⟩]⟩,
    ⟨"Berth", .strong, [], [⟨"number", .primary⟩]⟩,
    ⟨"BOAT", .strong, [], [⟨"id", .primary⟩]⟩,
    ⟨"boat", .associative, [], []⟩]
  relationships := [⟨"bOAT", .zeroOrMany, "moors", .exactlyOne, "berth", .single, []⟩]

theorem Diagram.duplicates_and_resolution_agree_marina :
    ⟨.entity 3 "boat", .duplicateEntityName, some "Boat"⟩ ∈ marina.violations ∧
      marina.resolve "bOAT" = .ambiguous 3 ∧ marina.violations.countP (·.repeats "bOAT") = 2 ∧
      ⟨.relationship 0 "moors", .ambiguousReference, some "bOAT"⟩ ∈ marina.violations ∧
      ∃ other ∈ marina.violations, other.rule = .duplicateEntityName := by
  obtain ⟨entities, -, several, repeats, ambiguous⟩ := marina.duplicates_and_resolution_agree
  have first : marina.IsFirst "boat" 0 ⟨"Boat", .strong, [], [⟨"id", .primary⟩]⟩ :=
    ⟨rfl, by decide +kernel, fun k before => absurd before (Nat.not_lt_zero k)⟩
  have three : marina.entities.countP (sameName ·.name "bOAT") = 3 := by decide +kernel
  have outcome : marina.resolve "bOAT" = .ambiguous 3 := (several _ _).mpr ⟨by omega, three⟩
  have reported : ⟨.relationship 0 "moors", .ambiguousReference, some "bOAT"⟩ ∈ marina.violations :=
    mem_violations_of_breach (.ambiguousReference (Diagram.Refers.source (r := marina.relationships[0]) rfl) outcome)
  refine ⟨((entities 3 _ rfl).2 _).mpr ⟨0, by omega, _, first, rfl⟩, outcome, ?_, reported, ambiguous _ reported rfl⟩
  rw [repeats, three]

end ErDiagram
