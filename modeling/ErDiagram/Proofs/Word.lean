import ErDiagram.Document.Word
import ErDiagram.Kind
import ErDiagram.Proofs.Character
import Mathlib.Data.List.Forall2

/-! Words. Each reader of a word is described by what it takes and by what must not follow: an identifier, a token
    or spacing is read exactly where the text starts with it and does not go on with more of the same kind. -/

namespace ErDiagram
open Character Document Vocabulary

/-! ### Steps that may fail -/

section
variable {ε α β : Type} {b : β}

theorem bind_eq_ok_iff {x : Except ε α} {f : α → Except ε β} :
    (x >>= f) = .ok b ↔ ∃ a, x = .ok a ∧ f a = .ok b := by
  cases x with
  | error e => simp [bind, Except.bind]
  | ok a => simp [bind, Except.bind]

theorem bind_eq_error_iff {x : Except ε α} {f : α → Except ε β} {e : ε} :
    (x >>= f) = .error e ↔ x = .error e ∨ ∃ a, x = .ok a ∧ f a = .error e := by
  cases x with
  | error e => simp [bind, Except.bind]
  | ok a => simp [bind, Except.bind]

theorem mapM_eq_ok_iff {f : α → Except ε β} {l : List α} {bs : List β} :
    l.mapM f = .ok bs ↔ List.Forall₂ (fun a b => f a = .ok b) l bs := by
  induction l generalizing bs with
  | nil =>
    rw [List.mapM_nil, List.forall₂_nil_left_iff]
    exact ⟨fun h => (Except.ok.inj h).symm, fun h => congrArg Except.ok h.symm⟩
  | cons a l ih =>
    rw [List.mapM_cons, bind_eq_ok_iff, List.forall₂_cons_left_iff]
    constructor
    · rintro ⟨b, first, rest⟩
      obtain ⟨more, others, whole⟩ := bind_eq_ok_iff.mp rest
      exact ⟨b, more, first, ih.mp others, (Except.ok.inj whole).symm⟩
    · rintro ⟨b, more, first, others, rfl⟩
      exact ⟨b, first, bind_eq_ok_iff.mpr ⟨more, ih.mpr others, rfl⟩⟩

/-- A list fails at the first element that fails. -/
theorem mapM_eq_error_iff {f : α → Except ε β} {l : List α} {e : ε} : l.mapM f = .error e ↔
    ∃ earlier a later, l = earlier ++ a :: later ∧ (∀ b ∈ earlier, ∃ c, f b = .ok c) ∧ f a = .error e := by
  induction l with
  | nil => simp [pure, Except.pure]
  | cons a l ih =>
    rw [List.mapM_cons, bind_eq_error_iff]
    constructor
    · rintro (first | ⟨b, first, rest⟩)
      · exact ⟨[], a, l, rfl, by simp, first⟩
      · rcases bind_eq_error_iff.mp rest with others | ⟨bs, -, whole⟩
        · obtain ⟨earlier, c, later, rfl, accepted, fails⟩ := ih.mp others
          exact ⟨a :: earlier, c, later, rfl, List.forall_mem_cons.mpr ⟨⟨b, first⟩, accepted⟩, fails⟩
        · cases whole
    · rintro ⟨earlier, c, later, split, accepted, fails⟩
      cases earlier with
      | nil =>
        obtain ⟨rfl, -⟩ := List.cons.inj split
        exact Or.inl fails
      | cons d earlier =>
        obtain ⟨rfl, rfl⟩ := List.cons.inj split
        obtain ⟨⟨b, first⟩, accepted⟩ := List.forall_mem_cons.mp accepted
        exact Or.inr ⟨b, first, bind_eq_error_iff.mpr (Or.inl (ih.mpr ⟨earlier, c, later, rfl, accepted, fails⟩))⟩

end

/-! ### Words -/

section
variable {p : Char → Bool} {s rest : List Char} {name : String}

theorem word_eq_ok_iff : word p s = .ok (name, rest) ↔
    s = name.toList ++ rest ∧ name ≠ "" ∧ (∀ c ∈ name.toList, p c = true) ∧ StartsOutside p rest := by
  rw [word]
  constructor
  · intro h
    split at h
    · cases h
    · next taken ne =>
      rw [Except.ok.injEq, Prod.mk.injEq] at h
      obtain ⟨rfl, rfl⟩ := h
      simp only [String.toList_ofList]
      refine ⟨List.takeWhile_append_dropWhile.symm, ?_, fun _ => of_mem_takeWhile, startsOutside_dropWhile p s⟩
      simpa using ne
  · rintro ⟨rfl, ne, inside, outside⟩
    rw [takeWhile_append_of_startsOutside inside outside, dropWhile_append_of_startsOutside inside outside]
    split
    · next none => exact absurd none (toList_ne_nil ne)
    · rw [String.ofList_toList]

theorem isIdentifier_iff : isIdentifier name = true ↔ name ≠ "" ∧ ∀ c ∈ name.toList, isIdentifierChar c = true := by
  rw [isIdentifier, Bool.and_eq_true, List.all_eq_true, decide_eq_true_eq]

theorem identifier_eq_ok_iff : identifier s = .ok (name, rest) ↔
    s = name.toList ++ rest ∧ isIdentifier name = true ∧ StartsOutside isIdentifierChar rest := by
  rw [identifier, word_eq_ok_iff, isIdentifier_iff, and_assoc]

theorem isRelationshipName_iff : isRelationshipName name = true ↔
    name ≠ "" ∧ ∀ c ∈ name.toList, isBlank c = false ∧ endsStatement c = false := by
  simp only [isRelationshipName, Bool.and_eq_true, List.all_eq_true, decide_eq_true_eq, Bool.not_eq_true']

/-- An identifier holds nothing that ends a statement. -/
theorem endsStatement_of_isIdentifier (h : isIdentifier name = true) :
    ∀ c ∈ name.toList, endsStatement c = false := fun c hc =>
  endsStatement_eq_false_of_isIdentifierChar ((isIdentifier_iff.mp h).2 c hc)

theorem startsOutside_identifier (h : isIdentifier name = true) : StartsOutside isSpacing name.toList := fun c hc =>
  isSpacing_eq_false_of_isIdentifierChar ((isIdentifier_iff.mp h).2 c (List.mem_of_mem_head? hc))

theorem startsOutside_of_isIdentifier (h : isIdentifier name = true) :
    StartsOutside isSpacing (name.toList ++ rest) :=
  startsOutside_append (startsOutside_identifier h) (toList_ne_nil (isIdentifier_iff.mp h).1)

/-! ### Tokens -/

theorem isIdentifier_entityKind (kind : EntityKind) : isIdentifier (token kind) = true := by
  cases kind <;> decide +kernel

theorem isIdentifier_cardinality (cardinality : Cardinality) : isIdentifier (token cardinality) = true := by
  cases cardinality <;> decide +kernel

theorem isIdentifier_lineKind (line : LineKind) : isIdentifier (token line) = true := by
  cases line <;> decide +kernel

theorem tokenOf_eq_ok_iff {α : Type} [Vocabulary α] {a : α} : tokenOf α s = .ok (a, rest) ↔
    s = (token a).toList ++ rest ∧ isIdentifier (token a) = true ∧ StartsOutside isIdentifierChar rest := by
  rw [tokenOf, bind_eq_ok_iff]
  constructor
  · rintro ⟨⟨text, after⟩, read, found⟩
    simp only [ofToken] at found
    cases value : ofToken? α text with
    | none => simp [value] at found
    | some b =>
      simp only [value, Except.ok.injEq, Prod.mk.injEq] at found
      obtain ⟨rfl, rfl⟩ := found
      rw [ofToken?_eq_some_iff.mp value]
      exact identifier_eq_ok_iff.mp read
  · rintro h
    exact ⟨(token a, rest), identifier_eq_ok_iff.mpr h, by simp [ofToken]⟩

/-! ### Spacing, and the end of a text -/

theorem spacing_eq_ok_iff : spacing s = .ok rest ↔
    ∃ space, space ≠ [] ∧ (∀ c ∈ space, isSpacing c = true) ∧ s = space ++ rest ∧ StartsOutside isSpacing rest := by
  constructor
  · intro h
    unfold Document.spacing at h
    split at h
    · next c after =>
      split at h
      · next first =>
        cases h
        obtain ⟨space, split, spacing⟩ := exists_spacing_append_skipSpacing after
        refine ⟨c :: space, List.cons_ne_nil _ _, by simpa [first] using spacing, ?_, startsOutside_skipSpacing after⟩
        rw [List.cons_append, ← split]
      · cases h
    · cases h
  · rintro ⟨space, ne, spacing, rfl, outside⟩
    cases space with
    | nil => exact absurd rfl ne
    | cons c space =>
      rw [List.forall_mem_cons] at spacing
      rw [List.cons_append, Document.spacing, if_pos spacing.1, skipSpacing_append spacing.2 outside]

theorem whole_eq_ok_iff {α : Type} {read : List Char → Except Halt (α × List Char)} {a : α} :
    whole read s = .ok a ↔ read s = .ok (a, []) := by
  rw [whole]
  split
  · next b result => simp [result]
  · next b after ne result =>
    simp only [reduceCtorEq, false_iff, result, Except.ok.injEq, Prod.mk.injEq, not_and]
    exact fun _ => ne
  · next halt result => simp [result]

end

end ErDiagram
