import ErDiagram.Proofs.Grammar.Relationship

/-! Where readers stop. A reader goes through its text from the start and never back past it, so what it leaves is an
    end of that text, and so is what is left where it halts. The position of an error follows from this alone. -/

namespace ErDiagram
open Character Document

/-! ### What is left -/

/-- What is left of the text, at the end of a reading or where it halts, is an end of it. -/
def Leaves {α : Type} (left : α → List Char) (s : List Char) : Except Halt α → Prop
  | .ok a => left a <:+ s
  | .error halt => halt.rest <:+ s

section
variable {α β : Type} {left : α → List Char} {left' : β → List Char} {s t : List Char}

theorem Leaves.mono {x : Except Halt α} (h : Leaves left t x) (inside : t <:+ s) : Leaves left s x := by
  cases x with
  | ok a => exact List.IsSuffix.trans h inside
  | error halt => exact List.IsSuffix.trans h inside

/-- A step reads on from what the one before it has left. -/
theorem Leaves.bind {x : Except Halt α} {f : α → Except Halt β} (first : Leaves left s x)
    (next : ∀ a, Leaves left' (left a) (f a)) : Leaves left' s (x >>= f) := by
  cases x with
  | ok a => exact (next a).mono first
  | error halt => exact first

end

section
variable {s : List Char}

theorem skipSpacing_suffix (s : List Char) : skipSpacing s <:+ s := List.dropWhile_suffix _

/-! ### Words -/

theorem leaves_word (p : Char → Bool) (s : List Char) : Leaves Prod.snd s (word p s) := by
  rw [word]
  split
  · exact List.suffix_refl s
  · exact List.dropWhile_suffix p

theorem leaves_identifier (s : List Char) : Leaves Prod.snd s (identifier s) := leaves_word _ s

/-- An unknown token halts the reader before it, where it has been read already. -/
theorem leaves_tokenOf (α : Type) [Vocabulary α] (s : List Char) : Leaves Prod.snd s (tokenOf α s) := by
  have word := leaves_identifier s
  rw [tokenOf]
  cases read : identifier s with
  | error halt =>
    rw [read] at word
    exact word
  | ok result =>
    rw [read] at word
    simp only [bind, Except.bind]
    split
    · exact word
    · exact List.suffix_refl s

theorem leaves_spacing (s : List Char) : Leaves id s (Document.spacing s) := by
  unfold Document.spacing
  split
  · next c rest =>
    split
    · exact (skipSpacing_suffix rest).trans (List.suffix_cons c rest)
    · exact List.suffix_refl _
  · exact List.suffix_refl _

/-! ### Entities -/

theorem leaves_headerKind (s : List Char) : Leaves Prod.snd s (headerKind s) := by
  unfold headerKind
  split
  · next rest => exact (leaves_tokenOf EntityKind rest).mono (List.suffix_cons '.' rest)
  · exact List.suffix_refl _

theorem headerOptions_suffix (s : List Char) : (headerOptions s).2 <:+ s :=
  ⟨_, (Grammar.headerOptions_spec s).2.symm⟩

theorem attributeTexts_suffix (s : List Char) : (attributeTexts s).2 <:+ s := by
  rcases enumerates_attributeTexts s with none | ⟨read, whole, -, -⟩
  · exact ⟨[], congrArg Prod.snd none⟩
  · exact ⟨read, whole.symm⟩

theorem entityAttributes_suffix (s : List Char) : (entityAttributes s).2 <:+ s := by
  unfold entityAttributes
  split
  · next c rest =>
    split
    · split
      · exact List.suffix_refl _
      · next texts left _ read =>
        have left := attributeTexts_suffix (c :: rest)
        rw [read] at left
        exact left
    · exact List.suffix_refl _
  · exact List.suffix_refl _

theorem Entity.leaves_read (s : List Char) : Leaves Prod.snd s (Entity.read s) :=
  (leaves_identifier s).bind fun (_, s) =>
    (leaves_headerKind s).bind fun (_, s) =>
      (skipSpacing_suffix _).trans ((entityAttributes_suffix _).trans (headerOptions_suffix s))

/-! ### Relationships -/

theorem leaves_lineKind (s : List Char) : Leaves Prod.snd s (lineKind s) := by
  unfold lineKind
  split
  · split
    · exact (leaves_spacing s).bind fun s => leaves_tokenOf LineKind s
    · exact List.suffix_refl _
  · exact List.suffix_refl _

theorem relationshipAttributes_suffix (s : List Char) : (relationshipAttributes s).2 <:+ s := by
  unfold relationshipAttributes
  split
  · next inside opening =>
    have list : inside <:+ s := (List.suffix_cons '{' inside).trans (opening ▸ skipSpacing_suffix s)
    simp only
    split
    · next rest closing =>
      have last : rest <:+ (attributeTexts inside).2 :=
        (List.suffix_cons '}' rest).trans (closing ▸ skipSpacing_suffix _)
      exact last.trans ((attributeTexts_suffix inside).trans list)
    · exact List.suffix_refl _
  · exact List.suffix_refl _

theorem Relationship.leaves_read (s : List Char) : Leaves Prod.snd s (Relationship.read s) :=
  (leaves_identifier s).bind fun (_, s) => (leaves_spacing s).bind fun s =>
    (leaves_tokenOf Cardinality s).bind fun (_, s) => (leaves_spacing s).bind fun s =>
      (leaves_word _ s).bind fun (_, s) => (leaves_spacing s).bind fun s =>
        (leaves_tokenOf Cardinality s).bind fun (_, s) => (leaves_spacing s).bind fun s =>
          (leaves_identifier s).bind fun (_, s) => (leaves_lineKind s).bind fun (_, s) =>
            (skipSpacing_suffix _).trans (relationshipAttributes_suffix s)

/-! ### Whole texts -/

theorem suffix_of_whole_eq_error {α : Type} {read : List Char → Except Halt (α × List Char)} {halt : Halt}
    (leaves : Leaves Prod.snd s (read s)) (h : whole read s = .error halt) : halt.rest <:+ s := by
  rw [whole] at h
  split at h
  · cases h
  · next a rest _ result =>
    cases h
    rw [result] at leaves
    exact leaves
  · next halts result =>
    cases h
    rw [result] at leaves
    exact leaves

end

end ErDiagram
