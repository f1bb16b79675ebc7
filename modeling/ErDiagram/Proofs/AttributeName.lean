import ErDiagram.Proofs.AttributeText

/-! Names of attributes. The reader takes the text of an attribute, cuts off the blanks at its end and then its mark;
    neither cut opens a list. Where nothing is cut off but the mark, the attribute that was written comes back. A name
    is checked by another scan than the one that reads it, and the two agree on where a name may go on. -/

namespace ErDiagram
open Character Document

/-! ### Reading -/

/-- The text of a name that was read: its lists are closed and hold all its separators, nothing in it ends a
    statement, and no blanks are at its end. -/
structure IsReadText (t : List Char) : Prop where
  closed : Closed t
  quiet : ∀ c ∈ t, endsStatement c = false
  trimmed : trimEnd t = t

section
variable {t s : List Char} {c : Char}

theorem IsReadText.of_cons (h : IsReadText (c :: t)) (other : c ≠ '(') : IsReadText t :=
  ⟨h.closed.of_cons other, fun a ha => h.quiet a (List.mem_cons_of_mem _ ha), trimEnd_of_cons h.trimmed⟩

theorem isReadText_trimEnd (closed : Closed t) (quiet : ∀ c ∈ t, endsStatement c = false) :
    IsReadText (trimEnd t) := by
  refine ⟨closed.trimEnd, fun c hc => ?_, trimEnd_trimEnd t⟩
  obtain ⟨b, split, -⟩ := exists_trimEnd_append t
  exact quiet c (split ▸ List.mem_append_left b hc)

/-- A name passes the check when it could have been read and neither is empty nor starts with a blank. -/
theorem isAttributeName_iff {name : String} : isAttributeName name = true ↔
    name ≠ "" ∧ StartsOutside isBlank name.toList ∧ IsReadText name.toList := by
  simp only [isAttributeName, Bool.and_eq_true, decide_eq_true_eq, trim_eq_self_iff, hasClosedLists_iff]
  constructor
  · rintro ⟨⟨ne, start, trimmed⟩, closed, quiet⟩
    exact ⟨ne, start, closed, quiet, trimmed⟩
  · rintro ⟨ne, start, closed, quiet, trimmed⟩
    exact ⟨⟨ne, start, trimmed⟩, closed, quiet⟩

theorem Attribute.isReadText_ofText (closed : Closed t) (quiet : ∀ c ∈ t, endsStatement c = false) :
    IsReadText (Attribute.ofText t).name.toList ∧
      ((Attribute.ofText t).key = .plain → (Attribute.ofText t).readsAsKey = false) := by
  have read := isReadText_trimEnd closed quiet
  rw [Attribute.ofText]
  split
  · next name whole =>
    rw [whole] at read
    refine ⟨?_, nofun⟩
    rw [String.toList_ofList]
    exact ((read.of_cons (by decide)).of_cons (by decide)).of_cons (by decide)
  · next name whole =>
    rw [whole] at read
    refine ⟨?_, nofun⟩
    rw [String.toList_ofList]
    exact (read.of_cons (by decide)).of_cons (by decide)
  · next partialKey primary =>
    rw [String.toList_ofList]
    refine ⟨read, fun _ => ?_⟩
    simp only [Attribute.readsAsKey, KeyKind.mark, String.toList_ofList, Bool.or_eq_false_iff]
    constructor
    · refine Bool.eq_false_iff.mpr fun mark => ?_
      obtain ⟨name, whole⟩ := List.isPrefixOf_iff_prefix.mp mark
      exact primary name whole.symm
    · refine Bool.eq_false_iff.mpr fun mark => ?_
      obtain ⟨name, whole⟩ := List.isPrefixOf_iff_prefix.mp mark
      exact partialKey name whole.symm

theorem Attribute.isReadText_ofPlainText (closed : Closed t) (quiet : ∀ c ∈ t, endsStatement c = false) :
    IsReadText (Attribute.ofPlainText t).name.toList := by
  rw [ofPlainText, String.toList_ofList]
  exact isReadText_trimEnd closed quiet

end

/-! ### Writing -/

/-- A text that is written and read back as one attribute: it is there, spacing before it is not taken for a part of
    it, and no blanks are cut off at its end. -/
structure IsWritableText (t : List Char) : Prop extends IsReadText t where
  ne_nil : t ≠ []
  start : StartsOutside isSpacing t

theorem IsWritableText.isAttributeText {t : List Char} (h : IsWritableText t) : IsAttributeText t :=
  ⟨h.ne_nil, h.start, h.closed⟩

theorem IsReadText.cons {t : List Char} {c : Char} (h : IsReadText t) (other : c ≠ '(') (inside : endsAttribute c = false)
    (quiet : endsStatement c = false) (seen : isBlank c = false) : IsReadText (c :: t) :=
  ⟨.char other inside h.closed, List.forall_mem_cons.mpr ⟨quiet, h.quiet⟩, trimEnd_cons h.trimmed (Or.inr seen)⟩

/-- With a mark before it any name that was read can be written, without one it must show where it starts. -/
theorem Attribute.isWritableText_marked {a : Attribute} (read : IsReadText a.name.toList)
    (start : a.key = .plain → a.name ≠ "" ∧ StartsOutside isSpacing a.name.toList) :
    IsWritableText a.marked.toList := by
  rw [marked, String.toList_append]
  have point : IsReadText ('.' :: a.name.toList) := read.cons (by decide) rfl rfl (by decide)
  have primary : IsReadText ('u' :: '.' :: a.name.toList) := point.cons (by decide) rfl rfl (by decide)
  cases key : a.key with
  | plain => exact ⟨read, toList_ne_nil (start key).1, (start key).2⟩
  | primary => exact ⟨primary, List.cons_ne_nil _ _, startsOutside_cons.mpr rfl⟩
  | partialKey =>
    exact ⟨primary.cons (by decide) rfl rfl (by decide), List.cons_ne_nil _ _, startsOutside_cons.mpr rfl⟩

theorem Attribute.ofText_marked {a : Attribute} (trimmed : trimEnd a.marked.toList = a.marked.toList)
    (unmarked : a.key = .plain → a.readsAsKey = false) : Attribute.ofText a.marked.toList = a := by
  obtain ⟨name, key⟩ := a
  rw [Attribute.ofText, trimmed]
  cases key with
  | plain =>
    have unmarked := unmarked rfl
    simp only [Attribute.readsAsKey, KeyKind.mark, Bool.or_eq_false_iff] at unmarked
    simp only [Attribute.marked, KeyKind.mark, String.empty_append]
    split
    · next rest whole => simp [whole] at unmarked
    · next rest whole => simp [whole] at unmarked
    · rw [String.ofList_toList]
  | primary =>
    simp [Attribute.marked, KeyKind.mark]
  | partialKey =>
    simp [Attribute.marked, KeyKind.mark]

theorem Attribute.ofPlainText_name {a : Attribute} (trimmed : trimEnd a.name.toList = a.name.toList)
    (plain : a.key = .plain) : Attribute.ofPlainText a.name.toList = a := by
  obtain ⟨name, key⟩ := a
  cases plain
  rw [Attribute.ofPlainText, trimmed, String.ofList_toList]

/-! ### Checking and reading -/

/-- A text that is not empty, has no blanks at its ends and no `;` or `:` in it passes the check of names exactly when
    the reader takes all of it for one attribute. And where the reader takes an attribute but not the whole text, it
    stops at something that separates attributes or at a parenthesis that nothing closes. -/
theorem isAttributeName_iff_attributeText :
    (∀ name : String, name ≠ "" → (∀ c ∈ name.toList, c ≠ ';' ∧ c ≠ ':') →
        (∀ c ∈ name.toList.head?, isBlank c = false) → (∀ c ∈ name.toList.getLast?, isBlank c = false) →
        (isAttributeName name = true ↔ attributeText false name.toList = (name.toList, []))) ∧
      ∀ (s taken more : List Char) (c : Char), attributeText false s = (taken, c :: more) → taken ≠ [] →
        s = taken ++ c :: more ∧ (c ∈ [',', '{', '}'] ∨ c = '(' ∧ ')' ∉ more) := by
  constructor
  · intro name ne quiet start last
    rw [attributeText_eq_self_iff, isAttributeName_iff]
    constructor
    · rintro ⟨-, -, read⟩
      exact read.closed
    · intro closed
      refine ⟨ne, start, closed, fun c hc => ?_, trimEnd_eq_self_iff.mpr last⟩
      exact endsStatement_eq_false_iff.mpr (quiet c hc)
  · intro s taken more c early _
    have whole := attributeText_append false s
    have stops := (closed_attributeText s).2
    rw [early] at whole stops
    refine ⟨whole.symm, ?_⟩
    rcases stops with ends | unclosed
    · simp only [endsAttribute, Bool.or_eq_true, decide_eq_true_eq] at ends
      exact Or.inl (by simpa [or_assoc] using ends)
    · exact Or.inr unclosed

/-- A name with a stray parenthesis at its end is read as a whole, and a list that is not closed is left with its comma. -/
theorem isAttributeName_iff_attributeText_phone :
    (isAttributeName "phone(home, {work}) or fax)" = true ↔
      attributeText false "phone(home, {work}) or fax)".toList = ("phone(home, {work}) or fax)".toList, [])) ∧
    attributeText false "phone(home) (work, fax".toList = ("phone(home) ".toList, '(' :: "work, fax".toList) ∧
      "phone(home) (work, fax".toList = "phone(home) ".toList ++ '(' :: "work, fax".toList ∧
      ('(' ∈ [',', '{', '}'] ∨ '(' = '(' ∧ ')' ∉ "work, fax".toList) := by
  have quiet : ∀ c ∈ "phone(home, {work}) or fax)".toList, c ≠ ';' ∧ c ≠ ':' := by simp
  have start : ∀ c ∈ "phone(home, {work}) or fax)".toList.head?, isBlank c = false := by
    rintro c ⟨⟩
    rfl
  have last : ∀ c ∈ "phone(home, {work}) or fax)".toList.getLast?, isBlank c = false := by
    rintro c ⟨⟩
    rfl
  have early : attributeText false "phone(home) (work, fax".toList =
      ("phone(home) ".toList, '(' :: "work, fax".toList) := by decide
  exact ⟨isAttributeName_iff_attributeText.1 _ (by decide) quiet start last, early,
    isAttributeName_iff_attributeText.2 _ _ _ _ early (by decide)⟩

end ErDiagram
