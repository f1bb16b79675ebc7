import ErDiagram.Json.Basic
import ErDiagram.Json.String

/-! Strings in JSON. What may stand between the quotes, and which text it spells, is said here by characters and escapes
    alone. A string is read as the text that it spells, whatever follows its closing quote, and it is skipped even where
    it spells none; every text is written as a spelling of it. -/

namespace ErDiagram.Json

/-! ### Spellings -/

/-- Stands for itself in a string. -/
structure IsPlain (c : Char) : Prop where
  notQuote : c ≠ '"'
  notBackslash : c ≠ '\\'
  notControl : isControl c = false

/-- What may stand between the quotes of a string. The number of an escape may be a surrogate, which need not have a
    partner. -/
inductive IsSpelling : List Char → Prop where
  | nil : IsSpelling []
  | plain {c : Char} {word : List Char} (plain : IsPlain c) (others : IsSpelling word) : IsSpelling (c :: word)
  | letter {c x : Char} {word : List Char} (letter : letterEscape? c = some x) (others : IsSpelling word) :
    IsSpelling ('\\' :: c :: word)
  | code {a b c d : Char} {code : Nat} {word : List Char} (digits : hexCode? a b c d = some code)
    (others : IsSpelling word) : IsSpelling ('\\' :: 'u' :: a :: b :: c :: d :: word)

/-- What stands between the quotes is read as the text: each character as itself, an escape as the character it stands
    for, and two surrogates as the character they make up. -/
inductive Spells : List Char → List Char → Prop where
  | nil : Spells [] []
  | plain {c : Char} {word text : List Char} (plain : IsPlain c) (others : Spells word text) :
    Spells (c :: word) (c :: text)
  | letter {c x : Char} {word text : List Char} (letter : letterEscape? c = some x) (others : Spells word text) :
    Spells ('\\' :: c :: word) (x :: text)
  | code {a b c d : Char} {code : Nat} {word text : List Char} (digits : hexCode? a b c d = some code)
    (notTrailing : isTrailingSurrogate code = false) (notLeading : isLeadingSurrogate code = false)
    (others : Spells word text) : Spells ('\\' :: 'u' :: a :: b :: c :: d :: word) (Char.ofNat code :: text)
  | pair {a b c d a' b' c' d' : Char} {leading trailing : Nat} {word text : List Char}
    (digits : hexCode? a b c d = some leading) (isLeading : isLeadingSurrogate leading = true)
    (digits' : hexCode? a' b' c' d' = some trailing) (isTrailing : isTrailingSurrogate trailing = true)
    (others : Spells word text) :
    Spells ('\\' :: 'u' :: a :: b :: c :: d :: '\\' :: 'u' :: a' :: b' :: c' :: d' :: word)
      (ofSurrogates leading trailing :: text)

section
variable {word text s rest more : List Char} {c x : Char} {code : Nat}

theorem Spells.isSpelling (h : Spells word text) : IsSpelling word := by
  induction h with
  | nil => exact .nil
  | plain plain _ ih => exact .plain plain ih
  | letter letter _ ih => exact .letter letter ih
  | code digits _ _ _ ih => exact .code digits ih
  | pair digits _ digits' _ _ ih => exact .code digits (.code digits' ih)

/-! ### Reading -/

theorem ne_of_letterEscape? (h : letterEscape? c = some x) : c ≠ 'u' := by
  rintro rfl
  cases h

theorem escape_letter (letter : letterEscape? c = some x) : escape (c :: s) = .ok (x, s) := by
  rw [escape]
  · rw [letter]
  · exact ne_of_letterEscape? letter

theorem hexEscape_eq {a b c d : Char} (digits : hexCode? a b c d = some code) :
    hexEscape (a :: b :: c :: d :: s) = .ok (code, s) := by
  rw [hexEscape, digits]

theorem isTrailingSurrogate_eq_false (h : isLeadingSurrogate code = true) : isTrailingSurrogate code = false := by
  simp only [isLeadingSurrogate, isTrailingSurrogate, Bool.and_eq_true, decide_eq_true_eq, Bool.and_eq_false_iff,
    decide_eq_false_iff_not] at h ⊢
  exact Or.inl (by omega)

theorem escape_code {a b c d : Char} (digits : hexCode? a b c d = some code)
    (notTrailing : isTrailingSurrogate code = false) (notLeading : isLeadingSurrogate code = false) :
    escape ('u' :: a :: b :: c :: d :: s) = .ok (Char.ofNat code, s) := by
  rw [escape, codeEscape, hexEscape_eq digits]
  simp only [notTrailing, notLeading, Bool.false_eq_true, ↓reduceIte]

theorem escape_pair {a b c d a' b' c' d' : Char} {leading trailing : Nat}
    (digits : hexCode? a b c d = some leading) (isLeading : isLeadingSurrogate leading = true)
    (digits' : hexCode? a' b' c' d' = some trailing) (isTrailing : isTrailingSurrogate trailing = true) :
    escape ('u' :: a :: b :: c :: d :: '\\' :: 'u' :: a' :: b' :: c' :: d' :: s) =
      .ok (ofSurrogates leading trailing, s) := by
  rw [escape, codeEscape, hexEscape_eq digits]
  simp only [isTrailingSurrogate_eq_false isLeading, isLeading, Bool.false_eq_true, ↓reduceIte]
  rw [trailingEscape, hexEscape_eq digits']
  simp only [isTrailing, ↓reduceIte]

theorem characters_plain (plain : IsPlain c) : characters (c :: s) =
    match characters s with
    | .error fault => .error fault
    | .ok (text, rest) => .ok (c :: text, rest) := by
  rw [characters]
  · rw [plain.notControl]
    rfl
  · exact plain.notQuote
  · exact plain.notBackslash

theorem characters_escape (escaped : escape s = .ok (c, rest)) : characters ('\\' :: s) =
    match characters rest with
    | .error fault => .error fault
    | .ok (text, rest) => .ok (c :: text, rest) := by
  rw [characters]
  split
  · next fault failed =>
    rw [escaped] at failed
    cases failed
  · next found =>
    rw [escaped] at found
    cases found
    rfl

theorem exists_escape (read : characters ('\\' :: s) = .ok (text, more)) : ∃ x rest, escape s = .ok (x, rest) := by
  rw [characters] at read
  split at read
  · cases read
  · next x rest escaped => exact ⟨x, rest, escaped⟩

/-- A string is read as the text that it spells. -/
theorem Spells.characters (h : Spells word text) (rest : List Char) :
    characters (word ++ '"' :: rest) = .ok (text, rest) := by
  induction h with
  | nil => rw [List.nil_append, Json.characters]
  | plain plain _ ih => rw [List.cons_append, characters_plain plain, ih]
  | letter letter _ ih =>
    rw [List.cons_append, List.cons_append, characters_escape (escape_letter letter), ih]
  | code digits notTrailing notLeading _ ih =>
    simp only [List.cons_append]
    rw [characters_escape (escape_code digits notTrailing notLeading), ih]
  | pair digits isLeading digits' isTrailing _ ih =>
    simp only [List.cons_append]
    rw [characters_escape (escape_pair digits isLeading digits' isTrailing), ih]

/-- A string spells one text at most. -/
theorem Spells.unique {text' : List Char} (h : Spells word text) (h' : Spells word text') : text = text' := by
  have read := h.characters []
  rw [h'.characters []] at read
  cases read
  rfl

/-- Only an escape of a trailing surrogate can follow that of a leading one. -/
theorem IsSpelling.of_trailingEscape {leading : Nat} (h : IsSpelling word)
    (escaped : trailingEscape leading (word ++ '"' :: rest) = .ok (x, more)) :
    ∃ a b c d code others, word = '\\' :: 'u' :: a :: b :: c :: d :: others ∧ hexCode? a b c d = some code ∧
      isTrailingSurrogate code = true ∧ IsSpelling others ∧ x = ofSurrogates leading code ∧
      more = others ++ '"' :: rest := by
  cases h with
  | nil =>
    rw [List.nil_append, trailingEscape] at escaped
    · cases escaped
    all_goals simp
  | plain plain =>
    rw [List.cons_append, trailingEscape] at escaped
    · cases escaped
    all_goals simp [plain.notBackslash]
  | letter letter =>
    rw [List.cons_append, List.cons_append, trailingEscape] at escaped
    · cases escaped
    all_goals simp [ne_of_letterEscape? letter]
  | @code a b c d code others digits spelling =>
    simp only [List.cons_append] at escaped
    rw [trailingEscape, hexEscape_eq digits] at escaped
    dsimp only at escaped
    split at escaped
    · next isTrailing =>
      simp only [Except.ok.injEq, Prod.mk.injEq] at escaped
      exact ⟨a, b, c, d, code, others, rfl, digits, isTrailing, spelling, escaped.1.symm, escaped.2.symm⟩
    · cases escaped

/-- What an escape is read as, and the spelling that is left after it. -/
theorem IsSpelling.of_escape (h : IsSpelling ('\\' :: word)) (escaped : escape (word ++ '"' :: rest) = .ok (x, more)) :
    ∃ others, IsSpelling others ∧ others.length < word.length ∧ more = others ++ '"' :: rest ∧
      ∀ text, Spells others text → Spells ('\\' :: word) (x :: text) := by
  cases h with
  | plain plain => exact absurd rfl plain.notBackslash
  | letter letter others =>
    rw [List.cons_append, escape_letter letter] at escaped
    cases escaped
    exact ⟨_, others, Nat.lt_succ_self _, rfl, fun _ => .letter letter⟩
  | @code a b c d code word digits others =>
    simp only [List.cons_append] at escaped
    rw [escape, codeEscape, hexEscape_eq digits] at escaped
    dsimp only at escaped
    split at escaped
    · cases escaped
    · next notTrailing =>
      split at escaped
      · next isLeading =>
        obtain ⟨a', b', c', d', code', others', rfl, digits', isTrailing, spelling, made, left⟩ :=
          others.of_trailingEscape escaped
        refine ⟨_, spelling, by simp only [List.length_cons]; omega, left, fun _ => ?_⟩
        rw [made]
        exact .pair digits isLeading digits' isTrailing
      · next notLeading =>
        simp only [Except.ok.injEq, Prod.mk.injEq] at escaped
        obtain ⟨rfl, rfl⟩ := escaped
        refine ⟨_, others, by simp only [List.length_cons]; omega, rfl, fun _ => .code digits ?_ ?_⟩
        · exact Bool.eq_false_iff.mpr notTrailing
        · exact Bool.eq_false_iff.mpr notLeading

/-- A string that is read is read to its closing quote, as the text that it spells. -/
theorem IsSpelling.of_characters (h : IsSpelling word)
    (read : Json.characters (word ++ '"' :: rest) = .ok (text, more)) : more = rest ∧ Spells word text := by
  -- an escape may take two of the units that the spelling is made of, so the induction is on length
  induction size : word.length using Nat.strongRecOn generalizing word text with
  | _ size ih =>
  subst size
  cases word with
  | nil =>
    rw [List.nil_append, Json.characters] at read
    cases read
    exact ⟨rfl, .nil⟩
  | cons c word =>
    by_cases backslash : c = '\\'
    · subst backslash
      rw [List.cons_append] at read
      obtain ⟨x, left, escaped⟩ := exists_escape read
      obtain ⟨others, spelling, shorter, rfl, spells⟩ := h.of_escape escaped
      rw [characters_escape escaped] at read
      split at read
      · cases read
      · next read =>
        cases read
        obtain ⟨rfl, spelt⟩ := ih _ (Nat.lt_succ_of_lt shorter) spelling read rfl
        exact ⟨rfl, spells _ spelt⟩
    · cases h with
      | plain plain others =>
        rw [List.cons_append, characters_plain plain] at read
        split at read
        · cases read
        · next read =>
          cases read
          obtain ⟨rfl, spelt⟩ := ih _ (Nat.lt_succ_self _) others read rfl
          exact ⟨rfl, .plain plain spelt⟩
      | letter | code => exact absurd rfl backslash

/-! ### Skipping -/

theorem skipEscape_letter (letter : letterEscape? c = some x) : skipEscape (c :: s) = .ok s := by
  rw [skipEscape]
  · simp only [letter, Option.isSome_some, ↓reduceIte]
  · exact ne_of_letterEscape? letter

theorem skipCharacters_escape (escaped : skipEscape s = .ok rest) :
    skipCharacters ('\\' :: s) = skipCharacters rest := by
  rw [skipCharacters]
  split
  · next fault failed =>
    rw [escaped] at failed
    cases failed
  · next found =>
    rw [escaped] at found
    cases found
    rfl

theorem IsSpelling.skipCharacters (h : IsSpelling word) (rest : List Char) :
    skipCharacters (word ++ '"' :: rest) = .ok rest := by
  induction h with
  | nil => rw [List.nil_append, Json.skipCharacters]
  | plain plain _ ih =>
    rw [List.cons_append, Json.skipCharacters]
    · rw [plain.notControl]
      exact ih
    · exact plain.notQuote
    · exact plain.notBackslash
  | letter letter _ ih => rw [List.cons_append, List.cons_append, skipCharacters_escape (skipEscape_letter letter), ih]
  | code digits _ ih =>
    simp only [List.cons_append]
    rw [skipCharacters_escape, ih]
    rw [skipEscape, hexEscape_eq digits]

end

/-! ### Writing -/

theorem hexDigit?_digitChar : ∀ n < 16, hexDigit? (Nat.digitChar n) = some n := by decide

theorem hexCode?_digits {high low : Nat} (hh : high < 16) (hl : low < 16) :
    hexCode? '0' '0' (Nat.digitChar high) (Nat.digitChar low) = some (high * 16 + low) := by
  have zero : hexDigit? '0' = some 0 := rfl
  simp only [hexCode?, zero, hexDigit?_digitChar high hh, hexDigit?_digitChar low hl, bind, Option.bind, pure]
  simp

section
variable {c : Char} {word text : List Char}

/-- The numeric escape of a control character stands for it. -/
theorem spells_control (control : c.toNat < 0x20) (others : Spells word text) :
    Spells ('\\' :: 'u' :: '0' :: '0' :: Nat.digitChar (c.toNat / 16) :: Nat.digitChar (c.toNat % 16) :: word)
      (c :: text) := by
  have code : c.toNat / 16 * 16 + c.toNat % 16 = c.toNat := Nat.div_add_mod' c.toNat 16
  have digits := @hexCode?_digits (c.toNat / 16) (c.toNat % 16) (by omega) (by omega)
  have notTrailing : isTrailingSurrogate c.toNat = false := by
    rw [isTrailingSurrogate, Bool.and_eq_false_iff]
    exact Or.inl (decide_eq_false (by omega))
  have notLeading : isLeadingSurrogate c.toNat = false := by
    rw [isLeadingSurrogate, Bool.and_eq_false_iff]
    exact Or.inl (decide_eq_false (by omega))
  rw [code] at digits
  have spells := Spells.code digits notTrailing notLeading others
  rwa [Char.ofNat_toNat] at spells

theorem spells_writtenChar (others : Spells word text) : Spells (writtenChar c ++ word) (c :: text) := by
  unfold writtenChar
  iterate 7
    split
    · next h =>
      subst h
      exact .letter rfl others
  split
  · next control => exact spells_control control others
  · next quote backslash _ _ _ _ _ visible =>
    have notControl : isControl c = false := decide_eq_false fun low => visible (UInt32.lt_iff_toNat_lt.mp low)
    exact .plain ⟨quote, backslash, notControl⟩ others

/-- A text is written as a spelling of it. -/
theorem spells_written (text : List Char) : Spells (text.flatMap writtenChar) text := by
  induction text with
  | nil => exact .nil
  | cons c text ih =>
    rw [List.flatMap_cons]
    exact spells_writtenChar ih

end

end ErDiagram.Json
