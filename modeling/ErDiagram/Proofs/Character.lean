import ErDiagram.Name
import Mathlib.Data.List.DropRight

/-! Characters and runs of characters. No character of an identifier is blank, and none separates the parts of a
    statement, so a word of a header ends where the writer ended it. A reader takes the longest run of a kind:
    the text after the run starts outside the kind, and that fixes where the run ends. -/

namespace ErDiagram
open Character

/-! ### Kinds of characters -/

theorem isAlphanumeric_eq_false_of_isBlank {c : Char} (h : isBlank c = true) : isAlphanumeric c = false := by
  simp only [isBlank, isSpacing, Bool.or_eq_true, Bool.and_eq_true, decide_eq_true_eq, or_assoc] at h
  rcases h with rfl | rfl | rfl | rfl | rfl | rfl | rfl | rfl | rfl | ⟨low, high⟩ | rfl | rfl | rfl | rfl | rfl
  case inr.inr.inr.inr.inr.inr.inr.inr.inr.inl =>
    -- The eleven spaces of different widths stand in a row.
    have low : 0x2000 ≤ c.toNat := UInt32.le_iff_toNat_le.mp low
    have high : c.toNat ≤ 0x200a := UInt32.le_iff_toNat_le.mp high
    have none : ∀ n < 11, alphanumericRanges.contains (0x2000 + n) = false := by decide +kernel
    have this := none (c.toNat - 0x2000) (by omega)
    rwa [Nat.add_sub_cancel' low] at this
  all_goals decide +kernel

theorem isBlank_eq_false_of_isIdentifierChar {c : Char} (h : isIdentifierChar c = true) : isBlank c = false := by
  cases blank : isBlank c with
  | false => rfl
  | true =>
    simp only [isIdentifierChar, isAlphanumeric_eq_false_of_isBlank blank, Bool.false_or, Bool.or_eq_true,
      decide_eq_true_eq] at h
    rcases h with rfl | rfl <;> exact absurd blank (by decide)

theorem isIdentifierChar_eq_false_of_isBlank {c : Char} (h : isBlank c = true) : isIdentifierChar c = false :=
  Bool.eq_false_iff.mpr fun identifier => by simp [isBlank_eq_false_of_isIdentifierChar identifier] at h

theorem isSpacing_eq_false_of_isBlank_eq_false {c : Char} (h : isBlank c = false) : isSpacing c = false := by
  cases spacing : isSpacing c with
  | false => rfl
  | true => rw [isBlank_of_isSpacing spacing] at h; cases h

theorem isSpacing_eq_false_of_isIdentifierChar {c : Char} (h : isIdentifierChar c = true) : isSpacing c = false :=
  isSpacing_eq_false_of_isBlank_eq_false (isBlank_eq_false_of_isIdentifierChar h)

/-- The characters that give a statement its form are no characters of identifiers. -/
theorem isIdentifierChar_eq_false {c : Char} (h : c ∈ ['.', ',', ';', ':', '(', ')', '{', '}', ' ', '\n']) :
    isIdentifierChar c = false := by
  simp only [List.mem_cons, List.not_mem_nil, or_false] at h
  rcases h with rfl | rfl | rfl | rfl | rfl | rfl | rfl | rfl | rfl | rfl
  all_goals decide +kernel

theorem endsStatement_eq_false_of_isIdentifierChar {c : Char} (h : isIdentifierChar c = true) :
    endsStatement c = false := by
  cases ends : endsStatement c with
  | false => rfl
  | true =>
    simp only [endsStatement, Bool.or_eq_true, decide_eq_true_eq] at ends
    rcases ends with rfl | rfl <;> rw [isIdentifierChar_eq_false (by simp)] at h <;> cases h

theorem endsStatement_eq_false_iff {c : Char} : endsStatement c = false ↔ c ≠ ';' ∧ c ≠ ':' := by
  rw [endsStatement, Bool.or_eq_false_iff, decide_eq_false_iff_not, decide_eq_false_iff_not]

theorem toList_ne_nil {name : String} (h : name ≠ "") : name.toList ≠ [] := by simpa using h

/-! ### Runs -/

/-- The text does not start with a character of the kind: it is empty, or another character comes first. -/
def StartsOutside (p : Char → Bool) (s : List Char) : Prop := ∀ c ∈ s.head?, p c = false

variable {p : Char → Bool} {s t u v : List Char} {c : Char}

@[simp] theorem startsOutside_nil : StartsOutside p [] := by simp [StartsOutside]

@[simp] theorem startsOutside_cons : StartsOutside p (c :: s) ↔ p c = false := by simp [StartsOutside]

theorem startsOutside_append (h : StartsOutside p s) (ne : s ≠ []) : StartsOutside p (s ++ t) := by
  cases s with
  | nil => exact absurd rfl ne
  | cons c s => simpa using h

theorem StartsOutside.of_append (h : StartsOutside p (s ++ t)) : StartsOutside p s := by
  cases s with
  | nil => simp
  | cons c s => simpa using h

theorem startsOutside_dropWhile (p : Char → Bool) (s : List Char) : StartsOutside p (s.dropWhile p) := by
  induction s with
  | nil => simp
  | cons c s ih =>
    rw [List.dropWhile_cons]
    split
    · exact ih
    · next other => simpa using other

theorem takeWhile_append_of_startsOutside (run : ∀ c ∈ s, p c = true) (rest : StartsOutside p t) :
    (s ++ t).takeWhile p = s := by
  rw [List.takeWhile_append_of_pos run]
  cases t with
  | nil => simp
  | cons c t => simp [startsOutside_cons.mp rest]

theorem dropWhile_append_of_startsOutside (run : ∀ c ∈ s, p c = true) (rest : StartsOutside p t) :
    (s ++ t).dropWhile p = t := by
  rw [List.dropWhile_append_of_pos run]
  cases t with
  | nil => rfl
  | cons c t => simp [startsOutside_cons.mp rest]

theorem dropWhile_eq_self_of_startsOutside (h : StartsOutside p s) : s.dropWhile p = s :=
  dropWhile_append_of_startsOutside (s := []) (by simp) h

/-- There is one way to cut a text after a longest run. -/
theorem run_unique (h : s ++ t = u ++ v) (hs : ∀ c ∈ s, p c = true) (ht : StartsOutside p t)
    (hu : ∀ c ∈ u, p c = true) (hv : StartsOutside p v) : s = u ∧ t = v := by
  constructor
  · rw [← takeWhile_append_of_startsOutside hs ht, h, takeWhile_append_of_startsOutside hu hv]
  · rw [← dropWhile_append_of_startsOutside hs ht, h, dropWhile_append_of_startsOutside hu hv]

theorem of_mem_takeWhile (h : c ∈ s.takeWhile p) : p c = true :=
  List.all_eq_true.mp List.all_takeWhile c h

theorem skipSpacing_append (spacing : ∀ c ∈ s, isSpacing c = true) (rest : StartsOutside isSpacing t) :
    skipSpacing (s ++ t) = t :=
  dropWhile_append_of_startsOutside spacing rest

theorem skipSpacing_eq_self (h : StartsOutside isSpacing s) : skipSpacing s = s :=
  dropWhile_eq_self_of_startsOutside h

theorem startsOutside_skipSpacing (s : List Char) : StartsOutside isSpacing (skipSpacing s) :=
  startsOutside_dropWhile isSpacing s

theorem exists_spacing_append_skipSpacing (s : List Char) :
    ∃ space, s = space ++ skipSpacing s ∧ ∀ c ∈ space, isSpacing c = true :=
  ⟨s.takeWhile isSpacing, List.takeWhile_append_dropWhile.symm, fun _ => of_mem_takeWhile⟩

/-! ### Trimming -/

theorem trimEnd_append_singleton (s : List Char) (c : Char) :
    trimEnd (s ++ [c]) = if isBlank c then trimEnd s else s ++ [c] := by
  induction s with
  | nil => simp [trimEnd]
  | cons a s ih =>
    rw [List.cons_append, trimEnd, ih]
    by_cases h : isBlank c = true
    · simp only [h, ↓reduceIte, trimEnd]
    · simp [h]

theorem trimEnd_eq_rdropWhile (s : List Char) : trimEnd s = s.rdropWhile isBlank := by
  induction s using List.reverseRecOn with
  | nil => rfl
  | append_singleton s c ih => rw [trimEnd_append_singleton, List.rdropWhile_concat, ih]

@[simp] theorem trimEnd_trimEnd (s : List Char) : trimEnd (trimEnd s) = trimEnd s := by
  simp only [trimEnd_eq_rdropWhile, List.rdropWhile_idempotent]

/-- Only blanks are cut off. -/
theorem exists_trimEnd_append (s : List Char) : ∃ b, s = trimEnd s ++ b ∧ ∀ c ∈ b, isBlank c = true := by
  rw [trimEnd_eq_rdropWhile]
  exact ⟨s.rtakeWhile isBlank, (List.rdropWhile_append_rtakeWhile).symm, fun _ => List.mem_rtakeWhile_imp⟩

/-- Nothing is cut off where the last character is not blank. -/
theorem trimEnd_eq_self_iff : trimEnd s = s ↔ ∀ c ∈ s.getLast?, isBlank c = false := by
  rw [trimEnd_eq_rdropWhile, List.rdropWhile_eq_self_iff]
  constructor
  · intro last c hc
    obtain ⟨ne, rfl⟩ := List.mem_getLast?_eq_getLast hc
    exact Bool.eq_false_iff.mpr (last ne)
  · intro last ne
    exact Bool.eq_false_iff.mp (last _ (List.getLast_mem_getLast? ne))

/-- A text without blanks at its end keeps having none when it grows at its start. -/
theorem trimEnd_cons (h : trimEnd s = s) (hc : s ≠ [] ∨ isBlank c = false) : trimEnd (c :: s) = c :: s := by
  rw [trimEnd, h]
  cases s with
  | nil => simp [hc.resolve_left (by simp)]
  | cons a s => rfl

theorem trimEnd_of_cons (h : trimEnd (c :: s) = c :: s) : trimEnd s = s := by
  rw [trimEnd] at h
  split at h
  · next none =>
    split at h
    · cases h
    · cases h
      exact none
  · exact (List.cons.inj h).2

theorem trim_eq_self_iff : trim s = s ↔ StartsOutside isBlank s ∧ trimEnd s = s := by
  constructor
  · intro h
    have start : trimStart s = s := by
      refine (List.dropWhile_suffix isBlank).eq_of_length_le ?_
      obtain ⟨b, split, -⟩ := exists_trimEnd_append (trimStart s)
      have split := congrArg List.length split
      rw [List.length_append, ← trim, h, trimStart] at split
      omega
    refine ⟨?_, by rwa [trim, start] at h⟩
    rw [← start]
    exact startsOutside_dropWhile isBlank s
  · rintro ⟨start, last⟩
    rw [trim, trimStart, dropWhile_eq_self_of_startsOutside start, last]

end ErDiagram
