import ErDiagram.Json.Skip
import ErDiagram.Proofs.Json.Value

/-! What is skipped. A value of any sort and depth is skipped exactly, wherever it stands: what is left is what follows
    it. -/

namespace ErDiagram.Json
open Character

/-! ### Skipping numbers -/

/-- What a number could go on with. -/
def continuesNumber (c : Char) : Bool := isDigit c || c = '.' || c = 'e' || c = 'E'

section
variable {c : Char} {digits integer fraction exponent number s rest : List Char}

theorem EndsValue.stopsNumber (h : EndsValue rest) : StartsOutside continuesNumber rest := by
  intro c first
  rcases h c first with spacing | ends
  · simp only [isSpacing, Bool.or_eq_true, decide_eq_true_eq, or_assoc] at spacing
    rcases spacing with rfl | rfl | rfl | rfl <;> rfl
  · simp only [List.mem_cons, List.not_mem_nil, or_false] at ends
    rcases ends with rfl | rfl | rfl <;> rfl

theorem startsOutside_isDigit (h : StartsOutside continuesNumber rest) : StartsOutside isDigit rest := by
  intro c first
  have stops := h c first
  simp only [continuesNumber, Bool.or_eq_false_iff] at stops
  exact stops.1.1.1

theorem startsWithDigit_eq_false (h : StartsOutside isDigit s) : startsWithDigit s = false := by
  rw [startsWithDigit]
  cases first : s.head? with
  | none => rfl
  | some c => exact h c first

theorem IsDigits.startsWithDigit (h : IsDigits digits) (rest : List Char) :
    startsWithDigit (digits ++ rest) = true := by
  obtain ⟨c, others, rfl⟩ := List.exists_cons_of_ne_nil h.ne_nil
  exact h.isDigit c List.mem_cons_self

theorem IsDigits.skipDigits (h : IsDigits digits) (stops : StartsOutside Json.isDigit rest) :
    skipDigits (digits ++ rest) = rest :=
  dropWhile_append_of_startsOutside h.isDigit stops

theorem IsDigits.ne_cons (h : IsDigits digits) (other : Json.isDigit c = false) (rest more : List Char) :
    digits ++ rest ≠ c :: more := by
  obtain ⟨d, others, rfl⟩ := List.exists_cons_of_ne_nil h.ne_nil
  intro whole
  rw [← (List.cons.inj whole).1, h.isDigit d List.mem_cons_self] at other
  cases other

theorem IsExponent.skip (h : IsExponent exponent) (stops : StartsOutside continuesNumber rest) :
    skipExponentOrEnd (exponent ++ rest) = .ok rest := by
  cases h with
  | none =>
    rw [List.nil_append, skipExponentOrEnd]
    · rintro s rfl
      cases startsOutside_cons.mp stops
    · rintro s rfl
      cases startsOutside_cons.mp stops
  | @digits e sign digits letter signed isDigits =>
    have skipped : (if Json.startsWithDigit (digits ++ rest) then Except.ok (Json.skipDigits (digits ++ rest))
        else Except.error (Fault.next .badNumber (digits ++ rest))) = .ok rest := by
      rw [isDigits.startsWithDigit, isDigits.skipDigits (startsOutside_isDigit stops)]
      rfl
    have marked : skipExponentOrEnd (e :: (sign ++ digits) ++ rest) = skipExponent (sign ++ (digits ++ rest)) := by
      simp only [List.mem_cons, List.not_mem_nil, or_false] at letter
      rw [List.cons_append, List.append_assoc]
      rcases letter with rfl | rfl <;> rfl
    rw [marked]
    simp only [List.mem_cons, List.not_mem_nil, or_false] at signed
    rcases signed with rfl | rfl | rfl
    · rw [List.nil_append]
      unfold skipExponent
      split
      · next same => exact absurd same (isDigits.ne_cons rfl _ _)
      · next same => exact absurd same (isDigits.ne_cons rfl _ _)
      · exact skipped
    · exact skipped
    · exact skipped

theorem IsExponent.startsOutside (h : IsExponent exponent) (stops : StartsOutside continuesNumber rest) :
    StartsOutside (fun c => isDigit c || c = '.') (exponent ++ rest) := by
  cases h with
  | none =>
    intro c first
    have stops := stops c first
    simp only [continuesNumber, Bool.or_eq_false_iff] at stops ⊢
    exact stops.1.1
  | digits letter =>
    simp only [List.mem_cons, List.not_mem_nil, or_false] at letter
    rw [List.cons_append, startsOutside_cons]
    rcases letter with rfl | rfl <;> rfl

theorem IsFraction.skip (h : IsFraction fraction) (isExponent : IsExponent exponent)
    (stops : StartsOutside continuesNumber rest) : skipNumber.tail (fraction ++ (exponent ++ rest)) = .ok rest := by
  have outside := isExponent.startsOutside stops
  cases h with
  | none =>
    rw [List.nil_append, skipNumber.tail]
    · exact isExponent.skip stops
    · intro s same
      rw [same] at outside
      cases startsOutside_cons.mp outside
  | digits isDigits =>
    have noDigit : StartsOutside isDigit (exponent ++ rest) := fun c first =>
      (Bool.or_eq_false_iff.mp (outside c first)).1
    rw [List.cons_append, skipNumber.tail]
    simp only [isDigits.startsWithDigit, isDigits.skipDigits noDigit, ↓reduceIte]
    exact isExponent.skip stops

theorem IsFraction.startsOutside (h : IsFraction fraction) (isExponent : IsExponent exponent)
    (stops : StartsOutside continuesNumber rest) : StartsOutside isDigit (fraction ++ (exponent ++ rest)) := by
  cases h with
  | none => exact fun c first => (Bool.or_eq_false_iff.mp (isExponent.startsOutside stops c first)).1
  | digits => exact startsOutside_cons.mpr rfl

theorem IsInteger.skip (h : IsInteger integer) (isFraction : IsFraction fraction) (isExponent : IsExponent exponent)
    (stops : StartsOutside continuesNumber rest) :
    skipNumber (integer ++ (fraction ++ (exponent ++ rest))) = .ok rest := by
  have outside := isFraction.startsOutside isExponent stops
  have follows := isFraction.skip isExponent stops
  cases h with
  | zero =>
    rw [List.singleton_append, skipNumber, startsWithDigit_eq_false outside]
    exact follows
  | digits isDigits noZero =>
    rw [skipNumber]
    · simp only [isDigits.startsWithDigit, isDigits.skipDigits outside, ↓reduceIte]
      exact follows
    · intro more same
      obtain ⟨d, others, rfl⟩ := List.exists_cons_of_ne_nil isDigits.ne_nil
      exact noZero (congrArg some (List.cons.inj same).1)

theorem IsInteger.starts (h : IsInteger integer) : ∃ c s, integer = c :: s ∧ isDigit c = true := by
  cases h with
  | zero => exact ⟨'0', [], rfl, rfl⟩
  | digits isDigits =>
    obtain ⟨c, others, rfl⟩ := List.exists_cons_of_ne_nil isDigits.ne_nil
    exact ⟨c, others, rfl, isDigits.isDigit c List.mem_cons_self⟩

theorem skipScalar_digit (digit : isDigit c = true) : skipScalar c s = skipNumber (c :: s) := by
  have other : ∀ d, isDigit d = false → c ≠ d := by
    rintro d noDigit rfl
    rw [digit] at noDigit
    cases noDigit
  rw [skipScalar, if_neg (other 'n' rfl), if_neg (other 't' rfl), if_neg (other 'f' rfl), if_neg (other '-' rfl),
    if_pos digit]

/-- A number starts with its sign or a digit, and is skipped as the scalar that it is. -/
theorem IsNumber.exists_cons (h : IsNumber number) : ∃ c s, number = c :: s ∧ (c = '-' ∨ isDigit c = true) ∧
    ∀ rest, StartsOutside continuesNumber rest → skipScalar c (s ++ rest) = .ok rest := by
  cases h with
  | @number sign integer fraction exponent signed isInteger isFraction isExponent =>
    simp only [List.mem_cons, List.not_mem_nil, or_false] at signed
    rcases signed with rfl | rfl
    · obtain ⟨d, others, rfl, digit⟩ := isInteger.starts
      refine ⟨d, others ++ (fraction ++ exponent), rfl, Or.inr digit, fun rest stops => ?_⟩
      rw [skipScalar_digit digit, List.append_assoc, List.append_assoc]
      exact isInteger.skip isFraction isExponent stops
    · refine ⟨'-', integer ++ (fraction ++ exponent), rfl, Or.inl rfl, fun rest stops => ?_⟩
      rw [List.append_assoc, List.append_assoc]
      exact isInteger.skip isFraction isExponent stops

end

/-! ### Starts of values -/

theorem isSpacing_eq_false_of_isDigit {c : Char} (digit : isDigit c = true) : isSpacing c = false := by
  by_contra spacing
  rw [Bool.not_eq_false, isSpacing] at spacing
  simp only [Bool.or_eq_true, decide_eq_true_eq, or_assoc] at spacing
  rcases spacing with rfl | rfl | rfl | rfl <;> cases digit

/-- A value starts neither with spacing nor as what may follow a value. -/
theorem IsValue.startsValue {t : List Char} (h : IsValue t) : StartsValue t := by
  cases h with
  | null | isTrue | isFalse | string | array | object => exact startsValue_cons rfl (by decide)
  | number isNumber =>
    obtain ⟨c, s, rfl, digit | digit, -⟩ := isNumber.exists_cons
    · subst digit
      exact startsValue_cons rfl (by decide)
    · refine startsValue_cons (isSpacing_eq_false_of_isDigit digit) fun ends => ?_
      simp only [List.mem_cons, List.not_mem_nil, or_false] at ends
      rcases ends with rfl | rfl | rfl <;> cases digit

section
variable {c : Char} {text left rest s : List Char}

theorem StartsValue.exists_cons (h : StartsValue text) (starts : text ++ rest = c :: left) :
    ∃ s, text = c :: s ∧ left = s ++ rest := by
  obtain ⟨d, first, -⟩ := h
  obtain ⟨s, rfl⟩ := List.head?_eq_some_iff.mp first
  obtain ⟨rfl, rfl⟩ := List.cons.inj starts
  exact ⟨s, rfl, rfl⟩

theorem IsNumber.first (h : IsNumber (c :: s)) : c = '-' ∨ isDigit c = true := by
  obtain ⟨d, others, whole, starts, -⟩ := h.exists_cons
  obtain ⟨rfl, -⟩ := List.cons.inj whole
  exact starts

/-- Only null starts as null does. -/
theorem IsValue.of_null (h : IsValue text) (starts : text ++ rest = 'n' :: left) : text = ['n', 'u', 'l', 'l'] := by
  obtain ⟨s, rfl, rfl⟩ := h.startsValue.exists_cons starts
  cases h with
  | null => rfl
  | number isNumber => rcases isNumber.first with first | first <;> cases first

theorem IsValue.of_quote (h : IsValue text) (starts : text ++ rest = '"' :: left) :
    ∃ word, text = '"' :: (word ++ ['"']) ∧ left = word ++ '"' :: rest ∧ IsSpelling word := by
  obtain ⟨s, rfl, rfl⟩ := h.startsValue.exists_cons starts
  cases h with
  | number isNumber => rcases isNumber.first with first | first <;> cases first
  | @string word spelling => exact ⟨word, rfl, by rw [List.append_assoc, List.singleton_append], spelling⟩

theorem IsValue.of_bracket (h : IsValue text) (starts : text ++ rest = '[' :: left) :
    ∃ ts s, text = '[' :: s ∧ left = s ++ rest ∧ ListText true ts s ∧ ∀ t ∈ ts, IsValue t := by
  obtain ⟨s, rfl, rfl⟩ := h.startsValue.exists_cons starts
  cases h with
  | number isNumber => rcases isNumber.first with first | first <;> cases first
  | array text items => exact ⟨_, s, rfl, rfl, text, items⟩

theorem IsValue.of_brace (h : IsValue text) (starts : text ++ rest = '{' :: left) :
    ∃ members s, text = '{' :: s ∧ left = s ++ rest ∧ ObjectText true members s ∧ ∀ m ∈ members, IsValue m.2 := by
  obtain ⟨s, rfl, rfl⟩ := h.startsValue.exists_cons starts
  cases h with
  | number isNumber => rcases isNumber.first with first | first <;> cases first
  | object text values => exact ⟨_, s, rfl, rfl, text, values⟩

end

/-! ### Skipping values -/

section
variable {bracket : Bracket} {opened : List Bracket} {c : Char} {s rest more : List Char}

/-- A value in the terms of what follows its first character. -/
theorem skip_value_eq (starts : skipSpacing s = c :: rest) : skip .value opened s =
    match Bracket.opening? c with
    | some bracket =>
      match skipSpacing rest with
      | [] => .error (.next bracket.ended [])
      | c :: after =>
        if c = bracket.closing then skip .next opened after else skip bracket.item (bracket :: opened) rest
    | none =>
      match skipScalar c rest with
      | .error fault => .error fault
      | .ok rest => skip .next opened rest := by
  rw [skip]
  generalize skipSpacing s = start at starts ⊢
  subst starts
  dsimp only
  generalize Bracket.opening? c = opening
  cases opening with
  | none =>
    dsimp only
    generalize skipScalar c rest = scalar
    cases scalar <;> rfl
  | some bracket =>
    dsimp only
    generalize skipSpacing rest = inside
    cases inside <;> rfl

theorem skip_next_eq (starts : skipSpacing s = c :: rest) : skip .next (bracket :: opened) s =
    if c = bracket.closing then skip .next opened rest
    else if c = ',' then skip bracket.item (bracket :: opened) rest
    else .error (.next bracket.notEnded (c :: rest)) := by
  rw [skip]
  generalize skipSpacing s = start at starts ⊢
  subst starts
  rfl

theorem skip_name (named : skipName s = .ok rest) : skip .name opened s = skip .value opened rest := by
  conv_lhs => rw [skip]
  generalize skipName s = start at named ⊢
  subst named
  rfl

end

/-- The text is skipped where a value is due, after any spacing and before the end of a value. -/
def Skips (t : List Char) : Prop := ∀ {space : List Char} (opened : List Bracket) (rest : List Char),
  (∀ c ∈ space, isSpacing c = true) → EndsValue rest →
    skip .value opened (space ++ (t ++ rest)) = skip .next opened rest

section
variable {ts : List (List Char)} {members : List (List Char × List Char)} {word value m space s t rest : List Char}
  {c : Char}

/-- The items of an array are skipped one after the other. -/
theorem ListText.skip {first : Bool} (h : ListText first ts s) (opened : List Bracket) (rest : List Char)
    (items : ∀ t ∈ ts, StartsValue t ∧ Skips t) (later : first = false) :
    skip .next (.list :: opened) (s ++ rest) = skip .next opened rest := by
  induction h with
  | ended spacing =>
    rw [List.append_assoc, List.singleton_append, skip_next_eq (skipSpacing_cons spacing rfl)]
    rfl
  | first => cases later
  | next spacing spacing' others ih =>
    rw [List.forall_mem_cons] at items
    rw [List.append_assoc, List.cons_append, List.append_assoc, List.append_assoc,
      skip_next_eq (skipSpacing_cons spacing rfl)]
    exact (items.1.2 _ _ spacing' (others.endsValue rest)).trans (ih items.2 rfl)

theorem ListText.skips (h : ListText true ts s) (items : ∀ t ∈ ts, StartsValue t ∧ Skips t) : Skips ('[' :: s) := by
  intro space opened rest spacing ends
  rw [List.cons_append, skip_value_eq (skipSpacing_cons spacing rfl)]
  have bracket : Bracket.opening? '[' = some .list := rfl
  rw [bracket]
  dsimp only
  cases h with
  | ended spacing =>
    rw [List.append_assoc, List.singleton_append, skipSpacing_cons spacing rfl]
    rfl
  | @first space t s ts spacing others =>
    rw [List.forall_mem_cons] at items
    rw [List.append_assoc, List.append_assoc, items.1.1.skipSpacing spacing]
    obtain ⟨⟨c, first, -, item⟩, skips⟩ := items.1
    obtain ⟨tail, rfl⟩ := List.head?_eq_some_iff.mp first
    have open' : c ≠ Bracket.list.closing := fun closes => item (by simp [closes, Bracket.closing])
    rw [List.cons_append]
    dsimp only
    rw [if_neg open', ← List.cons_append]
    exact (skips _ _ spacing (others.endsValue rest)).trans (others.skip opened rest items.2 rfl)

/-- A member is skipped with its name. -/
theorem MemberText.skip (h : MemberText word value m) (skips : Skips value) (opened : List Bracket)
    (spacing : ∀ c ∈ space, isSpacing c = true) (ends : EndsValue rest) :
    skip .name opened (space ++ '"' :: (m ++ rest)) = skip .next opened rest := by
  cases h with
  | @spelt colon after spelling spacing' spacing'' =>
    have named : skipName (space ++ '"' :: ((word ++ '"' :: (colon ++ ':' :: (after ++ value))) ++ rest)) =
        .ok (after ++ (value ++ rest)) := by
      have skipped := spelling.skipCharacters (colon ++ ':' :: (after ++ (value ++ rest)))
      have coloned : skipSpacing (colon ++ ':' :: (after ++ (value ++ rest))) = ':' :: (after ++ (value ++ rest)) :=
        skipSpacing_cons spacing' rfl
      rw [skipName, skipSpacing_cons spacing rfl]
      simp only [List.append_assoc, List.cons_append, skipped, coloned]
    rw [skip_name named]
    exact skips opened rest spacing'' ends

/-- The members of an object are skipped one after the other. -/
theorem ObjectText.skip {first : Bool} (h : ObjectText first members s) (opened : List Bracket) (rest : List Char)
    (values : ∀ m ∈ members, Skips m.2) (later : first = false) :
    skip .next (.object :: opened) (s ++ rest) = skip .next opened rest := by
  induction h with
  | ended spacing =>
    rw [List.append_assoc, List.singleton_append, skip_next_eq (skipSpacing_cons spacing rfl)]
    rfl
  | first => cases later
  | next spacing spacing' text others ih =>
    rw [List.forall_mem_cons] at values
    rw [List.append_assoc, List.cons_append, List.append_assoc, List.cons_append, List.append_assoc,
      skip_next_eq (skipSpacing_cons spacing rfl)]
    exact (text.skip values.1 _ spacing' (others.endsValue rest)).trans (ih values.2 rfl)

theorem ObjectText.skips (h : ObjectText true members s) (values : ∀ m ∈ members, Skips m.2) : Skips ('{' :: s) := by
  intro space opened rest spacing ends
  have bracket : Bracket.opening? '{' = some .object := rfl
  rw [List.cons_append, skip_value_eq (skipSpacing_cons spacing rfl), bracket]
  dsimp only
  cases h with
  | ended spacing =>
    rw [List.append_assoc, List.singleton_append, skipSpacing_cons spacing rfl]
    rfl
  | @first space word value m s members spacing text others =>
    rw [List.forall_mem_cons] at values
    rw [List.append_assoc, List.cons_append, List.append_assoc, skipSpacing_cons spacing rfl]
    exact (text.skip values.1 _ spacing (others.endsValue rest)).trans (others.skip opened rest values.2 rfl)

theorem skips_scalar (outside : isSpacing c = false) (scalar : Bracket.opening? c = none)
    (skipped : ∀ rest, EndsValue rest → skipScalar c (s ++ rest) = .ok rest) : Skips (c :: s) := by
  intro space opened rest spacing ends
  rw [List.cons_append, skip_value_eq (skipSpacing_cons spacing outside), scalar]
  simp only [skipped rest ends]

theorem opening?_eq_none_of_isDigit (digit : isDigit c = true) : Bracket.opening? c = none := by
  rw [Bracket.opening?, if_neg, if_neg]
  · rintro rfl
    cases digit
  · rintro rfl
    cases digit

/-- Every value is skipped, at any depth. -/
theorem IsValue.skips (h : IsValue t) : Skips t := by
  induction h with
  | null | isTrue | isFalse =>
    refine skips_scalar rfl rfl fun rest _ => ?_
    exact wordTail_eq_ok_iff.mpr rfl
  | number isNumber =>
    obtain ⟨c, s, rfl, rfl | digit, skipped⟩ := isNumber.exists_cons
    · exact skips_scalar rfl rfl fun rest ends => skipped rest ends.stopsNumber
    · exact skips_scalar (isSpacing_eq_false_of_isDigit digit) (opening?_eq_none_of_isDigit digit)
        fun rest ends => skipped rest ends.stopsNumber
  | string spelling =>
    refine skips_scalar rfl rfl fun rest _ => ?_
    rw [List.append_assoc]
    exact spelling.skipCharacters rest
  | array text items ih => exact text.skips fun t member => ⟨(items t member).startsValue, ih t member⟩
  | object text values ih => exact text.skips ih

/-- Exactly one value is skipped. -/
theorem IsValue.skipValue (h : IsValue t) (spacing : ∀ c ∈ space, isSpacing c = true) (ends : EndsValue rest) :
    skipValue (space ++ (t ++ rest)) = .ok rest := by
  rw [Json.skipValue, h.skips [] rest spacing ends, Json.skip]

end

end ErDiagram.Json
