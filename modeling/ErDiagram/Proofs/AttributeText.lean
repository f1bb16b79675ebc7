import ErDiagram.Document.AttributeText
import ErDiagram.Proofs.Character

/-! Attribute texts. What the scanner of attributes takes is a row of closed value lists and of characters that end
    no attribute, and it stops only where no such row goes on. Read the other way, a row of that kind is taken as
    a whole whatever follows it, so a list of such texts with commas between them is read back text by text. -/

namespace ErDiagram
open Character Document

/-! ### Closed texts -/

/-- Text made of closed value lists and of characters that neither open a list nor end an attribute. -/
inductive Closed : List Char → Prop where
  | nil : Closed []
  | char {c : Char} {s : List Char} (other : c ≠ '(') (inside : endsAttribute c = false) (tail : Closed s) :
    Closed (c :: s)
  | list {values s : List Char} (values_open : ')' ∉ values) (tail : Closed s) :
    Closed ('(' :: (values ++ ')' :: s))

namespace Closed
variable {c : Char} {s t b : List Char}

theorem append (hs : Closed s) (ht : Closed t) : Closed (s ++ t) := by
  induction hs with
  | nil => exact ht
  | char other inside _ ih => exact .char other inside ih
  | @list values s values_open _ ih =>
    rw [List.cons_append, List.append_assoc, List.cons_append]
    exact .list values_open ih

theorem of_cons (h : Closed (c :: s)) (other : c ≠ '(') : Closed s := by
  cases h with
  | char _ _ tail => exact tail
  | list => exact absurd rfl other

/-- A list may hold one more character, unless that closes it. -/
theorem widen (h : Closed ('(' :: s)) (other : c ≠ ')') : Closed ('(' :: c :: s) := by
  cases h with
  | char opening => exact absurd rfl opening
  | @list values s values_open tail =>
    exact @Closed.list (c :: values) s (by simp [values_open, other.symm]) tail

/-- The part before an end without closing parentheses is closed: no list reaches into that end. -/
theorem of_append (h : Closed (s ++ b)) (plain : ')' ∉ b) : Closed s := by
  generalize whole : s ++ b = u at h
  induction h generalizing s with
  | nil =>
    obtain ⟨rfl, -⟩ := List.append_eq_nil_iff.mp whole
    exact .nil
  | char other inside _ ih =>
    cases s with
    | nil => exact .nil
    | cons a s =>
      obtain ⟨rfl, tails⟩ := List.cons.inj whole
      exact .char other inside (ih tails)
  | list values_open _ ih =>
    cases s with
    | nil => exact .nil
    | cons a s =>
      obtain ⟨rfl, tails⟩ := List.cons.inj whole
      rcases List.append_eq_append_iff.mp tails with ⟨x, -, rest⟩ | ⟨x, rfl, rest⟩
      · exact absurd (rest ▸ List.mem_append_right x List.mem_cons_self) plain
      · cases x with
        | nil =>
          rw [List.nil_append] at rest
          exact absurd (rest ▸ List.mem_cons_self) plain
        | cons d x =>
          obtain ⟨rfl, below⟩ := List.cons.inj rest
          exact .list values_open (ih below.symm)

theorem trimEnd (h : Closed s) : Closed (trimEnd s) := by
  obtain ⟨b, split, blank⟩ := exists_trimEnd_append s
  rw [split] at h
  exact h.of_append fun closing => absurd (blank _ closing) (by decide)

end Closed

/-- A closed text as the flag sees it: inside a list, the opening parenthesis has been passed. -/
theorem closed_of_hasClosedLists {inList : Bool} {s : List Char} (h : hasClosedLists inList s = true) :
    Closed (if inList then '(' :: s else s) ∧ ∀ c ∈ s, endsStatement c = false := by
  fun_induction hasClosedLists inList s with
  | case1 inList =>
    cases inList with
    | false => exact ⟨.nil, by simp⟩
    | true => cases h
  | case2 => cases h
  | case3 c s quiet ih =>
    obtain ⟨tail, quiets⟩ := ih h
    refine ⟨?_, by simpa [quiet] using quiets⟩
    by_cases closes : c = ')'
    · subst closes
      exact @Closed.list [] _ (by simp) (by simpa using tail)
    · simp only [ne_eq, closes, not_false_eq_true, decide_true, ↓reduceIte] at tail
      exact tail.widen closes
  | case4 inList s outside quiet ih =>
    rw [Bool.not_eq_true] at outside quiet
    subst outside
    obtain ⟨tail, quiets⟩ := ih h
    exact ⟨tail, by simpa [quiet] using quiets⟩
  | case5 inList c s quiet outside other ih =>
    rw [Bool.not_eq_true] at outside quiet
    rw [Bool.and_eq_true] at h
    subst outside
    obtain ⟨tail, quiets⟩ := ih h.2
    exact ⟨.char other (by simpa using h.1) tail, by simpa [quiet] using quiets⟩

theorem hasClosedLists_values {values rest : List Char} (values_open : ')' ∉ values)
    (quiet : ∀ c ∈ values, endsStatement c = false) :
    hasClosedLists true (values ++ ')' :: rest) = hasClosedLists false rest := by
  induction values with
  | nil => rfl
  | cons c values ih =>
    rw [List.mem_cons, not_or] at values_open
    rw [List.cons_append, hasClosedLists, quiet c List.mem_cons_self]
    simp only [Bool.false_eq_true, ↓reduceIte, ne_eq, Ne.symm values_open.1, not_false_eq_true, decide_true]
    exact ih values_open.2 fun a ha => quiet a (List.mem_cons_of_mem _ ha)

theorem Closed.hasClosedLists {s : List Char} (h : Closed s) (quiet : ∀ c ∈ s, endsStatement c = false) :
    hasClosedLists false s = true := by
  induction h with
  | nil => rfl
  | char other inside _ ih =>
    rw [List.forall_mem_cons] at quiet
    simp [ErDiagram.hasClosedLists, quiet.1, other, inside, ih quiet.2]
  | list values_open _ ih =>
    rw [List.forall_mem_cons, List.forall_mem_append, List.forall_mem_cons] at quiet
    obtain ⟨opening, values, -, tail⟩ := quiet
    rw [ErDiagram.hasClosedLists, opening]
    simp only [Bool.false_eq_true, ↓reduceIte]
    rw [hasClosedLists_values values_open values, ih tail]

/-- The check on names asks for a closed text without `;` and `:`. -/
theorem hasClosedLists_iff {s : List Char} :
    hasClosedLists false s = true ↔ Closed s ∧ ∀ c ∈ s, endsStatement c = false :=
  ⟨closed_of_hasClosedLists, fun h => h.1.hasClosedLists h.2⟩

/-! ### One text -/

/-- No attribute text goes on here: the text ends, or an end of an attribute follows, or a parenthesis that nothing
    closes. -/
def Stops : List Char → Prop
  | [] => True
  | c :: s => endsAttribute c = true ∨ c = '(' ∧ ')' ∉ s

theorem attributeText_of_stops {s : List Char} (h : Stops s) : attributeText false s = ([], s) := by
  cases s with
  | nil => rfl
  | cons c s =>
    rw [attributeText]
    rcases h with ends | ⟨rfl, unclosed⟩
    · simp [ends]
    · simp [unclosed]

theorem attributeText_values {values s : List Char} (values_open : ')' ∉ values) :
    attributeText true (values ++ ')' :: s) =
      (values ++ ')' :: (attributeText false s).1, (attributeText false s).2) := by
  induction values with
  | nil => rfl
  | cons c values ih =>
    rw [List.mem_cons, not_or] at values_open
    rw [List.cons_append, attributeText]
    simp only [ne_eq, Ne.symm values_open.1, not_false_eq_true, decide_true]
    rw [ih values_open.2]
    rfl

/-- A closed text is taken, and then the scanner goes on with what follows it. -/
theorem Closed.attributeText_append {t : List Char} (h : Closed t) (s : List Char) :
    attributeText false (t ++ s) = (t ++ (attributeText false s).1, (attributeText false s).2) := by
  induction h with
  | nil => rfl
  | char other inside _ ih =>
    rw [List.cons_append, Document.attributeText]
    simp only [other, decide_false, Bool.false_and, inside, Bool.or_self, Bool.false_eq_true, ↓reduceIte, ih]
    rfl
  | @list values t values_open _ ih =>
    rw [List.cons_append, List.append_assoc, List.cons_append, Document.attributeText]
    have closing : (values ++ ')' :: (t ++ s)).contains ')' = true := by simp
    simp only [decide_true, closing, Bool.not_true, Bool.and_false, Bool.false_or]
    rw [if_neg (by decide), attributeText_values values_open, ih, List.cons_append, List.append_assoc, List.cons_append]

/-- A closed text is taken as a whole where nothing goes on after it. -/
theorem Closed.attributeText {t s : List Char} (h : Closed t) (stops : Stops s) :
    attributeText false (t ++ s) = (t, s) := by
  rw [h.attributeText_append, attributeText_of_stops stops, List.append_nil]

/-- What the scanner takes is closed, and it stops only where nothing goes on. Inside a list it needs the closing
    parenthesis, for which the scanner has looked. -/
theorem closed_attributeText_of_flag (inList : Bool) (s : List Char) (closes : inList = true → ')' ∈ s) :
    Closed (if inList then '(' :: (attributeText inList s).1 else (attributeText inList s).1) ∧
      Stops (attributeText inList s).2 := by
  fun_induction attributeText inList s with
  | case1 inList =>
    cases inList with
    | false => exact ⟨.nil, trivial⟩
    | true => cases closes rfl
  | case2 c s text rest taken ih =>
    rw [taken] at ih
    by_cases closing : c = ')'
    · subst closing
      obtain ⟨tail, stops⟩ := ih (by simp)
      exact ⟨@Closed.list [] _ (by simp) tail, stops⟩
    · simp only [ne_eq, closing, not_false_eq_true, decide_true, ↓reduceIte, forall_const] at ih
      have later : ')' ∈ s := (List.mem_cons.mp (closes rfl)).resolve_left (Ne.symm closing)
      exact ⟨(ih later).1.widen closing, (ih later).2⟩
  | case3 c s stop =>
    refine ⟨.nil, ?_⟩
    rw [Bool.or_eq_true, Bool.and_eq_true] at stop
    rcases stop with ⟨opening, unclosed⟩ | ends
    · exact Or.inr ⟨by simpa using opening, by simpa using unclosed⟩
    · exact Or.inl ends
  | case4 c s goes text rest taken ih =>
    rw [Bool.not_eq_true, Bool.or_eq_false_iff] at goes
    rw [taken] at ih
    by_cases opening : c = '('
    · subst opening
      obtain ⟨tail, stops⟩ := ih fun _ => by simpa using goes.1
      exact ⟨tail, stops⟩
    · simp only [opening, decide_false, Bool.false_eq_true, ↓reduceIte, false_implies, forall_const] at ih
      exact ⟨.char opening goes.2 ih.1, ih.2⟩

theorem closed_attributeText (s : List Char) :
    Closed (attributeText false s).1 ∧ Stops (attributeText false s).2 :=
  closed_attributeText_of_flag false s (by simp)

/-- Nothing of a text is left exactly when it is closed. -/
theorem attributeText_eq_self_iff {s : List Char} : attributeText false s = (s, []) ↔ Closed s := by
  constructor
  · intro whole
    have closed := (closed_attributeText s).1
    rwa [whole] at closed
  · intro closed
    have whole := closed.attributeText (s := []) trivial
    rwa [List.append_nil] at whole

/-! ### Lists of texts -/

/-- One text of a list: closed, not empty, and without spacing at its start, which belongs to the place before it. -/
structure IsAttributeText (t : List Char) : Prop where
  ne_nil : t ≠ []
  start : StartsOutside isSpacing t
  closed : Closed t

/-- The texts in order, each after spacing, with a comma between one and the next. -/
inductive Enumerates : List (List Char) → List Char → Prop where
  | last {space t : List Char} (spacing : ∀ c ∈ space, isSpacing c = true) (text : IsAttributeText t) :
    Enumerates [t] (space ++ t)
  | more {space t s : List Char} {ts : List (List Char)} (spacing : ∀ c ∈ space, isSpacing c = true)
    (text : IsAttributeText t) (others : Enumerates ts s) : Enumerates (t :: ts) (space ++ t ++ ',' :: s)

section
variable {s t rest more : List Char} {ts : List (List Char)}

theorem Enumerates.ne_nil (h : Enumerates ts s) : ts ≠ [] := by
  cases h <;> exact List.cons_ne_nil _ _

theorem attributeTexts_of_end (first : attributeText false (skipSpacing s) = (t, rest)) (ne : t ≠ [])
    (other : ∀ more, rest ≠ ',' :: more) : attributeTexts s = ([t], rest) := by
  rw [attributeTexts]
  simp only [first, ne, ↓reduceIte]
  split
  · next more comma =>
    rw [first] at comma
    exact absurd comma (other more)
  · rfl

theorem attributeTexts_of_comma (first : attributeText false (skipSpacing s) = (t, ',' :: more)) (ne : t ≠ []) :
    attributeTexts s = if (attributeTexts more).1 = [] then ([t], ',' :: more)
      else (t :: (attributeTexts more).1, (attributeTexts more).2) := by
  rw [attributeTexts]
  simp only [first, ne, ↓reduceIte]
  split
  · next after comma =>
    rw [first] at comma
    cases comma
    rfl
  · next other =>
    rw [first] at other
    exact absurd rfl (other more)

/-- The start of a list is its first text. -/
theorem attributeText_start {space : List Char} (spacing : ∀ c ∈ space, isSpacing c = true) (text : IsAttributeText t)
    (stops : Stops rest) : attributeText false (skipSpacing (space ++ t ++ rest)) = (t, rest) := by
  rw [List.append_assoc, skipSpacing_append spacing (startsOutside_append text.start text.ne_nil)]
  exact text.closed.attributeText stops

/-- A list of texts is read back, whatever stops the last of them. -/
theorem Enumerates.attributeTexts (h : Enumerates ts s) (stops : Stops rest) (other : ∀ more, rest ≠ ',' :: more) :
    attributeTexts (s ++ rest) = (ts, rest) := by
  induction h with
  | last spacing text => exact attributeTexts_of_end (attributeText_start spacing text stops) text.ne_nil other
  | @more space t s ts spacing text others ih =>
    have stop : Stops (',' :: (s ++ rest)) := Or.inl rfl
    have first := attributeText_start spacing text stop
    rw [List.append_assoc, List.cons_append, attributeTexts_of_comma first text.ne_nil, ih, if_neg others.ne_nil]

/-- Where the scanner takes anything, it takes a text in its place. -/
theorem exists_attributeText (s : List Char) (ne : (attributeText false (skipSpacing s)).1 ≠ []) :
    ∃ space, (∀ c ∈ space, isSpacing c = true) ∧
      s = space ++ (attributeText false (skipSpacing s)).1 ++ (attributeText false (skipSpacing s)).2 ∧
      IsAttributeText (attributeText false (skipSpacing s)).1 ∧ Stops (attributeText false (skipSpacing s)).2 := by
  obtain ⟨space, split, spacing⟩ := exists_spacing_append_skipSpacing s
  have whole := attributeText_append false (skipSpacing s)
  have start := startsOutside_skipSpacing s
  obtain ⟨closed, stops⟩ := closed_attributeText (skipSpacing s)
  refine ⟨space, spacing, by rw [List.append_assoc, whole, ← split], ⟨ne, ?_, closed⟩, stops⟩
  rw [← whole] at start
  exact start.of_append

/-- Nothing is read, or a list of texts up to a place where the last one stops. -/
theorem enumerates_attributeTexts (s : List Char) : Document.attributeTexts s = ([], s) ∨
    ∃ read, s = read ++ (Document.attributeTexts s).2 ∧ Enumerates (Document.attributeTexts s).1 read ∧
      Stops (Document.attributeTexts s).2 := by
  fun_induction Document.attributeTexts s with
  | case1 s first none => exact Or.inl rfl
  | case2 s first ne more comma others none ih =>
    obtain ⟨space, spacing, split, text, stops⟩ := exists_attributeText s ne
    exact Or.inr ⟨space ++ first.1, split, .last spacing text, stops⟩
  | case3 s first ne more comma others some ih =>
    obtain ⟨space, spacing, split, text, -⟩ := exists_attributeText s ne
    rcases ih with ih | ⟨read, after, enumerates, stops⟩
    · exact absurd (congrArg Prod.fst ih) some
    · refine Or.inr ⟨space ++ first.1 ++ ',' :: read, ?_, .more spacing text enumerates, stops⟩
      rw [List.append_assoc, List.cons_append, ← after, ← comma]
      exact split
  | case4 s first ne other =>
    obtain ⟨space, spacing, split, text, stops⟩ := exists_attributeText s ne
    exact Or.inr ⟨space ++ first.1, split, .last spacing text, stops⟩

end

end ErDiagram
