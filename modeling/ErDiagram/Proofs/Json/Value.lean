import ErDiagram.Json.Scalar
import ErDiagram.Proofs.Character
import ErDiagram.Proofs.Json.String

/-! JSON values as texts. The grammar is said without a reader: words, numbers, strings, arrays and objects, with any
    spacing between their tokens and at any depth. -/

namespace ErDiagram.Json
open Character

/-! ### Starts and ends -/

/-- Neither spacing nor the end of a value comes first. -/
def StartsValue (text : List Char) : Prop := ∃ c, text.head? = some c ∧ isSpacing c = false ∧ c ∉ [',', ']', '}']

/-- What may follow a value: spacing, a comma or a closing bracket. -/
def EndsValue (rest : List Char) : Prop := ∀ c ∈ rest.head?, isSpacing c = true ∨ c ∈ [',', ']', '}']

section
variable {space text rest : List Char} {c : Char}

theorem startsValue_cons (other : isSpacing c = false) (item : c ∉ [',', ']', '}']) : StartsValue (c :: text) :=
  ⟨c, rfl, other, item⟩

theorem StartsValue.startsOutside (h : StartsValue text) : StartsOutside isSpacing (text ++ rest) := by
  obtain ⟨c, first, other, -⟩ := h
  obtain ⟨more, rfl⟩ := List.head?_eq_some_iff.mp first
  exact startsOutside_cons.mpr other

theorem StartsValue.ne_nil (h : StartsValue text) (rest : List Char) : text ++ rest ≠ [] := by
  obtain ⟨c, first, -, -⟩ := h
  obtain ⟨tail, rfl⟩ := List.head?_eq_some_iff.mp first
  exact List.cons_ne_nil _ _

/-- A value does not start like the end of a list or of an object. -/
theorem StartsValue.ne_cons (h : StartsValue text) (other : c ∈ [',', ']', '}']) (more : List Char) :
    text ++ rest ≠ c :: more := by
  obtain ⟨d, first, -, item⟩ := h
  obtain ⟨tail, rfl⟩ := List.head?_eq_some_iff.mp first
  intro whole
  rw [List.cons_append] at whole
  exact item ((List.cons.inj whole).1 ▸ other)

theorem StartsValue.skipSpacing (h : StartsValue text) (spacing : ∀ c ∈ space, isSpacing c = true) :
    skipSpacing (space ++ (text ++ rest)) = text ++ rest :=
  skipSpacing_append spacing h.startsOutside

theorem skipSpacing_cons (spacing : ∀ c ∈ space, isSpacing c = true) (other : isSpacing c = false) :
    skipSpacing (space ++ c :: rest) = c :: rest :=
  skipSpacing_append spacing (startsOutside_cons.mpr other)

theorem endsValue_spacing (spacing : ∀ c ∈ space, isSpacing c = true) (ends : c ∈ [',', ']', '}']) :
    EndsValue (space ++ c :: rest) := by
  cases space with
  | nil => exact fun d first => Or.inr (Option.mem_some.mp first ▸ ends)
  | cons d space => exact fun d' first => Or.inl (Option.mem_some.mp first ▸ spacing d List.mem_cons_self)

end

/-! ### Arrays and objects -/

/-- An array after its opening bracket, or after an item of it, up to and with the closing bracket. The texts of the
    items that are left have commas and spacing between them. -/
inductive ListText : Bool → List (List Char) → List Char → Prop where
  | ended {first : Bool} {space : List Char} (spacing : ∀ c ∈ space, isSpacing c = true) :
    ListText first [] (space ++ [']'])
  | first {space t s : List Char} {ts : List (List Char)} (spacing : ∀ c ∈ space, isSpacing c = true)
    (others : ListText false ts s) : ListText true (t :: ts) (space ++ (t ++ s))
  | next {space space' t s : List Char} {ts : List (List Char)} (spacing : ∀ c ∈ space, isSpacing c = true)
    (spacing' : ∀ c ∈ space', isSpacing c = true) (others : ListText false ts s) :
    ListText false (t :: ts) (space ++ ',' :: (space' ++ (t ++ s)))

/-- A member of an object after the opening quote of its name: the name as it is spelt, its closing quote, a colon, and
    the text of the value. -/
inductive MemberText (word value : List Char) : List Char → Prop where
  | spelt {space space' : List Char} (spelling : IsSpelling word) (spacing : ∀ c ∈ space, isSpacing c = true)
    (spacing' : ∀ c ∈ space', isSpacing c = true) :
    MemberText word value (word ++ '"' :: (space ++ ':' :: (space' ++ value)))

/-- An object after its opening brace, or after a member of it, up to and with the closing brace. The members that are
    left are given by the spellings of their names and the texts of their values. -/
inductive ObjectText : Bool → List (List Char × List Char) → List Char → Prop where
  | ended {first : Bool} {space : List Char} (spacing : ∀ c ∈ space, isSpacing c = true) :
    ObjectText first [] (space ++ ['}'])
  | first {space word value m s : List Char} {members : List (List Char × List Char)}
    (spacing : ∀ c ∈ space, isSpacing c = true) (text : MemberText word value m)
    (others : ObjectText false members s) : ObjectText true ((word, value) :: members) (space ++ '"' :: (m ++ s))
  | next {space space' word value m s : List Char} {members : List (List Char × List Char)}
    (spacing : ∀ c ∈ space, isSpacing c = true) (spacing' : ∀ c ∈ space', isSpacing c = true)
    (text : MemberText word value m) (others : ObjectText false members s) :
    ObjectText false ((word, value) :: members) (space ++ ',' :: (space' ++ '"' :: (m ++ s)))

section
variable {ts : List (List Char)} {members : List (List Char × List Char)} {s : List Char}

/-- After an item the text goes on with the end of the item. -/
theorem ListText.endsValue (h : ListText false ts s) (rest : List Char) : EndsValue (s ++ rest) := by
  cases h with
  | ended spacing =>
    rw [List.append_assoc]
    exact endsValue_spacing spacing (by simp)
  | next spacing =>
    rw [List.append_assoc, List.cons_append]
    exact endsValue_spacing spacing (by simp)

theorem ObjectText.endsValue (h : ObjectText false members s) (rest : List Char) : EndsValue (s ++ rest) := by
  cases h with
  | ended spacing =>
    rw [List.append_assoc]
    exact endsValue_spacing spacing (by simp)
  | next spacing =>
    rw [List.append_assoc, List.cons_append]
    exact endsValue_spacing spacing (by simp)

end

/-! ### Numbers -/

/-- One digit or more. -/
structure IsDigits (digits : List Char) : Prop where
  isDigit : ∀ c ∈ digits, isDigit c = true
  ne_nil : digits ≠ []

inductive IsInteger : List Char → Prop where
  | zero : IsInteger ['0']
  | digits {digits : List Char} (isDigits : IsDigits digits) (noZero : digits.head? ≠ some '0') : IsInteger digits

inductive IsFraction : List Char → Prop where
  | none : IsFraction []
  | digits {digits : List Char} (isDigits : IsDigits digits) : IsFraction ('.' :: digits)

inductive IsExponent : List Char → Prop where
  | none : IsExponent []
  | digits {e : Char} {sign digits : List Char} (letter : e ∈ ['e', 'E']) (signed : sign ∈ [[], ['+'], ['-']])
    (isDigits : IsDigits digits) : IsExponent (e :: (sign ++ digits))

/-- A number, of whatever size. -/
inductive IsNumber : List Char → Prop where
  | number {sign integer fraction exponent : List Char} (signed : sign ∈ [[], ['-']]) (isInteger : IsInteger integer)
    (isFraction : IsFraction fraction) (isExponent : IsExponent exponent) :
    IsNumber (sign ++ (integer ++ (fraction ++ exponent)))

/-! ### Values -/

/-- The text of a value, without spacing around it. -/
inductive IsValue : List Char → Prop where
  | null : IsValue ['n', 'u', 'l', 'l']
  | isTrue : IsValue ['t', 'r', 'u', 'e']
  | isFalse : IsValue ['f', 'a', 'l', 's', 'e']
  | number {text : List Char} (isNumber : IsNumber text) : IsValue text
  | string {word : List Char} (spelling : IsSpelling word) : IsValue ('"' :: (word ++ ['"']))
  | array {ts : List (List Char)} {s : List Char} (text : ListText true ts s) (items : ∀ t ∈ ts, IsValue t) :
    IsValue ('[' :: s)
  | object {members : List (List Char × List Char)} {s : List Char} (text : ObjectText true members s)
    (values : ∀ m ∈ members, IsValue m.2) : IsValue ('{' :: s)

end ErDiagram.Json
