import ErDiagram.Proofs.Grammar.Attribute

/-! Where attributes start. In a list of attributes one starts at the beginning, and one behind each comma that stands
    in no value list. These places can be told in any text, also in a name that is not the text of one attribute: a flag
    is carried along that says whether a list is open. -/

namespace ErDiagram
open Character Document Grammar

/-! ### Commas outside lists -/

/-- Whether a list is open behind the character; the flag says whether one is open before it. -/
def openAfter (inList : Bool) (c : Char) : Bool := if inList then c ≠ ')' else c = '('

/-- What stands behind the commas that are in no list. -/
def behindCommas : Bool → List Char → List (List Char)
  | _, [] => []
  | inList, c :: s => (if c = ',' && !inList then [s] else []) ++ behindCommas (openAfter inList c) s

/-- The rests of the text from the places where an attribute may start. -/
def attributeStarts (s : List Char) : List (List Char) := s :: behindCommas false s

/-- The text is over, or a comma comes first. -/
def EndsAtComma (s : List Char) : Prop := ∀ c ∈ s.head?, c = ','

section
variable {s t rest : List Char}

theorem behindCommas_append (inList : Bool) (s t : List Char) : behindCommas inList (s ++ t) =
    (behindCommas inList s).map (· ++ t) ++ behindCommas (s.foldl openAfter inList) t := by
  induction s generalizing inList with
  | nil => rfl
  | cons c s ih =>
    rw [List.cons_append, behindCommas, behindCommas, ih, List.map_append, List.append_assoc, List.foldl_cons]
    split <;> rfl

/-- A list that is open before the text takes commas away and adds none: the first parenthesis, of either kind, makes
    the two runs of the flag the same. -/
theorem behindCommas_subset (inList : Bool) (s : List Char) : behindCommas inList s ⊆ behindCommas false s := by
  cases inList with
  | false => exact List.Subset.refl _
  | true =>
    induction s with
    | nil => exact List.Subset.refl _
    | cons c s ih =>
      rw [behindCommas, behindCommas, Bool.not_true, Bool.and_false, if_neg Bool.false_ne_true, List.nil_append]
      refine List.subset_append_of_subset_right _ ?_
      have flags : openAfter true c = openAfter false c ∨ openAfter true c = true ∧ openAfter false c = false := by
        by_cases closing : c = ')'
        · subst closing
          exact Or.inl rfl
        · by_cases opening : c = '(' <;> simp [openAfter, closing, opening]
      rcases flags with same | ⟨inside, outside⟩
      · rw [same]
        exact List.Subset.refl _
      · rw [inside, outside]
        exact ih

/-- Up to the end of a list no comma counts. -/
theorem behindCommas_values {values : List Char} (values_open : ')' ∉ values) (s : List Char) :
    behindCommas true (values ++ ')' :: s) = behindCommas false s ∧
      (values ++ ')' :: s).foldl openAfter true = s.foldl openAfter false := by
  induction values with
  | nil => exact ⟨rfl, rfl⟩
  | cons c values ih =>
    rw [List.mem_cons, not_or] at values_open
    simpa [behindCommas, openAfter, Ne.symm values_open.1] using ih values_open.2

/-- A closed text leaves no list open and has no comma outside its lists. -/
theorem Closed.behindCommas (h : Closed s) :
    ErDiagram.behindCommas false s = [] ∧ s.foldl openAfter false = false := by
  induction h with
  | nil => exact ⟨rfl, rfl⟩
  | @char c s other inside _ ih =>
    simp only [endsAttribute, Bool.or_eq_false_iff, decide_eq_false_iff_not] at inside
    simpa [ErDiagram.behindCommas, openAfter, other, inside] using ih
  | @list values s values_open _ ih =>
    obtain ⟨none, outside⟩ := behindCommas_values values_open s
    exact ⟨none.trans ih.1, outside.trans ih.2⟩

theorem Closed.behindCommas_append (h : Closed s) (t : List Char) :
    ErDiagram.behindCommas false (s ++ t) = ErDiagram.behindCommas false t := by
  rw [ErDiagram.behindCommas_append, h.behindCommas.1, h.behindCommas.2]
  rfl

theorem EndsAtComma.startsOutside (h : EndsAtComma rest) : StartsOutside isSpacing rest := by
  intro c hc
  rw [h c hc]
  rfl

theorem EndsAtComma.stops (h : EndsAtComma rest) : Stops rest := by
  cases rest with
  | nil => trivial
  | cons c rest =>
    obtain rfl := h c rfl
    exact Or.inl rfl

/-- Each attribute of a list after spacing has its text at a place where one may start. -/
theorem Grammar.Lists.exists_start {names : List Char → Attribute → Prop} {attributes : List Attribute}
    (h : Lists names s attributes) {space : List Char} (spacing : IsSpace space) :
    ∀ a ∈ attributes, ∃ t rest, names t a ∧ IsAttribute t ∧ EndsAtComma rest ∧
      ∃ start ∈ attributeStarts (space ++ s), skipSpacing start = t ++ rest := by
  induction h generalizing space with
  | @last t a text named =>
    rw [List.forall_mem_singleton]
    refine ⟨t, [], named, text, by simp [EndsAtComma], space ++ t, List.mem_cons_self, ?_⟩
    rw [skipSpacing_append (isSpace_iff.mp spacing) (isAttribute_iff.mp text).start, List.append_nil]
  | @more t between s a others text named separates _ ih =>
    obtain ⟨ne, start, closed⟩ := isAttribute_iff.mp text
    rw [List.forall_mem_cons]
    constructor
    · refine ⟨t, ',' :: (between ++ s), named, text, by simp [EndsAtComma], _, List.mem_cons_self, ?_⟩
      exact skipSpacing_append (isSpace_iff.mp spacing) (startsOutside_append start ne)
    · -- The first comma outside lists is the one after the first text.
      have later : behindCommas false (space ++ (t ++ ',' :: (between ++ s))) = attributeStarts (between ++ s) := by
        rw [spacing.closed.behindCommas_append, closed.behindCommas_append]
        rfl
      intro b hb
      obtain ⟨u, rest, name, form, ends, place, member, whole⟩ := ih separates b hb
      exact ⟨u, rest, name, form, ends, place, List.mem_cons_of_mem _ (later ▸ member), whole⟩

/-- A start in joined texts is one in a single text, whether a list is open before it or not. Behind the comma after a
    text the next one starts, past a space. -/
theorem exists_start_of_joined {first : String} {others : List String} {inList : Bool} {start joined : List Char}
    (whole : joined = (", ".intercalate (first :: others)).toList) (place : start ∈ joined :: behindCommas inList joined) :
    ∃ text ∈ first :: others, ∃ inText p rest, p ∈ text.toList :: behindCommas inText text.toList ∧ EndsAtComma rest ∧
      skipSpacing start = skipSpacing (p ++ rest) := by
  induction others generalizing first inList start joined with
  | nil =>
    rw [String.intercalate_singleton] at whole
    subst whole
    exact ⟨first, List.mem_cons_self, inList, start, [], place, by simp [EndsAtComma], by rw [List.append_nil]⟩
  | cons second others ih =>
    rw [String.intercalate_cons_cons, String.toList_append, String.toList_append, List.append_assoc] at whole
    generalize tail : (", ".intercalate (second :: others)).toList = more at whole
    have comma : EndsAtComma (", ".toList ++ more) := by simp [EndsAtComma]
    have behind : ∀ flag, behindCommas flag (", ".toList ++ more) =
        (if flag then [] else [' ' :: more]) ++ behindCommas flag more := fun flag => by cases flag <;> rfl
    have later : ∀ {p flag}, p ∈ more :: behindCommas flag more → skipSpacing start = skipSpacing p →
        ∃ text ∈ first :: second :: others, ∃ inText p rest, p ∈ text.toList :: behindCommas inText text.toList ∧
          EndsAtComma rest ∧ skipSpacing start = skipSpacing (p ++ rest) := by
      intro p flag inside same
      obtain ⟨text, member, found⟩ := ih tail.symm inside
      rw [same]
      exact ⟨text, List.mem_cons_of_mem _ member, found⟩
    rw [whole, behindCommas_append, behind, List.mem_cons, List.mem_append, List.mem_map, List.mem_append] at place
    rcases place with rfl | ⟨p, inside, rfl⟩ | place | place
    · exact ⟨first, List.mem_cons_self, inList, first.toList, _, List.mem_cons_self, comma, rfl⟩
    · exact ⟨first, List.mem_cons_self, inList, p, _, List.mem_cons_of_mem _ inside, comma, rfl⟩
    · split at place
      · cases place
      · obtain rfl := List.mem_singleton.mp place
        exact @later more false List.mem_cons_self rfl
    · exact later (List.mem_cons_of_mem _ place) rfl

end

/-! ### Marks -/

/-- The text starts as a key does. -/
def StartsMarked (s : List Char) : Prop := "u.".toList <+: s ∨ "du.".toList <+: s

instance (s : List Char) : Decidable (StartsMarked s) := inferInstanceAs (Decidable (_ ∨ _))

section
variable {s t rest : List Char} {a : Attribute}

/-- A mark has no comma, so it ends before one. -/
theorem StartsMarked.of_append (h : StartsMarked (s ++ rest)) (ends : EndsAtComma rest) : StartsMarked s := by
  have mark : ∀ {m : List Char}, ',' ∉ m → m <+: s ++ rest → m <+: s := by
    intro m unbroken start
    rcases List.prefix_or_prefix_of_prefix start (List.prefix_append s rest) with inside | ⟨w, rfl⟩
    · exact inside
    · rw [List.prefix_append_right_inj] at start
      cases w with
      | nil => exact ⟨[], by rw [List.append_nil, List.append_nil]⟩
      | cons c w =>
        obtain ⟨more, rfl⟩ := start
        obtain rfl := ends c rfl
        exact absurd (List.mem_append_right s List.mem_cons_self) unbroken
  exact h.imp (mark (by decide)) (mark (by decide))

theorem skipSpacing_append_eq (outside : StartsOutside isSpacing rest) :
    skipSpacing (s ++ rest) = skipSpacing s ++ rest := by
  induction s with
  | nil => exact skipSpacing_eq_self outside
  | cons c s ih =>
    rw [List.cons_append, skipSpacing, skipSpacing, List.dropWhile_cons, List.dropWhile_cons]
    split
    · exact ih
    · rfl

/-- An attribute that is a key is named by a text that starts as a key does. -/
theorem Grammar.NamesMarked.startsMarked (h : NamesMarked t a) (key : a.key ≠ .plain) (rest : List Char) :
    StartsMarked (t ++ rest) := by
  obtain ⟨u, ⟨⟨blanks, rfl, -⟩, -⟩, marks⟩ := h
  rw [List.append_assoc]
  cases marks with
  | partialKey name => exact Or.inr ⟨name.toList ++ (blanks ++ rest), (List.append_assoc _ _ _).symm⟩
  | primary name => exact Or.inl ⟨name.toList ++ (blanks ++ rest), (List.append_assoc _ _ _).symm⟩
  | plain => exact absurd rfl key

end

end ErDiagram
