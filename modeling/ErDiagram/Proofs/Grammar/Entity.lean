import ErDiagram.Document.Statement
import ErDiagram.Proofs.Grammar.Attribute
import ErDiagram.Proofs.Word

/-! The grammar of entity statements: a header of words joined by points, and attributes after spacing. The reader
    takes the header word by word and leaves off where it cannot go on, and it gives back what it took of the attributes
    where none follows. A text is read to its end as an entity exactly when it is a statement of the grammar. -/

namespace ErDiagram.Grammar
open Character Document Vocabulary

/-! ### The grammar -/

/-- The words for the kinds of entities. -/
def kindWords : List (String × EntityKind) :=
  [("strong", .strong), ("weak", .weak), ("assoc", .associative), ("super", .superclass), ("sub", .subclass)]

/-- A name, or a name, the word for a kind and options, with a point before each but the name. -/
inductive EntityHeader : List Char → String → EntityKind → List String → Prop where
  | name {name : String} (identifier : isIdentifier name = true) : EntityHeader name.toList name .strong []
  | kind {name word : String} {kind : EntityKind} {options : List String} (identifier : isIdentifier name = true)
    (known : (word, kind) ∈ kindWords) (identifiers : ∀ o ∈ options, isIdentifier o = true) :
    EntityHeader (name.toList ++ '.' :: (word.toList ++ options.flatMap fun o => '.' :: o.toList)) name kind options

/-- What follows the header: spacing, or a list of attributes with spacing before it. -/
inductive EntityTail : List Char → List Attribute → Prop where
  | none {s : List Char} (spacing : IsSpace s) : EntityTail s []
  | list {gap s : List Char} {attributes : List Attribute} (spacing : IsGap gap)
    (lists : Lists NamesMarked s attributes) : EntityTail (gap ++ s) attributes

/-- The text states the entity. -/
def EntityStatement (s : List Char) (e : Entity) : Prop :=
  ∃ header tail, s = header ++ tail ∧ EntityHeader header e.name e.kind e.options ∧ EntityTail tail e.attributes

theorem mem_kindWords_iff {word : String} {kind : EntityKind} : (word, kind) ∈ kindWords ↔ token kind = word := by
  cases kind <;> simp [kindWords, token, eq_comm]

/-! ### Headers -/

section
variable {s t rest : List Char} {name : String} {kind : EntityKind} {options : List String}

/-- What follows a header: no character of an identifier, and no point. -/
structure EndsHeader (s : List Char) : Prop where
  outside : StartsOutside isIdentifierChar s
  no_point : ∀ more, s ≠ '.' :: more

theorem startsOutside_point (s : List Char) : StartsOutside isIdentifierChar ('.' :: s) :=
  startsOutside_cons.mpr (isIdentifierChar_eq_false (by simp))

/-- An option starts with a point, which is no character of the word before it. -/
theorem startsOutside_options (outside : StartsOutside isIdentifierChar rest) :
    StartsOutside isIdentifierChar ((options.flatMap fun o => '.' :: o.toList) ++ rest) := by
  cases options with
  | nil => exact outside
  | cons o others => exact startsOutside_point _

theorem headerOptions_of_no_point (no_point : ∀ more, s ≠ '.' :: more) : headerOptions s = ([], s) := by
  rw [headerOptions]
  exact no_point

theorem headerOptions_append (identifiers : ∀ o ∈ options, isIdentifier o = true) (ends : EndsHeader rest) :
    headerOptions ((options.flatMap fun o => '.' :: o.toList) ++ rest) = (options, rest) := by
  induction options with
  | nil => exact headerOptions_of_no_point ends.no_point
  | cons o others ih =>
    rw [List.forall_mem_cons, isIdentifier_iff] at identifiers
    obtain ⟨⟨ne, inside⟩, identifiers⟩ := identifiers
    have boundary : StartsOutside isIdentifierChar ((others.flatMap fun o => '.' :: o.toList) ++ rest) :=
      startsOutside_options ends.outside
    rw [List.flatMap_cons, List.append_assoc, List.cons_append, headerOptions,
      takeWhile_append_of_startsOutside inside boundary, dropWhile_append_of_startsOutside inside boundary]
    split
    · next none => exact absurd none (toList_ne_nil ne)
    · rw [ih identifiers, String.ofList_toList]

/-- What is read as options is written as options. -/
theorem headerOptions_spec (s : List Char) : (∀ o ∈ (headerOptions s).1, isIdentifier o = true) ∧
    s = ((headerOptions s).1.flatMap fun o => '.' :: o.toList) ++ (headerOptions s).2 := by
  fun_induction headerOptions s with
  | case1 start none => simp
  | case2 start names rest taken ne ih =>
    rw [taken] at ih
    obtain ⟨identifiers, split⟩ := ih
    constructor
    · refine List.forall_mem_cons.mpr ⟨isIdentifier_iff.mpr ⟨by simpa using ne, fun c hc => ?_⟩, identifiers⟩
      rw [String.toList_ofList] at hc
      exact of_mem_takeWhile hc
    · rw [List.flatMap_cons, String.toList_ofList, List.cons_append, List.cons_append, List.append_assoc, ← split,
        List.takeWhile_append_dropWhile]
  | case3 s other => simp

theorem headerKind_eq_ok_iff : headerKind s = .ok (kind, rest) ↔
    (∃ more, s = '.' :: more ∧ tokenOf EntityKind more = .ok (kind, rest)) ∨
      (∀ more, s ≠ '.' :: more) ∧ kind = .strong ∧ rest = s := by
  unfold headerKind
  split
  · simp
  · next other =>
    have no_point : ∀ more, s ≠ '.' :: more := other
    simp [no_point, eq_comm]

theorem EntityHeader.isIdentifier (h : EntityHeader t name kind options) :
    isIdentifier name = true ∧ ∀ o ∈ options, isIdentifier o = true := by
  cases h with
  | name identifier => exact ⟨identifier, by simp⟩
  | kind identifier _ identifiers => exact ⟨identifier, identifiers⟩

/-- The words of a header are read, if it ends where the text goes on. -/
theorem EntityHeader.read (h : EntityHeader t name kind options) (ends : EndsHeader rest) :
    ∃ u v, identifier (t ++ rest) = .ok (name, u) ∧ headerKind u = .ok (kind, v) ∧
      headerOptions v = (options, rest) := by
  cases h with
  | name name_identifier =>
    refine ⟨rest, rest, identifier_eq_ok_iff.mpr ⟨rfl, name_identifier, ends.outside⟩, ?_, ?_⟩
    · exact headerKind_eq_ok_iff.mpr (Or.inr ⟨ends.no_point, rfl, rfl⟩)
    · exact headerOptions_of_no_point ends.no_point
  | @kind _ word _ _ name_identifier known identifiers =>
    obtain rfl := mem_kindWords_iff.mp known
    refine ⟨_, _, identifier_eq_ok_iff.mpr ⟨List.append_assoc _ _ _, name_identifier, startsOutside_point _⟩, ?_,
      headerOptions_append identifiers ends⟩
    refine headerKind_eq_ok_iff.mpr (Or.inl ⟨_, rfl, tokenOf_eq_ok_iff.mpr ⟨?_, isIdentifier_entityKind kind, ?_⟩⟩)
    · exact List.append_assoc _ _ _
    · exact startsOutside_options ends.outside

/-- The words that are read make up a header. -/
theorem exists_entityHeader {u v : List Char} (readName : identifier s = .ok (name, u))
    (readKind : headerKind u = .ok (kind, v)) :
    ∃ header, s = header ++ (headerOptions v).2 ∧ EntityHeader header name kind (headerOptions v).1 := by
  obtain ⟨split, name_identifier, -⟩ := identifier_eq_ok_iff.mp readName
  rcases headerKind_eq_ok_iff.mp readKind with ⟨more, rfl, readToken⟩ | ⟨no_point, rfl, rfl⟩
  · obtain ⟨rfl, -, -⟩ := tokenOf_eq_ok_iff.mp readToken
    obtain ⟨identifiers, options⟩ := headerOptions_spec v
    refine ⟨_, ?_, .kind name_identifier (mem_kindWords_iff.mpr rfl) identifiers⟩
    rw [List.append_assoc, List.cons_append, List.append_assoc, ← options]
    exact split
  · rw [headerOptions_of_no_point no_point]
    exact ⟨name.toList, split, .name name_identifier⟩

end

/-! ### Attributes -/

section
variable {s rest : List Char} {attributes : List Attribute}

/-- What follows a header starts with spacing, if there is anything. -/
theorem EntityTail.isSpacing_head (h : EntityTail s attributes) : ∀ c ∈ s.head?, isSpacing c = true := by
  intro c hc
  cases h with
  | none spacing => exact isSpace_iff.mp spacing c (List.mem_of_mem_head? hc)
  | list spacing =>
    rw [List.head?_append_of_ne_nil _ spacing.ne_nil] at hc
    exact isSpace_iff.mp spacing.space c (List.mem_of_mem_head? hc)

theorem EntityTail.endsHeader (h : EntityTail s attributes) : EndsHeader s := by
  have start := h.isSpacing_head
  refine ⟨fun c hc => isIdentifierChar_eq_false_of_isBlank (isBlank_of_isSpacing (start c hc)), fun more point => ?_⟩
  subst point
  exact absurd (start '.' rfl) (by decide)

theorem EntityTail.exists_text (h : EntityTail s attributes) :
    ∀ a ∈ attributes, ∃ t, NamesMarked t a ∧ IsAttribute t ∧ ∀ c ∈ t, c ∈ s := by
  cases h with
  | none => simp
  | list _ lists =>
    intro a ha
    obtain ⟨t, named, text, inside⟩ := lists.exists_text a ha
    exact ⟨t, named, text, fun c hc => List.mem_append_right _ (inside c hc)⟩

/-- What is read after a header that spacing follows. -/
theorem entityAttributes_of_spacing {c : Char} (spacing : isSpacing c = true) : entityAttributes (c :: s) =
    if (attributeTexts (c :: s)).1 = [] then ([], c :: s)
    else ((attributeTexts (c :: s)).1.map Attribute.ofText, (attributeTexts (c :: s)).2) := by
  rw [entityAttributes, if_pos spacing]
  split
  · next none => rw [none, if_pos rfl]
  · next texts rest ne read => rw [read, if_neg ne]

/-- What follows a header is read, up to spacing. -/
theorem EntityTail.read (h : EntityTail s attributes) :
    ∃ rest, entityAttributes s = (attributes, rest) ∧ skipSpacing rest = [] := by
  cases h with
  | none spacing =>
    refine ⟨s, ?_, skipSpacing_eq_nil_iff.mpr spacing⟩
    cases s with
    | nil => rfl
    | cons c s =>
      have first := isSpace_iff.mp spacing c List.mem_cons_self
      rw [entityAttributes_of_spacing first, attributeTexts_of_isSpace spacing, if_pos rfl]
  | @list gap s _ spacing lists =>
    have stop : Stops [] := trivial
    obtain ⟨ts, texts, ne, value⟩ := lists.read namesMarked_iff spacing.space stop (by simp)
    rw [List.append_nil] at texts
    refine ⟨[], ?_, rfl⟩
    cases gap with
    | nil => exact absurd rfl spacing.ne_nil
    | cons c gap =>
      have first := isSpace_iff.mp spacing.space c List.mem_cons_self
      rw [List.cons_append] at texts ⊢
      rw [entityAttributes_of_spacing first, texts, if_neg ne, value]

/-- Only what the grammar has is read to its end: what the scanner leaves is no spacing. -/
theorem entityTail_of_read (ended : skipSpacing (entityAttributes s).2 = []) :
    EntityTail s (entityAttributes s).1 := by
  rw [skipSpacing_eq_nil_iff] at ended
  cases s with
  | nil => exact .none isSpace_nil
  | cons c s =>
    by_cases first : isSpacing c = true
    · rw [entityAttributes_of_spacing first] at ended ⊢
      rcases exists_lists namesMarked_iff (c :: s) with none | ⟨gap, list, spacing, lists, ne, split, stops⟩
      · rw [none] at ended ⊢
        exact .none ended
      · rw [if_neg ne] at ended ⊢
        rw [eq_nil_of_stops stops ended, List.append_nil] at split
        have gap_ne : gap ≠ [] := by
          rintro rfl
          have outside := lists.startsOutside.2
          rw [List.nil_append] at split
          rw [← split, startsOutside_cons, first] at outside
          cases outside
        have tail := EntityTail.list ⟨gap_ne, spacing⟩ lists
        rwa [← split] at tail
    · rw [entityAttributes, if_neg first] at ended ⊢
      exact .none ended

end

/-! ### Statements -/

section
variable {s : List Char} {e : Entity}

theorem EntityStatement.whole_read (h : EntityStatement s e) : whole Entity.read s = .ok e := by
  obtain ⟨header, tail, rfl, isHeader, isTail⟩ := h
  obtain ⟨u, v, readName, readKind, readOptions⟩ := isHeader.read isTail.endsHeader
  obtain ⟨rest, readAttributes, ended⟩ := isTail.read
  rw [whole_eq_ok_iff, Entity.read]
  simp only [readName, readKind, readOptions, readAttributes, ended, bind, Except.bind]
  rfl

theorem entityStatement_of_whole_read (h : whole Entity.read s = .ok e) : EntityStatement s e := by
  simp only [whole_eq_ok_iff, Entity.read, bind_eq_ok_iff] at h
  obtain ⟨⟨name, u⟩, readName, ⟨kind, v⟩, readKind, result⟩ := h
  obtain ⟨rfl, ended⟩ := Prod.mk.inj (Except.ok.inj result)
  obtain ⟨header, split, isHeader⟩ := exists_entityHeader readName readKind
  exact ⟨header, (headerOptions v).2, split, isHeader, entityTail_of_read ended⟩

/-- The reader takes the whole of a text as an entity exactly when the text states that entity: its name, its kind, its
    options and its attributes are those that stand there, and nothing that the grammar has not is taken. -/
theorem whole_entityRead_iff : whole Entity.read s = .ok e ↔ EntityStatement s e :=
  ⟨entityStatement_of_whole_read, EntityStatement.whole_read⟩

end

/-- Options follow a kind only, and a mark is a mark only at the start. -/
example : whole Entity.read "it.weak.x du.n, u.u.m ,du. (u., v)".toList =
    .ok ⟨"it", .weak, ["x"], [⟨"n", .partialKey⟩, ⟨"u.m", .primary⟩, ⟨" (u., v)", .partialKey⟩]⟩ := by
  cbv

end ErDiagram.Grammar
