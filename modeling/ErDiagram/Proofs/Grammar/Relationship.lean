import ErDiagram.Proofs.Grammar.Entity

/-! The grammar of relationship statements: a row of words, perhaps a word for the line, and perhaps attributes in
    braces. Only the first character after the row, past all blanks, tells whether a word for the line must come, and
    braces that are not closed are left. A statement is read to its end exactly when it is one of the grammar. -/

namespace ErDiagram.Grammar
open Character Document Vocabulary

/-! ### The grammar -/

/-- The words for cardinalities. -/
def cardinalityWords : List (String × Cardinality) :=
  [("11", .exactlyOne), ("01", .zeroOrOne), ("0m", .zeroOrMany), ("1m", .oneOrMany)]

/-- The words for the kinds of lines. -/
def lineWords : List (String × LineKind) := [("single", .single), ("double", .double)]

/-- The words in order, with a gap between one and the next. -/
inductive Row : List String → List Char → Prop where
  | last (word : String) : Row [word] word.toList
  | more {word next : String} {words : List String} {gap s : List Char} (spacing : IsGap gap)
    (rest : Row (next :: words) s) : Row (word :: next :: words) (word.toList ++ (gap ++ s))

/-- The words of the relationship, from one end to the other. Its name may be any word, also one that looks like another
    part of the statement. -/
structure RelationshipWords (r : Relationship) (first second : String) : Prop where
  source : isIdentifier r.source = true
  towardSource : (first, r.towardSource) ∈ cardinalityWords
  name_ne_empty : r.name ≠ ""
  name_seen : ∀ c ∈ r.name.toList, isBlank c = false
  towardTarget : (second, r.towardTarget) ∈ cardinalityWords
  target : isIdentifier r.target = true

/-- The word for the line, if there is one. -/
inductive LinePart : List Char → LineKind → Prop where
  | none : LinePart [] .single
  | word {gap : List Char} {word : String} {line : LineKind} (spacing : IsGap gap) (known : (word, line) ∈ lineWords) :
    LinePart (gap ++ word.toList) line

/-- What may stand in braces: nothing, or a list of attributes with spacing before it. -/
inductive Inside : List Char → List Attribute → Prop where
  | none : Inside [] []
  | list {space s : List Char} {attributes : List Attribute} (spacing : IsSpace space)
    (lists : Lists NamesPlain s attributes) : Inside (space ++ s) attributes

/-- The attributes in braces, if there are braces. -/
inductive BracePart : List Char → List Attribute → Prop where
  | none : BracePart [] []
  | braces {before s after : List Char} {attributes : List Attribute} (before_spacing : IsSpace before)
    (inside : Inside s attributes) (after_spacing : IsSpace after) :
    BracePart (before ++ '{' :: (s ++ (after ++ ['}']))) attributes

/-- The text states the relationship. -/
def RelationshipStatement (s : List Char) (r : Relationship) : Prop :=
  ∃ first second row line braces space, s = row ++ (line ++ (braces ++ space)) ∧
    Row [r.source, first, r.name, second, r.target] row ∧ RelationshipWords r first second ∧
    LinePart line r.line ∧ BracePart braces r.attributes ∧ IsSpace space

theorem mem_cardinalityWords_iff {word : String} {cardinality : Cardinality} :
    (word, cardinality) ∈ cardinalityWords ↔ token cardinality = word := by
  cases cardinality <;> simp [cardinalityWords, token, eq_comm]

theorem mem_lineWords_iff {word : String} {line : LineKind} : (word, line) ∈ lineWords ↔ token line = word := by
  cases line <;> simp [lineWords, token, eq_comm]

/-! ### Gaps -/

section
variable {s gap rest : List Char}

theorem spacing_eq_ok_iff_isGap : spacing s = .ok rest ↔
    ∃ gap, IsGap gap ∧ s = gap ++ rest ∧ StartsOutside isSpacing rest := by
  rw [spacing_eq_ok_iff]
  constructor
  · rintro ⟨gap, ne, spacing, split, outside⟩
    exact ⟨gap, ⟨ne, isSpace_iff.mpr spacing⟩, split, outside⟩
  · rintro ⟨gap, ⟨ne, spacing⟩, split, outside⟩
    exact ⟨gap, ne, isSpace_iff.mp spacing, split, outside⟩

/-- No word goes on in a gap. -/
theorem IsGap.startsOutside {p : Char → Bool} (h : IsGap gap) (blank : ∀ {c}, isBlank c = true → p c = false) :
    StartsOutside p (gap ++ rest) := by
  refine startsOutside_append (fun c hc => blank ?_) h.ne_nil
  exact h.space.isBlank c (List.mem_of_mem_head? hc)

/-- A gap is read up to the identifier after it, -/
theorem IsGap.read_identifier {word : String} (h : IsGap gap) (identifier : isIdentifier word = true) :
    spacing (gap ++ (word.toList ++ rest)) = .ok (word.toList ++ rest) :=
  spacing_eq_ok_iff_isGap.mpr ⟨gap, h, rfl, startsOutside_of_isIdentifier identifier⟩

/-- and up to any other word without blanks. -/
theorem IsGap.read_word {word : String} (h : IsGap gap) (ne : word ≠ "") (seen : ∀ c ∈ word.toList, isBlank c = false) :
    spacing (gap ++ (word.toList ++ rest)) = .ok (word.toList ++ rest) := by
  refine spacing_eq_ok_iff_isGap.mpr ⟨gap, h, rfl, startsOutside_append (fun c hc => ?_) (toList_ne_nil ne)⟩
  exact isSpacing_eq_false_of_isBlank_eq_false (seen c (List.mem_of_mem_head? hc))

end

/-! ### Rows -/

section
variable {s : List Char}

theorem Row.exists_gap {word next : String} {words : List String} (h : Row (word :: next :: words) s) :
    ∃ gap t, IsGap gap ∧ Row (next :: words) t ∧ s = word.toList ++ (gap ++ t) := by
  cases h with
  | more spacing rest => exact ⟨_, _, spacing, rest, rfl⟩

/-- Every word of a row is a part of it. -/
theorem Row.mem {words : List String} (h : Row words s) : ∀ word ∈ words, ∀ c ∈ word.toList, c ∈ s := by
  induction h with
  | last => simp
  | more _ _ ih =>
    refine List.forall_mem_cons.mpr ⟨fun c hc => List.mem_append_left _ hc, fun word hw c hc => ?_⟩
    exact List.mem_append_right _ (List.mem_append_right _ (ih word hw c hc))

end

/-! ### Lines -/

section
variable {s rest : List Char} {line : LineKind}

/-- A text with no character of an identifier after its blanks has none before them. -/
theorem startsOutside_of_trimStart (h : StartsOutside isIdentifierChar (trimStart s)) :
    StartsOutside isIdentifierChar s := by
  cases s with
  | nil => exact startsOutside_nil
  | cons c s =>
    rw [startsOutside_cons]
    by_cases blank : isBlank c = true
    · exact isIdentifierChar_eq_false_of_isBlank blank
    · rwa [trimStart, List.dropWhile_cons_of_neg blank, startsOutside_cons] at h

theorem LinePart.startsOutside (h : LinePart s line) (outside : StartsOutside isIdentifierChar rest) :
    StartsOutside isIdentifierChar (s ++ rest) := by
  cases h with
  | none => exact outside
  | word spacing =>
    rw [List.append_assoc]
    exact spacing.startsOutside isIdentifierChar_eq_false_of_isBlank

/-- The line is read, if no further word follows. -/
theorem LinePart.read (h : LinePart s line) (outside : StartsOutside isIdentifierChar (trimStart rest)) :
    lineKind (s ++ rest) = .ok (line, rest) := by
  cases h with
  | none =>
    rw [List.nil_append, lineKind]
    split
    · next c more start =>
      rw [start, startsOutside_cons] at outside
      simp [outside]
    · rfl
  | @word gap word _ spacing known =>
    obtain rfl := mem_lineWords_iff.mp known
    have identifier := isIdentifier_lineKind line
    obtain ⟨ne, inside⟩ := isIdentifier_iff.mp identifier
    have read := tokenOf_eq_ok_iff.mpr ⟨rfl, identifier, startsOutside_of_trimStart outside⟩
    have readGap : Document.spacing (gap ++ ((token line).toList ++ rest)) = .ok ((token line).toList ++ rest) :=
      spacing.read_identifier identifier
    -- Past the gap there is the word, so the reader goes on.
    have start : trimStart (gap ++ ((token line).toList ++ rest)) = (token line).toList ++ rest := by
      refine dropWhile_append_of_startsOutside spacing.space.isBlank (startsOutside_append (fun c hc => ?_) ?_)
      · exact isBlank_eq_false_of_isIdentifierChar (inside c (List.mem_of_mem_head? hc))
      · exact toList_ne_nil ne
    rw [List.append_assoc, lineKind, start]
    split
    · next c more whole =>
      have first := congrArg List.head? whole
      rw [List.head?_append_of_ne_nil _ (toList_ne_nil ne)] at first
      rw [if_pos (inside c (List.mem_of_mem_head? first)), readGap]
      exact read
    · next ended => exact absurd (List.append_eq_nil_iff.mp ended).1 (toList_ne_nil ne)

/-- Only the word for a line is taken as a line. -/
theorem exists_linePart (h : lineKind s = .ok (line, rest)) : ∃ t, s = t ++ rest ∧ LinePart t line := by
  unfold lineKind at h
  split at h
  · split at h
    · obtain ⟨start, readGap, read⟩ := bind_eq_ok_iff.mp h
      obtain ⟨gap, spacing, rfl, -⟩ := spacing_eq_ok_iff_isGap.mp readGap
      obtain ⟨rfl, -, -⟩ := tokenOf_eq_ok_iff.mp read
      exact ⟨_, (List.append_assoc _ _ _).symm, .word spacing (mem_lineWords_iff.mpr rfl)⟩
    · cases h
      exact ⟨[], rfl, .none⟩
  · cases h
    exact ⟨[], rfl, .none⟩

end

/-! ### Braces -/

section
variable {s rest space : List Char} {attributes : List Attribute}

theorem skipSpacing_space_append {c : Char} (spacing : IsSpace space) (other : isSpacing c = false) :
    skipSpacing (space ++ c :: rest) = c :: rest :=
  skipSpacing_append (isSpace_iff.mp spacing) (startsOutside_cons.mpr other)

/-- What stands in braces is read up to the spacing before the closing one. -/
theorem Inside.read {after : List Char} (h : Inside s attributes) (spacing : IsSpace after) (rest : List Char) :
    ∃ ts left, attributeTexts (s ++ (after ++ '}' :: rest)) = (ts, left) ∧ skipSpacing left = '}' :: rest ∧
      ts.map Attribute.ofPlainText = attributes := by
  cases h with
  | none =>
    have close : skipSpacing (after ++ '}' :: rest) = '}' :: rest := skipSpacing_space_append spacing rfl
    refine ⟨[], after ++ '}' :: rest, ?_, close, rfl⟩
    rw [List.nil_append, attributeTexts, close]
    rfl
  | @list before s _ before_spacing lists =>
    have extended := lists.append spacing fun _ _ h => h.append spacing
    have stop : Stops ('}' :: rest) := Or.inl rfl
    obtain ⟨ts, texts, -, value⟩ := extended.read namesPlain_iff before_spacing stop (by simp)
    refine ⟨ts, '}' :: rest, ?_, rfl, value⟩
    rw [← texts]
    simp only [List.append_assoc]

/-- Before a closing brace there is what may stand in braces. -/
theorem exists_inside (close : skipSpacing (attributeTexts s).2 = '}' :: rest) :
    ∃ t after, s = t ++ (after ++ '}' :: rest) ∧ Inside t ((attributeTexts s).1.map Attribute.ofPlainText) ∧
      IsSpace after := by
  obtain ⟨after, split, spacing⟩ := exists_spacing_append_skipSpacing (attributeTexts s).2
  rw [close] at split
  rcases exists_lists namesPlain_iff s with none | ⟨space, list, before, lists, -, whole, -⟩
  · rw [none] at split ⊢
    exact ⟨[], after, split, .none, isSpace_iff.mpr spacing⟩
  · rw [split] at whole
    exact ⟨space ++ list, after, whole, .list before lists, isSpace_iff.mpr spacing⟩

/-- Past the blanks no identifier starts: there is a brace, or nothing. -/
theorem BracePart.startsOutside (h : BracePart s attributes) (spacing : IsSpace space) :
    StartsOutside isIdentifierChar (trimStart (s ++ space)) := by
  cases h with
  | none =>
    rw [List.nil_append, trimStart, List.dropWhile_eq_nil_iff.mpr spacing.isBlank]
    exact startsOutside_nil
  | braces before_spacing =>
    have brace : isBlank '{' = false := by decide
    rw [List.append_assoc, List.cons_append, trimStart,
      dropWhile_append_of_startsOutside before_spacing.isBlank (startsOutside_cons.mpr brace), startsOutside_cons]
    exact isIdentifierChar_eq_false (by simp)

theorem BracePart.exists_text (h : BracePart s attributes) :
    ∀ a ∈ attributes, ∃ t, NamesPlain t a ∧ IsAttribute t ∧ ∀ c ∈ t, c ∈ s := by
  cases h with
  | none => simp
  | braces _ inside =>
    cases inside with
    | none => simp
    | list _ lists =>
      intro a ha
      obtain ⟨t, named, text, inside⟩ := lists.exists_text a ha
      exact ⟨t, named, text, fun c hc => by simp [inside c hc]⟩

/-- The braces are read, up to spacing. -/
theorem BracePart.read (h : BracePart s attributes) (spacing : IsSpace space) :
    ∃ rest, relationshipAttributes (s ++ space) = (attributes, rest) ∧ skipSpacing rest = [] := by
  cases h with
  | none =>
    have ended := skipSpacing_eq_nil_iff.mpr spacing
    refine ⟨space, ?_, ended⟩
    rw [List.nil_append, relationshipAttributes, ended]
  | @braces before s after _ before_spacing inside after_spacing =>
    obtain ⟨ts, left, texts, close, value⟩ := inside.read after_spacing space
    refine ⟨space, ?_, skipSpacing_eq_nil_iff.mpr spacing⟩
    have shape : before ++ '{' :: (s ++ (after ++ ['}'])) ++ space =
        before ++ '{' :: (s ++ (after ++ '}' :: space)) := by
      simp only [List.append_assoc, List.cons_append, List.nil_append]
    rw [shape, relationshipAttributes, skipSpacing_space_append before_spacing rfl]
    simp only [texts, close, value]

/-- Only what the grammar has is read to its end. -/
theorem exists_bracePart (ended : skipSpacing (relationshipAttributes s).2 = []) :
    ∃ t space, s = t ++ space ∧ BracePart t (relationshipAttributes s).1 ∧ IsSpace space := by
  rw [skipSpacing_eq_nil_iff] at ended
  generalize read : relationshipAttributes s = result at ended ⊢
  unfold relationshipAttributes at read
  split at read
  · next more brace =>
    obtain ⟨before, split, before_spacing⟩ := exists_spacing_append_skipSpacing s
    simp only at read
    split at read
    · next rest close =>
      subst read
      obtain ⟨t, after, rfl, inside, after_spacing⟩ := exists_inside close
      refine ⟨_, rest, ?_, .braces (isSpace_iff.mpr before_spacing) inside after_spacing, ended⟩
      rw [split, brace]
      simp only [List.append_assoc, List.cons_append, List.nil_append]
    · subst read
      exact ⟨[], s, rfl, .none, ended⟩
  · subst read
    exact ⟨[], s, rfl, .none, ended⟩

end

/-! ### Statements -/

section
variable {s : List Char} {r : Relationship}

theorem RelationshipStatement.whole_read (h : RelationshipStatement s r) : whole Relationship.read s = .ok r := by
  obtain ⟨first, second, row, line, braces, space, rfl, isRow, words, isLine, isBraces, spacing⟩ := h
  obtain ⟨sourceIdentifier, firstKnown, nameNe, nameSeen, secondKnown, targetIdentifier⟩ := words
  obtain rfl := mem_cardinalityWords_iff.mp firstKnown
  obtain rfl := mem_cardinalityWords_iff.mp secondKnown
  obtain ⟨gap₁, row₁, isGap₁, isRow₁, rfl⟩ := isRow.exists_gap
  obtain ⟨gap₂, row₂, isGap₂, isRow₂, rfl⟩ := isRow₁.exists_gap
  obtain ⟨gap₃, row₃, isGap₃, isRow₃, rfl⟩ := isRow₂.exists_gap
  obtain ⟨gap₄, row₄, isGap₄, isRow₄, rfl⟩ := isRow₃.exists_gap
  cases isRow₄
  obtain ⟨rest, readBraces, ended⟩ := isBraces.read spacing
  have outside := isBraces.startsOutside spacing
  have afterTarget := isLine.startsOutside (startsOutside_of_trimStart outside)
  -- Every word ends at the gap after it, and every gap at the word after it.
  have readSource : ∀ s, identifier (r.source.toList ++ (gap₁ ++ s)) = .ok (r.source, gap₁ ++ s) := fun _ =>
    identifier_eq_ok_iff.mpr ⟨rfl, sourceIdentifier, isGap₁.startsOutside isIdentifierChar_eq_false_of_isBlank⟩
  have readToken : ∀ (cardinality : Cardinality) {gap : List Char}, IsGap gap → ∀ s,
      tokenOf Cardinality ((token cardinality).toList ++ (gap ++ s)) = .ok (cardinality, gap ++ s) := fun c _ h _ =>
    tokenOf_eq_ok_iff.mpr
      ⟨rfl, isIdentifier_cardinality c, h.startsOutside isIdentifierChar_eq_false_of_isBlank⟩
  have readName : ∀ s, word (!isBlank ·) (r.name.toList ++ (gap₃ ++ s)) = .ok (r.name, gap₃ ++ s) := fun _ =>
    word_eq_ok_iff.mpr
      ⟨rfl, nameNe, fun c hc => by simp [nameSeen c hc], isGap₃.startsOutside fun blank => by simp [blank]⟩
  have readTarget := identifier_eq_ok_iff.mpr ⟨rfl, targetIdentifier, afterTarget⟩
  rw [whole_eq_ok_iff, Relationship.read]
  simp only [List.append_assoc, readSource, isGap₁.read_identifier (isIdentifier_cardinality _), readToken _ isGap₂,
    isGap₂.read_word nameNe nameSeen, readName, isGap₃.read_identifier (isIdentifier_cardinality _),
    readToken _ isGap₄, isGap₄.read_identifier targetIdentifier, readTarget, isLine.read outside, readBraces, ended,
    bind, Except.bind]
  rfl

theorem relationshipStatement_of_whole_read (h : whole Relationship.read s = .ok r) : RelationshipStatement s r := by
  simp only [whole_eq_ok_iff, Relationship.read, bind_eq_ok_iff] at h
  obtain ⟨⟨source, s₁⟩, readSource, s₂, gap₁, ⟨towardSource, s₃⟩, readFirst, s₄, gap₂, ⟨name, s₅⟩, readName, s₆, gap₃,
    ⟨towardTarget, s₇⟩, readSecond, s₈, gap₄, ⟨target, s₉⟩, readTarget, ⟨line, s₁₀⟩, readLine, result⟩ := h
  obtain ⟨rfl, ended⟩ := Prod.mk.inj (Except.ok.inj result)
  obtain ⟨rfl, sourceIdentifier, -⟩ := identifier_eq_ok_iff.mp readSource
  obtain ⟨space₁, isGap₁, rfl, -⟩ := spacing_eq_ok_iff_isGap.mp gap₁
  obtain ⟨rfl, -, -⟩ := tokenOf_eq_ok_iff.mp readFirst
  obtain ⟨space₂, isGap₂, rfl, -⟩ := spacing_eq_ok_iff_isGap.mp gap₂
  obtain ⟨rfl, nameNe, nameSeen, -⟩ := word_eq_ok_iff.mp readName
  obtain ⟨space₃, isGap₃, rfl, -⟩ := spacing_eq_ok_iff_isGap.mp gap₃
  obtain ⟨rfl, -, -⟩ := tokenOf_eq_ok_iff.mp readSecond
  obtain ⟨space₄, isGap₄, rfl, -⟩ := spacing_eq_ok_iff_isGap.mp gap₄
  obtain ⟨rfl, targetIdentifier, -⟩ := identifier_eq_ok_iff.mp readTarget
  obtain ⟨lineText, rfl, isLine⟩ := exists_linePart readLine
  obtain ⟨braces, space, split, isBraces, spacing⟩ := exists_bracePart ended
  have row : Row [source, token towardSource, name, token towardTarget, target] _ :=
    .more isGap₁ (.more isGap₂ (.more isGap₃ (.more isGap₄ (.last target))))
  refine ⟨token towardSource, token towardTarget, _, lineText, braces, space, ?_, row, ⟨sourceIdentifier,
    mem_cardinalityWords_iff.mpr rfl, nameNe, fun c hc => by simpa using nameSeen c hc,
    mem_cardinalityWords_iff.mpr rfl, targetIdentifier⟩, isLine, isBraces, spacing⟩
  rw [← split]
  simp only [List.append_assoc]

/-- The reader takes the whole of a text as a relationship exactly when the text states that relationship: the row of
    words, the line and the attributes are those that stand there, and nothing that the grammar has not is taken. -/
theorem whole_relationshipRead_iff : whole Relationship.read s = .ok r ↔ RelationshipStatement s r :=
  ⟨relationshipStatement_of_whole_read, RelationshipStatement.whole_read⟩

end

/-- A name may look like the word for a line, and a comma in a value list separates nothing. -/
example : whole Relationship.read "it 11 double 0m them {(a, b) c , d }".toList =
    .ok ⟨"it", .exactlyOne, "double", .zeroOrMany, "them", .single, [⟨"(a, b) c", .plain⟩, ⟨"d", .plain⟩]⟩ := by
  cbv

end ErDiagram.Grammar
