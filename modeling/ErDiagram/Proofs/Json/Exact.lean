import ErDiagram.Proofs.Json.Reader

/-! Exact reading. Where a reader succeeds on the text of a value, it has read that text and no more, and it takes the
    value wherever it stands. So of what an array or an object is read as there is an account by its items or members,
    whatever the spacing between them. -/

namespace ErDiagram.Json
open Character Vocabulary

/-! ### The law of an exact reader -/

/-- What the reader reads of a value is its text, and it is read alike wherever it stands. -/
structure Reader.Exact {α : Type} (r : Reader α) : Prop where
  of_read : ∀ {space text rest more : List Char} {a : α}, IsValue text → (∀ c ∈ space, isSpacing c = true) →
    r.read (space ++ (text ++ rest)) = .ok (a, more) → more = rest ∧ r.Takes text a

/-! ### Strings and tokens -/

section
variable {α : Type} {word text rest more s : List Char}

theorem Reader.exact_string : Reader.string.Exact where
  of_read {space text rest more a} value spacing read := by
    change readString _ = _ at read
    rw [readString, value.startsValue.skipSpacing spacing] at read
    split at read
    · next left whole =>
      obtain ⟨word, rfl, rfl, spelling⟩ := value.of_quote whole
      split at read
      · next text left found =>
        cases read
        obtain ⟨rfl, spells⟩ := spelling.of_characters found
        exact ⟨rfl, takes_string spells⟩
      · cases read
    · cases read

variable [Vocabulary α] {a : α}

theorem IsSpelling.of_readToken (h : IsSpelling word) (read : Json.readToken α (word ++ '"' :: rest) = .ok (a, more)) :
    more = rest ∧ ∃ text, Spells word text ∧ ofToken? α (String.ofList text) = some a := by
  rw [Json.readToken] at read
  split at read
  · cases read
  · next text left found =>
    obtain ⟨rfl, spells⟩ := h.of_characters found
    split at read
    · next token =>
      cases read
      exact ⟨rfl, text, spells, token⟩
    · cases read

/-- The first name of an object, and what follows it. -/
theorem ObjectText.exists_name {value : List Char} {members : List (List Char × List Char)}
    (h : ObjectText true ((word, value) :: members) s) (rest : List Char) : ∃ left space others,
      readTokenStart (s ++ rest) = .ok (word ++ '"' :: left) ∧ IsSpelling word ∧ (∀ c ∈ space, isSpacing c = true) ∧
      readColon left = .ok (space ++ (value ++ (others ++ rest))) ∧ ObjectText false members others := by
  cases h with
  | first spacing text others =>
    obtain ⟨left, space, whole, spacing', colon⟩ := text.exists_colon (_ ++ rest)
    refine ⟨left, space, _, ?_, text.isSpelling, spacing', colon, others⟩
    rw [List.append_assoc, List.cons_append, List.append_assoc, readTokenStart, skipSpacing_cons spacing rfl, whole]
    rfl

theorem readNull_null {space : List Char} (spacing : ∀ c ∈ space, isSpacing c = true) (rest : List Char) :
    readNull (space ++ (['n', 'u', 'l', 'l'] ++ rest)) = .ok rest := by
  rw [List.cons_append, readNull, skipSpacing_cons spacing rfl]
  exact wordTail_eq_ok_iff.mpr rfl

theorem ObjectText.readTokenEnd (h : ObjectText false [] s) (rest : List Char) :
    readTokenEnd (s ++ rest) = .ok rest := by
  cases h with
  | ended spacing =>
    rw [List.append_assoc, List.singleton_append, Json.readTokenEnd, skipSpacing_cons spacing rfl]
    rfl

/-- An object with the token as its one name and null as the value. -/
theorem Reader.takes_variant_object (h : ObjectText true [(word, ['n', 'u', 'l', 'l'])] s) (spells : Spells word text)
    (token : ofToken? α (String.ofList text) = some a) : (Reader.variant α).Takes ('{' :: s) a := by
  refine ⟨.object h (List.forall_mem_singleton.mpr .null), fun {space} rest spacing => ?_⟩
  obtain ⟨left, space', others, start, -, spacing', colon, ended⟩ := h.exists_name rest
  change readVariant α _ = _
  rw [List.cons_append, readVariant, skipSpacing_cons spacing rfl]
  simp only [bind, Except.bind, pure, Except.pure, start, spells.readToken token, colon, readNull_null spacing',
    ended.readTokenEnd]

theorem IsValue.of_readNull {space value : List Char} (h : IsValue value) (spacing : ∀ c ∈ space, isSpacing c = true)
    (read : readNull (space ++ (value ++ rest)) = .ok more) : value = ['n', 'u', 'l', 'l'] ∧ more = rest := by
  rw [readNull, h.startsValue.skipSpacing spacing] at read
  split at read
  · next left whole =>
    obtain rfl := h.of_null whole
    obtain ⟨-, rfl⟩ := List.cons.inj whole
    rw [wordTail_eq_ok_iff] at read
    exact ⟨rfl, (List.append_cancel_left read).symm⟩
  · cases read

theorem ObjectText.of_readTokenEnd {members : List (List Char × List Char)} (h : ObjectText false members s)
    (read : Json.readTokenEnd (s ++ rest) = .ok more) : members = [] ∧ more = rest := by
  cases h with
  | ended spacing =>
    rw [List.append_assoc, List.singleton_append, Json.readTokenEnd, skipSpacing_cons spacing rfl] at read
    cases read
    exact ⟨rfl, rfl⟩
  | next spacing =>
    rw [List.append_assoc, List.cons_append, Json.readTokenEnd, skipSpacing_cons spacing rfl] at read
    cases read

/-- What an object is read as that stands for a token. -/
theorem ObjectText.of_readVariant {space : List Char} {members : List (List Char × List Char)}
    (h : ObjectText true members s) (values : ∀ m ∈ members, IsValue m.2) (spacing : ∀ c ∈ space, isSpacing c = true)
    (read : readVariant α (space ++ '{' :: (s ++ rest)) = .ok (a, more)) :
    more = rest ∧ ∃ word text, members = [(word, ['n', 'u', 'l', 'l'])] ∧ Spells word text ∧
      ofToken? α (String.ofList text) = some a := by
  rw [readVariant, skipSpacing_cons spacing rfl] at read
  simp only [bind, Except.bind, pure, Except.pure] at read
  cases members with
  | nil =>
    cases h with
    | ended spacing =>
      rw [List.append_assoc, List.singleton_append, readTokenStart, skipSpacing_cons spacing rfl] at read
      cases read
  | cons m members =>
    obtain ⟨word, value⟩ := m
    rw [List.forall_mem_cons] at values
    obtain ⟨left, space', others, start, spelling, spacing', colon, following⟩ := h.exists_name rest
    simp only [start] at read
    split at read
    · cases read
    · next taken token =>
      obtain ⟨rfl, text, spells, token⟩ := spelling.of_readToken token
      simp only [colon] at read
      split at read
      · cases read
      · next null =>
        obtain ⟨rfl, rfl⟩ := values.1.of_readNull spacing' null
        split at read
        · cases read
        · next ended =>
          obtain ⟨rfl, rfl⟩ := following.of_readTokenEnd ended
          cases read
          exact ⟨rfl, word, text, rfl, spells, token⟩

/-- What an object that stands for a token is taken as. -/
theorem ObjectText.takes_variant_iff {members : List (List Char × List Char)}
    (h : ObjectText true members s) (values : ∀ m ∈ members, IsValue m.2) : (Reader.variant α).Takes ('{' :: s) a ↔
      ∃ word text, members = [(word, ['n', 'u', 'l', 'l'])] ∧ Spells word text ∧
        ofToken? α (String.ofList text) = some a := by
  constructor
  · intro takes
    exact (h.of_readVariant values (List.forall_mem_nil _) (takes.read [] (List.forall_mem_nil _))).2
  · rintro ⟨word, text, rfl, spells, token⟩
    exact Reader.takes_variant_object h spells token

theorem Reader.exact_variant : (Reader.variant α).Exact where
  of_read {space text rest more a} value spacing read := by
    change readVariant α _ = _ at read
    obtain ⟨c, first, outside, -⟩ := value.startsValue
    obtain ⟨tail, rfl⟩ := List.head?_eq_some_iff.mp first
    by_cases brace : c = '{'
    · subst brace
      obtain ⟨members, s, whole, -, object, values⟩ := value.of_brace (List.append_nil _)
      cases whole
      obtain ⟨rfl, word, text, rfl, spells, token⟩ := object.of_readVariant values spacing read
      exact ⟨rfl, takes_variant_object object spells token⟩
    · rw [List.cons_append, readVariant, skipSpacing_cons spacing outside] at read
      split at read
      · cases read
      · next left whole =>
        obtain ⟨word, same, rfl, spelling⟩ := value.of_quote whole
        obtain ⟨rfl, text, spells, token⟩ := spelling.of_readToken read
        rw [same]
        exact ⟨rfl, takes_variant spells token⟩
      · next left whole => exact absurd (List.cons.inj whole).1 brace
      · cases read

end

/-! ### Other readers -/

section
variable {α β : Type} {r : Reader α} {text : List Char}

theorem Reader.Exact.of_map (h : r.Exact) {f : α → β} {b : β} (takes : (r.map f).Takes text b) :
    ∃ a, r.Takes text a ∧ f a = b := by
  have read := takes.read [] (List.forall_mem_nil _)
  simp only [Reader.map] at read
  split at read
  · next found =>
    cases read
    exact ⟨_, (h.of_read takes.value (List.forall_mem_nil _) found).2, rfl⟩
  · cases read

theorem Reader.Exact.map (h : r.Exact) (f : α → β) : (r.map f).Exact where
  of_read {space text rest more b} value spacing read := by
    simp only [Reader.map] at read
    split at read
    · next found =>
      cases read
      obtain ⟨rfl, takes⟩ := h.of_read value spacing found
      exact ⟨rfl, takes.map f⟩
    · cases read

theorem Reader.Exact.orNull (h : r.Exact) (default : α) : (r.orNull default).Exact where
  of_read {space text rest more a} value spacing read := by
    by_cases null : text = ['n', 'u', 'l', 'l']
    · subst null
      have taken := (takes_null r default).read rest spacing
      rw [read] at taken
      cases taken
      exact ⟨rfl, takes_null r default⟩
    · rw [readOrNull_eq value null default spacing] at read
      obtain ⟨rfl, takes⟩ := h.of_read value spacing read
      exact ⟨rfl, takes.orNull null default⟩

/-! ### Lists -/

/-- The items that are read are a first one and the others. -/
theorem Reader.Exact.of_readItems {first : Bool} {s t left more : List Char} {values : List α} (h : r.Exact)
    (value : IsValue t) (item : nextItem first s = .ok (.item (t ++ left)))
    (read : readItems r first s = .ok (values, more)) :
    ∃ a others, values = a :: others ∧ r.Takes t a ∧ readItems r false left = .ok (others, more) := by
  rw [readItems_eq, item] at read
  dsimp only at read
  split at read
  · cases read
  · next found =>
    obtain ⟨rfl, takes⟩ := h.of_read value (List.forall_mem_nil _) found
    split at read
    · cases read
    · next others =>
      cases read
      exact ⟨_, _, rfl, takes, others⟩

theorem ListText.of_readItems {first : Bool} {ts : List (List Char)} {s rest more : List Char} {values : List α}
    (h : ListText first ts s) (exact : r.Exact) (items : ∀ t ∈ ts, IsValue t)
    (read : Json.readItems r first (s ++ rest) = .ok (values, more)) :
    more = rest ∧ List.Forall₂ r.Takes ts values := by
  induction h generalizing values with
  | ended spacing =>
    rw [List.append_assoc, List.singleton_append, readItems_of_ended (nextItem_ended spacing)] at read
    cases read
    exact ⟨rfl, .nil⟩
  | first spacing _ ih =>
    rw [List.forall_mem_cons] at items
    rw [List.append_assoc, List.append_assoc] at read
    obtain ⟨a, others, rfl, takes, read⟩ := exact.of_readItems items.1 (nextItem_first spacing items.1.startsValue) read
    obtain ⟨rfl, others⟩ := ih items.2 read
    exact ⟨rfl, .cons takes others⟩
  | next spacing spacing' _ ih =>
    rw [List.forall_mem_cons] at items
    rw [List.append_assoc, List.cons_append, List.append_assoc, List.append_assoc] at read
    obtain ⟨a, others, rfl, takes, read⟩ :=
      exact.of_readItems items.1 (nextItem_next spacing spacing' items.1.startsValue) read
    obtain ⟨rfl, others⟩ := ih items.2 read
    exact ⟨rfl, .cons takes others⟩

theorem Reader.Exact.list (h : r.Exact) : r.list.Exact where
  of_read {space text rest more values} value spacing read := by
    change readList r _ = _ at read
    rw [readList, value.startsValue.skipSpacing spacing] at read
    split at read
    · next left whole =>
      obtain ⟨ts, s, rfl, rfl, text, items⟩ := value.of_bracket whole
      obtain ⟨rfl, takes⟩ := text.of_readItems h items read
      exact ⟨rfl, Reader.Takes.list takes text⟩
    · cases read

/-- What an array is taken as, by its items. -/
theorem ListText.takes_iff {ts : List (List Char)} {s : List Char} {values : List α} (h : ListText true ts s)
    (exact : r.Exact) (items : ∀ t ∈ ts, IsValue t) :
    r.list.Takes ('[' :: s) values ↔ List.Forall₂ r.Takes ts values := by
  refine ⟨fun takes => ?_, fun takes => Reader.Takes.list takes h⟩
  have read := takes.read [] (List.forall_mem_nil _)
  exact (h.of_readItems exact items read).2

end

/-! ### Records -/

section
variable {σ α : Type} {fields : List (Field σ)} {parts parts' : σ}

/-- A member that is read fills the field of its name, or is skipped. -/
theorem MemberText.of_readMember {word value m rest more : List Char} (h : MemberText word value m)
    (isValue : IsValue value) (exact : ∀ f ∈ fields, f.value.Exact) (ends : EndsValue rest)
    (read : readMember fields parts (m ++ rest) = .ok (parts', more)) : more = rest ∧
      ∀ {members : List (List Char × List Char)} {parts'' : σ}, Fills fields parts' members parts'' →
        Fills fields parts ((word, value) :: members) parts'' := by
  obtain ⟨left, space, whole, spacing, colon⟩ := h.exists_colon rest
  rw [whole, readMember] at read
  split at read
  · cases read
  · next name named found =>
    obtain ⟨rfl, spells⟩ := h.isSpelling.of_characters found
    rw [colon] at read
    split at read
    · next unknown =>
      simp only [isValue.skipValue spacing ends] at read
      cases read
      exact ⟨rfl, .unknown spells unknown isValue⟩
    · next field known =>
      split at read
      · cases read
      · next fresh =>
        dsimp only at read
        split at read
        · cases read
        · next put left found =>
          cases read
          obtain ⟨rfl, takes⟩ := (exact field (List.mem_of_find?_eq_some known)).of_read isValue spacing found
          exact ⟨rfl, .known spells known (Bool.eq_false_iff.mpr fresh) takes⟩

/-- The members that are read are a first one and the others. -/
theorem MemberText.of_readMembers {first : Bool} {word value m u rest more : List Char} (h : MemberText word value m)
    (isValue : IsValue value) (exact : ∀ f ∈ fields, f.value.Exact) (ends : EndsValue rest)
    (item : nextName first u = .ok (.item (m ++ rest))) (read : readMembers fields first parts u = .ok (parts', more)) :
    ∃ parts'', readMembers fields false parts'' rest = .ok (parts', more) ∧
      ∀ {members : List (List Char × List Char)}, Fills fields parts'' members parts' →
        Fills fields parts ((word, value) :: members) parts' := by
  rw [readMembers_eq, item] at read
  dsimp only at read
  split at read
  · cases read
  · next found =>
    obtain ⟨rfl, fills⟩ := h.of_readMember isValue exact ends found
    exact ⟨_, read, fills⟩

theorem ObjectText.of_readMembers {first : Bool} {members : List (List Char × List Char)} {s rest more : List Char}
    (h : ObjectText first members s) (values : ∀ m ∈ members, IsValue m.2) (exact : ∀ f ∈ fields, f.value.Exact)
    (read : Json.readMembers fields first parts (s ++ rest) = .ok (parts', more)) :
    more = rest ∧ Fills fields parts members parts' := by
  induction h generalizing parts with
  | ended spacing =>
    rw [List.append_assoc, List.singleton_append, readMembers_of_ended (nextName_ended spacing)] at read
    cases read
    exact ⟨rfl, .nil⟩
  | first spacing text others ih =>
    rw [List.forall_mem_cons] at values
    rw [List.append_assoc, List.cons_append, List.append_assoc] at read
    obtain ⟨_, read, fills⟩ :=
      text.of_readMembers values.1 exact (others.endsValue rest) (nextName_first spacing) read
    obtain ⟨rfl, others⟩ := ih values.2 read
    exact ⟨rfl, fills others⟩
  | next spacing spacing' text others ih =>
    rw [List.forall_mem_cons] at values
    rw [List.append_assoc, List.cons_append, List.append_assoc, List.cons_append, List.append_assoc] at read
    obtain ⟨_, read, fills⟩ :=
      text.of_readMembers values.1 exact (others.endsValue rest) (nextName_next spacing spacing') read
    obtain ⟨rfl, others⟩ := ih values.2 read
    exact ⟨rfl, fills others⟩

/-- The members of an object fill the record as the value. -/
def Record.Filled (record : Record σ α) (members : List (List Char × List Char)) (a : α) : Prop :=
  ∃ parts, Fills record.fields record.start members parts ∧ record.finish parts = .ok a

theorem ObjectText.of_readRecord {record : Record σ α} {members : List (List Char × List Char)}
    {space s rest more : List Char} {a : α} (h : ObjectText true members s) (values : ∀ m ∈ members, IsValue m.2)
    (exact : ∀ f ∈ record.fields, f.value.Exact) (spacing : ∀ c ∈ space, isSpacing c = true)
    (read : readRecord record (space ++ '{' :: (s ++ rest)) = .ok (a, more)) :
    more = rest ∧ record.Filled members a := by
  rw [readRecord, skipSpacing_cons spacing rfl] at read
  simp only at read
  split at read
  · cases read
  · next found =>
    obtain ⟨rfl, fills⟩ := h.of_readMembers values exact found
    split at read
    · next finish =>
      cases read
      exact ⟨rfl, _, fills, finish⟩
    · cases read

/-- What an object is taken as, by its members. -/
theorem ObjectText.takes_record_iff {record : Record σ α} {members : List (List Char × List Char)} {s : List Char}
    (h : ObjectText true members s) (values : ∀ m ∈ members, IsValue m.2)
    (exact : ∀ f ∈ record.fields, f.value.Exact) {a : α} :
    record.reader.Takes ('{' :: s) a ↔ record.Filled members a := by
  constructor
  · intro takes
    exact (h.of_readRecord values exact (List.forall_mem_nil _) (takes.read [] (List.forall_mem_nil _))).2
  · rintro ⟨parts, fills, finish⟩
    exact Record.takes h fills finish

/-- The elements that are read for one field or more are a first one and the others, and they are read alike before
    whatever follows. -/
theorem readElements_eq_of_item {field : Field σ} {count : Nat} {s t left more : List Char} {result : σ × Nat}
    (value : IsValue t) (exact : field.value.Exact) (item : nextItem (count = 0) s = .ok (.item (t ++ left)))
    (read : readElements parts count (field :: fields) s = .ok (result, more)) : ∃ put, field.value.Takes t put ∧
      readElements (put parts) (count + 1) fields left = .ok (result, more) := by
  rw [readElements, item] at read
  dsimp only at read
  split at read
  · cases read
  · next found =>
    obtain ⟨rfl, takes⟩ := exact.of_read value (List.forall_mem_nil _) found
    exact ⟨_, takes, read⟩

theorem readElements_of_item {field : Field σ} {count : Nat} {s t left more : List Char} {result : σ × Nat}
    {put : σ → σ} (takes : field.value.Takes t put) (item : nextItem (count = 0) s = .ok (.item (t ++ left)))
    (others : readElements (put parts) (count + 1) fields left = .ok (result, more)) :
    readElements parts count (field :: fields) s = .ok (result, more) := by
  have read : field.value.read (t ++ left) = .ok (put, left) := takes.read left (List.forall_mem_nil _)
  rw [readElements, item]
  simp only [read, others]

/-- Elements are read alike before whatever follows. -/
theorem ListText.of_readElements {first : Bool} {ts : List (List Char)} {s rest more : List Char} {count : Nat}
    {result : σ × Nat} (h : ListText first ts s) (start : first = decide (count = 0)) (items : ∀ t ∈ ts, IsValue t)
    (exact : ∀ f ∈ fields, f.value.Exact) (read : readElements parts count fields (s ++ rest) = .ok (result, more)) :
    more = rest ∧ ∀ rest', readElements parts count fields (s ++ rest') = .ok (result, rest') := by
  induction h generalizing fields parts count with
  | @ended _ space spacing =>
    have ended : ∀ rest, readElements parts count fields (space ++ [']'] ++ rest) = .ok ((parts, count), rest) := by
      intro rest
      rw [List.append_assoc, List.singleton_append]
      cases fields with
      | nil =>
        rw [readElements, skipSpacing_cons spacing rfl]
        rfl
      | cons field fields =>
        rw [readElements, nextItem_ended spacing]
    rw [ended] at read
    cases read
    exact ⟨rfl, ended⟩
  | @first space t s _ spacing others ih =>
    rw [List.forall_mem_cons] at items
    simp only [List.append_assoc] at read ⊢
    cases fields with
    | nil =>
      rw [readElements, items.1.startsValue.skipSpacing spacing] at read
      split at read
      · cases read
      · next ended => exact absurd ended (items.1.startsValue.ne_cons (by decide) _)
      · next comma => exact absurd comma (items.1.startsValue.ne_cons (by decide) _)
      · cases read
    | cons field fields =>
      rw [List.forall_mem_cons] at exact
      have item : ∀ rest, nextItem (decide (count = 0)) (space ++ (t ++ (s ++ rest))) =
          .ok (.item (t ++ (s ++ rest))) := fun rest => start ▸ nextItem_first spacing items.1.startsValue
      obtain ⟨put, takes, read⟩ := readElements_eq_of_item items.1 exact.1 (item rest) read
      obtain ⟨rfl, alike⟩ := ih rfl items.2 exact.2 read
      exact ⟨rfl, fun rest' => readElements_of_item takes (item rest') (alike rest')⟩
  | @next space space' t s _ spacing spacing' others ih =>
    rw [List.forall_mem_cons] at items
    simp only [List.append_assoc, List.cons_append] at read ⊢
    cases fields with
    | nil =>
      rw [readElements, skipSpacing_cons spacing rfl] at read
      -- no field is left for an item, so neither a comma nor anything else but the end is read
      split at read
      · cases read
      · next ended => cases ended
      · split at read <;> cases read
      · cases read
    | cons field fields =>
      rw [List.forall_mem_cons] at exact
      have item : ∀ rest, nextItem (decide (count = 0)) (space ++ ',' :: (space' ++ (t ++ (s ++ rest)))) =
          .ok (.item (t ++ (s ++ rest))) := fun rest => start ▸ nextItem_next spacing spacing' items.1.startsValue
      obtain ⟨put, takes, read⟩ := readElements_eq_of_item items.1 exact.1 (item rest) read
      obtain ⟨rfl, alike⟩ := ih rfl items.2 exact.2 read
      exact ⟨rfl, fun rest' => readElements_of_item takes (item rest') (alike rest')⟩

theorem Record.exact {record : Record σ α} (exact : ∀ f ∈ record.fields, f.value.Exact) : record.reader.Exact where
  of_read {space text rest more a} value spacing read := by
    change readRecord record _ = _ at read
    obtain ⟨c, first, outside, -⟩ := value.startsValue
    obtain ⟨tail, rfl⟩ := List.head?_eq_some_iff.mp first
    by_cases brace : c = '{'
    · subst brace
      obtain ⟨members, s, whole, -, object, values⟩ := value.of_brace (List.append_nil _)
      cases whole
      obtain ⟨rfl, parts, fills, finish⟩ := object.of_readRecord values exact spacing read
      exact ⟨rfl, Record.takes object fills finish⟩
    · rw [List.cons_append, readRecord, skipSpacing_cons spacing outside] at read
      split at read
      · next whole => exact absurd (List.cons.inj whole).1 brace
      · next left whole =>
        obtain ⟨ts, s, same, rfl, text, items⟩ := value.of_bracket whole
        split at read
        · cases read
        · next found =>
          obtain ⟨rfl, elements⟩ := text.of_readElements rfl items exact found
          split at read
          · next finish =>
            cases read
            refine ⟨rfl, value, fun {space} rest spacing => ?_⟩
            change readRecord record _ = _
            rw [same, List.cons_append, readRecord, skipSpacing_cons spacing rfl]
            simp only [elements rest, finish]
          · cases read
      · cases read

end

/-! ### Whole texts -/

theorem Reader.Exact.decode_eq_ok_iff {α : Type} {r : Reader α} {whole : String} {before text after : List Char} {a : α}
    (h : r.Exact) (value : IsValue text) (spacing : ∀ c ∈ before, isSpacing c = true)
    (spacing' : ∀ c ∈ after, isSpacing c = true) (split : whole.toList = before ++ (text ++ after)) :
    r.decode whole = .ok a ↔ r.Takes text a := by
  have nothing : skipSpacing after = [] := List.dropWhile_eq_nil_iff.mpr spacing'
  rw [Reader.decode, split]
  constructor
  · intro decoded
    split at decoded
    · cases decoded
    · next found =>
      obtain ⟨rfl, takes⟩ := h.of_read value spacing found
      simp only [nothing, Except.ok.injEq] at decoded
      exact decoded ▸ takes
  · intro takes
    simp only [takes.read after spacing, nothing]

end ErDiagram.Json
