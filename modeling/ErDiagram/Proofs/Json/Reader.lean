import ErDiagram.Json.Record
import ErDiagram.Proofs.Json.Skip
import Mathlib.Data.List.Forall2

/-! What readers of JSON take. A reader takes a value when it gives something for its text after any spacing and leaves
    whatever follows. For lists and records it is enough that their parts are taken so, and between the parts there may
    be any spacing. -/

namespace ErDiagram.Json
open Character Vocabulary

/-! ### The law of a reader -/

/-- The reader takes the text of a value, as what is given. -/
structure Reader.Takes {α : Type} (r : Reader α) (text : List Char) (a : α) : Prop where
  value : IsValue text
  read : ∀ {space : List Char} (rest : List Char), (∀ c ∈ space, isSpacing c = true) →
    r.read (space ++ (text ++ rest)) = .ok (a, rest)

section
variable {α : Type} {r : Reader α} {text : List Char} {a a' : α}

theorem Reader.Takes.unique (h : r.Takes text a) (h' : r.Takes text a') : a = a' := by
  have read := h.read [] (List.forall_mem_nil _)
  rw [h'.read [] (List.forall_mem_nil _)] at read
  cases read
  rfl

end

/-! ### Strings and tokens -/

section
variable {α : Type} [Vocabulary α] {word text : List Char} {a : α}

theorem Reader.takes_string (h : Spells word text) :
    Reader.string.Takes ('"' :: (word ++ ['"'])) (String.ofList text) := by
  refine ⟨.string h.isSpelling, fun {space} rest spacing => ?_⟩
  change readString _ = _
  rw [List.cons_append, List.append_assoc, List.singleton_append, readString, skipSpacing_cons spacing rfl]
  simp only [h.characters]

theorem Reader.takes_writtenString (text : String) : Reader.string.Takes (writtenString text) text := by
  have takes := takes_string (spells_written text.toList)
  rwa [String.ofList_toList] at takes

theorem Spells.readToken (h : Spells word text) (token : ofToken? α (String.ofList text) = some a)
    (rest : List Char) : readToken α (word ++ '"' :: rest) = .ok (a, rest) := by
  simp only [Json.readToken, h.characters, token]

theorem Reader.takes_variant (h : Spells word text) (token : ofToken? α (String.ofList text) = some a) :
    (Reader.variant α).Takes ('"' :: (word ++ ['"'])) a := by
  refine ⟨.string h.isSpelling, fun {space} rest spacing => ?_⟩
  change readVariant α _ = _
  rw [List.cons_append, List.append_assoc, List.singleton_append, readVariant, skipSpacing_cons spacing rfl]
  exact h.readToken token rest

theorem Reader.takes_writtenToken (a : α) : (Reader.variant α).Takes (writtenString (token a)) a :=
  takes_variant (spells_written (token a).toList) (by rw [String.ofList_toList, ofToken?_token])

end

/-! ### Other readers -/

section
variable {α β : Type} {r : Reader α} {text : List Char} {a : α}

theorem Reader.Takes.map (h : r.Takes text a) (f : α → β) : (r.map f).Takes text (f a) := by
  refine ⟨h.value, fun {space} rest spacing => ?_⟩
  have read := h.read rest spacing
  simp only [Reader.map, read]

theorem Reader.takes_null (r : Reader α) (default : α) : (r.orNull default).Takes ['n', 'u', 'l', 'l'] default := by
  refine ⟨.null, fun {space} rest spacing => ?_⟩
  change readOrNull default r _ = _
  have null : wordTail ['u', 'l', 'l'] (['u', 'l', 'l'] ++ rest) = .ok rest := wordTail_eq_ok_iff.mpr rfl
  rw [List.cons_append, readOrNull, skipSpacing_cons spacing rfl]
  simp only [null]

/-- Where null stands for a default any other value is read as before. -/
theorem readOrNull_eq {space rest : List Char} (value : IsValue text) (notNull : text ≠ ['n', 'u', 'l', 'l'])
    (default : α) (spacing : ∀ c ∈ space, isSpacing c = true) :
    (r.orNull default).read (space ++ (text ++ rest)) = r.read (space ++ (text ++ rest)) := by
  change readOrNull default r _ = _
  rw [readOrNull, value.startsValue.skipSpacing spacing]
  split
  · next more null => exact absurd (value.of_null null) notNull
  · rfl

theorem Reader.Takes.orNull (h : r.Takes text a) (notNull : text ≠ ['n', 'u', 'l', 'l']) (default : α) :
    (r.orNull default).Takes text a := by
  refine ⟨h.value, fun {space} rest spacing => ?_⟩
  rw [readOrNull_eq h.value notNull default spacing]
  exact h.read rest spacing

/-! ### Lists -/

section
variable {space space' t rest : List Char}

theorem nextItem_ended {first : Bool} (spacing : ∀ c ∈ space, isSpacing c = true) :
    nextItem first (space ++ ']' :: rest) = .ok (.ended rest) := by
  rw [nextItem, skipSpacing_cons spacing rfl]
  rfl

theorem nextItem_first (spacing : ∀ c ∈ space, isSpacing c = true) (start : StartsValue t) :
    nextItem true (space ++ (t ++ rest)) = .ok (.item (t ++ rest)) := by
  rw [nextItem, start.skipSpacing spacing]
  split
  · next none => exact absurd none (start.ne_nil rest)
  · next more ended => exact absurd ended (start.ne_cons (by decide) more)
  · next whole =>
    rw [whole]
    rfl

theorem nextItem_next (spacing : ∀ c ∈ space, isSpacing c = true) (spacing' : ∀ c ∈ space', isSpacing c = true)
    (start : StartsValue t) :
    nextItem false (space ++ ',' :: (space' ++ (t ++ rest))) = .ok (.item (t ++ rest)) := by
  have follows : skipSpacing (space' ++ (t ++ rest)) = t ++ rest := start.skipSpacing spacing'
  rw [nextItem, skipSpacing_cons spacing rfl]
  simp only [Bool.false_eq_true, ↓reduceIte, Char.reduceEq, imp_self, follows]
  split
  · next none => exact absurd none (start.ne_nil rest)
  · next more ended => exact absurd ended (start.ne_cons (by decide) more)
  · rfl

end

/-- The items in the terms of the first one alone. -/
theorem readItems_eq (r : Reader α) (first : Bool) (s : List Char) : readItems r first s =
    match nextItem first s with
    | .error fault => .error fault
    | .ok (.ended rest) => .ok ([], rest)
    | .ok (.item s) =>
      match r.read s with
      | .error fault => .error fault
      | .ok (a, rest) =>
        match readItems r false rest with
        | .error fault => .error fault
        | .ok (items, rest) => .ok (a :: items, rest) := by
  rw [readItems]
  generalize nextItem first s = next
  rcases next with fault | item | rest
  · rfl
  · dsimp only
    generalize r.read item = taken
    rcases taken with fault | taken <;> rfl
  · rfl

theorem readItems_of_ended {first : Bool} {s rest : List Char} (ended : nextItem first s = .ok (.ended rest)) :
    readItems r first s = .ok ([], rest) := by
  rw [readItems_eq, ended]

theorem readItems_of_item {first : Bool} {s u more rest : List Char} {values : List α}
    (item : nextItem first s = .ok (.item u)) (read : r.read u = .ok (a, more))
    (others : readItems r false more = .ok (values, rest)) : readItems r first s = .ok (a :: values, rest) := by
  rw [readItems_eq, item]
  simp only [read, others]

theorem ListText.readItems {first : Bool} {ts : List (List Char)} {s : List Char} {values : List α}
    (h : ListText first ts s) (items : List.Forall₂ r.Takes ts values) (rest : List Char) :
    readItems r first (s ++ rest) = .ok (values, rest) := by
  have nothing : ∀ c ∈ ([] : List Char), isSpacing c = true := nofun
  induction h generalizing values with
  | ended spacing =>
    cases items
    rw [List.append_assoc]
    exact readItems_of_ended (nextItem_ended spacing)
  | first spacing _ ih =>
    cases items with
    | cons item others =>
      rw [List.append_assoc, List.append_assoc]
      exact readItems_of_item (nextItem_first spacing item.value.startsValue) (item.read _ nothing) (ih others)
  | next spacing spacing' _ ih =>
    cases items with
    | cons item others =>
      rw [List.append_assoc, List.cons_append, List.append_assoc, List.append_assoc]
      exact readItems_of_item (nextItem_next spacing spacing' item.value.startsValue) (item.read _ nothing) (ih others)

theorem exists_of_mem_of_forall₂ {R : α → β → Prop} {l : List α} {m : List β} (h : List.Forall₂ R l m) :
    ∀ a ∈ l, ∃ b ∈ m, R a b := by
  induction h with
  | nil => exact List.forall_mem_nil _
  | cons related _ ih =>
    refine List.forall_mem_cons.mpr ⟨⟨_, List.mem_cons_self, related⟩, fun a member => ?_⟩
    obtain ⟨b, member, related⟩ := ih a member
    exact ⟨b, List.mem_cons_of_mem _ member, related⟩

theorem isValue_of_forall₂ {ts : List (List Char)} {values : List α} (items : List.Forall₂ r.Takes ts values) :
    ∀ t ∈ ts, IsValue t := by
  intro t member
  obtain ⟨a, -, takes⟩ := exists_of_mem_of_forall₂ items t member
  exact takes.value

/-- An array is taken as the list of what its items are taken as. -/
theorem Reader.Takes.list {ts : List (List Char)} {s : List Char} {values : List α}
    (items : List.Forall₂ r.Takes ts values) (h : ListText true ts s) : r.list.Takes ('[' :: s) values := by
  refine ⟨.array h (isValue_of_forall₂ items), fun {space} rest spacing => ?_⟩
  change readList r _ = _
  rw [List.cons_append, readList, skipSpacing_cons spacing rfl]
  exact h.readItems items rest

end

/-! ### Records -/

section
variable {space space' rest : List Char}

theorem nextName_ended {first : Bool} (spacing : ∀ c ∈ space, isSpacing c = true) :
    nextName first (space ++ '}' :: rest) = .ok (.ended rest) := by
  rw [nextName, skipSpacing_cons spacing rfl]
  rfl

theorem nextName_first (spacing : ∀ c ∈ space, isSpacing c = true) :
    nextName true (space ++ '"' :: rest) = .ok (.item rest) := by
  rw [nextName, skipSpacing_cons spacing rfl]
  rfl

theorem nextName_next (spacing : ∀ c ∈ space, isSpacing c = true) (spacing' : ∀ c ∈ space', isSpacing c = true) :
    nextName false (space ++ ',' :: (space' ++ '"' :: rest)) = .ok (.item rest) := by
  have quote : skipSpacing (space' ++ '"' :: rest) = '"' :: rest := skipSpacing_cons spacing' rfl
  rw [nextName, skipSpacing_cons spacing rfl]
  simp [quote]

end

section
variable {σ α : Type} {fields : List (Field σ)} {parts parts' : σ}

/-- Members that are read into parts one after the other: each into a field that has not been read, or into none where
    no field has its name. -/
inductive Fills (fields : List (Field σ)) : σ → List (List Char × List Char) → σ → Prop where
  | nil {parts : σ} : Fills fields parts [] parts
  | known {parts parts' : σ} {name word text : List Char} {members : List (List Char × List Char)} {field : Field σ}
    {put : σ → σ} (spells : Spells word name) (known : fields.find? (·.name = String.ofList name) = some field)
    (fresh : field.isRead parts = false) (value : field.value.Takes text put)
    (others : Fills fields (put parts) members parts') : Fills fields parts ((word, text) :: members) parts'
  | unknown {parts parts' : σ} {name word text : List Char} {members : List (List Char × List Char)}
    (spells : Spells word name) (unknown : fields.find? (·.name = String.ofList name) = none) (value : IsValue text)
    (others : Fills fields parts members parts') : Fills fields parts ((word, text) :: members) parts'

theorem Fills.append {parts'' : σ} {members members' : List (List Char × List Char)}
    (h : Fills fields parts members parts') (h' : Fills fields parts' members' parts'') :
    Fills fields parts (members ++ members') parts'' := by
  induction h with
  | nil => exact h'
  | known spells known fresh value _ ih => exact .known spells known fresh value (ih h')
  | unknown spells unknown value _ ih => exact .unknown spells unknown value (ih h')

theorem Fills.isValue {members : List (List Char × List Char)} (h : Fills fields parts members parts') :
    ∀ m ∈ members, IsValue m.2 := by
  induction h with
  | nil => exact List.forall_mem_nil _
  | known _ _ _ value _ ih => exact List.forall_mem_cons.mpr ⟨value.value, ih⟩
  | unknown _ _ value _ ih => exact List.forall_mem_cons.mpr ⟨value, ih⟩

/-- After its name a member goes on with a colon and its value. -/
theorem MemberText.exists_colon {word value m : List Char} (h : MemberText word value m) (rest : List Char) :
    ∃ left space, m ++ rest = word ++ '"' :: left ∧ (∀ c ∈ space, isSpacing c = true) ∧
      readColon left = .ok (space ++ (value ++ rest)) := by
  cases h with
  | @spelt colon after spelling spacing spacing' =>
    refine ⟨colon ++ ':' :: (after ++ (value ++ rest)), after, by simp, spacing', ?_⟩
    rw [readColon, skipSpacing_cons spacing rfl]
    rfl

theorem MemberText.isSpelling {word value m : List Char} (h : MemberText word value m) : IsSpelling word := by
  cases h with
  | spelt spelling => exact spelling

/-- The first of the members is read, and the others fill what it leaves. -/
theorem Fills.exists_readMember {word value m : List Char} {members : List (List Char × List Char)}
    (h : Fills fields parts ((word, value) :: members) parts') (text : MemberText word value m) {rest : List Char}
    (ends : EndsValue rest) :
    ∃ parts'', readMember fields parts (m ++ rest) = .ok (parts'', rest) ∧ Fills fields parts'' members parts' := by
  obtain ⟨left, space, whole, spacing, colon⟩ := text.exists_colon rest
  rw [whole, readMember]
  cases h with
  | known spells known fresh takes others =>
    refine ⟨_, ?_, others⟩
    simp only [spells.characters, known, fresh, Bool.false_eq_true, ↓reduceIte, colon, takes.read rest spacing]
  | unknown spells unknown isValue others =>
    refine ⟨_, ?_, others⟩
    simp only [spells.characters, unknown, colon, isValue.skipValue spacing ends]

/-- The members in the terms of the first one alone. -/
theorem readMembers_eq (fields : List (Field σ)) (first : Bool) (parts : σ) (s : List Char) :
    readMembers fields first parts s =
      match nextName first s with
      | .error fault => .error fault
      | .ok (.ended rest) => .ok (parts, rest)
      | .ok (.item s) =>
        match readMember fields parts s with
        | .error fault => .error fault
        | .ok (parts, rest) => readMembers fields false parts rest := by
  rw [readMembers]
  generalize nextName first s = next
  rcases next with fault | item | rest
  · rfl
  · dsimp only
    generalize readMember fields parts item = taken
    rcases taken with fault | taken <;> rfl
  · rfl

theorem readMembers_of_ended {first : Bool} {s rest : List Char} (ended : nextName first s = .ok (.ended rest)) :
    readMembers fields first parts s = .ok (parts, rest) := by
  rw [readMembers_eq, ended]

theorem readMembers_of_member {first : Bool} {s u more : List Char} (member : nextName first s = .ok (.item u))
    (read : readMember fields parts u = .ok (parts', more)) :
    readMembers fields first parts s = readMembers fields false parts' more := by
  rw [readMembers_eq, member]
  simp only [read]

theorem ObjectText.readMembers {first : Bool} {members : List (List Char × List Char)} {s : List Char}
    (h : ObjectText first members s) (fills : Fills fields parts members parts') (rest : List Char) :
    readMembers fields first parts (s ++ rest) = .ok (parts', rest) := by
  induction h generalizing parts with
  | ended spacing =>
    cases fills
    rw [List.append_assoc]
    exact readMembers_of_ended (nextName_ended spacing)
  | first spacing text others ih =>
    obtain ⟨parts'', read, fills⟩ := fills.exists_readMember text (others.endsValue rest)
    rw [List.append_assoc, List.cons_append, List.append_assoc, readMembers_of_member (nextName_first spacing) read]
    exact ih fills
  | next spacing spacing' text others ih =>
    obtain ⟨parts'', read, fills⟩ := fills.exists_readMember text (others.endsValue rest)
    rw [List.append_assoc, List.cons_append, List.append_assoc, List.cons_append, List.append_assoc,
      readMembers_of_member (nextName_next spacing spacing') read]
    exact ih fills

/-- An object is taken as the record that its members fill. -/
theorem Record.takes {record : Record σ α} {members : List (List Char × List Char)} {s : List Char} {a : α}
    (h : ObjectText true members s) (fills : Fills record.fields record.start members parts)
    (whole : record.finish parts = .ok a) : record.reader.Takes ('{' :: s) a := by
  refine ⟨.object h fills.isValue, fun {space} rest spacing => ?_⟩
  change readRecord record _ = _
  rw [List.cons_append, readRecord, skipSpacing_cons spacing rfl]
  simp only [h.readMembers fills rest, whole]

end

end ErDiagram.Json
