import ErDiagram.Json.Schema
import ErDiagram.Proofs.Json.Rewriting
import ErDiagram.Proofs.Json.RoundTrip

/-! What the schema ignores. The objects of a diagram may have their members in any order and other members besides, and
    what has a default may be absent, null or the default itself. Texts that differ in no more than this and in their
    spacing are read as the same diagram, at every level of the schema. -/

namespace ErDiagram
open Character Json Vocabulary

namespace Json

/-! ### Fields -/

section
variable {σ α β : Type} {name name' : String} {get : σ → Option α} {set : α → σ → σ} {get' : σ → Option β}
  {set' : β → σ → σ} {r : Reader α} {r' : Reader β}

theorem Field.exists_of_puts {put : σ → σ} (h : (Field.part name get set r).Puts put) : ∃ a, put = set a := by
  obtain ⟨s, rest, read⟩ := h
  simp only [Field.part, Reader.map] at read
  split at read
  · cases read
    exact ⟨_, rfl⟩
  · cases read

/-- Parts in different places are apart. -/
theorem Field.apart_part (keeps : ∀ a parts, get' (set a parts) = get' parts)
    (comm : ∀ a b parts, set a (set' b parts) = set' b (set a parts)) :
    (Field.part name get set r).Apart (.part name' get' set' r') where
  isRead puts parts := by
    obtain ⟨a, rfl⟩ := exists_of_puts puts
    exact congrArg Option.isSome (keeps a parts)
  comm puts puts' parts := by
    obtain ⟨a, rfl⟩ := exists_of_puts puts
    obtain ⟨b, rfl⟩ := exists_of_puts puts'
    exact comm a b parts

theorem Field.isRead_part (put : ∀ a parts, get (set a parts) = some a) {f : σ → σ}
    (puts : (Field.part name get set r).Puts f) (parts : σ) : (Field.part name get set r).isRead (f parts) = true := by
  obtain ⟨a, rfl⟩ := exists_of_puts puts
  exact congrArg Option.isSome (put a parts)

variable {record : Record σ α} {change : List Char → List Char → Prop} {isDefault : List Char → Prop} {default : β}

theorem MemberRule.Fits.required (known : record.fields.find? (·.name = name) = some (.part name get' set' r'))
    (put : ∀ b parts, get' (set' b parts) = some b) (exact : r'.Exact)
    (agrees : ∀ {t t'}, change t t' → r'.Agrees t t') :
    (MemberRule.required name change).Fits record (.part name get' set' r') where
  known := known
  exact := exact.map _
  isRead := Field.isRead_part put
  change h := (agrees h).map exact _
  default := False.elim

theorem MemberRule.Fits.optional
    (known : record.fields.find? (·.name = name) = some (.part name get' set' (r'.orNull default)))
    (put : ∀ b parts, get' (set' b parts) = some b) (exact : r'.Exact)
    (agrees : ∀ {t t'}, change t t' → (r'.orNull default).Agrees t t')
    (takes : ∀ {t}, isDefault t → (r'.orNull default).Takes t default)
    (finish : ∀ parts, get' parts = none → record.finish (set' default parts) = record.finish parts) :
    (MemberRule.optional name change isDefault).Fits record (.part name get' set' (r'.orNull default)) where
  known := known
  exact := (exact.orNull default).map _
  isRead := Field.isRead_part put
  change h := (agrees h).map (exact.orNull default) _
  default {t} h := by
    have taken : (r'.orNull default).Takes t default := by
      rcases h with rfl | h
      · exact Reader.takes_null r' default
      · exact takes h
    exact ⟨set' default, taken.map _, fun parts unread =>
      finish parts (Option.isNone_iff_eq_none.mp (Option.isSome_eq_false_iff.mp unread))⟩

end

/-! ### Values -/

/-- A string that spells the token. -/
def IsToken (token : String) (t : List Char) : Prop := ∃ word, Spells word token.toList ∧ t = '"' :: (word ++ ['"'])

/-- An array without items. -/
def IsEmptyArray (t : List Char) : Prop := ∃ s, ListText true [] s ∧ t = '[' :: s

section
variable {α : Type} {r : Reader α} {t t' : List Char} {change : List Char → List Char → Prop}

theorem IsToken.takes [Vocabulary α] {a : α} (h : IsToken (token a) t) (default : α) :
    ((Reader.variant α).orNull default).Takes t a := by
  obtain ⟨word, spells, rfl⟩ := h
  exact (Reader.takes_variant spells (by rw [String.ofList_toList, ofToken?_token])).orNull (by simp) default

theorem IsEmptyArray.takes (h : IsEmptyArray t) (r : Reader α) (default : List α) :
    (r.list.orNull default).Takes t [] := by
  obtain ⟨s, text, rfl⟩ := h
  exact (Reader.Takes.list .nil text).orNull (by simp) default

theorem IsEmptyArray.isValue (h : IsEmptyArray t) : IsValue t := by
  obtain ⟨s, text, rfl⟩ := h
  exact .array text (List.forall_mem_nil _)

theorem ArrayRewritten.agrees (h : ArrayRewritten change t t') (exact : r.Exact)
    (agrees : ∀ {t t'}, change t t' → r.Agrees t t') : r.list.Agrees t t' := by
  cases h with
  | items text text' changed => exact text.agrees text' exact fun p member => agrees (changed p member)

theorem ArrayRewritten.agrees_orNull (h : ArrayRewritten change t t') (exact : r.Exact)
    (agrees : ∀ {t t'}, change t t' → r.Agrees t t') (default : List α) : (r.list.orNull default).Agrees t t' := by
  have agree := h.agrees exact agrees
  cases h with
  | items => exact agree.orNull (by simp) (by simp) default

end

end Json

/-! ### Attributes -/

def Attribute.memberRules : List MemberRule :=
  [.required "name" Respaced, .optional "type" Respaced (IsToken "none")]

/-- An attribute written as an object, rewritten. -/
def Attribute.Rewritten : List Char → List Char → Prop := ObjectRewritten memberRules

theorem Attribute.keeps : Attribute.record.Keeps memberRules where
  fits := by
    refine .cons (.required rfl (fun _ _ => rfl) Reader.exact_string Respaced.agrees_string) (.cons ?_ .nil)
    refine .optional rfl (fun _ _ => rfl) Reader.exact_variant (fun h => h.agrees_orNull h.agrees_variant _) ?_ ?_
    · exact fun h => IsToken.takes (a := KeyKind.plain) h _
    · rintro ⟨name, key⟩ rfl
      rfl
  start := by decide
  apart := by simp [Attribute.record, Field.apart_part]

theorem Attribute.exact_reader : Attribute.reader.Exact := Record.exact keeps.exact

/-- The attributes of an entity or a relationship agree with their rewritings. -/
theorem agrees_attributes {t t' : List Char} (h : ArrayRewritten Attribute.Rewritten t t') :
    (Attribute.reader.list.orNull []).Agrees t t' :=
  h.agrees_orNull Attribute.exact_reader (fun rewritten => Attribute.keeps.agrees rewritten) []

/-! ### Entities -/

def Entity.memberRules : List MemberRule :=
  [.required "name" Respaced, .required "type" Respaced, .optional "options" Respaced IsEmptyArray,
    .optional "attrs" (ArrayRewritten Attribute.Rewritten) IsEmptyArray]

/-- An entity written as an object, rewritten. -/
def Entity.Rewritten : List Char → List Char → Prop := ObjectRewritten memberRules

theorem Entity.keeps : Entity.record.Keeps memberRules where
  fits := by
    refine .cons (.required rfl (fun _ _ => rfl) Reader.exact_string Respaced.agrees_string) ?_
    refine .cons (.required rfl (fun _ _ => rfl) Reader.exact_variant Respaced.agrees_variant) ?_
    refine .cons ?options (.cons ?attributes .nil)
    case options =>
      refine .optional rfl (fun _ _ => rfl) Reader.exact_string.list (fun h => ?_) (·.takes _ _) ?_
      · exact h.agrees_orNull (h.agrees_list Reader.exact_string Respaced.agrees_string) []
      · rintro ⟨name, kind, options, attributes⟩ rfl
        rfl
    case attributes =>
      refine .optional rfl (fun _ _ => rfl) Attribute.exact_reader.list agrees_attributes (·.takes _ _) ?_
      rintro ⟨name, kind, options, attributes⟩ rfl
      rfl
  start := by decide
  apart := by simp [Entity.record, Field.apart_part]

theorem Entity.exact_reader : Entity.reader.Exact := Record.exact keeps.exact

/-! ### Relationships -/

def Relationship.memberRules : List MemberRule :=
  [.required "entity_from" Respaced, .required "cardinality_right_to_left" Respaced, .required "name" Respaced,
    .required "cardinality_left_to_right" Respaced, .required "entity_to" Respaced,
    .optional "line_type" Respaced (IsToken "single"),
    .optional "attrs" (ArrayRewritten Attribute.Rewritten) IsEmptyArray]

/-- A relationship written as an object, rewritten. -/
def Relationship.Rewritten : List Char → List Char → Prop := ObjectRewritten memberRules

theorem Relationship.keeps : Relationship.record.Keeps memberRules where
  fits := by
    refine .cons (.required rfl (fun _ _ => rfl) Reader.exact_string Respaced.agrees_string) ?_
    refine .cons (.required rfl (fun _ _ => rfl) Reader.exact_variant Respaced.agrees_variant) ?_
    refine .cons (.required rfl (fun _ _ => rfl) Reader.exact_string Respaced.agrees_string) ?_
    refine .cons (.required rfl (fun _ _ => rfl) Reader.exact_variant Respaced.agrees_variant) ?_
    refine .cons (.required rfl (fun _ _ => rfl) Reader.exact_string Respaced.agrees_string) ?_
    refine .cons ?line (.cons ?attributes .nil)
    case line =>
      refine .optional rfl (fun _ _ => rfl) Reader.exact_variant (fun h => h.agrees_orNull h.agrees_variant _) ?_ ?_
      · exact fun h => IsToken.takes (a := LineKind.single) h _
      · rintro ⟨source, towardSource, name, towardTarget, target, line, attributes⟩ rfl
        rfl
    case attributes =>
      refine .optional rfl (fun _ _ => rfl) Attribute.exact_reader.list agrees_attributes (·.takes _ _) ?_
      rintro ⟨source, towardSource, name, towardTarget, target, line, attributes⟩ rfl
      rfl
  start := by decide
  apart := by simp [Relationship.record, Field.apart_part]

theorem Relationship.exact_reader : Relationship.reader.Exact := Record.exact keeps.exact

/-! ### Diagrams -/

def Diagram.memberRules : List MemberRule :=
  [.required "entities" (ArrayRewritten Entity.Rewritten),
    .optional "relationships" (ArrayRewritten Relationship.Rewritten) IsEmptyArray]

theorem Diagram.keeps : Diagram.record.Keeps memberRules where
  fits := by
    refine .cons (.required rfl (fun _ _ => rfl) Entity.exact_reader.list ?entities) (.cons ?relationships .nil)
    case entities => exact fun h => h.agrees Entity.exact_reader fun rewritten => Entity.keeps.agrees rewritten
    case relationships =>
      refine .optional rfl (fun _ _ => rfl) Relationship.exact_reader.list (fun h => ?_) (·.takes _ _) ?_
      · exact h.agrees_orNull Relationship.exact_reader (fun rewritten => Relationship.keeps.agrees rewritten) []
      · rintro ⟨entities, relationships⟩ rfl
        rfl
  start := by decide
  apart := by simp [Diagram.record, Field.apart_part]

theorem Diagram.exact_reader : Diagram.reader.Exact := Record.exact keeps.exact

/-! ### Whole texts -/

/-- A diagram written as an object, rewritten, with any spacing before and after it. -/
inductive Diagram.Rewritten (text text' : String) : Prop where
  | object {before t after before' t' after' : List Char} (whole : text.toList = before ++ (t ++ after))
    (whole' : text'.toList = before' ++ (t' ++ after')) (spacing : ∀ c ∈ before ++ after, isSpacing c = true)
    (spacing' : ∀ c ∈ before' ++ after', isSpacing c = true) (rewritten : ObjectRewritten memberRules t t') :
    Diagram.Rewritten text text'

/-! ### An example -/

/-- A diagram of one entity. -/
def Diagram.pet : Diagram := ⟨[⟨"Pet", .weak, [], []⟩], []⟩

/-- The diagram with its members in other places, with an empty list and null for what is left out when it is written,
    and with a note that no field has. -/
def Diagram.petText : String :=
  " \x7b\"note\":[-1e9,\x7b\"\\ud800\":\x7b\x7d\x7d],\"relationships\":null ,\"entities\":[" ++
    "\x7b\"attrs\":[ ],\"type\":\"weak\",\"name\":\"Pet\"\x7d]\x7d\n"

theorem not_spells_writtenName {name name' : String} (ne : name ≠ name') : ¬Spells (writtenName name) name'.toList :=
  fun spells => ne (String.toList_inj.mp ((spells_writtenName name).unique spells))

theorem isSpacing_nil : ∀ c ∈ ([] : List Char), isSpacing c = true := List.forall_mem_nil _

theorem isSpacing_blank : ∀ c ∈ [' '], isSpacing c = true := List.forall_mem_singleton.mpr rfl

theorem memberText_compact (name : String) (value : List Char) :
    MemberText (writtenName name) value (writtenName name ++ '"' :: ':' :: value) :=
  memberText_writtenName Layout.isSpacing_compact name value

/-- The note has a number, and an object whose one name is half of a pair of surrogates. -/
theorem isValue_petNote : IsValue "[-1e9,\x7b\"\\ud800\":\x7b\x7d\x7d]".toList := by
  have exponent : IsExponent ['e', '9'] :=
    @IsExponent.digits 'e' [] ['9'] (by decide) (by decide) ⟨List.forall_mem_singleton.mpr rfl, by decide⟩
  have integer : IsInteger ['1'] := .digits ⟨List.forall_mem_singleton.mpr rfl, by decide⟩ (by decide)
  have number : IsNumber ['-', '1', 'e', '9'] := @IsNumber.number ['-'] ['1'] [] _ (by decide) integer .none exponent
  have half : IsSpelling ['\\', 'u', 'd', '8', '0', '0'] :=
    .code (rfl : hexCode? 'd' '8' '0' '0' = some 0xD800) .nil
  have empty : IsValue ['{', '}'] := .object (.ended isSpacing_nil) (List.forall_mem_nil _)
  have object := IsValue.object (.first isSpacing_nil (.spelt half isSpacing_nil isSpacing_nil) (.ended isSpacing_nil))
    (List.forall_mem_singleton.mpr empty)
  have note := IsValue.array (.first isSpacing_nil (.next isSpacing_nil isSpacing_nil (.ended isSpacing_nil)))
    (List.forall_mem_cons.mpr ⟨.number number, List.forall_mem_singleton.mpr object⟩)
  exact cast (congrArg IsValue (by decide +kernel)) note

/-- The members of the entity change places, and an empty list of attributes comes to them. -/
theorem Entity.rewritten_pet : Entity.Rewritten "\x7b\"name\":\"Pet\",\"type\":\"weak\"\x7d".toList
    "\x7b\"attrs\":[ ],\"type\":\"weak\",\"name\":\"Pet\"\x7d".toList := by
  have name := (Reader.takes_writtenString "Pet").value
  have kind := (Reader.takes_writtenString "weak").value
  have attributes : IsEmptyArray ['[', ' ', ']'] := ⟨_, .ended isSpacing_blank, rfl⟩
  have known : MemberRule.optional "attrs" (ArrayRewritten Attribute.Rewritten) IsEmptyArray ∈ memberRules := by
    simp [memberRules]
  have swapped : MembersRewritten memberRules
      [(writtenName "name", writtenString "Pet"), (writtenName "type", writtenString "weak")]
      [(writtenName "type", writtenString "weak"), (writtenName "name", writtenString "Pet")] :=
    .reorder (.swap ..)
  have members := swapped.trans (.default known (spells_writtenName "attrs") (List.forall_mem_cons.mpr
    ⟨not_spells_writtenName (by decide), List.forall_mem_singleton.mpr (not_spells_writtenName (by decide))⟩)
    (Or.inr attributes))
  have rewritten := ObjectRewritten.members
    (.first isSpacing_nil (memberText_compact _ _)
      (.next isSpacing_nil isSpacing_nil (memberText_compact _ _) (.ended isSpacing_nil)))
    (List.forall_mem_cons.mpr ⟨name, List.forall_mem_singleton.mpr kind⟩)
    (.first isSpacing_nil (memberText_compact _ _)
      (.next isSpacing_nil isSpacing_nil (memberText_compact _ _)
        (.next isSpacing_nil isSpacing_nil (memberText_compact _ _) (.ended isSpacing_nil))))
    (List.forall_mem_cons.mpr
      ⟨attributes.isValue, List.forall_mem_cons.mpr ⟨kind, List.forall_mem_singleton.mpr name⟩⟩)
    members
  exact cast (congrArg₂ Entity.Rewritten (by decide +kernel) (by decide +kernel)) rewritten

theorem Diagram.rewritten_pet : Rewritten pet.toJson.compact petText := by
  have entities := @ArrayRewritten.items Entity.Rewritten [(_, _)] _ _ (.first isSpacing_nil (.ended isSpacing_nil))
    (.first isSpacing_nil (.ended isSpacing_nil)) (List.forall_mem_singleton.mpr Entity.rewritten_pet)
  have agrees := entities.agrees Entity.exact_reader fun rewritten => Entity.keeps.agrees rewritten
  have none : IsEmptyArray ['[', ']'] := ⟨_, .ended isSpacing_nil, rfl⟩
  have known : MemberRule.optional "relationships" (ArrayRewritten Relationship.Rewritten) IsEmptyArray ∈
      memberRules := by
    simp [memberRules]
  have absent : ∀ value : List Char, ∀ m ∈ [(writtenName "entities", value)], ¬Spells m.1 "relationships".toList :=
    fun _ => List.forall_mem_singleton.mpr (not_spells_writtenName (by decide))
  -- the list of relationships goes, the list of entities changes, and null and the note come
  have alone : ∀ value : List Char, MembersRewritten memberRules
      [(writtenName "entities", value), (writtenName "relationships", ['[', ']'])] [(writtenName "entities", value)] :=
    fun _ => (MembersRewritten.reorder (.swap ..)).trans
      (.symm (.default known (spells_writtenName "relationships") (absent _) (Or.inr none)))
  have changed := (alone _).trans (.change List.mem_cons_self (spells_writtenName "entities") entities)
  have members := (changed.trans (.default known (spells_writtenName "relationships") (absent _) (Or.inl rfl))).trans
    (.unknown (spells_writtenName "note") (by decide) isValue_petNote)
  have rewritten := ObjectRewritten.members
    (.first isSpacing_nil (memberText_compact _ _)
      (.next isSpacing_nil isSpacing_nil (memberText_compact _ _) (.ended isSpacing_nil)))
    (List.forall_mem_cons.mpr ⟨agrees.value, List.forall_mem_singleton.mpr none.isValue⟩)
    (.first isSpacing_nil (memberText_compact _ _)
      (.next isSpacing_nil isSpacing_nil (memberText_compact _ _)
        (.next isSpacing_blank isSpacing_nil (memberText_compact _ _) (.ended isSpacing_nil))))
    (List.forall_mem_cons.mpr
      ⟨isValue_petNote, List.forall_mem_cons.mpr ⟨.null, List.forall_mem_singleton.mpr agrees.value'⟩⟩)
    members
  exact @Rewritten.object _ _ [] _ [] [' '] _ ['\n'] (by decide +kernel) (by decide +kernel) isSpacing_nil
    (List.forall_mem_cons.mpr ⟨rfl, List.forall_mem_singleton.mpr rfl⟩) rewritten

/-! ### Reading -/

/-- Texts that are rewritings of each other are read as the same diagram, or neither is read. -/
theorem Diagram.Rewritten.decode_iff {text text' : String} (h : Rewritten text text') {d : Diagram} :
    Diagram.reader.decode text = .ok d ↔ Diagram.reader.decode text' = .ok d := by
  cases h with
  | object whole whole' spacing spacing' rewritten =>
    have agrees := keeps.agrees rewritten
    rw [List.forall_mem_append] at spacing spacing'
    rw [exact_reader.decode_eq_ok_iff agrees.value spacing.1 spacing.2 whole,
      exact_reader.decode_eq_ok_iff agrees.value' spacing'.1 spacing'.2 whole']
    exact agrees.takes

/-- The diagram is read from both texts. -/
theorem Diagram.decode_pet : Rewritten pet.toJson.compact petText ∧
    Diagram.reader.decode pet.toJson.compact = .ok pet ∧ Diagram.reader.decode petText = .ok pet := by
  have read : Diagram.reader.decode pet.toJson.compact = .ok pet :=
    (Reader.decode_written fun l h => pet.takes_written h 0).1
  exact ⟨rewritten_pet, read, rewritten_pet.decode_iff.mp read⟩

end ErDiagram
