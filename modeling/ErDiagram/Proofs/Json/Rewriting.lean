import ErDiagram.Proofs.Json.Exact
import Mathlib.Data.List.Pairwise

/-! Rewritings that a record does not notice. The members of an object may be put in another order, members that no
    field has may come and go, a member may be left out where its text says what its absence says, and the value of a
    member may be rewritten as its field allows. Each of these moves leaves what the object is taken as. -/

namespace ErDiagram.Json
open Character Vocabulary

/-! ### Agreement -/

/-- The reader takes both texts as the same, or neither. -/
structure Reader.Agrees {α : Type} (r : Reader α) (t t' : List Char) : Prop where
  value : IsValue t
  value' : IsValue t'
  takes : ∀ {a : α}, r.Takes t a ↔ r.Takes t' a

section
variable {α β : Type} {r : Reader α} {t t' s s' : List Char}

theorem Reader.agrees_self (value : IsValue t) : r.Agrees t t := ⟨value, value, Iff.rfl⟩

theorem Reader.agrees_of_not_takes (value : IsValue t) (value' : IsValue t') (refused : ∀ {a : α}, ¬r.Takes t a)
    (refused' : ∀ {a : α}, ¬r.Takes t' a) : r.Agrees t t' :=
  ⟨value, value', ⟨fun takes => absurd takes refused, fun takes => absurd takes refused'⟩⟩

theorem Reader.Agrees.map (h : r.Agrees t t') (exact : r.Exact) (f : α → β) : (r.map f).Agrees t t' := by
  refine ⟨h.value, h.value', fun {b} => ⟨fun takes => ?_, fun takes => ?_⟩⟩
  · obtain ⟨a, taken, rfl⟩ := exact.of_map takes
    exact (h.takes.mp taken).map f
  · obtain ⟨a, taken, rfl⟩ := exact.of_map takes
    exact (h.takes.mpr taken).map f

theorem Reader.takes_orNull_iff (value : IsValue t) (notNull : t ≠ ['n', 'u', 'l', 'l']) {default a : α} :
    (r.orNull default).Takes t a ↔ r.Takes t a := by
  refine ⟨fun takes => ⟨value, fun {space} rest spacing => ?_⟩, fun takes => takes.orNull notNull default⟩
  rw [← readOrNull_eq value notNull default spacing]
  exact takes.read rest spacing

theorem Reader.Agrees.orNull (h : r.Agrees t t') (notNull : t ≠ ['n', 'u', 'l', 'l'])
    (notNull' : t' ≠ ['n', 'u', 'l', 'l']) (default : α) : (r.orNull default).Agrees t t' := by
  refine ⟨h.value, h.value', fun {a} => ?_⟩
  rw [takes_orNull_iff h.value notNull, takes_orNull_iff h.value' notNull', h.takes]

/-- Arrays agree where their items do, each with the one in its place. -/
theorem ListText.agrees {items : List (List Char × List Char)} (text : ListText true (items.map (·.1)) s)
    (text' : ListText true (items.map (·.2)) s') (exact : r.Exact) (agrees : ∀ p ∈ items, r.Agrees p.1 p.2) :
    r.list.Agrees ('[' :: s) ('[' :: s') := by
  have values : ∀ t ∈ items.map (·.1), IsValue t := List.forall_mem_map.mpr fun p member => (agrees p member).value
  have values' : ∀ t ∈ items.map (·.2), IsValue t := List.forall_mem_map.mpr fun p member => (agrees p member).value'
  refine ⟨.array text values, .array text' values', fun {taken} => ?_⟩
  rw [text.takes_iff exact values, text'.takes_iff exact values', List.forall₂_map_left_iff, List.forall₂_map_left_iff,
    List.forall₂_iff_zip, List.forall₂_iff_zip]
  refine and_congr_right fun _ => ⟨fun takes p a inside => ?_, fun takes p a inside => ?_⟩
  · exact (agrees p (List.of_mem_zip inside).1).takes.mp (takes inside)
  · exact (agrees p (List.of_mem_zip inside).1).takes.mpr (takes inside)

end

/-! ### Spacing -/

/-- The same tokens in the same order, with any spacing between them. -/
inductive Respaced : List Char → List Char → Prop where
  | same {t : List Char} (value : IsValue t) : Respaced t t
  | array {items : List (List Char × List Char)} {s s' : List Char} (text : ListText true (items.map (·.1)) s)
    (text' : ListText true (items.map (·.2)) s') (respaced : ∀ p ∈ items, Respaced p.1 p.2) :
    Respaced ('[' :: s) ('[' :: s')
  | object {members : List (List Char × List Char × List Char)} {s s' : List Char}
    (text : ObjectText true (members.map fun m => (m.1, m.2.1)) s)
    (text' : ObjectText true (members.map fun m => (m.1, m.2.2)) s') (respaced : ∀ m ∈ members, Respaced m.2.1 m.2.2) :
    Respaced ('{' :: s) ('{' :: s')

section
variable {α : Type} {r : Reader α} {a : α} {t t' s : List Char}

theorem Respaced.isValue (h : Respaced t t') : IsValue t ∧ IsValue t' := by
  induction h with
  | same value => exact ⟨value, value⟩
  | array text text' _ ih =>
    exact ⟨.array text (List.forall_mem_map.mpr fun p member => (ih p member).1),
      .array text' (List.forall_mem_map.mpr fun p member => (ih p member).2)⟩
  | object text text' _ ih =>
    exact ⟨.object text (List.forall_mem_map.mpr fun m member => (ih m member).1),
      .object text' (List.forall_mem_map.mpr fun m member => (ih m member).2)⟩

theorem Respaced.eq_null_iff (h : Respaced t t') : t = ['n', 'u', 'l', 'l'] ↔ t' = ['n', 'u', 'l', 'l'] := by
  cases h with
  | same => exact Iff.rfl
  | array | object => simp

theorem Respaced.agrees_orNull (h : Respaced t t') (agrees : r.Agrees t t') (default : α) :
    (r.orNull default).Agrees t t' := by
  cases h with
  | same value => exact Reader.agrees_self value
  | array => exact agrees.orNull (by simp) (by simp) default
  | object => exact agrees.orNull (by simp) (by simp) default

theorem Reader.Takes.first_string {c : Char} {text : String} (h : Reader.string.Takes (c :: s) text) : c = '"' := by
  have read : readString _ = _ := h.read [] (List.forall_mem_nil _)
  rw [readString, h.value.startsValue.skipSpacing (List.forall_mem_nil _)] at read
  split at read
  · next whole => exact (List.cons.inj whole).1
  · cases read

theorem Reader.Takes.first_variant [Vocabulary α] {c : Char} (h : (Reader.variant α).Takes (c :: s) a) :
    c = '"' ∨ c = '{' := by
  have read : readVariant α _ = _ := h.read [] (List.forall_mem_nil _)
  rw [readVariant, h.value.startsValue.skipSpacing (List.forall_mem_nil _)] at read
  split at read
  · cases read
  · next whole => exact Or.inl (List.cons.inj whole).1
  · next whole => exact Or.inr (List.cons.inj whole).1
  · cases read

theorem Reader.Takes.first_list {c : Char} {values : List α} (h : r.list.Takes (c :: s) values) : c = '[' := by
  have read : readList r _ = _ := h.read [] (List.forall_mem_nil _)
  rw [readList, h.value.startsValue.skipSpacing (List.forall_mem_nil _)] at read
  split at read
  · next whole => exact (List.cons.inj whole).1
  · cases read

theorem Respaced.agrees_string (h : Respaced t t') : Reader.string.Agrees t t' := by
  obtain ⟨value, value'⟩ := h.isValue
  cases h with
  | same => exact Reader.agrees_self value
  | array | object =>
    refine Reader.agrees_of_not_takes value value' (fun takes => ?_) (fun takes => ?_) <;> cases takes.first_string

theorem Respaced.agrees_variant [Vocabulary α] (h : Respaced t t') : (Reader.variant α).Agrees t t' := by
  obtain ⟨value, value'⟩ := h.isValue
  cases h with
  | same => exact Reader.agrees_self value
  | array =>
    refine Reader.agrees_of_not_takes value value' (fun takes => ?_) (fun takes => ?_) <;>
      rcases takes.first_variant with first | first <;> cases first
  | object text text' respaced =>
    refine ⟨value, value', fun {a} => ?_⟩
    rw [text.takes_variant_iff (List.forall_mem_map.mpr fun m member => (respaced m member).isValue.1),
      text'.takes_variant_iff (List.forall_mem_map.mpr fun m member => (respaced m member).isValue.2)]
    refine exists₂_congr fun word text => and_congr_left fun _ => ?_
    rw [List.map_eq_singleton_iff, List.map_eq_singleton_iff]
    refine exists_congr fun m => and_congr_right fun only => ?_
    rw [Prod.mk.injEq, Prod.mk.injEq, (respaced m (only ▸ List.mem_singleton_self m)).eq_null_iff]

/-- Respaced lists agree where what their items are read as does not depend on spacing. -/
theorem Respaced.agrees_list (h : Respaced t t') (exact : r.Exact) (agrees : ∀ {t t'}, Respaced t t' → r.Agrees t t') :
    r.list.Agrees t t' := by
  obtain ⟨value, value'⟩ := h.isValue
  cases h with
  | same => exact Reader.agrees_self value
  | array text text' respaced => exact text.agrees text' exact fun p member => agrees (respaced p member)
  | object =>
    refine Reader.agrees_of_not_takes value value' (fun takes => ?_) (fun takes => ?_) <;> cases takes.first_list

end

/-! ### Moves -/

/-- What a member of an object may go through: how its value may be rewritten, and with which values it says what its
    absence says. -/
structure MemberRule where
  name : String
  change : List Char → List Char → Prop
  default : List Char → Prop

/-- A member that must be there. -/
def MemberRule.required (name : String) (change : List Char → List Char → Prop) : MemberRule :=
  ⟨name, change, fun _ => False⟩

/-- A member that may be left out for null or for another text. -/
def MemberRule.optional (name : String) (change : List Char → List Char → Prop) (default : List Char → Prop) :
    MemberRule :=
  ⟨name, change, fun t => t = ['n', 'u', 'l', 'l'] ∨ default t⟩

/-- The members of an object rewritten: in another order, with a member more that no rule knows, with a member more that
    says what its absence says, or with the value of a member changed. All of this also backwards, and one after the
    other. Members are given by the spellings of their names and the texts of their values. -/
inductive MembersRewritten (rules : List MemberRule) :
    List (List Char × List Char) → List (List Char × List Char) → Prop where
  | reorder {members members' : List (List Char × List Char)} (perm : members.Perm members') :
    MembersRewritten rules members members'
  | unknown {word name value : List Char} {members : List (List Char × List Char)} (spells : Spells word name)
    (unknown : ∀ rule ∈ rules, rule.name ≠ String.ofList name) (isValue : IsValue value) :
    MembersRewritten rules members ((word, value) :: members)
  | default {rule : MemberRule} {word value : List Char} {members : List (List Char × List Char)} (known : rule ∈ rules)
    (spells : Spells word rule.name.toList) (absent : ∀ m ∈ members, ¬Spells m.1 rule.name.toList)
    (default : rule.default value) : MembersRewritten rules members ((word, value) :: members)
  | change {rule : MemberRule} {word value value' : List Char} {members : List (List Char × List Char)}
    (known : rule ∈ rules) (spells : Spells word rule.name.toList) (change : rule.change value value') :
    MembersRewritten rules ((word, value) :: members) ((word, value') :: members)
  | symm {members members' : List (List Char × List Char)} (h : MembersRewritten rules members members') :
    MembersRewritten rules members' members
  | trans {members members' members'' : List (List Char × List Char)} (h : MembersRewritten rules members members')
    (h' : MembersRewritten rules members' members'') : MembersRewritten rules members members''

/-- Two objects of values whose members are rewritten. Between the tokens there may be any spacing. -/
inductive ObjectRewritten (rules : List MemberRule) : List Char → List Char → Prop where
  | members {members members' : List (List Char × List Char)} {s s' : List Char} (text : ObjectText true members s)
    (values : ∀ m ∈ members, IsValue m.2) (text' : ObjectText true members' s') (values' : ∀ m ∈ members', IsValue m.2)
    (rewritten : MembersRewritten rules members members') : ObjectRewritten rules ('{' :: s) ('{' :: s')

/-- Two arrays of items that are changed, each in its place. Between the tokens there may be any spacing. -/
inductive ArrayRewritten (change : List Char → List Char → Prop) : List Char → List Char → Prop where
  | items {items : List (List Char × List Char)} {s s' : List Char} (text : ListText true (items.map (·.1)) s)
    (text' : ListText true (items.map (·.2)) s') (changed : ∀ p ∈ items, change p.1 p.2) :
    ArrayRewritten change ('[' :: s) ('[' :: s')

/-! ### Fields apart -/

section
variable {σ α : Type}

/-- Something that the field may do to the parts. -/
def Field.Puts (f : Field σ) (put : σ → σ) : Prop := ∃ s rest, f.value.read s = .ok (put, rest)

theorem Reader.Takes.puts {f : Field σ} {t : List Char} {put : σ → σ} (h : f.value.Takes t put) : f.Puts put :=
  ⟨_, _, h.read [] (List.forall_mem_nil _)⟩

/-- What one field does the other does not see. -/
structure Field.Apart (f g : Field σ) : Prop where
  isRead : ∀ {put : σ → σ}, f.Puts put → ∀ parts, g.isRead (put parts) = g.isRead parts
  comm : ∀ {put put' : σ → σ}, f.Puts put → g.Puts put' → ∀ parts, put (put' parts) = put' (put parts)

/-- The fields of a record are read apart, each once. -/
structure Record.Lawful (record : Record σ α) : Prop where
  start : ∀ f ∈ record.fields, f.isRead record.start = false
  isRead : ∀ f ∈ record.fields, ∀ {put : σ → σ}, f.Puts put → ∀ parts, f.isRead (put parts) = true
  apart : ∀ f ∈ record.fields, ∀ g ∈ record.fields, f.name ≠ g.name → f.Apart g

variable {record : Record σ α} {parts parts' : σ} {members members' : List (List Char × List Char)}

theorem name_of_find? {fields : List (Field σ)} {field : Field σ} {name : String}
    (known : fields.find? (·.name = name) = some field) : field.name = name := by
  simpa using List.find?_some known

theorem fills_known_iff {fields : List (Field σ)} {field : Field σ} {name word t : List Char}
    (spells : Spells word name) (known : fields.find? (·.name = String.ofList name) = some field) :
    Fills fields parts ((word, t) :: members) parts' ↔
      field.isRead parts = false ∧ ∃ put, field.value.Takes t put ∧ Fills fields (put parts) members parts' := by
  constructor
  · intro fills
    cases fills with
    | known spells' known' fresh value others =>
      obtain rfl := spells.unique spells'
      obtain rfl := Option.some.inj (known.symm.trans known')
      exact ⟨fresh, _, value, others⟩
    | unknown spells' unknown =>
      obtain rfl := spells.unique spells'
      rw [known] at unknown
      cases unknown
  · rintro ⟨fresh, put, value, others⟩
    exact .known spells known fresh value others

theorem fills_unknown_iff {fields : List (Field σ)} {name word t : List Char} (spells : Spells word name)
    (unknown : fields.find? (·.name = String.ofList name) = none) :
    Fills fields parts ((word, t) :: members) parts' ↔ IsValue t ∧ Fills fields parts members parts' := by
  constructor
  · intro fills
    cases fills with
    | known spells' known =>
      obtain rfl := spells.unique spells'
      rw [known] at unknown
      cases unknown
    | unknown _ _ value others => exact ⟨value, others⟩
  · rintro ⟨value, others⟩
    exact .unknown spells unknown value others

/-- A field that was read cannot be the next one that is read. -/
theorem Record.Lawful.name_ne (h : record.Lawful) {field field' : Field σ} {name name' : String} {put : σ → σ}
    (known : record.fields.find? (·.name = name) = some field)
    (known' : record.fields.find? (·.name = name') = some field') (puts : field.Puts put)
    (fresh' : field'.isRead (put parts) = false) : field.name ≠ field'.name := by
  intro same
  rw [name_of_find? known, name_of_find? known'] at same
  subst same
  obtain rfl := Option.some.inj (known.symm.trans known')
  rw [h.isRead field (List.mem_of_find?_eq_some known) puts] at fresh'
  cases fresh'

/-- The order of the members does not matter. -/
theorem Record.Lawful.fills_perm (h : record.Lawful) (perm : members.Perm members')
    (fills : Fills record.fields parts members parts') : Fills record.fields parts members' parts' := by
  induction perm generalizing parts with
  | nil => exact fills
  | cons m _ ih =>
    cases fills with
    | known spells known fresh value others => exact .known spells known fresh value (ih others)
    | unknown spells unknown value others => exact .unknown spells unknown value (ih others)
  | swap m m' members =>
    cases fills with
    | @known _ _ _ _ _ _ field put spells known fresh value others =>
      cases others with
      | @known _ _ _ _ _ _ field' put' spells' known' fresh' value' others =>
        have other := h.name_ne known known' value.puts fresh'
        have mem := List.mem_of_find?_eq_some known
        have mem' := List.mem_of_find?_eq_some known'
        have apart := h.apart field mem field' mem' other
        have apart' := h.apart field' mem' field mem other.symm
        rw [apart.isRead value.puts] at fresh'
        refine .known spells' known' fresh' value' (.known spells known ?_ value ?_)
        · rwa [apart'.isRead value'.puts]
        · rwa [apart.comm value.puts value'.puts]
      | unknown spells' unknown value' others =>
        exact .unknown spells' unknown value' (.known spells known fresh value others)
    | unknown spells unknown value others =>
      cases others with
      | known spells' known' fresh' value' others =>
        exact .known spells' known' fresh' value' (.unknown spells unknown value others)
      | unknown spells' unknown' value' others =>
        exact .unknown spells' unknown' value' (.unknown spells unknown value others)
  | trans _ _ ih ih' => exact ih' (ih fills)

/-- Members that a field has no part in fill the parts alike whatever the field does. -/
theorem Record.Lawful.fills_put_iff (h : record.Lawful) {field : Field σ} {put : σ → σ} (mem : field ∈ record.fields)
    (puts : field.Puts put) (absent : ∀ m ∈ members, ¬Spells m.1 field.name.toList) :
    Fills record.fields (put parts) members parts' ↔
      ∃ parts'', Fills record.fields parts members parts'' ∧ parts' = put parts'' := by
  induction members generalizing parts with
  | nil =>
    constructor
    · intro fills
      cases fills
      exact ⟨parts, .nil, rfl⟩
    · rintro ⟨parts'', fills, rfl⟩
      cases fills
      exact .nil
  | cons m members ih =>
    rw [List.forall_mem_cons] at absent
    have other : ∀ {g : Field σ} {name : List Char}, Spells m.1 name →
        record.fields.find? (·.name = String.ofList name) = some g → g ∈ record.fields ∧ g.name ≠ field.name := by
      intro g name spells known
      refine ⟨List.mem_of_find?_eq_some known, fun same => absent.1 ?_⟩
      rw [← same, name_of_find? known, String.toList_ofList]
      exact spells
    constructor
    · intro fills
      cases fills with
      | @known _ _ _ _ _ _ g put' spells known fresh value others =>
        obtain ⟨mem', ne⟩ := other spells known
        rw [(h.apart g mem' field mem ne).comm value.puts puts] at others
        rw [(h.apart field mem g mem' ne.symm).isRead puts] at fresh
        obtain ⟨parts'', filled, rfl⟩ := (ih absent.2).mp others
        exact ⟨parts'', .known spells known fresh value filled, rfl⟩
      | unknown spells unknown value others =>
        obtain ⟨parts'', filled, rfl⟩ := (ih absent.2).mp others
        exact ⟨parts'', .unknown spells unknown value filled, rfl⟩
    · rintro ⟨parts'', fills, rfl⟩
      cases fills with
      | @known _ _ _ _ _ _ g put' spells known fresh value others =>
        obtain ⟨mem', ne⟩ := other spells known
        refine .known spells known ?_ value ?_
        · rwa [(h.apart field mem g mem' ne.symm).isRead puts]
        · rw [(h.apart g mem' field mem ne).comm value.puts puts]
          exact (ih absent.2).mpr ⟨parts'', others, rfl⟩
      | unknown spells unknown value others =>
        exact .unknown spells unknown value ((ih absent.2).mpr ⟨parts'', others, rfl⟩)

/-- A field that no member has is not read. -/
theorem Record.Lawful.isRead_of_fills (h : record.Lawful) {field : Field σ} (mem : field ∈ record.fields)
    (absent : ∀ m ∈ members, ¬Spells m.1 field.name.toList) (fills : Fills record.fields parts members parts') :
    field.isRead parts' = field.isRead parts := by
  induction fills with
  | nil => rfl
  | @known _ _ name _ _ _ g put spells known fresh value _ ih =>
    rw [List.forall_mem_cons] at absent
    have ne : g.name ≠ field.name := by
      intro same
      rw [← same, name_of_find? known, String.toList_ofList] at absent
      exact absent.1 spells
    rw [ih absent.2, (h.apart g (List.mem_of_find?_eq_some known) field mem ne).isRead value.puts]
  | unknown _ _ _ _ ih => exact ih (List.forall_mem_cons.mp absent).2

/-! ### Rules of a record -/

/-- The rule is for the field: what it lets a member go through leaves what the field does, and what the field does with
    a default changes nothing in the end. -/
structure MemberRule.Fits (rule : MemberRule) (record : Record σ α) (field : Field σ) : Prop where
  known : record.fields.find? (·.name = rule.name) = some field
  exact : field.value.Exact
  isRead : ∀ {put : σ → σ}, field.Puts put → ∀ parts, field.isRead (put parts) = true
  change : ∀ {t t' : List Char}, rule.change t t' → field.value.Agrees t t'
  default : ∀ {t : List Char}, rule.default t → ∃ put, field.value.Takes t put ∧
    ∀ parts, field.isRead parts = false → record.finish (put parts) = record.finish parts

/-- There is a rule for each field of the record, and the fields are apart. -/
structure Record.Keeps (record : Record σ α) (rules : List MemberRule) : Prop where
  fits : List.Forall₂ (MemberRule.Fits · record ·) rules record.fields
  start : ∀ f ∈ record.fields, f.isRead record.start = false
  apart : record.fields.Pairwise fun f g => f.Apart g ∧ g.Apart f

variable {rules : List MemberRule}

theorem Record.Keeps.exists_field (h : record.Keeps rules) {rule : MemberRule} (known : rule ∈ rules) :
    ∃ field, rule.Fits record field := by
  obtain ⟨field, -, fits⟩ := exists_of_mem_of_forall₂ h.fits rule known
  exact ⟨field, fits⟩

theorem Record.Keeps.exists_rule (h : record.Keeps rules) {field : Field σ} (mem : field ∈ record.fields) :
    ∃ rule ∈ rules, rule.Fits record field :=
  exists_of_mem_of_forall₂ h.fits.flip field mem

theorem Record.Keeps.exact (h : record.Keeps rules) : ∀ f ∈ record.fields, f.value.Exact := by
  intro field mem
  obtain ⟨rule, -, fits⟩ := h.exists_rule mem
  exact fits.exact

theorem Record.Keeps.lawful (h : record.Keeps rules) : record.Lawful where
  start := h.start
  isRead field mem {put} puts parts := by
    obtain ⟨rule, -, fits⟩ := h.exists_rule mem
    exact fits.isRead puts parts
  apart f mem g mem' ne := by
    have symm : Std.Symm fun f g : Field σ => f.Apart g ∧ g.Apart f := ⟨fun _ _ => And.symm⟩
    exact (h.apart.forall mem mem' (mt (congrArg Field.name) ne)).1

theorem MemberRule.Fits.known' {rule : MemberRule} {field : Field σ} (h : rule.Fits record field) :
    record.fields.find? (·.name = String.ofList rule.name.toList) = some field := by
  rw [String.ofList_toList]
  exact h.known

theorem Record.Keeps.filled_default_iff (h : record.Keeps rules) {rule : MemberRule} {word t : List Char}
    (known : rule ∈ rules) (spells : Spells word rule.name.toList)
    (absent : ∀ m ∈ members, ¬Spells m.1 rule.name.toList) (default : rule.default t) {a : α} :
    record.Filled members a ↔ record.Filled ((word, t) :: members) a := by
  obtain ⟨field, fits⟩ := h.exists_field known
  obtain ⟨put, takes, finish⟩ := fits.default default
  have mem := List.mem_of_find?_eq_some fits.known
  have start := h.start field mem
  rw [← name_of_find? fits.known] at absent
  constructor
  · rintro ⟨parts, fills, whole⟩
    have unread : field.isRead parts = false := by rw [h.lawful.isRead_of_fills mem absent fills, start]
    refine ⟨put parts, (fills_known_iff spells fits.known').mpr ⟨start, put, takes, ?_⟩, ?_⟩
    · exact (h.lawful.fills_put_iff mem takes.puts absent).mpr ⟨parts, fills, rfl⟩
    · rw [finish parts unread, whole]
  · rintro ⟨parts, fills, whole⟩
    obtain ⟨-, put', takes', others⟩ := (fills_known_iff spells fits.known').mp fills
    obtain rfl := takes.unique takes'
    obtain ⟨parts', filled, rfl⟩ := (h.lawful.fills_put_iff mem takes.puts absent).mp others
    have unread : field.isRead parts' = false := by rw [h.lawful.isRead_of_fills mem absent filled, start]
    exact ⟨parts', filled, by rw [← finish parts' unread, whole]⟩

/-- What the members fill a record as does not change when they are rewritten. -/
theorem Record.Keeps.filled_iff (h : record.Keeps rules) (rewritten : MembersRewritten rules members members') {a : α} :
    record.Filled members a ↔ record.Filled members' a := by
  induction rewritten with
  | reorder perm =>
    exact exists_congr fun parts => and_congr_left fun _ => ⟨h.lawful.fills_perm perm, h.lawful.fills_perm perm.symm⟩
  | @unknown word name value members spells unknown isValue =>
    have none : record.fields.find? (·.name = String.ofList name) = none := by
      rw [List.find?_eq_none]
      intro f mem same
      obtain ⟨rule, known, fits⟩ := h.exists_rule mem
      exact unknown rule known ((name_of_find? fits.known).symm.trans (of_decide_eq_true same))
    refine exists_congr fun parts => and_congr_left fun _ => ?_
    rw [fills_unknown_iff spells none, and_iff_right isValue]
  | default known spells absent default => exact h.filled_default_iff known spells absent default
  | change known spells change =>
    obtain ⟨field, fits⟩ := h.exists_field known
    refine exists_congr fun parts => and_congr_left fun _ => ?_
    rw [fills_known_iff spells fits.known', fills_known_iff spells fits.known']
    exact and_congr_right fun _ => exists_congr fun put => and_congr_left fun _ => (fits.change change).takes
  | symm _ ih => exact ih.symm
  | trans _ _ ih ih' => exact ih.trans ih'

/-- Objects whose members are rewritten agree. -/
theorem Record.Keeps.agrees (h : record.Keeps rules) {t t' : List Char} (rewritten : ObjectRewritten rules t t') :
    record.reader.Agrees t t' := by
  cases rewritten with
  | members text values text' values' rewritten =>
    refine ⟨.object text values, .object text' values', fun {a} => ?_⟩
    rw [text.takes_record_iff values h.exact, text'.takes_record_iff values' h.exact,
      h.filled_iff rewritten]

end

end ErDiagram.Json
