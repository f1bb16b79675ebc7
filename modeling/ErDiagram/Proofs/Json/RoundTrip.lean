import ErDiagram.Json.Schema
import ErDiagram.Proofs.Json.Reader

/-! The round trip through JSON. A record is written with its members in the order of its fields, and a member is left
    out only where the field has a default, which is then what the member would have said. So what is written, with
    whatever spacing the layout puts between the tokens, is read back as it was. -/

namespace ErDiagram
open Character Json Vocabulary

namespace Json

/-! ### Layouts -/

/-- The layout puts nothing but spacing between the tokens. -/
structure Layout.IsSpacing (l : Layout) : Prop where
  lineBreak : ∀ depth, ∀ c ∈ l.lineBreak depth, isSpacing c = true
  afterColon : ∀ c ∈ l.afterColon, isSpacing c = true

theorem Layout.isSpacing_compact : Layout.compact.IsSpacing := ⟨nofun, nofun⟩

theorem Layout.isSpacing_pretty : Layout.pretty.IsSpacing := by
  refine ⟨fun depth => ?_, List.forall_mem_singleton.mpr rfl⟩
  refine List.forall_mem_cons.mpr ⟨rfl, fun c hc => ?_⟩
  rw [List.eq_of_mem_replicate hc]
  rfl

section
variable {l : Layout}

theorem listText_writtenItems (h : l.IsSpacing) (depth : Nat) (items : List Json) {space : List Char}
    (spacing : ∀ c ∈ space, isSpacing c = true) :
    ListText false (items.map (written l depth)) (writtenItems l depth items ++ (space ++ [']'])) := by
  induction items with
  | nil => exact .ended spacing
  | cons item items ih =>
    have text := ListText.next (List.forall_mem_nil _) (h.lineBreak depth) ih (t := written l depth item)
    rw [writtenItems, List.map_cons]
    simpa only [List.append_assoc, List.cons_append, List.nil_append] using text

/-- A written array is a list of its written items. -/
theorem exists_listText_written (h : l.IsSpacing) (depth : Nat) (items : List Json) : ∃ s,
    written l depth (.array items) = '[' :: s ∧ ListText true (items.map (written l (depth + 1))) s := by
  cases items with
  | nil => exact ⟨[']'], by rw [written], .ended (List.forall_mem_nil _)⟩
  | cons item items =>
    have others := listText_writtenItems h (depth + 1) items (h.lineBreak depth)
    refine ⟨_, ?_, .first (h.lineBreak (depth + 1)) others (t := written l (depth + 1) item)⟩
    rw [written]
    simp only [List.append_assoc, List.cons_append]

/-- A name as it is written between its quotes. -/
def writtenName (name : String) : List Char := name.toList.flatMap writtenChar

theorem spells_writtenName (name : String) : Spells (writtenName name) name.toList := spells_written name.toList

theorem memberText_writtenName (h : l.IsSpacing) (name : String) (value : List Char) :
    MemberText (writtenName name) value (writtenName name ++ '"' :: ':' :: (l.afterColon ++ value)) :=
  .spelt (spells_writtenName name).isSpelling (List.forall_mem_nil _) h.afterColon

/-- Members with the spellings of their names and the texts of their values. -/
def writtenValues (l : Layout) (depth : Nat) (members : List (String × Json)) : List (List Char × List Char) :=
  members.map fun m => (writtenName m.1, written l depth m.2)

theorem objectText_writtenMembers (h : l.IsSpacing) (depth : Nat) (members : List (String × Json)) {space : List Char}
    (spacing : ∀ c ∈ space, isSpacing c = true) :
    ObjectText false (writtenValues l depth members)
      (writtenMembers l depth members ++ (space ++ ['}'])) := by
  induction members with
  | nil => exact .ended spacing
  | cons member members ih =>
    obtain ⟨name, value⟩ := member
    have member := memberText_writtenName h name (written l depth value)
    have text := ObjectText.next (List.forall_mem_nil _) (h.lineBreak depth) member ih
    rw [writtenMembers, writtenValues, List.map_cons]
    simpa only [writtenString, writtenName, writtenValues, List.append_assoc, List.cons_append, List.nil_append]
      using text

/-- A written object is an object of its written members. -/
theorem exists_objectText_written (h : l.IsSpacing) (depth : Nat) (members : List (String × Json)) : ∃ s,
    written l depth (.object members) = '{' :: s ∧
      ObjectText true (writtenValues l (depth + 1) members) s := by
  cases members with
  | nil => exact ⟨['}'], by rw [written], .ended (List.forall_mem_nil _)⟩
  | cons member members =>
    obtain ⟨name, value⟩ := member
    have others := objectText_writtenMembers h (depth + 1) members (h.lineBreak depth)
    have member := memberText_writtenName h name (written l (depth + 1) value)
    refine ⟨_, ?_, .first (h.lineBreak (depth + 1)) member others⟩
    rw [written]
    simp only [writtenString, writtenName, List.append_assoc, List.cons_append, List.nil_append]

end

/-! ### Values -/

/-- Null is not written. -/
theorem written_ne_null (l : Layout) (depth : Nat) (j : Json) : written l depth j ≠ ['n', 'u', 'l', 'l'] := by
  cases j with
  | string text =>
    rw [written, writtenString]
    simp
  | array items => cases items <;> simp [written]
  | object members => rcases members with _ | ⟨⟨name, value⟩, members⟩ <;> simp [written]

section
variable {α : Type} {l : Layout} {depth : Nat}

theorem Reader.takes_written_string (l : Layout) (depth : Nat) (text : String) :
    Reader.string.Takes (written l depth (.string text)) text := by
  rw [written]
  exact takes_writtenString text

theorem Reader.takes_written_token [Vocabulary α] (l : Layout) (depth : Nat) (a : α) :
    (Reader.variant α).Takes (written l depth (.string (token a))) a := by
  rw [written]
  exact takes_writtenToken a

theorem Reader.takes_written_list {r : Reader α} (h : l.IsSpacing) {toJson : α → Json} (values : List α)
    (items : ∀ a ∈ values, r.Takes (written l (depth + 1) (toJson a)) a) :
    r.list.Takes (written l depth (.array (values.map toJson))) values := by
  obtain ⟨s, whole, text⟩ := exists_listText_written h depth (values.map toJson)
  rw [whole]
  refine Reader.Takes.list ?_ text
  rw [List.forall₂_map_left_iff, List.forall₂_map_left_iff, List.forall₂_same]
  exact items

/-- A member that is written fills the field of its name. -/
theorem Fills.written {σ : Type} {fields : List (Field σ)} {parts parts' : σ} {name : String} {text : List Char}
    {members : List (List Char × List Char)} {field : Field σ} {put : σ → σ}
    (known : fields.find? (·.name = name) = some field) (fresh : field.isRead parts = false)
    (value : field.value.Takes text put) (others : Fills fields (put parts) members parts') :
    Fills fields parts ((writtenName name, text) :: members) parts' :=
  .known (spells_writtenName name) (by rwa [String.ofList_toList]) fresh value others

theorem Record.takes_written {σ : Type} {record : Record σ α} (h : l.IsSpacing) {members : List (String × Json)}
    {a : α} (parts : σ) (finish : record.finish parts = .ok a)
    (fills : Fills record.fields record.start (writtenValues l (depth + 1) members) parts) :
    record.reader.Takes (written l depth (.object members)) a := by
  obtain ⟨s, whole, text⟩ := exists_objectText_written h depth members
  rw [whole]
  exact Record.takes text fills finish

end

/-! ### Defaults -/

section
variable {α σ : Type} {l : Layout} {depth : Nat}

/-- The part of a field whose member is left out where the value is the default. -/
def optionalPart (default a : α) [Decidable (a = default)] : Option α := if a = default then none else some a

theorem optionalPart_getD (default a : α) [Decidable (a = default)] : (optionalPart default a).getD default = a := by
  rw [optionalPart]
  split
  · next same => rw [same, Option.getD_none]
  · rfl

/-- A member that is left out where the value is the default fills its part alike. -/
theorem fills_optional {fields : List (Field σ)} {field : Field σ} {name : String} {json : Json} {put : σ → σ}
    {default a : α} [Decidable (a = default)] (state : Option α → σ)
    (known : fields.find? (·.name = name) = some field) (fresh : field.isRead (state none) = false)
    (value : field.value.Takes (written l depth json) put) (filled : put (state none) = state (some a)) :
    Fills fields (state none) (writtenValues l depth (if a = default then [] else [(name, json)]))
      (state (optionalPart default a)) := by
  rw [optionalPart]
  split
  · exact .nil
  · refine .written known fresh value ?_
    rw [filled]
    exact .nil

end

end Json

/-! ### The schema -/

section
variable {l : Layout}

theorem Attribute.takes_written (h : l.IsSpacing) (depth : Nat) (a : Attribute) :
    Attribute.reader.Takes (written l depth a.toJson) a := by
  have name := Reader.takes_written_string l (depth + 1) a.name
  have key := (Reader.takes_written_token l (depth + 1) a.key).orNull (written_ne_null _ _ _) .plain
  refine Record.takes_written h ⟨some a.name, optionalPart .plain a.key⟩ ?_ (.written rfl rfl (name.map _) ?_)
  · change Except.ok (Attribute.mk _ _) = _
    rw [optionalPart_getD]
  · exact fills_optional (AttributeParts.mk (some a.name)) rfl rfl (key.map _) rfl

/-- The attributes of an entity or a relationship, taken by a reader that also takes null. -/
theorem takes_written_attributes (h : l.IsSpacing) (depth : Nat) (attributes : List Attribute) :
    (Attribute.reader.list.orNull []).Takes (written l depth (.array (attributes.map Attribute.toJson))) attributes :=
  (Reader.takes_written_list h attributes fun a _ => a.takes_written h (depth + 1)).orNull (written_ne_null _ _ _) []

theorem Entity.takes_written (h : l.IsSpacing) (depth : Nat) (e : Entity) :
    Entity.reader.Takes (written l depth e.toJson) e := by
  have name := Reader.takes_written_string l (depth + 1) e.name
  have kind := Reader.takes_written_token l (depth + 1) e.kind
  have options := Reader.takes_written_list h e.options fun o _ => Reader.takes_written_string l (depth + 2) o
  have attributes := takes_written_attributes h (depth + 1) e.attributes
  let state := EntityParts.mk (some e.name) (some e.kind)
  refine Record.takes_written h (state (optionalPart [] e.options) (optionalPart [] e.attributes)) ?_ ?_
  · change Except.ok (Entity.mk _ _ _ _) = _
    rw [optionalPart_getD, optionalPart_getD]
  rw [List.append_assoc, List.cons_append, List.cons_append, List.nil_append]
  refine .written rfl rfl (name.map _) (.written rfl rfl (kind.map _) ?_)
  rw [List.map_append]
  refine .append (fills_optional (state · none) rfl rfl ((options.orNull (written_ne_null _ _ _) []).map _) rfl) ?_
  exact fills_optional (state (optionalPart [] e.options)) rfl rfl (attributes.map _) rfl

theorem Relationship.takes_written (h : l.IsSpacing) (depth : Nat) (r : Relationship) :
    Relationship.reader.Takes (written l depth r.toJson) r := by
  have source := Reader.takes_written_string l (depth + 1) r.source
  have towardSource := Reader.takes_written_token l (depth + 1) r.towardSource
  have name := Reader.takes_written_string l (depth + 1) r.name
  have towardTarget := Reader.takes_written_token l (depth + 1) r.towardTarget
  have target := Reader.takes_written_string l (depth + 1) r.target
  have line := (Reader.takes_written_token l (depth + 1) r.line).orNull (written_ne_null _ _ _) .single
  have attributes := takes_written_attributes h (depth + 1) r.attributes
  let state := RelationshipParts.mk (some r.source) (some r.towardSource) (some r.name) (some r.towardTarget)
    (some r.target) (some r.line)
  refine Record.takes_written h (state (optionalPart [] r.attributes)) ?_ ?_
  · change Except.ok (Relationship.mk _ _ _ _ _ _ _) = _
    rw [optionalPart_getD]
    rfl
  refine .written rfl rfl (source.map _) (.written rfl rfl (towardSource.map _) (.written rfl rfl (name.map _) ?_))
  refine .written rfl rfl (towardTarget.map _) (.written rfl rfl (target.map _) (.written rfl rfl (line.map _) ?_))
  exact fills_optional state rfl rfl (attributes.map _) rfl

theorem Diagram.takes_written (h : l.IsSpacing) (depth : Nat) (d : Diagram) :
    Diagram.reader.Takes (written l depth d.toJson) d := by
  have entities := Reader.takes_written_list h d.entities fun e _ => e.takes_written h (depth + 2)
  have relationships := Reader.takes_written_list h d.relationships fun r _ => r.takes_written h (depth + 2)
  refine Record.takes_written h ⟨some d.entities, some d.relationships⟩ rfl (.written rfl rfl (entities.map _) ?_)
  exact .written rfl rfl ((relationships.orNull (written_ne_null _ _ _) []).map _) .nil

end

/-! ### Whole texts -/

/-- A text that a reader takes stands alone, and after it there may be spacing. -/
theorem Json.Reader.Takes.decode {α : Type} {r : Reader α} {text space : List Char} {a : α} (h : r.Takes text a)
    (spacing : ∀ c ∈ space, isSpacing c = true) : r.decode (String.ofList (text ++ space)) = .ok a := by
  have read : r.read (text ++ space) = .ok (a, space) := h.read space (List.forall_mem_nil _)
  have nothing : skipSpacing space = [] := List.dropWhile_eq_nil_iff.mpr spacing
  simp only [Reader.decode, String.toList_ofList, read, nothing]

/-- A value whose text a reader takes in every layout is read back from both of its texts. -/
theorem Json.Reader.decode_written {α : Type} {r : Reader α} {j : Json} {a : α}
    (h : ∀ l : Layout, l.IsSpacing → r.Takes (written l 0 j) a) :
    r.decode j.compact = .ok a ∧ r.decode j.pretty = .ok a := by
  have whole : ∀ l : Layout, l.IsSpacing → r.decode (String.ofList (written l 0 j)) = .ok a := by
    intro l spacing
    have read := (h l spacing).decode (List.forall_mem_nil _)
    rw [List.append_nil] at read
    exact read
  exact ⟨whole .compact Layout.isSpacing_compact, whole .pretty Layout.isSpacing_pretty⟩

/-- Diagrams and all their parts are read back from compact and from pretty JSON, whatever characters and however many
    items they hold. What is left out of the text is found again in the defaults. -/
theorem decode_toJson :
    (∀ d : Diagram, Diagram.reader.decode d.toJson.compact = .ok d ∧ Diagram.reader.decode d.toJson.pretty = .ok d) ∧
      (∀ e : Entity, Entity.reader.decode e.toJson.compact = .ok e ∧ Entity.reader.decode e.toJson.pretty = .ok e) ∧
      (∀ a : Attribute,
        Attribute.reader.decode a.toJson.compact = .ok a ∧ Attribute.reader.decode a.toJson.pretty = .ok a) ∧
      ∀ r : Relationship,
        Relationship.reader.decode r.toJson.compact = .ok r ∧ Relationship.reader.decode r.toJson.pretty = .ok r := by
  refine ⟨fun d => ?_, fun e => ?_, fun a => ?_, fun r => ?_⟩
  · exact Json.Reader.decode_written fun l h => d.takes_written h 0
  · exact Json.Reader.decode_written fun l h => e.takes_written h 0
  · exact Json.Reader.decode_written fun l h => a.takes_written h 0
  · exact Json.Reader.decode_written fun l h => r.takes_written h 0

end ErDiagram
