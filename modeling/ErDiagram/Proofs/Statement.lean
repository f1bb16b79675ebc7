import ErDiagram.Document.Render
import ErDiagram.Proofs.Grammar.Relationship
import ErDiagram.Proofs.Outline

/-! Statements written and read back. A statement is writable when each of its words is one that the reader takes as
    a word and each of its attributes one that the reader takes as one text. What is written is then a statement of the
    grammar, which states that entity or relationship, so the reader gives it back, field by field. -/

namespace ErDiagram
open Character Document Grammar Vocabulary

/-! ### Joined texts -/

theorem toList_intercalate_cons (separator first : String) (others : List String) :
    (separator.intercalate (first :: others)).toList =
      first.toList ++ others.flatMap fun s => separator.toList ++ s.toList := by
  induction others generalizing first with
  | nil => simp
  | cons second others ih =>
    rw [String.intercalate_cons_cons, String.toList_append, String.toList_append, ih, List.flatMap_cons,
      List.append_assoc, List.append_assoc]

theorem forall_mem_intercalate {p : Char → Prop} {separator : String} {texts : List String}
    (between : ∀ c ∈ separator.toList, p c) (inside : ∀ s ∈ texts, ∀ c ∈ s.toList, p c) :
    ∀ c ∈ (separator.intercalate texts).toList, p c := by
  cases texts with
  | nil => simp
  | cons first others =>
    rw [List.forall_mem_cons] at inside
    rw [toList_intercalate_cons, List.forall_mem_append, List.forall_mem_flatMap]
    refine ⟨inside.1, fun s hs => ?_⟩
    rw [List.forall_mem_append]
    exact ⟨between, inside.2 s hs⟩

theorem map_eq_self {α : Type} {l : List α} {f : α → α} (h : ∀ a ∈ l, f a = a) : l.map f = l :=
  (List.map_congr_left (g := id) h).trans l.map_id

/-- What stands between the attributes ends no statement. -/
theorem comma_quiet : ∀ c ∈ ", ".toList, endsStatement c = false :=
  List.forall_mem_cons.mpr ⟨rfl, List.forall_mem_singleton.mpr rfl⟩

/-- One space. -/
theorem isGap_blank : IsGap [' '] := ⟨List.cons_ne_nil _ _, by simp [IsSpace]⟩

/-- Texts with a comma and a space between them are a list. -/
theorem lists_joined {names : List Char → Attribute → Prop} {text : Attribute → String} {a : Attribute}
    {others : List Attribute} (texts : ∀ b ∈ a :: others, IsAttribute (text b).toList ∧ names (text b).toList b) :
    Lists names (", ".intercalate ((a :: others).map text)).toList (a :: others) := by
  induction others generalizing a with
  | nil =>
    obtain ⟨form, named⟩ := texts a List.mem_cons_self
    rw [List.map_singleton, String.intercalate_singleton]
    exact .last form named
  | cons b others ih =>
    obtain ⟨form, named⟩ := texts a List.mem_cons_self
    have tail := ih fun c hc => texts c (List.mem_cons_of_mem _ hc)
    have whole := Lists.more form named isGap_blank.space tail
    rw [List.map_cons, List.map_cons, String.intercalate_cons_cons, String.toList_append, String.toList_append,
      List.append_assoc]
    exact whole

/-! ### Entities -/

/-- The statement of an entity by itself, which has its options as they are. -/
def Entity.statement (e : Entity) : String := e.statementWith e.options

/-- An entity whose statement reads back: its words are identifiers, a strong entity has no options, since its kind
    is not written, and each attribute is one text whose mark tells its role. -/
structure Entity.Writable (e : Entity) : Prop where
  name : isIdentifier e.name = true
  options : ∀ o ∈ e.options, isIdentifier o = true
  strong : e.kind = .strong → e.options = []
  attributes : ∀ a ∈ e.attributes, IsWritableText a.marked.toList ∧ (a.key = .plain → a.readsAsKey = false)

/-- What follows the header of an entity. -/
def Entity.attributePart (e : Entity) : List Char :=
  if e.attributes = [] then [] else ' ' :: (", ".intercalate (e.attributes.map (·.marked))).toList

theorem Entity.toList_statement (e : Entity) : e.statement.toList =
    e.name.toList ++ ((if e.kind = .strong then [] else '.' :: (token e.kind).toList) ++
      ((e.options.flatMap fun o => '.' :: o.toList) ++ e.attributePart)) := by
  rw [Entity.statement, Entity.statementWith, Entity.header, List.cons_append, String.toList_append,
    toList_intercalate_cons, List.flatMap_append, List.append_assoc, List.append_assoc]
  congr 2
  · split
    · rfl
    · exact List.flatMap_singleton _ _
  · rw [attributePart]
    split
    · rfl
    · rw [String.toList_append]
      rfl

theorem Entity.Writable.entityTail {e : Entity} (h : e.Writable) : EntityTail e.attributePart e.attributes := by
  rw [attributePart]
  cases attributes : e.attributes with
  | nil => exact .none isSpace_nil
  | cons a others =>
    rw [if_neg (List.cons_ne_nil _ _)]
    refine .list isGap_blank (lists_joined fun b hb => ?_)
    obtain ⟨text, unmarked⟩ := h.attributes b (attributes ▸ hb)
    exact ⟨isAttribute_iff.mpr text.isAttributeText,
      (namesMarked_iff _ b).mpr (Attribute.ofText_marked text.trimmed unmarked)⟩

/-- What is written states the entity. -/
theorem Entity.Writable.entityStatement {e : Entity} (h : e.Writable) : EntityStatement e.statement.toList e := by
  rw [toList_statement, ← List.append_assoc _ _ e.attributePart, ← List.append_assoc]
  refine ⟨_, _, rfl, ?_, h.entityTail⟩
  split
  · next strong =>
    rw [strong, h.strong strong, List.flatMap_nil, List.append_nil, List.append_nil]
    exact .name h.name
  · exact .kind h.name (mem_kindWords_iff.mpr rfl) h.options

theorem Entity.Writable.whole_read {e : Entity} (h : e.Writable) : whole Entity.read e.statement.toList = .ok e :=
  h.entityStatement.whole_read

/-- The statement of an entity ends where its words and its attributes end nothing. -/
theorem Entity.isStatementText {e : Entity} (ne : e.name ≠ "") (start : StartsOutside isSpacing e.name.toList)
    (words : ∀ w ∈ e.name :: e.options, ∀ c ∈ w.toList, endsStatement c = false)
    (attributes : ∀ a ∈ e.attributes, ∀ c ∈ a.marked.toList, endsStatement c = false) :
    IsStatementText e.statement.toList := by
  rw [List.forall_mem_cons] at words
  rw [Entity.toList_statement]
  refine ⟨List.append_ne_nil_of_left_ne_nil (toList_ne_nil ne) _, startsOutside_append start (toList_ne_nil ne), ?_⟩
  rw [List.forall_mem_append, List.forall_mem_append, List.forall_mem_append, List.forall_mem_flatMap]
  refine ⟨words.1, ?_, fun o ho => ?_, ?_⟩
  · split
    · simp
    · exact List.forall_mem_cons.mpr ⟨rfl, endsStatement_of_isIdentifier (isIdentifier_entityKind _)⟩
  · exact List.forall_mem_cons.mpr ⟨rfl, words.2 o ho⟩
  · rw [attributePart]
    split
    · simp
    · refine List.forall_mem_cons.mpr ⟨rfl, forall_mem_intercalate comma_quiet fun s hs => ?_⟩
      obtain ⟨a, ha, rfl⟩ := List.mem_map.mp hs
      exact attributes a ha

theorem Entity.Writable.isStatementText {e : Entity} (h : e.Writable) : IsStatementText e.statement.toList := by
  refine Entity.isStatementText (isIdentifier_iff.mp h.name).1 (startsOutside_identifier h.name) ?_ fun a ha =>
    (h.attributes a ha).1.quiet
  exact List.forall_mem_cons.mpr ⟨endsStatement_of_isIdentifier h.name,
    fun o ho => endsStatement_of_isIdentifier (h.options o ho)⟩

/-! ### Relationships -/

/-- The statement of a relationship by itself, which has its ends as they are. -/
def Relationship.statement (r : Relationship) : String := r.statementBetween r.source r.target

/-- A relationship whose statement reads back: its ends are identifiers, its name is one word, and its attributes
    are texts without a role. -/
structure Relationship.Writable (r : Relationship) : Prop where
  source : isIdentifier r.source = true
  name : isRelationshipName r.name = true
  target : isIdentifier r.target = true
  attributes : ∀ a ∈ r.attributes, IsWritableText a.name.toList ∧ a.key = .plain

/-- What follows the name of the target: the kind of the line, if it is written. -/
def Relationship.linePart (r : Relationship) : List Char :=
  if r.line = .double then ' ' :: (token r.line).toList else []

/-- What follows the words of a relationship. -/
def Relationship.attributePart (r : Relationship) : List Char :=
  if r.attributes = [] then []
  else ' ' :: '{' :: ((", ".intercalate (r.attributes.map (·.name))).toList ++ ['}'])

theorem Relationship.toList_statement (r : Relationship) : r.statement.toList =
    r.source.toList ++ ' ' :: ((token r.towardSource).toList ++ ' ' :: (r.name.toList ++
      ' ' :: ((token r.towardTarget).toList ++ ' ' :: (r.target.toList ++ (r.linePart ++ r.attributePart))))) := by
  have blank : " ".toList = [' '] := rfl
  have line : ((if r.line = .double then [token r.line] else []).flatMap fun s => ' ' :: s.toList) = r.linePart := by
    rw [linePart]
    split
    · exact List.flatMap_singleton _ _
    · rfl
  have attributes : (if r.attributes = [] then ""
      else " \x7b" ++ ", ".intercalate (r.attributes.map (·.name)) ++ "\x7d").toList = r.attributePart := by
    rw [attributePart]
    split
    · rfl
    · rw [String.toList_append, String.toList_append]
      rfl
  rw [Relationship.statement, Relationship.statementBetween, Relationship.header, List.cons_append,
    String.toList_append, attributes, toList_intercalate_cons, List.flatMap_append]
  simp only [List.flatMap_cons, List.flatMap_nil, List.append_nil, blank, List.append_assoc, List.cons_append,
    List.nil_append, line]

theorem Relationship.isLinePart (r : Relationship) : LinePart r.linePart r.line := by
  rw [linePart]
  split
  · next double => exact .word isGap_blank (mem_lineWords_iff.mpr rfl)
  · next other =>
    cases line : r.line with
    | single => exact .none
    | double => exact absurd line other

theorem Relationship.Writable.bracePart {r : Relationship} (h : r.Writable) :
    BracePart r.attributePart r.attributes := by
  rw [attributePart]
  cases attributes : r.attributes with
  | nil => exact .none
  | cons a others =>
    rw [if_neg (List.cons_ne_nil _ _)]
    refine .braces isGap_blank.space (.list isSpace_nil (lists_joined fun b hb => ?_)) isSpace_nil
    obtain ⟨text, plain⟩ := h.attributes b (attributes ▸ hb)
    exact ⟨isAttribute_iff.mpr text.isAttributeText,
      (namesPlain_iff _ b).mpr (Attribute.ofPlainText_name text.trimmed plain)⟩

/-- What is written states the relationship. -/
theorem Relationship.Writable.relationshipStatement {r : Relationship} (h : r.Writable) :
    RelationshipStatement r.statement.toList r := by
  have row : Row [r.source, token r.towardSource, r.name, token r.towardTarget, r.target] _ :=
    .more isGap_blank (.more isGap_blank (.more isGap_blank (.more isGap_blank (.last r.target))))
  obtain ⟨ne, chars⟩ := isRelationshipName_iff.mp h.name
  refine ⟨_, _, _, _, _, [], ?_, row, ⟨h.source, mem_cardinalityWords_iff.mpr rfl, ne, fun c hc => (chars c hc).1,
    mem_cardinalityWords_iff.mpr rfl, h.target⟩, r.isLinePart, h.bracePart, isSpace_nil⟩
  rw [toList_statement]
  simp only [List.append_assoc, List.append_nil, List.cons_append, List.nil_append]

theorem Relationship.Writable.whole_read {r : Relationship} (h : r.Writable) :
    whole Relationship.read r.statement.toList = .ok r :=
  h.relationshipStatement.whole_read

/-- The statement of a relationship ends where its names end nothing. -/
theorem Relationship.isStatementText {r : Relationship} (ne : r.source ≠ "")
    (start : StartsOutside isSpacing r.source.toList)
    (words : ∀ w ∈ [r.source, r.name, r.target], ∀ c ∈ w.toList, endsStatement c = false)
    (attributes : ∀ a ∈ r.attributes, ∀ c ∈ a.name.toList, endsStatement c = false) :
    IsStatementText r.statement.toList := by
  have token : ∀ c : Cardinality, ∀ a ∈ (token c).toList, endsStatement a = false := fun c =>
    endsStatement_of_isIdentifier (isIdentifier_cardinality c)
  have line : ∀ c ∈ r.linePart, endsStatement c = false := by
    rw [linePart]
    split
    · exact List.forall_mem_cons.mpr ⟨rfl, endsStatement_of_isIdentifier (isIdentifier_lineKind _)⟩
    · simp
  have braces : ∀ c ∈ r.attributePart, endsStatement c = false := by
    rw [attributePart]
    split
    · simp
    · refine List.forall_mem_cons.mpr ⟨rfl, List.forall_mem_cons.mpr ⟨rfl, List.forall_mem_append.mpr ⟨?_, ?_⟩⟩⟩
      · refine forall_mem_intercalate comma_quiet fun s hs => ?_
        obtain ⟨a, ha, rfl⟩ := List.mem_map.mp hs
        exact attributes a ha
      · exact List.forall_mem_singleton.mpr rfl
  have blank : endsStatement ' ' = false := rfl
  rw [List.forall_mem_cons, List.forall_mem_cons, List.forall_mem_singleton] at words
  obtain ⟨source, name, target⟩ := words
  rw [Relationship.toList_statement]
  refine ⟨List.append_ne_nil_of_left_ne_nil (toList_ne_nil ne) _, startsOutside_append start (toList_ne_nil ne), ?_⟩
  simp only [List.forall_mem_append, List.forall_mem_cons]
  exact ⟨source, blank, token _, blank, name, blank, token _, blank, target, line, braces⟩

theorem Relationship.Writable.isStatementText {r : Relationship} (h : r.Writable) :
    IsStatementText r.statement.toList := by
  refine Relationship.isStatementText (isIdentifier_iff.mp h.source).1 (startsOutside_identifier h.source) ?_
    fun a ha => (h.attributes a ha).1.quiet
  rw [List.forall_mem_cons, List.forall_mem_cons, List.forall_mem_singleton]
  exact ⟨endsStatement_of_isIdentifier h.source, fun c hc => ((isRelationshipName_iff.mp h.name).2 c hc).2,
    endsStatement_of_isIdentifier h.target⟩

end ErDiagram
