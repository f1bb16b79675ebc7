import ErDiagram.Proofs.AttributeStart
import ErDiagram.Proofs.Legible
import ErDiagram.Proofs.Policy
import Mathlib.Tactic.MkIffOfInductiveProp

/-! What a tolerant text shows. The tolerant policy writes names and options as they are, also those that fail their
    checks, and the reader cannot tell a character of a name from one of the text around it. A string is confined when
    nothing in it ends its place: then whatever else is wrong with the diagram, its text shows no kind, option, key or
    relationship that the diagram does not have. -/

namespace ErDiagram
open Character Document Grammar Vocabulary

/-! ### Confined strings -/

instance (t : List Char) : Decidable (IsReadText t) :=
  decidable_of_iff (hasClosedLists false t = true ∧ trimEnd t = t)
    ⟨fun ⟨lists, trimmed⟩ => ⟨(hasClosedLists_iff.mp lists).1, (hasClosedLists_iff.mp lists).2, trimmed⟩,
      fun h => ⟨hasClosedLists_iff.mpr ⟨h.closed, h.quiet⟩, h.trimmed⟩⟩

instance (t : List Char) : Decidable (IsWritableText t) :=
  decidable_of_iff (IsReadText t ∧ t ≠ [] ∧ skipSpacing t = t)
    ⟨fun ⟨read, ne, start⟩ => ⟨read, ne, start ▸ startsOutside_skipSpacing t⟩,
      fun h => ⟨h.toIsReadText, h.ne_nil, skipSpacing_eq_self h.start⟩⟩

/-- Nothing in the name ends the statement. The name of a key reads back as it is, and in another name no attribute that
    looks like a key starts. -/
@[mk_iff] structure Attribute.Confined (a : Attribute) : Prop where
  quiet : a.name.toList.any endsStatement = false
  keyed : a.key ≠ .plain → IsReadText a.name.toList
  plain : a.key = .plain → ∀ start ∈ attributeStarts a.name.toList, ¬StartsMarked (skipSpacing start)

/-- A word of a header goes on with the character: it is no point and no spacing, and it ends no statement. -/
def staysInWord (c : Char) : Bool := c ≠ '.' && !isSpacing c && !endsStatement c

/-- Nothing in the name and the options ends the word or the header, and the first option of a strong entity is not
    taken for another kind. -/
@[mk_iff] structure Entity.Confined (e : Entity) : Prop where
  name : e.name ≠ ""
  words : ∀ w ∈ e.name :: e.options, w.toList.all staysInWord = true
  strong : e.kind = .strong → ∀ o ∈ e.options.head?, o ∉ ["weak", "assoc", "super", "sub"]
  attributes : ∀ a ∈ e.attributes, a.Confined

/-- The name is one word, and each attribute reads back as it is. -/
@[mk_iff] structure Relationship.Confined (r : Relationship) : Prop where
  name : r.name ≠ ""
  chars : (r.name.toList.any fun c => isSpacing c || endsStatement c) = false
  attributes : ∀ a ∈ r.attributes, IsWritableText a.name.toList

/-- All strings of the diagram stay in their places. They may still be malformed, and the diagram may break all rules
    but those on references. -/
@[mk_iff] structure Diagram.Confined (d : Diagram) : Prop where
  entities : ∀ e ∈ d.entities, e.Confined
  relationships : ∀ r ∈ d.relationships, r.Confined

instance (a : Attribute) : Decidable a.Confined := decidable_of_iff' _ a.confined_iff

instance (e : Entity) : Decidable e.Confined := decidable_of_iff' _ e.confined_iff

instance (r : Relationship) : Decidable r.Confined := decidable_of_iff' _ r.confined_iff

instance (d : Diagram) : Decidable d.Confined := decidable_of_iff' _ d.confined_iff

/-! ### Attributes -/

section
variable {a : Attribute} {others : List Attribute} {rest : List Char}

theorem Attribute.Confined.isWritableText (h : a.Confined) (key : a.key ≠ .plain) : IsWritableText a.marked.toList :=
  Attribute.isWritableText_marked (h.keyed key) fun plain => absurd plain key

theorem Attribute.Confined.quiet_marked (h : a.Confined) : ∀ c ∈ a.marked.toList, endsStatement c = false := by
  have mark : a.key.mark.toList.any endsStatement = false := by
    cases a.key <;> decide
  have whole : a.marked.toList.any endsStatement = false := by
    rw [Attribute.marked, String.toList_append, List.any_append, mark, h.quiet]
    rfl
  simpa using whole

/-- Where a key seems to start in an attribute, the attribute is a key and starts there. This is so in a list as well,
    and even where a list of values before it was left open. -/
theorem Attribute.Confined.of_startsMarked (h : a.Confined) {inList : Bool} {start : List Char}
    (place : start ∈ a.marked.toList :: behindCommas inList a.marked.toList) (ends : EndsAtComma rest)
    (mark : StartsMarked (skipSpacing (start ++ rest))) :
    a.key ≠ .plain ∧ skipSpacing (start ++ rest) = a.marked.toList ++ rest := by
  have place : start ∈ attributeStarts a.marked.toList :=
    List.cons_subset_cons _ (behindCommas_subset inList _) place
  rw [skipSpacing_append_eq ends.startsOutside] at mark ⊢
  by_cases key : a.key = .plain
  · have unmarked : a.marked = a.name := by
      rw [Attribute.marked, key]
      exact String.empty_append
    rw [unmarked] at place
    exact absurd (mark.of_append ends) (h.plain key start place)
  · have text := h.isWritableText key
    rw [attributeStarts, text.closed.behindCommas.1, List.mem_singleton] at place
    rw [place, skipSpacing_eq_self text.start]
    exact ⟨key, rfl⟩

/-- Where a key seems to start in a list of confined attributes, one of them is a key and starts there. -/
theorem exists_keyed_of_startsMarked (confined : ∀ b ∈ a :: others, b.Confined) {start joined : List Char}
    (whole : joined = (", ".intercalate ((a :: others).map (·.marked))).toList)
    (place : start ∈ attributeStarts joined) (mark : StartsMarked (skipSpacing start)) :
    ∃ b ∈ a :: others, b.key ≠ .plain ∧ ∃ rest, EndsAtComma rest ∧ skipSpacing start = b.marked.toList ++ rest := by
  obtain ⟨text, member, inText, p, rest, inside, ends, same⟩ := exists_start_of_joined whole place
  rw [← List.map_cons, List.mem_map] at member
  obtain ⟨b, hb, rfl⟩ := member
  rw [same] at mark ⊢
  obtain ⟨key, found⟩ := (confined b hb).of_startsMarked inside ends mark
  exact ⟨b, hb, key, rest, ends, found⟩

/-- Two texts of attributes that start at one place and end at commas are the same. -/
theorem Closed.eq_of_append {t u : List Char} {after : List Char} (ht : Closed t) (hu : Closed u)
    (rest_ends : EndsAtComma rest) (after_ends : EndsAtComma after) (h : t ++ rest = u ++ after) : t = u := by
  have first := ht.attributeText rest_ends.stops
  rw [h, hu.attributeText after_ends.stops] at first
  exact (congrArg Prod.fst first).symm

/-- The keys that the text of an entity shows are keys of the entity. -/
theorem Entity.Confined.mem_of_entityTail {e : Entity} (h : e.Confined) {attributes : List Attribute}
    (tail : EntityTail e.attributePart attributes) : ∀ a ∈ attributes, a.key ≠ .plain → a ∈ e.attributes := by
  intro a ha key
  have confined := h.attributes
  generalize part : e.attributePart = text at tail
  rw [Entity.attributePart] at part
  cases tail with
  | none => cases ha
  | @list gap s _ spacing lists =>
    split at part
    · exact absurd (List.append_eq_nil_iff.mp part.symm).1 spacing.ne_nil
    · next some =>
      obtain ⟨b, others, whole⟩ := List.exists_cons_of_ne_nil some
      rw [whole] at confined part ⊢
      obtain ⟨c, gap, rfl⟩ := List.exists_cons_of_ne_nil spacing.ne_nil
      obtain ⟨-, joined⟩ := List.cons.inj part
      have space : IsSpace gap := fun d hd => spacing.space d (List.mem_cons_of_mem _ hd)
      obtain ⟨t, rest, named, form, ends, p, place, found⟩ := lists.exists_start space a ha
      have mark : StartsMarked (skipSpacing p) := found ▸ named.startsMarked key rest
      obtain ⟨k, hk, keyed, after, after_ends, same⟩ := exists_keyed_of_startsMarked confined joined.symm place mark
      have text := (confined k hk).isWritableText keyed
      obtain rfl := (isAttribute_iff.mp form).closed.eq_of_append text.closed ends after_ends (found.symm.trans same)
      rw [namesMarked_iff, Attribute.ofText_marked text.trimmed fun plain => absurd plain keyed] at named
      rwa [← named]

end

/-! ### Headers -/

/-- Words without points are read off a text that has points between them. -/
theorem pointed_unique {w v : String} {ws vs : List String} (hw : ∀ u ∈ w :: ws, ∀ c ∈ u.toList, c ≠ '.')
    (hv : ∀ u ∈ v :: vs, ∀ c ∈ u.toList, c ≠ '.')
    (h : (w.toList ++ ws.flatMap fun u => '.' :: u.toList) = v.toList ++ vs.flatMap fun u => '.' :: u.toList) :
    w = v ∧ ws = vs := by
  have ends : ∀ us : List String, StartsOutside (· ≠ '.') (us.flatMap fun u => '.' :: u.toList) := by
    intro us
    cases us <;> simp
  induction ws generalizing w v vs with
  | nil =>
    rw [List.forall_mem_cons] at hw hv
    obtain ⟨first, rest⟩ := run_unique h (by simpa using hw.1) (ends _) (by simpa using hv.1) (ends _)
    cases vs with
    | nil => exact ⟨String.toList_inj.mp first, rfl⟩
    | cons v' vs => cases rest
  | cons w' ws ih =>
    rw [List.forall_mem_cons] at hw hv
    obtain ⟨first, rest⟩ := run_unique h (by simpa using hw.1) (ends _) (by simpa using hv.1) (ends _)
    cases vs with
    | nil => cases rest
    | cons v' vs =>
      obtain ⟨rfl, rfl⟩ := ih hw.2 hv.2 (List.cons.inj rest).2
      exact ⟨String.toList_inj.mp first, rfl⟩

/-- The entity shows nothing that the other one does not have. -/
@[mk_iff] structure Entity.Within (e other : Entity) : Prop where
  name : e.name = other.name
  kind : e.kind = other.kind
  options : ∀ o ∈ e.options, o ∈ other.options
  keyed : ∀ a ∈ e.attributes, a.key ≠ .plain → a ∈ other.attributes

instance (e other : Entity) : Decidable (e.Within other) := decidable_of_iff' _ (Entity.within_iff e other)

section
variable {e read : Entity} {s : List Char} {name : String} {kind : EntityKind} {options : List String}

/-- A header is its name and perhaps a word for the kind and options. -/
theorem Grammar.EntityHeader.exists_words (h : EntityHeader s name kind options) : ∃ words : List String,
    s = (name.toList ++ words.flatMap fun w => '.' :: w.toList) ∧ (∀ w ∈ name :: words, ErDiagram.isIdentifier w = true) ∧
      (words = [] ∧ kind = .strong ∧ options = [] ∨ words = token kind :: options) := by
  cases h with
  | name identifier =>
    exact ⟨[], (List.append_nil _).symm, List.forall_mem_singleton.mpr identifier, Or.inl ⟨rfl, rfl, rfl⟩⟩
  | kind identifier known identifiers =>
    obtain rfl := mem_kindWords_iff.mp known
    refine ⟨_, rfl, ?_, Or.inr rfl⟩
    rw [List.forall_mem_cons, List.forall_mem_cons]
    exact ⟨identifier, isIdentifier_entityKind _, identifiers⟩

theorem Entity.Confined.of_mem_words (h : e.Confined) : ∀ w ∈ e.name :: e.options, ∀ c ∈ w.toList,
    c ≠ '.' ∧ isSpacing c = false ∧ endsStatement c = false := by
  intro w hw c hc
  have stays := List.all_eq_true.mp (h.words w hw) c hc
  simpa [staysInWord, and_assoc] using stays

theorem Entity.Confined.isStatementText (h : e.Confined) : IsStatementText e.statement.toList := by
  refine Entity.isStatementText h.name (fun c hc => ?_) (fun w hw c hc => (h.of_mem_words w hw c hc).2.2) fun a ha =>
    (h.attributes a ha).quiet_marked
  exact (h.of_mem_words e.name List.mem_cons_self c (List.mem_of_mem_head? hc)).2.1

/-- An identifier stays in a word of a header. -/
theorem unpointed_of_isIdentifier {w : String} (h : isIdentifier w = true) :
    ∀ c ∈ w.toList, c ≠ '.' ∧ isSpacing c = false := by
  intro c hc
  have identifier := (isIdentifier_iff.mp h).2 c hc
  refine ⟨?_, isSpacing_eq_false_of_isIdentifierChar identifier⟩
  rintro rfl
  rw [isIdentifierChar_eq_false (by simp)] at identifier
  cases identifier

/-- The words after the name. -/
def Entity.kindAndOptions (e : Entity) : List String := (if e.kind = .strong then [] else [token e.kind]) ++ e.options

theorem Entity.Confined.kindAndOptions (h : e.Confined) : ∀ w ∈ e.name :: e.kindAndOptions, ∀ c ∈ w.toList,
    c ≠ '.' ∧ isSpacing c = false := by
  have words := h.of_mem_words
  rw [List.forall_mem_cons] at words ⊢
  refine ⟨fun c hc => ⟨(words.1 c hc).1, (words.1 c hc).2.1⟩, fun w hw c hc => ?_⟩
  rw [Entity.kindAndOptions, List.mem_append] at hw
  rcases hw with hw | hw
  · split at hw
    · cases hw
    · obtain rfl := List.mem_singleton.mp hw
      exact unpointed_of_isIdentifier (isIdentifier_entityKind e.kind) c hc
  · exact ⟨(words.2 w hw c hc).1, (words.2 w hw c hc).2.1⟩

theorem Entity.toList_statement_eq (e : Entity) : e.statement.toList =
    (e.name.toList ++ e.kindAndOptions.flatMap fun w => '.' :: w.toList) ++ e.attributePart := by
  rw [Entity.toList_statement, Entity.kindAndOptions, List.flatMap_append, List.append_assoc, List.append_assoc]
  congr 2
  split
  · rfl
  · exact (List.flatMap_singleton _ _).symm

/-- What holds of points and of the characters of the words holds of the whole header. -/
theorem forall_mem_pointed {p : Char → Prop} {w : String} {ws : List String} (point : p '.')
    (words : ∀ u ∈ w :: ws, ∀ c ∈ u.toList, p c) : ∀ c ∈ w.toList ++ ws.flatMap (fun u => '.' :: u.toList), p c := by
  rw [List.forall_mem_cons] at words
  rw [List.forall_mem_append, List.forall_mem_flatMap]
  exact ⟨words.1, fun u hu => List.forall_mem_cons.mpr ⟨point, words.2 u hu⟩⟩

/-- The words of a confined header are read as they are, so the name is an identifier, and the kind is not written where
    it is strong. -/
theorem Entity.Confined.words_of_read (h : e.Confined) (result : whole Entity.read e.statement.toList = .ok read) :
    isIdentifier e.name = true ∧ read.name = e.name ∧ EntityTail e.attributePart read.attributes ∧
      (e.kindAndOptions = [] ∧ read.kind = .strong ∧ read.options = [] ∨
        e.kindAndOptions = token read.kind :: read.options) := by
  obtain ⟨header, tail, split, isHeader, isTail⟩ := entityStatement_of_whole_read result
  obtain ⟨words, rfl, identifiers, form⟩ := isHeader.exists_words
  have confined := h.kindAndOptions
  have unbroken : ∀ w ∈ read.name :: words, ∀ c ∈ w.toList, c ≠ '.' ∧ isSpacing c = false := fun w hw =>
    unpointed_of_isIdentifier (identifiers w hw)
  have ends : StartsOutside (fun c => !isSpacing c) e.attributePart := by
    rw [Entity.attributePart]
    split
    · exact startsOutside_nil
    · exact startsOutside_cons.mpr rfl
  have tail_ends : StartsOutside (fun c => !isSpacing c) tail := fun c hc => by
    simpa using isTail.isSpacing_head c hc
  have inside : ∀ {w : String} {ws : List String}, (∀ u ∈ w :: ws, ∀ c ∈ u.toList, c ≠ '.' ∧ isSpacing c = false) →
      ∀ c ∈ w.toList ++ ws.flatMap (fun u => '.' :: u.toList), (!isSpacing c) = true := fun words =>
    forall_mem_pointed rfl fun u hu c hc => by rw [(words u hu c hc).2]; rfl
  rw [Entity.toList_statement_eq] at split
  obtain ⟨headers, rfl⟩ := run_unique split (inside confined) ends (inside unbroken) tail_ends
  obtain ⟨name, rfl⟩ := pointed_unique (fun u hu c hc => (confined u hu c hc).1)
    (fun u hu c hc => (unbroken u hu c hc).1) headers
  exact ⟨name ▸ identifiers read.name List.mem_cons_self, name.symm, isTail, form⟩

theorem eq_strong_of_token (other : token kind ∉ ["weak", "assoc", "super", "sub"]) : kind = .strong := by
  cases kind with
  | strong => rfl
  | _ => exact absurd (by decide) other

/-- The text of a confined entity shows nothing that the entity does not have. -/
theorem Entity.Confined.within_of_read (h : e.Confined) (result : whole Entity.read e.statement.toList = .ok read) :
    read.Within e := by
  obtain ⟨-, name, tail, words⟩ := h.words_of_read result
  have header : read.kind = e.kind ∧ ∀ o ∈ read.options, o ∈ e.options := by
    rw [Entity.kindAndOptions] at words
    split at words
    · next strong =>
      rw [List.nil_append] at words
      rcases words with ⟨-, kind, none⟩ | words
      · exact ⟨kind.trans strong.symm, by simp [none]⟩
      · -- The first option is read as the kind.
        have other := h.strong strong (token read.kind) (by rw [words]; rfl)
        exact ⟨(eq_strong_of_token other).trans strong.symm, fun o ho => words ▸ List.mem_cons_of_mem _ ho⟩
    · rw [List.singleton_append] at words
      rcases words with ⟨none, -⟩ | words
      · cases none
      · obtain ⟨kind, options⟩ := List.cons.inj words
        exact ⟨(token_injective kind).symm, fun o ho => options ▸ ho⟩
  exact ⟨name, header.1, header.2, h.mem_of_entityTail tail⟩

end

/-! ### Relationships -/

section
variable {r read : Relationship}

/-- A word is read off a text up to the gap after it, and the gap is left behind. -/
theorem word_unique {w v gap s t : List Char} (hw : ∀ c ∈ w, isSpacing c = false) (hv : ∀ c ∈ v, isSpacing c = false)
    (spacing : IsGap gap) (h : w ++ ' ' :: s = v ++ (gap ++ t)) : w = v ∧ skipSpacing s = skipSpacing t := by
  have seen : ∀ {u : List Char}, (∀ c ∈ u, isSpacing c = false) → ∀ c ∈ u, (!isSpacing c) = true := fun free c hc => by
    rw [free c hc]
    rfl
  have gap_start : StartsOutside (fun c => !isSpacing c) (gap ++ t) := by
    refine startsOutside_append (fun c hc => ?_) spacing.ne_nil
    simpa using isSpace_iff.mp spacing.space c (List.mem_of_mem_head? hc)
  obtain ⟨same, rest⟩ := run_unique h (seen hw) (startsOutside_cons.mpr rfl) (seen hv) gap_start
  have skipped : skipSpacing (gap ++ t) = skipSpacing t := List.dropWhile_append_of_pos (isSpace_iff.mp spacing.space)
  rw [← rest] at skipped
  exact ⟨same, skipped⟩

theorem Relationship.Confined.of_mem_name (h : r.Confined) : ∀ c ∈ r.name.toList,
    isSpacing c = false ∧ endsStatement c = false := by
  intro c hc
  simpa using List.any_eq_false.mp h.chars c hc

/-- The name of a confined relationship is read as it is. -/
theorem Relationship.Confined.name_of_read (h : r.Confined) (source : isIdentifier r.source = true)
    (result : whole Relationship.read r.statement.toList = .ok read) : r.name = read.name := by
  obtain ⟨first, second, row, line, braces, space, split, isRow, words, -⟩ := relationshipStatement_of_whole_read result
  obtain ⟨read_source, first_known, name_ne, name_seen, -⟩ := words
  obtain rfl := mem_cardinalityWords_iff.mp first_known
  obtain ⟨gap₁, row₁, isGap₁, isRow₁, rfl⟩ := isRow.exists_gap
  obtain ⟨gap₂, row₂, isGap₂, isRow₂, rfl⟩ := isRow₁.exists_gap
  obtain ⟨gap₃, row₃, isGap₃, -, rfl⟩ := isRow₂.exists_gap
  have identifier : ∀ {w : String}, isIdentifier w = true → ∀ c ∈ w.toList, isSpacing c = false := fun h c hc =>
    (unpointed_of_isIdentifier h c hc).2
  have seen : ∀ c ∈ read.name.toList, isSpacing c = false := fun c hc =>
    isSpacing_eq_false_of_isBlank_eq_false (name_seen c hc)
  have starts : ∀ {w : String} {t : List Char}, w ≠ "" → (∀ c ∈ w.toList, isSpacing c = false) →
      skipSpacing (w.toList ++ t) = w.toList ++ t := fun ne free =>
    skipSpacing_eq_self (startsOutside_append (fun c hc => free c (List.mem_of_mem_head? hc)) (toList_ne_nil ne))
  have cardinality : ∀ c : Cardinality, token c ≠ "" := fun c => (isIdentifier_iff.mp (isIdentifier_cardinality c)).1
  rw [Relationship.toList_statement] at split
  simp only [List.append_assoc] at split
  -- The source, the first cardinality and the name, each with the gap after it.
  obtain ⟨-, split⟩ := word_unique (identifier source) (identifier read_source) isGap₁ split
  rw [starts (cardinality _) (identifier (isIdentifier_cardinality _)),
    starts (cardinality _) (identifier (isIdentifier_cardinality _))] at split
  obtain ⟨-, split⟩ := word_unique (identifier (isIdentifier_cardinality _)) (identifier (isIdentifier_cardinality _))
    isGap₂ split
  have free : ∀ c ∈ r.name.toList, isSpacing c = false := fun c hc => (h.of_mem_name c hc).1
  rw [starts h.name free, starts name_ne seen] at split
  exact String.toList_inj.mp (word_unique free seen isGap₃ split).1

/-- A confined relationship between entities with proper names is read as its text shows it. -/
theorem Relationship.Confined.eq_of_read (h : r.Confined) (source : isIdentifier r.source = true)
    (target : isIdentifier r.target = true) (result : whole Relationship.read r.statement.toList = .ok read) :
    read = r.unkeyed := by
  obtain ⟨-, -, ⟨ne, seen⟩, -⟩ := Relationship.parts_of_read result
  rw [← h.name_of_read source result] at ne seen
  have name : isRelationshipName r.name = true :=
    isRelationshipName_iff.mpr ⟨ne, fun c hc => ⟨(seen c hc).1, (h.of_mem_name c hc).2⟩⟩
  have writable : r.unkeyed.Writable := by
    refine ⟨source, name, target, fun a ha => ?_⟩
    obtain ⟨b, hb, rfl⟩ := List.mem_map.mp ha
    exact ⟨h.attributes b hb, rfl⟩
  have whole := writable.whole_read
  rw [r.statement_unkeyed, result] at whole
  exact Except.ok.inj whole

end

/-! ### Diagrams -/

/-- The diagram shows nothing that the other one does not have: no entity of another name or kind, no option and no key
    that its entity has not, and no relationship but in the spelling of references and the roles of attributes. -/
structure Diagram.Within (d other : Diagram) : Prop where
  entities : ∀ e ∈ d.entities, ∃ e' ∈ other.canonical.entities, e.Within e'
  relationships : ∀ r ∈ d.relationships, ∃ r' ∈ other.canonical.relationships, r = r'.unkeyed

section
variable {d d' : Diagram} {e : Entity} {r : Relationship}

/-- The canonical spelling of a reference is the name of an entity, or the reference itself. -/
theorem Diagram.canonicalName_cases (d : Diagram) (name : String) :
    (∃ e ∈ d.entities, d.canonicalName name = e.name) ∨ d.canonicalName name = name := by
  rw [Diagram.canonicalName]
  split
  · next found => exact Or.inl ⟨_, List.mem_of_getElem? (of_resolve_eq_found found).1, rfl⟩
  · exact Or.inr rfl

theorem Diagram.Confined.canonical (h : d.Confined) : d.canonical.Confined := by
  refine ⟨List.forall_mem_map.mpr fun e he => ?_, List.forall_mem_map.mpr fun r hr => ?_⟩
  · obtain ⟨name, words, strong, attributes⟩ := h.entities e he
    refine ⟨name, ?_, fun kind => ?_, attributes⟩
    · rw [List.forall_mem_cons] at words ⊢
      refine ⟨words.1, ?_⟩
      have options := words.2
      change ∀ w ∈ d.canonicalOptions e, _
      rw [Diagram.canonicalOptions]
      split
      · next parent others kind whole =>
        rw [whole, List.forall_mem_cons] at options
        refine List.forall_mem_cons.mpr ⟨?_, options.2⟩
        rcases d.canonicalName_cases parent with ⟨p, hp, spelt⟩ | spelt
        · rw [spelt]
          exact (h.entities p hp).words p.name List.mem_cons_self
        · rw [spelt]
          exact options.1
      · exact options
    · have strongKind : e.kind = .strong := kind
      have options : d.canonicalOptions e = e.options := canonicalOptions_of_ne_subclass (by simp [strongKind])
      exact options ▸ strong strongKind
  · exact ⟨(h.relationships r hr).name, (h.relationships r hr).chars, (h.relationships r hr).attributes⟩

/-- The ends of a relationship are written as their entities are named. -/
theorem Diagram.Resolved.ends_canonical (h : d.Resolved) : ∀ r ∈ d.canonical.relationships,
    ∀ name ∈ [r.source, r.target], ∃ e ∈ d.canonical.entities, e.name = name := by
  have spelt : ∀ {name}, d.Resolves name → ∃ e ∈ d.canonical.entities, e.name = d.canonicalName name := by
    intro name resolves
    obtain ⟨index, e, found⟩ := resolves.exists_found
    refine ⟨_, List.mem_map_of_mem (List.mem_of_getElem? (of_resolve_eq_found found).1), ?_⟩
    exact (canonicalName_of_found found).symm
  refine List.forall_mem_map.mpr fun r hr => ?_
  rw [List.forall_mem_cons, List.forall_mem_singleton]
  exact ⟨spelt (h.ends r hr).1, spelt (h.ends r hr).2⟩

/-- The statements of relationships end where they should, since their ends are names of entities. -/
theorem Diagram.Confined.isStatementText_relationships (h : d.Confined) (resolved : d.Resolved) :
    ∀ r ∈ d.canonical.relationships, IsStatementText r.statement.toList := by
  obtain ⟨entities, relationships⟩ := h.canonical
  intro r hr
  have quiet : ∀ name ∈ [r.source, r.target], name ≠ "" ∧
      ∀ c ∈ name.toList, isSpacing c = false ∧ endsStatement c = false := by
    intro name hn
    obtain ⟨e, he, rfl⟩ := resolved.ends_canonical r hr name hn
    exact ⟨(entities e he).name, fun c hc => ((entities e he).of_mem_words e.name List.mem_cons_self c hc).2⟩
  rw [List.forall_mem_cons, List.forall_mem_singleton] at quiet
  obtain ⟨⟨ne, source⟩, -, target⟩ := quiet
  refine Relationship.isStatementText ne (fun c hc => (source c (List.mem_of_mem_head? hc)).1) ?_
    fun a ha => ((relationships r hr).attributes a ha).quiet
  rw [List.forall_mem_cons, List.forall_mem_cons, List.forall_mem_singleton]
  exact ⟨fun c hc => (source c hc).2, fun c hc => ((relationships r hr).of_mem_name c hc).2, fun c hc => (target c hc).2⟩

end

/-- Where all strings stay in their places, a tolerant text shows nothing that the diagram does not have. -/
theorem Diagram.Confined.within_of_parse {d d' : Diagram} {text : String} (h : d.Confined)
    (written : d.serialize .tolerant = .ok text) (result : Diagram.parse text = .ok d') : d'.Within d := by
  obtain ⟨resolved, rfl⟩ := Diagram.serialize_tolerant_eq_ok_iff.mp written
  obtain ⟨entities, relationships⟩ := h.canonical
  obtain ⟨all, entitiesRead, first, relationshipsRead⟩ :=
    (Diagram.parse_render_eq_ok_iff (fun e he => (entities e he).isStatementText)
      (h.isStatementText_relationships resolved)).mp result
  have within : ∀ e ∈ all, ∃ e' ∈ d.canonical.entities, e.Within e' :=
    forall_mem_of_forall₂ entitiesRead fun e' he' e whole => ⟨e', he', (entities e' he').within_of_read whole⟩
  have read : ∀ e ∈ d.canonical.entities, ∃ e', whole Entity.read e.statement.toList = .ok e' :=
    forall_mem_of_forall₂ entitiesRead.flip fun e' _ _ whole => ⟨e', whole⟩
  -- Every entity was read, so all names are identifiers.
  have identifiers : ∀ r ∈ d.canonical.relationships, ∀ name ∈ [r.source, r.target], isIdentifier name = true := by
    intro r hr name hn
    obtain ⟨e, he, rfl⟩ := resolved.ends_canonical r hr name hn
    obtain ⟨e', whole⟩ := read e he
    exact ((entities e he).words_of_read whole).1
  refine ⟨fun e he => ?_, forall_mem_of_forall₂ relationshipsRead fun r' hr' r whole => ⟨r', hr', ?_⟩⟩
  · rw [first, ← distinct_eq_firstOfName] at he
    exact within e (mem_of_mem_distinct he)
  · have identifiers := identifiers r' hr'
    rw [List.forall_mem_cons, List.forall_mem_singleton] at identifiers
    exact (relationships r' hr').eq_of_read identifiers.1 identifiers.2 whole

/-- A diagram that breaks many rules and stays in its places: a strong entity with options, names that a list splits,
    keys of the wrong role and a key in a relationship. -/
def Diagram.unruly : Diagram where
  entities := [
    ⟨"Person", .strong, ["strong", "adult"], [⟨"id", .primary⟩, ⟨"first, last", .plain⟩]⟩,
    ⟨"Staff", .subclass, ["PERSON", "paid"], [⟨"no", .partialKey⟩]⟩,
    ⟨"Visit", .weak, [], [⟨"day(u., v)", .primary⟩]⟩]
  relationships := [⟨"staff", .zeroOrMany, "makes", .oneOrMany, "VISIT", .double, [⟨"at", .primary⟩]⟩]

/-- What its text shows. -/
def Diagram.unrulyShown : Diagram where
  entities := [
    ⟨"Person", .strong, ["adult"], [⟨"id", .primary⟩, ⟨"first", .plain⟩, ⟨"last", .plain⟩]⟩,
    ⟨"Staff", .subclass, ["Person", "paid"], [⟨"no", .partialKey⟩]⟩,
    ⟨"Visit", .weak, [], [⟨"day(u., v)", .primary⟩]⟩]
  relationships := [⟨"Staff", .zeroOrMany, "makes", .oneOrMany, "Visit", .double, [⟨"at", .plain⟩]⟩]

theorem Diagram.Confined.within_of_parse_unruly : unruly.Confined ∧ ∃ text, unruly.serialize .tolerant = .ok text ∧
    Diagram.parse text = .ok unrulyShown ∧ unrulyShown.Within unruly := by
  have confined : unruly.Confined := by decide +kernel
  have resolved : unruly.Resolved := permits_tolerant_iff.mp (by decide +kernel)
  have written := serialize_tolerant_eq_ok_iff.mpr ⟨resolved, rfl⟩
  have result : Diagram.parse unruly.render = .ok unrulyShown := by
    rw [Diagram.parse, Diagram.toList_render]
    decide +kernel
  exact ⟨confined, _, written, result, confined.within_of_parse written result⟩

/-- A diagram with strings that end their places: options taken for a kind and for a key, names taken for a header, a
    key and a further statement, attributes taken for keys or for several attributes, a key with a blank at its end,
    and in a relationship a name that starts another one and an attribute taken for two. -/
def Diagram.smuggler : Diagram where
  entities := [
    ⟨"Person", .strong, ["weak"], []⟩,
    ⟨"Car", .superclass, ["total u.plate"], []⟩,
    ⟨"Pet.sub", .strong, [], []⟩,
    ⟨"House u.no", .strong, [], []⟩,
    ⟨"Sea; Bay", .strong, [], []⟩,
    ⟨"Tree", .strong, [], [⟨"u.id", .plain⟩]⟩,
    ⟨"Road", .strong, [], [⟨"name, u.id", .plain⟩]⟩,
    ⟨"Lake", .strong, [], [⟨"name, depth", .primary⟩]⟩,
    ⟨"Hill", .strong, [], [⟨"name ", .primary⟩]⟩]
  relationships := [
    ⟨"Person", .exactlyOne, "owns 11 Car; Car 0m passes", .zeroOrMany, "Road", .single, []⟩,
    ⟨"Person", .exactlyOne, "climbs", .zeroOrMany, "Hill", .single, [⟨"day, hour", .plain⟩]⟩]

/-- What its text shows. -/
def Diagram.smuggled : Diagram where
  entities := [
    ⟨"Person", .weak, [], []⟩,
    ⟨"Car", .superclass, ["total"], [⟨"plate", .primary⟩]⟩,
    ⟨"Pet", .subclass, [], []⟩,
    ⟨"House", .strong, [], [⟨"no", .primary⟩]⟩,
    ⟨"Sea", .strong, [], []⟩,
    ⟨"Bay", .strong, [], []⟩,
    ⟨"Tree", .strong, [], [⟨"id", .primary⟩]⟩,
    ⟨"Road", .strong, [], [⟨"name", .plain⟩, ⟨"id", .primary⟩]⟩,
    ⟨"Lake", .strong, [], [⟨"name", .primary⟩, ⟨"depth", .plain⟩]⟩,
    ⟨"Hill", .strong, [], [⟨"name", .primary⟩]⟩]
  relationships := [
    ⟨"Person", .exactlyOne, "owns", .exactlyOne, "Car", .single, []⟩,
    ⟨"Car", .zeroOrMany, "passes", .zeroOrMany, "Road", .single, []⟩,
    ⟨"Person", .exactlyOne, "climbs", .zeroOrMany, "Hill", .single, [⟨"day", .plain⟩, ⟨"hour", .plain⟩]⟩]

/-- All that is shown is other than what the diagram has. -/
theorem Diagram.smuggler_shows_others : ∃ text, smuggler.serialize .tolerant = .ok text ∧
    Diagram.parse text = .ok smuggled ∧
    (∀ e ∈ smuggled.entities, ¬∃ e' ∈ smuggler.canonical.entities, e.Within e') ∧
    ∀ r ∈ smuggled.relationships, ¬∃ r' ∈ smuggler.canonical.relationships, r = r'.unkeyed := by
  have resolved : smuggler.Resolved := permits_tolerant_iff.mp (by decide +kernel)
  have result : Diagram.parse smuggler.render = .ok smuggled := by
    rw [Diagram.parse, Diagram.toList_render]
    decide +kernel
  exact ⟨_, serialize_tolerant_eq_ok_iff.mpr ⟨resolved, rfl⟩, result, by decide +kernel, by decide +kernel⟩

end ErDiagram
