import ErDiagram.Proofs.AttributeName
import Mathlib.Data.List.Forall2

/-! The grammar of attributes. A list of attributes is said here of its characters and not of the scanner: texts made
    of value lists and of characters that separate nothing, with commas between them, and what each text names. The
    scanner takes the longest text that it can; a text is never followed by more of its kind, so it takes this one. -/

namespace ErDiagram.Grammar
open Character Document

/-! ### Spacing and blanks -/

/-- Spaces, tabs, carriage returns and line feeds, or nothing. -/
def IsSpace (s : List Char) : Prop := ∀ c ∈ s, c ∈ [' ', '\t', '\r', '\n']

/-- Spacing, and at least one character of it. -/
structure IsGap (s : List Char) : Prop where
  ne_nil : s ≠ []
  space : IsSpace s

/-- The second text is the first one without the blanks at its end. -/
structure TrimsTo (t u : List Char) : Prop where
  cut : ∃ blanks, t = u ++ blanks ∧ ∀ c ∈ blanks, isBlank c = true
  last : ∀ c ∈ u.getLast?, isBlank c = false

section
variable {s t u : List Char} {c : Char}

theorem isSpacing_iff : isSpacing c = true ↔ c ∈ [' ', '\t', '\r', '\n'] := by
  simp only [isSpacing, Bool.or_eq_true, decide_eq_true_eq, List.mem_cons, List.not_mem_nil, or_false]
  tauto

theorem isSpace_iff : IsSpace s ↔ ∀ c ∈ s, isSpacing c = true :=
  forall₂_congr fun _ _ => isSpacing_iff.symm

theorem isSpace_nil : IsSpace [] := by simp [IsSpace]

theorem IsSpace.isBlank (h : IsSpace s) : ∀ c ∈ s, isBlank c = true := fun c hc =>
  isBlank_of_isSpacing (isSpace_iff.mp h c hc)

/-- Nothing is left of a text after its spacing exactly when it is spacing. -/
theorem skipSpacing_eq_nil_iff : skipSpacing s = [] ↔ IsSpace s := by
  rw [isSpace_iff, skipSpacing, List.dropWhile_eq_nil_iff]

theorem trimEnd_append_blanks {blanks : List Char} (blank : ∀ c ∈ blanks, isBlank c = true) :
    trimEnd (s ++ blanks) = trimEnd s := by
  induction blanks using List.reverseRecOn with
  | nil => rw [List.append_nil]
  | append_singleton blanks c ih =>
    rw [List.forall_mem_append, List.forall_mem_singleton] at blank
    rw [← List.append_assoc, trimEnd_append_singleton, if_pos blank.2, ih blank.1]

theorem trimEnd_eq_iff : trimEnd t = u ↔ TrimsTo t u := by
  constructor
  · rintro rfl
    exact ⟨exists_trimEnd_append t, trimEnd_eq_self_iff.mp (trimEnd_trimEnd t)⟩
  · rintro ⟨⟨blanks, rfl, blank⟩, last⟩
    rw [trimEnd_append_blanks blank, trimEnd_eq_self_iff.mpr last]

end

/-! ### Texts -/

/-- A part of an attribute: a value list, which its first `)` closes, or a character that separates nothing. -/
inductive IsPart : List Char → Prop where
  | list {values : List Char} (values_open : ')' ∉ values) : IsPart ('(' :: (values ++ [')']))
  | char {c : Char} (other : c ∉ [',', '(', '{', '}']) : IsPart [c]

/-- The text of one attribute: parts in a row, at least one of them, and no spacing before the first. -/
structure IsAttribute (t : List Char) : Prop where
  ne_nil : t ≠ []
  parts : ∃ parts : List (List Char), (∀ p ∈ parts, IsPart p) ∧ t = parts.flatten
  start : ∀ c ∈ t.head?, c ∉ [' ', '\t', '\r', '\n']

section
variable {t : List Char}

theorem closed_iff : Closed t ↔ ∃ parts : List (List Char), (∀ p ∈ parts, IsPart p) ∧ t = parts.flatten := by
  constructor
  · intro h
    induction h with
    | nil => exact ⟨[], by simp, rfl⟩
    | @char c s other inside _ ih =>
      obtain ⟨parts, each, rfl⟩ := ih
      refine ⟨[c] :: parts, List.forall_mem_cons.mpr ⟨.char ?_, each⟩, rfl⟩
      simp only [endsAttribute, Bool.or_eq_false_iff, decide_eq_false_iff_not] at inside
      simp [other, inside]
    | @list values s values_open _ ih =>
      obtain ⟨parts, each, rfl⟩ := ih
      refine ⟨('(' :: (values ++ [')'])) :: parts, List.forall_mem_cons.mpr ⟨.list values_open, each⟩, ?_⟩
      rw [List.flatten_cons, List.cons_append, List.append_assoc, List.singleton_append]
  · rintro ⟨parts, each, rfl⟩
    induction parts with
    | nil => exact .nil
    | cons p parts ih =>
      rw [List.forall_mem_cons] at each
      rw [List.flatten_cons]
      refine Closed.append ?_ (ih each.2)
      cases each.1 with
      | list values_open => exact .list values_open .nil
      | char other =>
        simp only [List.mem_cons, List.not_mem_nil, or_false, not_or] at other
        exact .char other.2.1 (by simp [endsAttribute, other]) .nil

theorem isAttribute_iff : IsAttribute t ↔ IsAttributeText t := by
  have start : (∀ c ∈ t.head?, c ∉ [' ', '\t', '\r', '\n']) ↔ StartsOutside isSpacing t :=
    forall₂_congr fun c _ => by rw [← isSpacing_iff, Bool.not_eq_true]
  constructor
  · rintro ⟨ne, parts, outside⟩
    exact ⟨ne, start.mp outside, closed_iff.mpr parts⟩
  · rintro ⟨ne, outside, closed⟩
    exact ⟨ne, closed_iff.mp closed, start.mpr outside⟩

theorem IsSpace.closed {space : List Char} (h : IsSpace space) : Closed space := by
  refine closed_iff.mpr ⟨space.map ([·]), ?_, (List.flatMap_singleton' space).symm⟩
  rw [List.forall_mem_map]
  intro c hc
  have member := h c hc
  simp only [List.mem_cons, List.not_mem_nil, or_false] at member
  rcases member with rfl | rfl | rfl | rfl <;> exact .char (by decide)

/-- Spacing after an attribute may be taken for a part of it. -/
theorem IsAttribute.append {space : List Char} (h : IsAttribute t) (spacing : IsSpace space) :
    IsAttribute (t ++ space) := by
  rw [isAttribute_iff] at h ⊢
  exact ⟨List.append_ne_nil_of_left_ne_nil h.ne_nil _, startsOutside_append h.start h.ne_nil,
    h.closed.append spacing.closed⟩

end

/-! ### What a text names -/

/-- The attribute that a text without blanks at its end names in an entity: its mark gives the role, and without a mark
    the whole text is the name. -/
inductive Marks : List Char → Attribute → Prop where
  | partialKey (name : String) : Marks ("du.".toList ++ name.toList) ⟨name, .partialKey⟩
  | primary (name : String) : Marks ("u.".toList ++ name.toList) ⟨name, .primary⟩
  | plain {name : String} (no_partialKey : ¬"du.".toList <+: name.toList) (no_primary : ¬"u.".toList <+: name.toList) :
    Marks name.toList ⟨name, .plain⟩

/-- A text in the list of an entity. -/
def NamesMarked (t : List Char) (a : Attribute) : Prop := ∃ u, TrimsTo t u ∧ Marks u a

/-- A text in the list of a relationship: there are no roles, and what looks like a mark belongs to the name. -/
def NamesPlain (t : List Char) (a : Attribute) : Prop := TrimsTo t a.name.toList ∧ a.key = .plain

section
variable {t : List Char} {a : Attribute}

theorem namesMarked_iff (t : List Char) (a : Attribute) : NamesMarked t a ↔ Attribute.ofText t = a := by
  simp only [NamesMarked, ← trimEnd_eq_iff, exists_eq_left']
  rw [Attribute.ofText]
  constructor
  · intro h
    generalize trimEnd t = u at h
    cases h with
    | partialKey name => simp
    | primary name => simp
    | plain no_partialKey no_primary =>
      split
      · next rest whole => exact absurd ⟨rest, whole.symm⟩ no_partialKey
      · next rest whole => exact absurd ⟨rest, whole.symm⟩ no_primary
      · rw [String.ofList_toList]
  · rintro rfl
    split
    · next name whole => simpa [whole] using Marks.partialKey (String.ofList name)
    · next name whole => simpa [whole] using Marks.primary (String.ofList name)
    · next no_partialKey no_primary =>
      have whole := @Marks.plain (String.ofList (trimEnd t))
      simp only [String.toList_ofList] at whole
      refine whole ?_ ?_
      · rintro ⟨rest, split⟩
        exact no_partialKey rest split.symm
      · rintro ⟨rest, split⟩
        exact no_primary rest split.symm

theorem namesPlain_iff (t : List Char) (a : Attribute) : NamesPlain t a ↔ Attribute.ofPlainText t = a := by
  obtain ⟨name, key⟩ := a
  rw [NamesPlain, ← trimEnd_eq_iff, Attribute.ofPlainText, Attribute.mk.injEq, ← String.toList_inj,
    String.toList_ofList, eq_comm (a := key)]

/-- Spacing after a text changes nothing of what it names. -/
theorem NamesPlain.append {space : List Char} (h : NamesPlain t a) (spacing : IsSpace space) :
    NamesPlain (t ++ space) a := by
  rw [NamesPlain, ← trimEnd_eq_iff] at h ⊢
  rwa [trimEnd_append_blanks spacing.isBlank]

end

/-! ### Lists -/

/-- The attributes in order, each by its text, with a comma and spacing between one text and the next. -/
inductive Lists (names : List Char → Attribute → Prop) : List Char → List Attribute → Prop where
  | last {t : List Char} {a : Attribute} (text : IsAttribute t) (named : names t a) : Lists names t [a]
  | more {t space s : List Char} {a : Attribute} {others : List Attribute} (text : IsAttribute t) (named : names t a)
    (spacing : IsSpace space) (rest : Lists names s others) : Lists names (t ++ ',' :: (space ++ s)) (a :: others)

section
variable {names : List Char → Attribute → Prop} {s : List Char} {attributes : List Attribute}

theorem Lists.startsOutside (h : Lists names s attributes) : s ≠ [] ∧ StartsOutside isSpacing s := by
  cases h with
  | last text => exact ⟨text.ne_nil, (isAttribute_iff.mp text).start⟩
  | more text =>
    have start := (isAttribute_iff.mp text).start
    exact ⟨List.append_ne_nil_of_left_ne_nil text.ne_nil _, startsOutside_append start text.ne_nil⟩

/-- Each attribute has its text in the list. -/
theorem Lists.exists_text (h : Lists names s attributes) :
    ∀ a ∈ attributes, ∃ t, names t a ∧ IsAttribute t ∧ ∀ c ∈ t, c ∈ s := by
  induction h with
  | last text named => exact List.forall_mem_singleton.mpr ⟨_, named, text, fun _ hc => hc⟩
  | more text named _ _ ih =>
    refine List.forall_mem_cons.mpr ⟨⟨_, named, text, fun c hc => List.mem_append_left _ hc⟩, fun a ha => ?_⟩
    obtain ⟨t, name, form, inside⟩ := ih a ha
    exact ⟨t, name, form, fun c hc => by simp [inside c hc]⟩

/-- Spacing after a list may be taken for a part of its last text. -/
theorem Lists.append {space : List Char} (h : Lists names s attributes) (spacing : IsSpace space)
    (append : ∀ t a, names t a → names (t ++ space) a) : Lists names (s ++ space) attributes := by
  induction h with
  | last text named => exact .last (text.append spacing) (append _ _ named)
  | more text named between _ ih =>
    rw [List.append_assoc, List.cons_append, List.append_assoc]
    exact .more text named between ih

/-- The texts that the scanner finds are those of a list after spacing. -/
theorem exists_enumerates_iff {meaning : List Char → Attribute} (named : ∀ t a, names t a ↔ meaning t = a) :
    (∃ ts, Enumerates ts s ∧ ts.map meaning = attributes) ↔
      ∃ space list, IsSpace space ∧ Lists names list attributes ∧ s = space ++ list := by
  constructor
  · rintro ⟨ts, enumerates, rfl⟩
    induction enumerates with
    | @last space t spacing text =>
      exact ⟨space, t, isSpace_iff.mpr spacing, .last (isAttribute_iff.mpr text) ((named _ _).mpr rfl), rfl⟩
    | @more space t s ts spacing text _ ih =>
      obtain ⟨between, list, separates, lists, rfl⟩ := ih
      have whole := Lists.more (isAttribute_iff.mpr text) ((named t _).mpr rfl) separates lists
      exact ⟨space, _, isSpace_iff.mpr spacing, whole, List.append_assoc _ _ _⟩
  · rintro ⟨space, list, spacing, lists, rfl⟩
    induction lists generalizing space with
    | @last t a text name =>
      exact ⟨[t], .last (isSpace_iff.mp spacing) (isAttribute_iff.mp text), by rw [← (named _ _).mp name]; rfl⟩
    | @more t between s a others text name separates _ ih =>
      obtain ⟨ts, enumerates, rfl⟩ := ih between separates
      refine ⟨t :: ts, ?_, by rw [← (named _ _).mp name]; rfl⟩
      rw [← List.append_assoc]
      exact .more (isSpace_iff.mp spacing) (isAttribute_iff.mp text) enumerates

end

/-! ### Reading -/

section
variable {names : List Char → Attribute → Prop} {meaning : List Char → Attribute} {s : List Char}
  {attributes : List Attribute}

/-- The texts of a list are read where it is followed by an end. -/
theorem Lists.read (named : ∀ t a, names t a ↔ meaning t = a) {space rest : List Char} (spacing : IsSpace space)
    (lists : Lists names s attributes) (stops : Stops rest) (other : ∀ more, rest ≠ ',' :: more) :
    ∃ ts, attributeTexts (space ++ s ++ rest) = (ts, rest) ∧ ts ≠ [] ∧ ts.map meaning = attributes := by
  obtain ⟨ts, enumerates, value⟩ := (exists_enumerates_iff named).mpr ⟨space, s, spacing, lists, rfl⟩
  exact ⟨ts, enumerates.attributeTexts stops other, enumerates.ne_nil, value⟩

/-- The scanner takes nothing, or a list up to a place where it stops. -/
theorem exists_lists (named : ∀ t a, names t a ↔ meaning t = a) (s : List Char) : attributeTexts s = ([], s) ∨
    ∃ space list, IsSpace space ∧ Lists names list ((attributeTexts s).1.map meaning) ∧ (attributeTexts s).1 ≠ [] ∧
      s = space ++ list ++ (attributeTexts s).2 ∧ Stops (attributeTexts s).2 := by
  refine (enumerates_attributeTexts s).imp_right ?_
  rintro ⟨taken, split, enumerates, stops⟩
  obtain ⟨space, list, spacing, lists, rfl⟩ := (exists_enumerates_iff named).mp ⟨_, enumerates, rfl⟩
  exact ⟨space, list, spacing, lists, enumerates.ne_nil, split, stops⟩

theorem attributeTexts_of_isSpace (spacing : IsSpace s) : attributeTexts s = ([], s) := by
  rw [attributeTexts, skipSpacing_eq_nil_iff.mpr spacing]
  rfl

/-- Where an attribute stops at spacing, the text is over. -/
theorem eq_nil_of_stops (stops : Stops s) (spacing : IsSpace s) : s = [] := by
  cases s with
  | nil => rfl
  | cons c s =>
    have blank := (List.forall_mem_cons.mp spacing).1
    simp only [List.mem_cons, List.not_mem_nil, or_false] at blank
    rcases stops with ends | ⟨rfl, -⟩
    · rcases blank with rfl | rfl | rfl | rfl <;> cases ends
    · simp at blank

end

end ErDiagram.Grammar
