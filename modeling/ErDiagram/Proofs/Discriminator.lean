import ErDiagram.Proofs.Grammar.Attribute
import ErDiagram.Proofs.WellFormed

/-! Discriminators. The scanner of attributes cuts a name into parts in one way only: value lists, and the characters
    between them. Whether a discriminator has several values is judged without the parts, by the first parenthesis that
    opens and the last character of the name. So a name whose lists are followed by other text, or that starts with a
    list, passes for one without lists, and a parenthesis that closes nothing passes for the end of one. -/

namespace ErDiagram
open Grammar

/-! ### Parts -/

/-- A value list as the scanner takes it: it opens, and its first `)` closes it. -/
def IsValueList (p : List Char) : Prop := ∃ values, ')' ∉ values ∧ p = '(' :: (values ++ [')'])

/-- The name is made of these parts in order. -/
structure Attribute.HasParts (a : Attribute) (parts : List (List Char)) : Prop where
  each : ∀ p ∈ parts, IsPart p
  whole : a.name.toList = parts.flatten

/-- Somewhere in the name stands a value list. -/
def HasList (parts : List (List Char)) : Prop := ∃ p ∈ parts, IsValueList p

def StartsInList (parts : List (List Char)) : Prop := ∃ p ∈ parts.head?, IsValueList p

/-- The name is a value list behind something else. -/
def EndsInList (parts : List (List Char)) : Prop := ∃ base list, base ≠ [] ∧ IsValueList list ∧ parts = base ++ [list]

section
variable {a : Attribute} {p s t : List Char} {parts others : List (List Char)}

theorem not_isValueList_singleton (c : Char) : ¬IsValueList [c] := by
  rintro ⟨values, -, whole⟩
  simp at whole

/-- One part is read in one way: a list ends at its first `)`. -/
theorem Grammar.IsPart.unique {q : List Char} (hp : IsPart p) (hq : IsPart q) (h : p ++ s = q ++ t) : p = q ∧ s = t := by
  cases hp with
  | @list values values_open =>
    cases hq with
    | @list values' values_open' =>
      have inside : ∀ {v : List Char}, ')' ∉ v → ∀ c ∈ v, decide (c ≠ ')') = true := fun unclosed c hc =>
        decide_eq_true fun closes => unclosed (closes ▸ hc)
      simp only [List.cons_append, List.append_assoc, List.nil_append, List.cons.injEq, true_and] at h
      obtain ⟨rfl, rest⟩ := run_unique h (inside values_open) (startsOutside_cons.mpr (by simp)) (inside values_open')
        (startsOutside_cons.mpr (by simp))
      exact ⟨rfl, (List.cons.inj rest).2⟩
    | char other =>
      obtain ⟨rfl, -⟩ := List.cons.inj h
      simp at other
  | char other =>
    cases hq with
    | list =>
      obtain ⟨rfl, -⟩ := List.cons.inj h
      simp at other
    | char =>
      obtain ⟨rfl, rest⟩ := List.cons.inj h
      exact ⟨rfl, rest⟩

theorem Grammar.IsPart.ne_nil (h : IsPart p) : p ≠ [] := by
  cases h <;> exact List.cons_ne_nil _ _

/-- A text has its parts in one way. -/
theorem parts_unique (hp : ∀ p ∈ parts, IsPart p) (hq : ∀ p ∈ others, IsPart p)
    (h : parts.flatten = others.flatten) : parts = others := by
  induction parts generalizing others with
  | nil =>
    cases others with
    | nil => rfl
    | cons q others =>
      have none : q = [] := (List.append_eq_nil_iff.mp h.symm).1
      exact absurd none (hq q List.mem_cons_self).ne_nil
  | cons p parts ih =>
    rw [List.forall_mem_cons] at hp
    cases others with
    | nil =>
      have none : p = [] := (List.append_eq_nil_iff.mp h).1
      exact absurd none hp.1.ne_nil
    | cons q others =>
      rw [List.forall_mem_cons] at hq
      obtain ⟨rfl, rest⟩ := hp.1.unique hq.1 h
      rw [ih hp.2 hq.2 rest]

theorem Attribute.HasParts.unique (h : a.HasParts parts) (h' : a.HasParts others) : parts = others :=
  parts_unique h.each h'.each (h.whole.symm.trans h'.whole)

theorem IsAttributeName.exists_parts (h : IsAttributeName a.name) : ∃ parts, a.HasParts parts := by
  obtain ⟨parts, each, whole⟩ := closed_iff.mp h.closed
  exact ⟨parts, each, whole⟩

/-! ### Characters and parts -/

/-- Lists open at the parentheses that open. -/
theorem paren_mem_flatten_iff (each : ∀ p ∈ parts, IsPart p) : '(' ∈ parts.flatten ↔ HasList parts := by
  rw [List.mem_flatten, HasList]
  refine exists_congr fun p => and_congr_right fun hp => ?_
  cases each p hp with
  | @list values values_open => exact iff_of_true List.mem_cons_self ⟨values, values_open, rfl⟩
  | @char c other =>
    refine iff_of_false (fun inside => ?_) (not_isValueList_singleton c)
    rw [List.mem_singleton] at inside
    simp [← inside] at other

theorem head?_flatten_eq_paren_iff (each : ∀ p ∈ parts, IsPart p) :
    parts.flatten.head? = some '(' ↔ StartsInList parts := by
  cases parts with
  | nil => simp [StartsInList]
  | cons p parts =>
    have only : StartsInList (p :: parts) ↔ IsValueList p := by simp [StartsInList]
    rw [only]
    cases each p List.mem_cons_self with
    | @list values values_open => exact iff_of_true rfl ⟨values, values_open, rfl⟩
    | @char c other =>
      refine iff_of_false (fun opens => ?_) (not_isValueList_singleton c)
      cases opens
      simp at other

/-- A name that ends in `)` ends in a list, or in a parenthesis that closes nothing. -/
theorem getLast?_flatten_eq_paren_iff (each : ∀ p ∈ parts, IsPart p) :
    parts.flatten.getLast? = some ')' ↔ ∃ p ∈ parts.getLast?, IsValueList p ∨ p = [')'] := by
  induction parts using List.reverseRecOn with
  | nil => simp
  | append_singleton parts p =>
    have last : (parts ++ [p]).flatten.getLast? = p.getLast? := by
      rw [List.flatten_append, List.flatten_singleton]
      exact List.getLast?_append_of_ne_nil _ (each p (by simp)).ne_nil
    rw [last, List.getLast?_concat]
    simp only [Option.mem_some_iff, exists_eq_left']
    cases each p (by simp) with
    | @list values values_open =>
      refine iff_of_true ?_ (Or.inl ⟨values, values_open, rfl⟩)
      rw [← List.cons_append, List.getLast?_concat]
    | @char c other => simp [not_isValueList_singleton]

/-! ### Several values -/

/-- What is looked at: the first parenthesis that opens does not come first, and the last character closes. -/
theorem Attribute.isMultiValued_iff_chars : a.isMultiValued = true ↔
    '(' ∈ a.name.toList ∧ a.name.toList.head? ≠ some '(' ∧ a.name.toList.getLast? = some ')' := by
  rw [isMultiValued]
  cases a.name.toList with
  | nil => simp
  | cons first rest =>
    simp only [Bool.and_eq_true, decide_eq_true_eq, List.contains_iff_mem, beq_iff_eq, List.mem_cons, List.head?_cons,
      ne_eq, Option.some.injEq]
    constructor
    · rintro ⟨⟨other, opens⟩, closes⟩
      exact ⟨Or.inr opens, other, closes⟩
    · rintro ⟨opens, other, closes⟩
      exact ⟨⟨other, opens.resolve_left (Ne.symm other)⟩, closes⟩

theorem Attribute.HasParts.isMultiValued_iff (h : a.HasParts parts) : a.isMultiValued = true ↔
    HasList parts ∧ ¬StartsInList parts ∧ ∃ p ∈ parts.getLast?, IsValueList p ∨ p = [')'] := by
  rw [Attribute.isMultiValued_iff_chars, h.whole, ne_eq, paren_mem_flatten_iff h.each, head?_flatten_eq_paren_iff h.each,
    getLast?_flatten_eq_paren_iff h.each]

theorem EndsInList.getLast? (h : EndsInList parts) : ∃ list, IsValueList list ∧ parts.getLast? = some list := by
  obtain ⟨base, list, -, is_list, rfl⟩ := h
  exact ⟨list, is_list, List.getLast?_concat⟩

theorem endsInList_of_getLast? {list : List Char} (start : ¬StartsInList parts) (is_list : IsValueList list)
    (last : parts.getLast? = some list) : EndsInList parts := by
  obtain ⟨base, rfl⟩ := List.getLast?_eq_some_iff.mp last
  refine ⟨base, list, ?_, is_list, rfl⟩
  rintro rfl
  exact start ⟨list, rfl, is_list⟩

/-- A name that counts as one of several values ends in a list, unless a parenthesis that closes nothing comes last. -/
theorem Attribute.HasParts.endsInList_iff (h : a.HasParts parts) (several : a.isMultiValued = true) :
    EndsInList parts ↔ parts.getLast? ≠ some [')'] := by
  obtain ⟨-, start, p, last, closes⟩ := h.isMultiValued_iff.mp several
  constructor
  · intro ends stray
    obtain ⟨list, is_list, at_end⟩ := ends.getLast?
    rw [stray, Option.some.injEq] at at_end
    exact not_isValueList_singleton ')' (at_end ▸ is_list)
  · intro other
    rcases closes with is_list | rfl
    · exact endsInList_of_getLast? start is_list last
    · exact absurd last other

end

/-- The last attribute of a superclass is no key, and which lists it may have depends on the option. Where the
    subclasses overlap it has a list that does not stand at its start, and it ends in one unless a parenthesis that
    closes nothing comes last. Where they are disjoint it has no list, unless one stands at its start or it ends in
    neither a list nor such a parenthesis. -/
theorem Diagram.Valid.parts_of_discriminator {d : Diagram} (h : d.Valid) {e : Entity} (member : e ∈ d.entities)
    (kind : e.kind = .superclass) : ∃ a parts, e.attributes.getLast? = some a ∧ a.key = .plain ∧ a.HasParts parts ∧
      (e.options[1]? = some "overlap" ∧ HasList parts ∧ ¬StartsInList parts ∧
          (EndsInList parts ↔ parts.getLast? ≠ some [')']) ∨
        e.options[1]? = some "disjoint" ∧
          (HasList parts → StartsInList parts ∨ ¬EndsInList parts ∧ parts.getLast? ≠ some [')'])) := by
  obtain ⟨index, at_index⟩ := List.getElem?_of_mem member
  have sound := h.entity at_index
  obtain ⟨a, last, plain, overlap, disjoint⟩ := sound.discriminator kind
  have name := (sound.attributes a (List.mem_of_getLast? last)).1
  obtain ⟨parts, cut⟩ := name.exists_parts
  have options : ∃ word ∈ ["disjoint", "overlap"], e.options[1]? = some word := by
    have form := sound.options
    rw [Entity.HasOptions, kind] at form
    obtain ⟨participation, -, disjointness, word, options⟩ := form
    exact ⟨disjointness, word, by rw [options]; rfl⟩
  refine ⟨a, parts, last, plain, cut, ?_⟩
  obtain ⟨word, one, option⟩ := options
  rw [List.mem_pair] at one
  rcases one with rfl | rfl
  · refine Or.inr ⟨option, fun list => or_iff_not_imp_left.mpr fun start => ?_⟩
    have one_value : ¬a.isMultiValued = true := Bool.eq_false_iff.mp (disjoint option)
    rw [cut.isMultiValued_iff, not_and, not_and] at one_value
    have other := one_value list start
    constructor
    · intro ends
      obtain ⟨p, is_list, at_end⟩ := ends.getLast?
      exact other ⟨p, at_end, Or.inl is_list⟩
    · exact fun stray => other ⟨_, stray, Or.inr rfl⟩
  · obtain ⟨list, start, -⟩ := cut.isMultiValued_iff.mp (overlap option)
    exact Or.inl ⟨option, list, start, cut.endsInList_iff (overlap option)⟩

/-- Two superclasses that pass: subclasses that are disjoint by a list of values, and some that overlap by a text that
    ends in none. -/
def Diagram.misjudged : Diagram where
  entities := [
    ⟨"Person", .superclass, ["total", "disjoint"], [⟨"id", .primary⟩, ⟨"role(actor, extra) held", .plain⟩]⟩,
    ⟨"Animal", .superclass, ["partial", "overlap"], [⟨"tag", .primary⟩, ⟨"kind(cat) or dog)", .plain⟩]⟩]
  relationships := []

theorem Diagram.Valid.parts_of_discriminator_misjudged : misjudged.Valid ∧ ∀ e ∈ misjudged.entities,
    e.kind = .superclass ∧ ∃ a parts, e.attributes.getLast? = some a ∧ a.key = .plain ∧ a.HasParts parts ∧
      (e.options[1]? = some "overlap" ∧ HasList parts ∧ ¬StartsInList parts ∧
          (EndsInList parts ↔ parts.getLast? ≠ some [')']) ∨
        e.options[1]? = some "disjoint" ∧
          (HasList parts → StartsInList parts ∨ ¬EndsInList parts ∧ parts.getLast? ≠ some [')'])) := by
  have valid : misjudged.Valid := by decide +kernel
  have kinds : ∀ e ∈ misjudged.entities, e.kind = .superclass := by decide
  exact ⟨valid, fun e member => ⟨kinds e member, valid.parts_of_discriminator member (kinds e member)⟩⟩

/-- Neither discriminator has the shape that its option asks for. -/
theorem Diagram.misjudged_discriminators : misjudged.Valid ∧
    (∃ e ∈ misjudged.entities, e.kind = .superclass ∧ e.options[1]? = some "disjoint" ∧
      ∃ a parts, e.attributes.getLast? = some a ∧ a.HasParts parts ∧ HasList parts) ∧
    ∃ e ∈ misjudged.entities, e.kind = .superclass ∧ e.options[1]? = some "overlap" ∧
      ∃ a, e.attributes.getLast? = some a ∧ ∀ parts, a.HasParts parts → ¬EndsInList parts := by
  have valid : misjudged.Valid := by decide +kernel
  refine ⟨valid, ⟨_, List.mem_cons_self, rfl, rfl, ?_⟩, _, List.mem_cons_of_mem _ List.mem_cons_self, rfl, rfl, ?_⟩
  · have name : isAttributeName "role(actor, extra) held" = true := by decide +kernel
    obtain ⟨parts, cut⟩ := (isAttributeName_eq_true_iff.mp name).exists_parts (a := ⟨_, .plain⟩)
    refine ⟨_, parts, rfl, cut, ?_⟩
    rw [← paren_mem_flatten_iff cut.each, ← cut.whole]
    decide
  · refine ⟨⟨"kind(cat) or dog)", .plain⟩, rfl, fun parts cut ends => ?_⟩
    have stray : Attribute.HasParts ⟨"kind(cat) or dog)", .plain⟩
        ("kind".toList.map ([·]) ++ ['(', 'c', 'a', 't', ')'] :: " or dog)".toList.map ([·])) := by
      have base : ∀ c ∈ "kind".toList, c ∉ [',', '(', '{', '}'] := by simp
      have more : ∀ c ∈ " or dog)".toList, c ∉ [',', '(', '{', '}'] := by simp
      refine ⟨?_, rfl⟩
      rw [List.forall_mem_append, List.forall_mem_cons, List.forall_mem_map, List.forall_mem_map]
      exact ⟨fun c hc => .char (base c hc), @IsPart.list ['c', 'a', 't'] (by decide), fun c hc => .char (more c hc)⟩
    obtain rfl := cut.unique stray
    obtain ⟨list, is_list, last⟩ := ends.getLast?
    cases last
    exact not_isValueList_singleton ')' is_list

end ErDiagram
