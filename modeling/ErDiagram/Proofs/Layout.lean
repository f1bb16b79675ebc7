import ErDiagram.Proofs.Policy
import Mathlib.Algebra.GroupWithZero.Nat

/-! The layout of a text. A rendered text is a join of lines, and a statement brings no `;` or `:` of its own into its
    line, since a valid diagram has no name or option with one. So these two mark the statements and the headers and
    nothing else. A line feed is not kept out of all names: between its ends the name of an attribute may hold one, and
    then its line is broken there. Each such line feed makes one line more than the layout has. -/

namespace ErDiagram
open Character Document Vocabulary

/-! ### Counting characters -/

section
variable {c : Char} {separator : String}

theorem count_intercalate (apart : c ∉ separator.toList) (texts : List String) :
    (separator.intercalate texts).toList.count c = (texts.map (·.toList.count c)).sum := by
  cases texts with
  | nil => simp
  | cons first others =>
    have between : separator.toList.count c = 0 := List.count_eq_zero_of_not_mem apart
    have step : (List.count c ∘ fun s : String => separator.toList ++ s.toList) = (·.toList.count c) := by
      funext s
      rw [Function.comp_apply, List.count_append, between, Nat.zero_add]
    rw [toList_intercalate_cons, List.count_append, List.count_flatMap, step, List.map_cons, List.sum_cons]

/-- On lines of their own the statements keep their characters, and each brings those of its line. -/
theorem count_statementLines (c : Char) (texts : List String) :
    (texts.flatMap fun t => '\n' :: (statementLine t).toList).count c =
      (texts.map (·.toList.count c)).sum + texts.length * ('\n' :: (statementLine "").toList).count c := by
  have line : ∀ t, ('\n' :: (statementLine t).toList).count c =
      t.toList.count c + ('\n' :: (statementLine "").toList).count c := by
    intro t
    simp only [statementLine, String.toList_append, List.count_cons, List.count_append, String.toList_empty,
      List.count_nil]
    omega
  induction texts with
  | nil => simp
  | cons t texts ih =>
    rw [List.flatMap_cons, List.count_append, line, ih, List.map_cons, List.sum_cons, List.length_cons, Nat.succ_mul]
    omega

end

/-! ### Lines -/

/-- The lines of a text: what stands before, between and after its line feeds. -/
def linesOf (text : String) : List String := (text.toList.splitOn '\n').map String.ofList

section
variable {s t : List Char} {text : String} {lines : List String}

theorem length_splitOn (c : Char) (s : List Char) : (s.splitOn c).length = s.count c + 1 := by
  induction s with
  | nil => rfl
  | cons a s ih =>
    rw [List.splitOn_cons_eq_if_modifyHead, List.count_cons]
    split
    · rw [List.length_cons, ih]
    · rw [List.length_modifyHead, ih, Nat.add_zero]

theorem length_linesOf (text : String) : (linesOf text).length = text.toList.count '\n' + 1 := by
  rw [linesOf, List.length_map, length_splitOn]

theorem linesOf_eq_singleton (unbroken : '\n' ∉ text.toList) : linesOf text = [text] := by
  rw [linesOf, List.splitOn_eq_singleton unbroken, List.map_singleton, String.ofList_toList]

/-- Joined lines are broken where each of them is broken. -/
theorem linesOf_intercalate (ne : lines ≠ []) : linesOf ("\n".intercalate lines) = lines.flatMap linesOf := by
  have feed : "\n".toList = ['\n'] := rfl
  induction lines with
  | nil => exact absurd rfl ne
  | cons first others ih =>
    cases others with
    | nil => rw [String.intercalate_singleton, List.flatMap_singleton]
    | cons second others =>
      have rest := ih (List.cons_ne_nil _ _)
      rw [List.flatMap_cons, ← rest, String.intercalate_cons_cons, linesOf, String.toList_append, String.toList_append,
        feed, List.append_assoc, List.singleton_append, List.splitOn_append_cons_self, List.map_append]
      rfl

theorem length_flatMap_linesOf (lines : List String) :
    (lines.flatMap linesOf).length = lines.length + (lines.map (·.toList.count '\n')).sum := by
  induction lines with
  | nil => rfl
  | cons line lines ih =>
    rw [List.flatMap_cons, List.length_append, length_linesOf, ih, List.length_cons, List.map_cons, List.sum_cons]
    omega

theorem flatMap_linesOf_eq_self (unbroken : ∀ line ∈ lines, '\n' ∉ line.toList) : lines.flatMap linesOf = lines := by
  induction lines with
  | nil => rfl
  | cons line lines ih =>
    rw [List.forall_mem_cons] at unbroken
    rw [List.flatMap_cons, linesOf_eq_singleton unbroken.1, ih unbroken.2, List.singleton_append]

end

/-! ### Ends of statements -/

/-- A `;` ends its line wherever it stands: a line feed comes right after it. -/
def EndsLines (s : List Char) : Prop := ∀ before after, s = before ++ ';' :: after → after.head? = some '\n'

section
variable {s t rest : List Char} {texts : List String}

theorem endsLines_nil : EndsLines [] := fun before after whole => by simp at whole

theorem EndsLines.of_cons {c : Char} (h : EndsLines (c :: s)) : EndsLines s := fun before after whole =>
  h (c :: before) after (congrArg (c :: ·) whole)

theorem EndsLines.cons {c : Char} (h : EndsLines s) (ends : c = ';' → s.head? = some '\n') : EndsLines (c :: s) := by
  intro before after whole
  cases before with
  | nil =>
    obtain ⟨rfl, rfl⟩ := List.cons.inj whole
    exact ends rfl
  | cons b before => exact h before after (List.cons.inj whole).2

theorem EndsLines.append (h : EndsLines t) (quiet : ';' ∉ s) : EndsLines (s ++ t) := by
  induction s with
  | nil => exact h
  | cons c s ih =>
    rw [List.mem_cons, not_or] at quiet
    exact (ih quiet.2).cons fun semicolon => absurd semicolon.symm quiet.1

/-- Statements on lines of their own end these lines, if they have no `;` of their own. -/
theorem EndsLines.statementLines (h : EndsLines ('\n' :: rest)) (quiet : ∀ t ∈ texts, ';' ∉ t.toList) :
    EndsLines ((texts.flatMap fun t => '\n' :: (statementLine t).toList) ++ '\n' :: rest) := by
  induction texts with
  | nil => exact h
  | cons t texts ih =>
    rw [List.forall_mem_cons] at quiet
    have others := ih quiet.2
    have start : ((texts.flatMap fun t => '\n' :: (statementLine t).toList) ++ '\n' :: rest).head? = some '\n' := by
      cases texts <;> rfl
    have line : ';' ∉ '\n' :: (indent.toList ++ t.toList) := by
      rw [List.mem_cons, List.mem_append, not_or, not_or]
      exact ⟨by decide, by decide, quiet.1⟩
    have whole : ('\n' :: (statementLine t).toList) = '\n' :: (indent.toList ++ t.toList) ++ [';'] := by
      simp only [statementLine, String.toList_append]
      rfl
    rw [List.flatMap_cons, whole, List.append_assoc, List.append_assoc, List.singleton_append]
    exact (others.cons fun _ => start).append line

/-- Another character before a line does not change how the line ends. -/
theorem countP_modifyHead {c : Char} (other : c ≠ ';') (lines : List (List Char)) :
    (lines.modifyHead (c :: ·)).countP (fun line => line.getLast? = some ';') =
      lines.countP fun line => line.getLast? = some ';' := by
  cases lines with
  | nil => rfl
  | cons line lines =>
    rw [List.modifyHead_cons, List.countP_cons, List.countP_cons]
    cases line with
    | nil => simp [other]
    | cons d line => rw [List.getLast?_cons_cons]

theorem countP_splitOn_of_endsLines (h : EndsLines s) :
    (s.splitOn '\n').countP (fun line => line.getLast? = some ';') = s.count ';' := by
  induction s with
  | nil => rfl
  | cons c s ih =>
    have ih := ih h.of_cons
    by_cases semicolon : c = ';'
    · subst semicolon
      obtain ⟨rest, rfl⟩ := List.head?_eq_some_iff.mp (h [] s rfl)
      simpa [List.splitOn_cons_eq_if_modifyHead] using ih
    · rw [List.splitOn_cons_eq_if_modifyHead, List.count_cons_of_ne semicolon]
      split
      · rw [List.countP_cons, ih]
        rfl
      · rw [countP_modifyHead semicolon, ih]

/-- As many lines end in `;` as there are. -/
theorem countP_linesOf {text : String} (h : EndsLines text.toList) :
    (linesOf text).countP (fun line => line.toList.getLast? = some ';') = text.toList.count ';' := by
  rw [linesOf, List.countP_map, ← countP_splitOn_of_endsLines h]
  refine List.countP_congr fun line _ => ?_
  rw [Function.comp_apply, String.toList_ofList]

end

/-! ### Statements of a valid diagram -/

section
variable {d : Diagram} {e : Entity} {r : Relationship}

theorem Diagram.length_canonical (d : Diagram) : d.canonical.entities.length = d.entities.length ∧
    d.canonical.relationships.length = d.relationships.length :=
  ⟨List.length_map _, List.length_map _⟩

/-- Its statements can be written, also in canonical spelling. -/
theorem Diagram.Valid.writable (h : d.Valid) :
    (∀ e ∈ d.canonical.entities, e.Writable) ∧ ∀ r ∈ d.canonical.relationships, r.unkeyed.Writable :=
  Diagram.writable_canonical (fun _ => h.expressible.entity_writable) fun _ => h.expressible.relationship_writable

/-- Nothing in a statement ends it. -/
theorem Diagram.Valid.quiet_statements (h : d.Valid) :
    (∀ t ∈ d.canonical.entities.map (·.statement), ∀ c ∈ t.toList, endsStatement c = false) ∧
      ∀ t ∈ d.canonical.relationships.map (·.statement), ∀ c ∈ t.toList, endsStatement c = false := by
  obtain ⟨entities, relationships⟩ := h.writable
  rw [List.forall_mem_map, List.forall_mem_map]
  refine ⟨fun e he => (entities e he).isStatementText.quiet, fun r hr => ?_⟩
  rw [← r.statement_unkeyed]
  exact (relationships r hr).isStatementText.quiet

end

/-- Of the characters that end statements a block of lines has one `;` for each statement, at the end of its line. -/
theorem marks_of_statementLines {texts : List String}
    (quiet : ∀ t ∈ texts, ∀ c ∈ t.toList, endsStatement c = false) (space : List Char)
    (spacing : ∀ c ∈ space, isSpacing c = true) :
    ((texts.flatMap fun t => '\n' :: (statementLine t).toList) ++ '\n' :: space).count ':' = 0 ∧
      ((texts.flatMap fun t => '\n' :: (statementLine t).toList) ++ '\n' :: space).count ';' = texts.length ∧
      ∀ more, EndsLines more →
        EndsLines ((texts.flatMap fun t => '\n' :: (statementLine t).toList) ++ '\n' :: space ++ more) := by
  have outside : ∀ c, endsStatement c = true → c ∉ '\n' :: space := by
    intro c ends inside
    rcases List.mem_cons.mp inside with rfl | inside
    · cases ends
    · have spaced := spacing c inside
      simp only [endsStatement, Bool.or_eq_true, decide_eq_true_eq] at ends
      rcases ends with rfl | rfl <;> cases spaced
  have count : ∀ c, endsStatement c = true →
      ((texts.flatMap fun t => '\n' :: (statementLine t).toList) ++ '\n' :: space).count c =
        texts.length * ('\n' :: (statementLine "").toList).count c := by
    intro c ends
    have none : ∀ t ∈ texts, t.toList.count c = 0 := fun t ht =>
      List.count_eq_zero_of_not_mem fun inside => by simp [quiet t ht c inside] at ends
    rw [List.count_append, List.count_eq_zero_of_not_mem (outside c ends), count_statementLines,
      List.map_congr_left none, List.map_const', List.sum_replicate_nat, Nat.mul_zero, Nat.zero_add, Nat.add_zero]
  refine ⟨count ':' rfl, (count ';' rfl).trans (Nat.mul_one _), fun more ends => ?_⟩
  rw [List.append_assoc]
  refine EndsLines.statementLines (ends.append (outside ';' rfl)) fun t ht inside => ?_
  exact absurd (quiet t ht ';' inside) (by decide)

/-! ### Marks of a text -/

/-- In the text of a valid diagram each `;` is the end of a statement and of a line, one for each entity between the two
    headers and one for each relationship after them, and the only colons are those of the headers. -/
theorem Diagram.Valid.marks_of_statements {d : Diagram} (h : d.Valid) : ∃ (text : String) (first second : List Char),
    d.serialize .strict = .ok text ∧
      text.toList = "entities:".toList ++ (first ++ ("relationships:".toList ++ second)) ∧
      (':' ∉ first ∧ ':' ∉ second ∧ text.toList.count ':' = 2) ∧
      (first.count ';' = d.entities.length ∧ second.count ';' = d.relationships.length ∧
        text.toList.count ';' = d.entities.length + d.relationships.length) ∧
      EndsLines text.toList ∧
      (linesOf text).countP (fun line => line.toList.getLast? = some ';') =
        d.entities.length + d.relationships.length := by
  obtain ⟨entities, relationships⟩ := h.quiet_statements
  have text := d.toList_render
  have headers : ';' ∉ entitiesHeader.toList ∧ ';' ∉ relationshipsHeader.toList := by decide
  obtain ⟨firstColons, firstEnds, firstLines⟩ := marks_of_statementLines entities ['\n']
    (List.forall_mem_singleton.mpr rfl)
  obtain ⟨secondColons, secondEnds, secondLines⟩ := marks_of_statementLines relationships indent.toList
    (List.all_eq_true.mp (by decide))
  rw [List.length_map, d.length_canonical.1] at firstEnds
  rw [List.length_map, d.length_canonical.2] at secondEnds
  generalize (d.canonical.entities.map (·.statement)).flatMap _ ++ _ = first at *
  generalize (d.canonical.relationships.map (·.statement)).flatMap _ ++ _ = second at *
  have colons : d.render.toList.count ':' = 2 := by
    rw [text, List.count_append, List.count_append, List.count_append, firstColons, secondColons]
    rfl
  have semicolons : d.render.toList.count ';' = d.entities.length + d.relationships.length := by
    rw [text, List.count_append, List.count_append, List.count_append, firstEnds, secondEnds,
      List.count_eq_zero_of_not_mem headers.1, List.count_eq_zero_of_not_mem headers.2, Nat.zero_add, Nat.zero_add]
  have ends : EndsLines d.render.toList := by
    have last := secondLines [] endsLines_nil
    rw [List.append_nil] at last
    rw [text]
    exact (firstLines _ (last.append headers.2)).append headers.1
  refine ⟨d.render, first, second, h.serialize .strict, text, ⟨?_, ?_, colons⟩, ⟨firstEnds, secondEnds, semicolons⟩,
    ends, ?_⟩
  · exact List.count_eq_zero.mp firstColons
  · exact List.count_eq_zero.mp secondColons
  · rw [countP_linesOf ends, semicolons]

/-- A valid diagram whose names hold separators in value lists and a line feed. -/
def Diagram.tour : Diagram where
  entities := [
    ⟨"Museum", .strong, [], [⟨"id", .primary⟩, ⟨"opening\nhours", .plain⟩]⟩,
    ⟨"Guide", .strong, [], [⟨"badge", .primary⟩, ⟨"speaks(de, {fr})", .plain⟩]⟩]
  relationships := [⟨"guide", .oneOrMany, "shows", .zeroOrMany, "MUSEUM", .double, [⟨"day", .plain⟩, ⟨"fee", .plain⟩]⟩]

theorem Diagram.Valid.marks_of_statements_tour : tour.Valid ∧ ∃ (text : String) (first second : List Char),
    tour.serialize .strict = .ok text ∧
      text.toList = "entities:".toList ++ (first ++ ("relationships:".toList ++ second)) ∧
      (':' ∉ first ∧ ':' ∉ second ∧ text.toList.count ':' = 2) ∧
      (first.count ';' = 2 ∧ second.count ';' = 1 ∧ text.toList.count ';' = 3) ∧
      EndsLines text.toList ∧ (linesOf text).countP (fun line => line.toList.getLast? = some ';') = 3 := by
  have valid : tour.Valid := by decide +kernel
  exact ⟨valid, valid.marks_of_statements⟩

/-! ### Line feeds in names -/

/-- All attributes: those of the entities and then those of the relationships. -/
def Diagram.attributes (d : Diagram) : List Attribute :=
  d.entities.flatMap (·.attributes) ++ d.relationships.flatMap (·.attributes)

/-- How many line feeds the names of the attributes hold. -/
def lineFeeds (attributes : List Attribute) : Nat := (attributes.map (·.name.toList.count '\n')).sum

section
variable {d : Diagram} {e : Entity} {r : Relationship} {name : String} {attributes : List Attribute}

theorem lineFeeds_eq_zero_iff : lineFeeds attributes = 0 ↔ ∀ a ∈ attributes, '\n' ∉ a.name.toList := by
  rw [lineFeeds, List.sum_eq_zero_iff_forall_eq_nat, List.forall_mem_map]
  exact forall₂_congr fun a _ => List.count_eq_zero

theorem lineFeeds_flatMap {α : Type} (l : List α) (f : α → List Attribute) :
    lineFeeds (l.flatMap f) = (l.map fun a => lineFeeds (f a)).sum := by
  induction l with
  | nil => rfl
  | cons a l ih =>
    rw [List.flatMap_cons, List.map_cons, List.sum_cons, ← ih, lineFeeds, List.map_append, List.sum_append]
    rfl

theorem lineFeed_not_mem_identifier (h : isIdentifier name = true) : '\n' ∉ name.toList := fun inside => by
  have identifier := (isIdentifier_iff.mp h).2 '\n' inside
  rw [isIdentifierChar_eq_false (by simp)] at identifier
  cases identifier

/-- The names that stand in a list of attributes, with marks or without, bring their line feeds into the text. -/
theorem count_lineFeed_joined {text : Attribute → String}
    (names : ∀ a, (text a).toList.count '\n' = a.name.toList.count '\n') :
    (", ".intercalate (attributes.map text)).toList.count '\n' = lineFeeds attributes := by
  rw [count_intercalate (by decide), List.map_map, lineFeeds]
  exact congrArg List.sum (List.map_congr_left fun a _ => names a)

/-- An entity brings the line feeds of its attributes into its statement and no others. -/
theorem Entity.Writable.count_lineFeed (h : e.Writable) :
    e.statement.toList.count '\n' = lineFeeds e.attributes := by
  have point : '\n' ≠ '.' := by decide
  have name : e.name.toList.count '\n' = 0 := List.count_eq_zero_of_not_mem (lineFeed_not_mem_identifier h.name)
  have kind : (if e.kind = .strong then [] else '.' :: (token e.kind).toList).count '\n' = 0 := by
    split
    · rfl
    · refine List.count_eq_zero_of_not_mem (List.not_mem_cons_of_ne_of_not_mem point ?_)
      exact lineFeed_not_mem_identifier (isIdentifier_entityKind _)
  have options : (e.options.flatMap fun o => '.' :: o.toList).count '\n' = 0 := by
    refine List.count_eq_zero_of_not_mem fun inside => ?_
    obtain ⟨o, ho, inside⟩ := List.mem_flatMap.mp inside
    exact List.not_mem_cons_of_ne_of_not_mem point (lineFeed_not_mem_identifier (h.options o ho)) inside
  have attributes : e.attributePart.count '\n' = lineFeeds e.attributes := by
    rw [Entity.attributePart]
    split
    · next none => rw [none]; rfl
    · refine (List.count_cons_of_ne (by decide)).trans (count_lineFeed_joined fun a => ?_)
      rw [Attribute.marked, String.toList_append, List.count_append]
      cases a.key <;> exact Nat.zero_add _
  rw [Entity.toList_statement, List.count_append, List.count_append, List.count_append, name, kind, options, attributes,
    Nat.zero_add, Nat.zero_add, Nat.zero_add]

theorem Relationship.Writable.count_lineFeed (h : r.unkeyed.Writable) :
    r.statement.toList.count '\n' = lineFeeds r.attributes := by
  have blank : '\n' ≠ ' ' := by decide
  have source : '\n' ∉ r.source.toList := lineFeed_not_mem_identifier h.source
  have target : '\n' ∉ r.target.toList := lineFeed_not_mem_identifier h.target
  have cardinality : ∀ c : Cardinality, '\n' ∉ (token c).toList := fun c =>
    lineFeed_not_mem_identifier (isIdentifier_cardinality c)
  have name : '\n' ∉ r.name.toList := fun inside => by
    have seen := ((isRelationshipName_iff.mp h.name).2 '\n' inside).1
    cases seen
  have line : r.linePart.count '\n' = 0 := by
    rw [Relationship.linePart]
    split
    · refine List.count_eq_zero_of_not_mem (List.not_mem_cons_of_ne_of_not_mem blank ?_)
      exact lineFeed_not_mem_identifier (isIdentifier_lineKind _)
    · rfl
  have attributes : r.attributePart.count '\n' = lineFeeds r.attributes := by
    rw [Relationship.attributePart]
    split
    · next none => rw [none]; rfl
    · rw [List.count_cons_of_ne (by decide), List.count_cons_of_ne (by decide), List.count_append,
        count_lineFeed_joined fun _ => rfl]
      rfl
  rw [Relationship.toList_statement]
  simp only [List.count_append, List.count_cons_of_ne blank.symm, List.count_eq_zero_of_not_mem source,
    List.count_eq_zero_of_not_mem target, List.count_eq_zero_of_not_mem (cardinality _),
    List.count_eq_zero_of_not_mem name, line, attributes, Nat.zero_add]

/-- All line feeds of the text: those of its layout and those of the names. -/
theorem Diagram.Valid.count_lineFeed_render (h : d.Valid) :
    d.render.toList.count '\n' = d.entities.length + d.relationships.length + 3 + lineFeeds d.attributes := by
  obtain ⟨entities, relationships⟩ := h.writable
  have first : (d.canonical.entities.map fun e => e.statement.toList.count '\n').sum =
      lineFeeds (d.entities.flatMap (·.attributes)) := by
    rw [List.map_congr_left fun e he => (entities e he).count_lineFeed, ← lineFeeds_flatMap, Diagram.canonical,
      List.flatMap_map]
  have second : (d.canonical.relationships.map fun r => r.statement.toList.count '\n').sum =
      lineFeeds (d.relationships.flatMap (·.attributes)) := by
    rw [List.map_congr_left fun r hr => (relationships r hr).count_lineFeed, ← lineFeeds_flatMap, Diagram.canonical,
      List.flatMap_map]
  have all : lineFeeds d.attributes =
      lineFeeds (d.entities.flatMap (·.attributes)) + lineFeeds (d.relationships.flatMap (·.attributes)) := by
    rw [lineFeeds, Diagram.attributes, List.map_append, List.sum_append]
    rfl
  have line : ('\n' :: (statementLine "").toList).count '\n' = 1 := by decide
  have headers : entitiesHeader.toList.count '\n' = 0 ∧ relationshipsHeader.toList.count '\n' = 0 := by decide
  have separators : ['\n', '\n'].count '\n' = 2 ∧ ('\n' :: indent.toList).count '\n' = 1 := by decide
  rw [d.toList_render]
  simp only [List.count_append, count_statementLines, List.map_map, Function.comp_def, List.length_map, first, second,
    all, line, headers, separators, d.length_canonical]
  omega

end

/-! ### Lines of a text -/

/-- The layout has one empty line. -/
theorem getElem?_eq_empty_iff {before after : List String} (first : "" ∉ before) (second : "" ∉ after) (index : Nat) :
    (before ++ "" :: after)[index]? = some "" ↔ index = before.length := by
  constructor
  · intro empty
    rcases Nat.lt_trichotomy index before.length with earlier | same | later
    · rw [List.getElem?_append_left earlier] at empty
      exact absurd (List.mem_of_getElem? empty) first
    · exact same
    · obtain ⟨place, rfl⟩ := Nat.exists_eq_add_of_lt later
      rw [List.getElem?_append_right (by omega), Nat.add_assoc, Nat.add_sub_cancel_left, List.getElem?_cons_succ] at empty
      exact absurd (List.mem_of_getElem? empty) second
  · rintro rfl
    rw [List.getElem?_append_right (Nat.le_refl _), Nat.sub_self]
    rfl

theorem statementLine_ne_empty (t : String) : statementLine t ≠ "" := fun empty => by
  have start := congrArg String.toList empty
  rw [statementLine, String.toList_append, String.toList_append] at start
  cases start

/-- The strict text of a valid diagram is laid out in the two headers, a line for each statement, an empty line between
    the blocks and a line with an indent at the end. Only a name of an attribute can break one of these lines, once for
    each line feed in it; so the lines of the text are those of the layout just when no such name holds a line feed, and
    then only the line between the blocks is empty. -/
theorem Diagram.Valid.linesOf_text {d : Diagram} (h : d.Valid) : ∃ (text : String) (layout : List String),
    d.serialize .strict = .ok text ∧
      layout = "entities:" :: d.canonical.entities.map (fun e => "    " ++ e.statement ++ ";") ++
        "" :: "relationships:" :: d.canonical.relationships.map (fun r => "    " ++ r.statement ++ ";") ++ ["    "] ∧
      linesOf text = layout.flatMap linesOf ∧
      (linesOf text).length = d.entities.length + d.relationships.length + 4 + lineFeeds d.attributes ∧
      (linesOf text = layout ↔ ∀ a ∈ d.attributes, '\n' ∉ a.name.toList) ∧
      ((∀ a ∈ d.attributes, '\n' ∉ a.name.toList) →
        ∀ index, (linesOf text)[index]? = some "" ↔ index = d.entities.length + 1) := by
  have broken : linesOf d.render = d.lines.flatMap linesOf := linesOf_intercalate (List.cons_ne_nil _ _)
  have total : (linesOf d.render).length = d.entities.length + d.relationships.length + 4 + lineFeeds d.attributes := by
    rw [length_linesOf, h.count_lineFeed_render]
    omega
  have laid : d.lines.length = d.entities.length + d.relationships.length + 4 := by
    simp only [Diagram.lines, List.length_append, List.length_cons, List.length_map, List.length_nil]
    omega
  have same : linesOf d.render = d.lines ↔ ∀ a ∈ d.attributes, '\n' ∉ a.name.toList := by
    rw [← lineFeeds_eq_zero_iff]
    constructor
    · intro same
      rw [same, laid] at total
      omega
    · intro unbroken
      rw [broken, length_flatMap_linesOf, laid, unbroken, Nat.add_eq_left, List.sum_eq_zero_iff_forall_eq_nat,
        List.forall_mem_map] at total
      rw [broken]
      exact flatMap_linesOf_eq_self fun line inside => List.count_eq_zero.mp (total line inside)
  refine ⟨d.render, d.lines, h.serialize .strict, d.lines_eq, broken, total, same, fun unbroken index => ?_⟩
  have entities : "" ∉ entitiesHeader :: d.canonical.entities.map fun e => statementLine e.statement := by
    simp [entitiesHeader, statementLine_ne_empty]
  have relationships : "" ∉ relationshipsHeader ::
      (d.canonical.relationships.map (fun r => statementLine r.statement) ++ [indent]) := by
    simp [relationshipsHeader, indent, statementLine_ne_empty]
  have place := getElem?_eq_empty_iff entities relationships index
  rw [List.length_cons, List.length_map, d.length_canonical.1] at place
  rw [same.mpr unbroken, Diagram.lines_eq, List.append_assoc]
  exact place

theorem Diagram.Valid.linesOf_text_tour : tour.Valid ∧ ∃ (text : String) (layout : List String),
    tour.serialize .strict = .ok text ∧
      layout = "entities:" :: tour.canonical.entities.map (fun e => "    " ++ e.statement ++ ";") ++
        "" :: "relationships:" :: tour.canonical.relationships.map (fun r => "    " ++ r.statement ++ ";") ++ ["    "] ∧
      linesOf text = layout.flatMap linesOf ∧ (linesOf text).length = 8 ∧
      (linesOf text = layout ↔ ∀ a ∈ tour.attributes, '\n' ∉ a.name.toList) ∧
      ((∀ a ∈ tour.attributes, '\n' ∉ a.name.toList) →
        ∀ index, (linesOf text)[index]? = some "" ↔ index = 3) := by
  have valid : tour.Valid := by decide +kernel
  exact ⟨valid, valid.linesOf_text⟩

/-- One line more than two entities, a relationship and the layout make up. -/
theorem Diagram.tour_breaks_line : tour.Valid ∧ ∃ text, tour.serialize .strict = .ok text ∧
    (linesOf text).length ≠ tour.entities.length + tour.relationships.length + 4 := by
  have valid : tour.Valid := by decide +kernel
  refine ⟨valid, tour.render, valid.serialize .strict, ?_⟩
  rw [length_linesOf, valid.count_lineFeed_render]
  decide

end ErDiagram
