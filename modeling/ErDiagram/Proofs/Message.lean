import ErDiagram.Proofs.Layout
import ErDiagram.Proofs.Segments
import Mathlib.Data.Nat.Digits.Defs

/-! Messages. The text of a rejection is a join of lines, the number of violations and then the text of each. A
    violation quotes names and options of the diagram as they are, and where one is reported they may have broken the
    rules on names; so a line feed in one of them breaks the line of the violation. Each such line feed makes one line
    more, and where the diagram has none there is exactly one line for each violation. -/

namespace ErDiagram

/-! ### Quoted strings -/

/-- The strings that the text of an element quotes. -/
def Element.strings : Element → List String
  | .entity _ name => [name]
  | .entityAttribute owner _ name => [name, owner]
  | .relationship _ name => [name]
  | .relationshipAttribute owner _ name => [name, owner]

/-- The strings that the text of a violation quotes: those of its element, and its value. -/
def Violation.strings (v : Violation) : List String := v.element.strings ++ v.value.toList

def Entity.strings (e : Entity) : List String := e.name :: (e.options ++ e.attributes.map (·.name))

def Relationship.strings (r : Relationship) : List String :=
  r.name :: r.source :: r.target :: r.attributes.map (·.name)

/-- All strings of a diagram. -/
def Diagram.strings (d : Diagram) : List String :=
  d.entities.flatMap (·.strings) ++ d.relationships.flatMap (·.strings)

/-- How many line feeds the strings hold. -/
def lineFeedsIn (strings : List String) : Nat := (strings.map (·.toList.count '\n')).sum

section
variable {d : Diagram} {e : Entity} {r : Relationship} {v : Violation} {s : String}

theorem lineFeed_not_mem_toString (n : Nat) : '\n' ∉ (toString n).toList := fun inside => by
  rw [Nat.toString_eq_repr, Nat.toList_repr] at inside
  cases Nat.isDigit_of_mem_toDigits (by decide) (by decide) inside

theorem lineFeed_not_mem_rule (rule : Rule) : '\n' ∉ rule.text.toList := by
  cases rule <;> decide +kernel

theorem lineFeedsIn_append (strings others : List String) :
    lineFeedsIn (strings ++ others) = lineFeedsIn strings + lineFeedsIn others := by
  rw [lineFeedsIn, List.map_append, List.sum_append]
  rfl

theorem lineFeedsIn_eq_zero_iff {strings : List String} :
    lineFeedsIn strings = 0 ↔ ∀ s ∈ strings, '\n' ∉ s.toList := by
  rw [lineFeedsIn, List.sum_eq_zero_iff_forall_eq_nat, List.forall_mem_map]
  exact forall₂_congr fun _ _ => List.count_eq_zero

theorem Element.count_lineFeed_text (element : Element) :
    element.text.toList.count '\n' = lineFeedsIn element.strings := by
  have number : ∀ n : Nat, (Nat.toDigits 10 n).count '\n' = 0 := by
    intro n
    rw [← Nat.toList_repr]
    exact List.count_eq_zero_of_not_mem (lineFeed_not_mem_toString n)
  -- not by its equations, which take long to make for texts that are joined
  delta Element.text
  cases element <;> simp [Element.strings, lineFeedsIn, number]

/-- The text of a violation has the line feeds of the strings that it quotes. -/
theorem Violation.count_lineFeed_text (v : Violation) : v.text.toList.count '\n' = lineFeedsIn v.strings := by
  have rule := List.count_eq_zero_of_not_mem (lineFeed_not_mem_rule v.rule)
  have ruleClass : v.class.text.toList.count '\n' = 0 := by
    cases v.class <;> decide
  rw [Violation.strings, lineFeedsIn_append, ← v.element.count_lineFeed_text, Violation.text]
  cases value : v.value <;> simp [lineFeedsIn, rule, ruleClass]

/-! ### Where quoted strings come from -/

theorem Entity.attribute_mem_strings {place : Nat} {a : Attribute} (at_place : e.attributes[place]? = some a) :
    a.name ∈ e.strings :=
  List.mem_cons_of_mem _ (List.mem_append_right _ (List.mem_map_of_mem (List.mem_of_getElem? at_place)))

theorem Relationship.attribute_mem_strings {place : Nat} {a : Attribute} (at_place : r.attributes[place]? = some a) :
    a.name ∈ r.strings := by
  have name := List.mem_map_of_mem (f := Attribute.name) (List.mem_of_getElem? at_place)
  simp only [Relationship.strings, List.mem_cons, name, or_true]

theorem Entity.Designates.strings_subset {index : Nat} {element : Element} (h : e.Designates index element) :
    element.strings ⊆ e.strings := by
  cases h with
  | itself => exact List.cons_subset.mpr ⟨List.mem_cons_self, List.nil_subset _⟩
  | ofAttribute at_place =>
    refine List.cons_subset.mpr ⟨attribute_mem_strings at_place, ?_⟩
    exact List.cons_subset.mpr ⟨List.mem_cons_self, List.nil_subset _⟩

theorem Relationship.Designates.strings_subset {index : Nat} {element : Element} (h : r.Designates index element) :
    element.strings ⊆ r.strings := by
  cases h with
  | itself => exact List.cons_subset.mpr ⟨List.mem_cons_self, List.nil_subset _⟩
  | ofAttribute at_place =>
    refine List.cons_subset.mpr ⟨attribute_mem_strings at_place, ?_⟩
    exact List.cons_subset.mpr ⟨List.mem_cons_self, List.nil_subset _⟩

/-- What a violation quotes are strings of the diagram, the options of an entity joined by points, or a number. -/
inductive Diagram.Quotes (d : Diagram) : String → Prop where
  | ofEntity {e : Entity} {s : String} (member : e ∈ d.entities) (inside : s ∈ e.strings) : d.Quotes s
  | ofRelationship {r : Relationship} {s : String} (member : r ∈ d.relationships) (inside : s ∈ r.strings) : d.Quotes s
  | options {e : Entity} (member : e ∈ d.entities) : d.Quotes (".".intercalate e.options)
  | number (n : Nat) : d.Quotes (toString n)

theorem Diagram.quotes_name (member : e ∈ d.entities) : d.Quotes e.name := .ofEntity member List.mem_cons_self

theorem Diagram.quotes_option {place : Nat} (member : e ∈ d.entities) (option : e.options[place]? = some s) :
    d.Quotes s :=
  .ofEntity member (List.mem_cons_of_mem _ (List.mem_append_left _ (List.mem_of_getElem? option)))

theorem Diagram.Refers.quotes {element : Element} (h : d.Refers element s) : d.Quotes s := by
  cases h with
  | parent at_index parent =>
    have option := (Entity.parent?_eq_some_iff.mp parent).2
    rw [List.head?_eq_getElem?] at option
    exact quotes_option (List.mem_of_getElem? at_index) option
  | source at_index => exact .ofRelationship (List.mem_of_getElem? at_index) (by simp [Relationship.strings])
  | target at_index => exact .ofRelationship (List.mem_of_getElem? at_index) (by simp [Relationship.strings])

theorem Diagram.Breach.quotes_value (h : d.Breach v) (value : v.value = some s) : d.Quotes s := by
  cases h with
  | duplicateEntityName at_index earlier =>
    cases value
    exact quotes_name (List.mem_of_mem_take (List.mem_of_find?_eq_some earlier))
  | entityName at_index =>
    cases value
    exact quotes_name (List.mem_of_getElem? at_index)
  | entityAttributeName member at_place =>
    cases value
    exact .ofEntity member (Entity.attribute_mem_strings at_place)
  | relationshipName at_index =>
    cases value
    exact .ofRelationship (List.mem_of_getElem? at_index) List.mem_cons_self
  | relationshipAttributeName member at_place =>
    cases value
    exact .ofRelationship member (Relationship.attribute_mem_strings at_place)
  | referenceName refers | unresolvedReference refers | ambiguousReference refers =>
    cases value
    exact refers.quotes
  | optionCount at_index =>
    cases value
    exact .options (List.mem_of_getElem? at_index)
  | primaryKeyCount | partialKeyCount | weakOwnerCount =>
    cases value
    exact .number _
  | unexpectedPrimaryKey | unexpectedPartialKey | missingDiscriminator | relationshipAttributeKey => cases value
  | participation at_index kind option | disjointness at_index kind option =>
    cases value
    exact quotes_option (List.mem_of_getElem? at_index) option
  | discriminatorShape member => exact quotes_option member value
  | parentNotSuperclass at_index parent found | superclassAfterSubclass at_index parent found =>
    cases value
    exact quotes_name (List.mem_of_getElem? (of_resolve_eq_found found).1)

theorem Diagram.quotes_of_mem (reported : v ∈ d.violations) (quoted : s ∈ v.strings) : d.Quotes s := by
  rcases List.mem_append.mp quoted with ofElement | value
  · rcases mem_violations.mp reported with ⟨index, e, at_index, found⟩ | ⟨index, r, at_index, found⟩
    · exact .ofEntity (List.mem_of_getElem? at_index) ((Entity.designates_of_mem found).strings_subset ofElement)
    · exact .ofRelationship (List.mem_of_getElem? at_index)
        ((Relationship.designates_of_mem found).strings_subset ofElement)
  · exact (mem_violations_iff.mp reported).quotes_value (Option.mem_toList.mp value)

theorem Diagram.Quotes.lineFeed_not_mem (h : d.Quotes s) (unbroken : ∀ s ∈ d.strings, '\n' ∉ s.toList) :
    '\n' ∉ s.toList := by
  have entity : ∀ e ∈ d.entities, ∀ s ∈ e.strings, '\n' ∉ s.toList := fun e member s inside =>
    unbroken s (List.mem_append_left _ (List.mem_flatMap.mpr ⟨e, member, inside⟩))
  cases h with
  | ofEntity member inside => exact entity _ member s inside
  | ofRelationship member inside =>
    exact unbroken s (List.mem_append_right _ (List.mem_flatMap.mpr ⟨_, member, inside⟩))
  | options member =>
    have options := fun s inside => entity _ member s (List.mem_cons_of_mem _ (List.mem_append_left _ inside))
    rw [← List.count_eq_zero, count_intercalate (by decide)]
    exact lineFeedsIn_eq_zero_iff.mpr options
  | number n => exact lineFeed_not_mem_toString n

end

/-! ### Lines of a message -/

theorem violationsMessage_eq {violations : List Violation} (ne : violations ≠ []) : violationsMessage violations =
    "\n".intercalate (("diagram violates " ++ toString violations.length ++ " constraint(s):") ::
      violations.map fun v => "  " ++ v.text) := by
  have ending : " constraint(s):\n" = " constraint(s):" ++ "\n" := by decide
  rw [String.intercalate_cons_of_ne_nil (mt List.map_eq_nil_iff.mp ne)]
  delta violationsMessage
  rw [ending, ← String.append_assoc]

/-- The first line of a message is not broken, and the line of a violation where it quotes a line feed. -/
theorem sum_count_lineFeed (number : Nat) (violations : List Violation) :
    ((("diagram violates " ++ toString number ++ " constraint(s):") :: violations.map fun v => "  " ++ v.text).map
      (·.toList.count '\n')).sum = lineFeedsIn (violations.flatMap (·.strings)) := by
  have title : ("diagram violates " ++ toString number ++ " constraint(s):").toList.count '\n' = 0 := by
    refine List.count_eq_zero_of_not_mem ?_
    simp only [String.toList_append, List.mem_append, not_or]
    exact ⟨⟨by decide, lineFeed_not_mem_toString _⟩, by decide⟩
  have spaces : "  ".toList.count '\n' = 0 := by decide
  rw [List.map_cons, List.sum_cons, title, Nat.zero_add]
  induction violations with
  | nil => rfl
  | cons v violations ih =>
    rw [List.map_cons, List.map_cons, List.sum_cons, ih, List.flatMap_cons, lineFeedsIn_append, String.toList_append,
      List.count_append, spaces, Nat.zero_add, v.count_lineFeed_text]

/-- The message of a diagram that is rejected is laid out as the number of its violations and then a line for each of
    them, in order. The line of a violation has two spaces and its text, and is broken at each line feed in a string
    that it quotes. So there is one line for each violation just if nothing that is quoted has a line feed, as where the
    diagram has none. -/
theorem Diagram.linesOf_message {d : Diagram} (rejected : ¬d.Valid) : ∃ (failure : Failure) (layout : List String),
    d.check = .error failure ∧
      layout = ("diagram violates " ++ toString d.violations.length ++ " constraint(s):") ::
        d.violations.map (fun v => "  " ++ v.text) ∧
      linesOf failure.message = layout.flatMap linesOf ∧
      (linesOf failure.message).length = d.violations.length + 1 + lineFeedsIn (d.violations.flatMap (·.strings)) ∧
      (linesOf failure.message = layout ↔ ∀ v ∈ d.violations, ∀ s ∈ v.strings, '\n' ∉ s.toList) ∧
      ((∀ s ∈ d.strings, '\n' ∉ s.toList) → linesOf failure.message = layout) := by
  obtain ⟨layout, laid⟩ : ∃ layout,
    layout = ("diagram violates " ++ toString d.violations.length ++ " constraint(s):") ::
      d.violations.map (fun v => "  " ++ v.text) := ⟨_, rfl⟩
  have length : layout.length = d.violations.length + 1 := by rw [laid, List.length_cons, List.length_map]
  have quoted : (layout.map (·.toList.count '\n')).sum = lineFeedsIn (d.violations.flatMap (·.strings)) :=
    laid ▸ sum_count_lineFeed _ _
  have broken : linesOf (violationsMessage d.violations) = layout.flatMap linesOf := by
    rw [violationsMessage_eq rejected, ← laid]
    exact linesOf_intercalate (laid ▸ List.cons_ne_nil _ _)
  have total : (linesOf (violationsMessage d.violations)).length =
      d.violations.length + 1 + lineFeedsIn (d.violations.flatMap (·.strings)) := by
    rw [broken, length_flatMap_linesOf, length, quoted]
  have none : lineFeedsIn (d.violations.flatMap (·.strings)) = 0 ↔
      ∀ v ∈ d.violations, ∀ s ∈ v.strings, '\n' ∉ s.toList :=
    lineFeedsIn_eq_zero_iff.trans List.forall_mem_flatMap
  have same : linesOf (violationsMessage d.violations) = layout ↔
      ∀ v ∈ d.violations, ∀ s ∈ v.strings, '\n' ∉ s.toList := by
    rw [← none]
    constructor
    · intro same
      rw [same, length] at total
      omega
    · intro none
      rw [none, List.sum_eq_zero_iff_forall_eq_nat, List.forall_mem_map] at quoted
      rw [broken]
      exact flatMap_linesOf_eq_self fun line inside => List.count_eq_zero.mp (quoted line inside)
  refine ⟨.invalid d.violations, layout, if_neg rejected, laid, broken, total, same, fun unbroken => same.mpr ?_⟩
  exact fun v reported s inside => (quotes_of_mem reported inside).lineFeed_not_mem unbroken

/-- A diagram with an entity that has a line feed in its name, which is all that is wrong. -/
def Diagram.twoLineOffice : Diagram where
  entities := [⟨"Sales\nOffice", .strong, [], [⟨"id", .primary⟩]⟩]
  relationships := []

theorem Diagram.linesOf_message_twoLineOffice : ¬twoLineOffice.Valid ∧ ∃ (failure : Failure) (layout : List String),
    twoLineOffice.check = .error failure ∧
      layout = ("diagram violates " ++ toString 1 ++ " constraint(s):") ::
        twoLineOffice.violations.map (fun v => "  " ++ v.text) ∧
      linesOf failure.message = layout.flatMap linesOf ∧
      (linesOf failure.message).length = 1 + 1 + 2 ∧
      (linesOf failure.message = layout ↔ ∀ v ∈ twoLineOffice.violations, ∀ s ∈ v.strings, '\n' ∉ s.toList) ∧
      ((∀ s ∈ twoLineOffice.strings, '\n' ∉ s.toList) → linesOf failure.message = layout) := by
  have rejected : ¬twoLineOffice.Valid := by decide +kernel
  have one : twoLineOffice.violations.length = 1 := by decide +kernel
  have two : lineFeedsIn (twoLineOffice.violations.flatMap (·.strings)) = 2 := by decide +kernel
  have message := linesOf_message rejected
  rw [one, two] at message
  exact ⟨rejected, message⟩

/-- One violation, and four lines: the name stands in its line twice. -/
theorem Diagram.twoLineOffice_breaks_line : ¬twoLineOffice.Valid ∧ ∃ failure, twoLineOffice.check = .error failure ∧
    twoLineOffice.violations.length = 1 ∧ linesOf failure.message =
      ["diagram violates 1 constraint(s):", "  SchemaViolation: entity #0 `Sales",
        "Office`: name cannot be written as a DSL token (found `Sales", "Office`)"] := by
  have rejected : ¬twoLineOffice.Valid := by decide +kernel
  exact ⟨rejected, _, if_neg rejected, by decide +kernel, by decide +kernel⟩

end ErDiagram
