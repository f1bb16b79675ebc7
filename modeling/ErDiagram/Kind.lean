import ErDiagram.Vocabulary

/-! The four closed sets of a diagram: kinds of entities, roles of attributes as keys, cardinalities and kinds of
    lines. Their tokens are the same in both written forms. -/

namespace ErDiagram

inductive EntityKind where
  | strong
  | weak
  | associative
  | superclass
  | subclass
  deriving DecidableEq, Repr

/-- The role of an attribute as a key: none, the primary key of its entity, or the partial key that tells apart the
    weak entities of one owner. -/
inductive KeyKind where
  | plain
  | primary
  | partialKey
  deriving DecidableEq, Repr

/-- How many of one entity stand to one of the other: the least and the greatest number. -/
inductive Cardinality where
  | exactlyOne
  | zeroOrOne
  | zeroOrMany
  | oneOrMany
  deriving DecidableEq, Repr

/-- A double line marks the relationship that identifies a weak entity through its owner. -/
inductive LineKind where
  | single
  | double
  deriving DecidableEq, Repr

instance : Vocabulary EntityKind where
  subject := "entity kind"
  values := [.strong, .weak, .associative, .superclass, .subclass]
  token
    | .strong => "strong"
    | .weak => "weak"
    | .associative => "assoc"
    | .superclass => "super"
    | .subclass => "sub"
  complete a := by cases a <;> simp
  token_injective {a b} := by cases a <;> cases b <;> simp

instance : Vocabulary KeyKind where
  subject := "key kind"
  values := [.plain, .primary, .partialKey]
  token
    | .plain => "none"
    | .primary => "primary"
    | .partialKey => "partial"
  complete a := by cases a <;> simp
  token_injective {a b} := by cases a <;> cases b <;> simp

instance : Vocabulary Cardinality where
  subject := "cardinality"
  values := [.exactlyOne, .zeroOrOne, .zeroOrMany, .oneOrMany]
  token
    | .exactlyOne => "11"
    | .zeroOrOne => "01"
    | .zeroOrMany => "0m"
    | .oneOrMany => "1m"
  complete a := by cases a <;> simp
  token_injective {a b} := by cases a <;> cases b <;> simp

instance : Vocabulary LineKind where
  subject := "line kind"
  values := [.single, .double]
  token
    | .single => "single"
    | .double => "double"
  complete a := by cases a <;> simp
  token_injective {a b} := by cases a <;> cases b <;> simp

/-- How many options the header of an entity has: participation and disjointness for a superclass, the parent for a
    subclass. -/
def EntityKind.optionCount : EntityKind → Nat
  | .superclass => 2
  | .subclass => 1
  | _ => 0

/-- The kinds with one primary key of their own. -/
def EntityKind.hasPrimaryKey : EntityKind → Bool
  | .strong | .superclass => true
  | _ => false

/-- The kind with one partial key. -/
def EntityKind.hasPartialKey : EntityKind → Bool
  | .weak => true
  | _ => false

/-- What marks the name of an attribute with the role in a statement. -/
def KeyKind.mark : KeyKind → String
  | .plain => ""
  | .primary => "u."
  | .partialKey => "du."

end ErDiagram
