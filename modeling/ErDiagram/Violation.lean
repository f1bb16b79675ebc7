/-! Violations: which rule a diagram breaks, where, and by which value. Their texts are fixed here. -/

namespace ErDiagram

/-- A part of a diagram: an entity, a relationship, or one of their attributes. The index is the place in the list that
    holds the part. -/
inductive Element where
  | entity (index : Nat) (name : String)
  | entityAttribute (owner : String) (index : Nat) (name : String)
  | relationship (index : Nat) (name : String)
  | relationshipAttribute (owner : String) (index : Nat) (name : String)
  deriving DecidableEq, Repr

inductive Rule where
  | duplicateEntityName
  | malformedName
  | optionCount
  | participation
  | disjointness
  | primaryKeyCount
  | partialKeyCount
  | unexpectedPrimaryKey
  | unexpectedPartialKey
  | missingDiscriminator
  | discriminatorShape
  | parentNotSuperclass
  | superclassAfterSubclass
  | weakOwnerCount
  | relationshipAttributeKey
  | unresolvedReference
  | ambiguousReference
  deriving DecidableEq, Repr

/-- The rules on references are a class of their own: without them a name means nothing, so no policy lets their
    violations pass. -/
inductive RuleClass where
  | schema
  | reference
  deriving DecidableEq, Repr

structure Violation where
  element : Element
  rule : Rule
  /-- The offending name, option or count. -/
  value : Option String
  deriving DecidableEq, Repr

def Rule.class : Rule → RuleClass
  | .unresolvedReference | .ambiguousReference => .reference
  | _ => .schema

def Violation.class (v : Violation) : RuleClass := v.rule.class

/-! ### Texts -/

def Element.text : Element → String
  | .entity index name => "entity #" ++ toString index ++ " `" ++ name ++ "`"
  | .entityAttribute owner index name =>
    "attribute #" ++ toString index ++ " `" ++ name ++ "` of entity `" ++ owner ++ "`"
  | .relationship index name => "relationship #" ++ toString index ++ " `" ++ name ++ "`"
  | .relationshipAttribute owner index name =>
    "attribute #" ++ toString index ++ " `" ++ name ++ "` of relationship `" ++ owner ++ "`"

def RuleClass.text : RuleClass → String
  | .schema => "SchemaViolation"
  | .reference => "AmbiguousReference"

def Rule.text : Rule → String
  | .duplicateEntityName => "entity name is already declared"
  | .malformedName => "name cannot be written as a DSL token"
  | .optionCount => "wrong number of header options for entity kind"
  | .participation => "participation must be `total` or `partial`"
  | .disjointness => "disjointness must be `disjoint` or `overlap`"
  | .primaryKeyCount => "entity needs exactly one primary key"
  | .partialKeyCount => "weak entity needs exactly one partial key"
  | .unexpectedPrimaryKey => "primary key not allowed on this entity kind"
  | .unexpectedPartialKey => "partial key only allowed on weak entities"
  | .missingDiscriminator => "superclass must end with a non-key discriminator"
  | .discriminatorShape => "discriminator must be multi-valued for overlap and plain for disjoint"
  | .parentNotSuperclass => "subclass parent is not a superclass"
  | .superclassAfterSubclass => "superclass must be declared before subclass"
  | .weakOwnerCount => "weak entity needs exactly one double relationship"
  | .relationshipAttributeKey => "relationship attributes carry no key role"
  | .unresolvedReference => "reference matches no entity"
  | .ambiguousReference => "reference matches more than one entity"

def Violation.text (v : Violation) : String :=
  v.class.text ++ ": " ++ v.element.text ++ ": " ++ v.rule.text ++
    match v.value with
    | some value => " (found `" ++ value ++ "`)"
    | none => ""

end ErDiagram
