import ErDiagram.Kind
import ErDiagram.Name

/-! Entity-relationship diagrams: entities with attributes, and relationships between two of them. Both lists are in
    the order in which they were given, which every written form keeps. -/

namespace ErDiagram

/-- An attribute. A multi-valued one carries its list of values in its name, as in `phone(home?, work?)`. -/
structure Attribute where
  name : String
  key : KeyKind
  deriving DecidableEq, Repr

/-- An entity. Its options are what the header states beside the kind. -/
structure Entity where
  name : String
  kind : EntityKind
  options : List String
  attributes : List Attribute
  deriving DecidableEq, Repr

/-- A relationship from `source` to `target`. Each cardinality stands on the line beside the name, `towardSource` on
    the side of the source. -/
structure Relationship where
  source : String
  towardSource : Cardinality
  name : String
  towardTarget : Cardinality
  target : String
  line : LineKind
  attributes : List Attribute
  deriving DecidableEq, Repr

structure Diagram where
  entities : List Entity
  relationships : List Relationship
  deriving DecidableEq, Repr

def Diagram.empty : Diagram := ⟨[], []⟩

/-- The entity with these options in place of its own. -/
def Entity.withOptions (e : Entity) (options : List String) : Entity := { e with options := options }

/-- The entity with these attributes in place of its own. -/
def Entity.withAttributes (e : Entity) (attributes : List Attribute) : Entity := { e with attributes := attributes }

/-- The relationship with a double line. -/
def Relationship.double (r : Relationship) : Relationship := { r with line := .double }

/-- The name ends in a list of values: the first parenthesis opens after some character, and the last character
    closes. -/
def Attribute.isMultiValued (a : Attribute) : Bool :=
  match a.name.toList with
  | [] => false
  | first :: rest => first ≠ '(' && rest.contains '(' && (first :: rest).getLast? == some ')'

/-- The attribute as a statement writes it. -/
def Attribute.marked (a : Attribute) : String := a.key.mark ++ a.name

/-- The name begins as a key's does, so that without a role it would read as one. -/
def Attribute.readsAsKey (a : Attribute) : Bool :=
  KeyKind.primary.mark.toList.isPrefixOf a.name.toList || KeyKind.partialKey.mark.toList.isPrefixOf a.name.toList

/-- The attributes with a role, each with its place in the list. -/
def Entity.keyed (e : Entity) (key : KeyKind) : List (Attribute × Nat) :=
  e.attributes.zipIdx.filter fun (a, _) => a.key = key

/-- The superclass that a subclass names: its first option. -/
def Entity.parent? (e : Entity) : Option String :=
  if e.kind = .subclass then e.options.head? else none

/-- The attribute whose values tell the subclasses of a superclass apart: the last one, unless it is a key. -/
def Entity.discriminator? (e : Entity) : Option Attribute := e.attributes.getLast?.filter (·.key = .plain)

end ErDiagram
