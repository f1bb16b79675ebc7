import ErDiagram.Diagram
import ErDiagram.Json.Basic
import ErDiagram.Json.Record

/-! How a diagram is written in JSON. Each record is an object; what has its default value is left out when it is
    written, and may be left out or null when it is read, apart from the lists of a diagram and the kind of a line,
    which are always written. -/

namespace ErDiagram
open Json Vocabulary

/-! ### Attributes -/

structure AttributeParts where
  name : Option String
  key : Option KeyKind

def AttributeParts.finish (parts : AttributeParts) : Except String Attribute := do
  return ⟨← requiredPart "name" parts.name, parts.key.getD .plain⟩

def Attribute.record : Record AttributeParts Attribute where
  name := "Attribute"
  fields := [
    .part "name" (·.name) (fun x p => { p with name := some x }) .string,
    .part "type" (·.key) (fun x p => { p with key := some x }) ((Reader.variant KeyKind).orNull .plain)]
  start := ⟨none, none⟩
  finish := AttributeParts.finish

def Attribute.reader : Reader Attribute := Attribute.record.reader

def Attribute.toJson (a : Attribute) : Json :=
  .object (("name", .string a.name) :: if a.key = .plain then [] else [("type", .string (token a.key))])

/-- The member for a list of attributes, unless it is empty. -/
def attributesMember (attributes : List Attribute) : List (String × Json) :=
  if attributes = [] then [] else [("attrs", .array (attributes.map Attribute.toJson))]

/-! ### Entities -/

structure EntityParts where
  name : Option String
  kind : Option EntityKind
  options : Option (List String)
  attributes : Option (List Attribute)

def EntityParts.finish (parts : EntityParts) : Except String Entity := do
  return ⟨← requiredPart "name" parts.name, ← requiredPart "type" parts.kind, parts.options.getD [],
    parts.attributes.getD []⟩

def Entity.record : Record EntityParts Entity where
  name := "Entity"
  fields := [
    .part "name" (·.name) (fun x p => { p with name := some x }) .string,
    .part "type" (·.kind) (fun x p => { p with kind := some x }) (.variant EntityKind),
    .part "options" (·.options) (fun x p => { p with options := some x }) (Reader.string.list.orNull []),
    .part "attrs" (·.attributes) (fun x p => { p with attributes := some x }) (Attribute.reader.list.orNull [])]
  start := ⟨none, none, none, none⟩
  finish := EntityParts.finish

def Entity.reader : Reader Entity := Entity.record.reader

def Entity.toJson (e : Entity) : Json :=
  .object ([("name", .string e.name), ("type", .string (token e.kind))] ++
    (if e.options = [] then [] else [("options", .array (e.options.map .string))]) ++ attributesMember e.attributes)

/-! ### Relationships -/

structure RelationshipParts where
  source : Option String
  towardSource : Option Cardinality
  name : Option String
  towardTarget : Option Cardinality
  target : Option String
  line : Option LineKind
  attributes : Option (List Attribute)

def RelationshipParts.finish (parts : RelationshipParts) : Except String Relationship := do
  return ⟨← requiredPart "entity_from" parts.source, ← requiredPart "cardinality_right_to_left" parts.towardSource,
    ← requiredPart "name" parts.name, ← requiredPart "cardinality_left_to_right" parts.towardTarget,
    ← requiredPart "entity_to" parts.target, parts.line.getD .single, parts.attributes.getD []⟩

def Relationship.record : Record RelationshipParts Relationship where
  name := "Relationship"
  fields := [
    .part "entity_from" (·.source) (fun x p => { p with source := some x }) .string,
    .part "cardinality_right_to_left" (·.towardSource) (fun x p => { p with towardSource := some x })
      (.variant Cardinality),
    .part "name" (·.name) (fun x p => { p with name := some x }) .string,
    .part "cardinality_left_to_right" (·.towardTarget) (fun x p => { p with towardTarget := some x })
      (.variant Cardinality),
    .part "entity_to" (·.target) (fun x p => { p with target := some x }) .string,
    .part "line_type" (·.line) (fun x p => { p with line := some x }) ((Reader.variant LineKind).orNull .single),
    .part "attrs" (·.attributes) (fun x p => { p with attributes := some x }) (Attribute.reader.list.orNull [])]
  start := ⟨none, none, none, none, none, none, none⟩
  finish := RelationshipParts.finish

def Relationship.reader : Reader Relationship := Relationship.record.reader

def Relationship.toJson (r : Relationship) : Json :=
  .object ([("entity_from", .string r.source), ("cardinality_right_to_left", .string (token r.towardSource)),
    ("name", .string r.name), ("cardinality_left_to_right", .string (token r.towardTarget)),
    ("entity_to", .string r.target), ("line_type", .string (token r.line))] ++ attributesMember r.attributes)

/-! ### Diagrams -/

structure DiagramParts where
  entities : Option (List Entity)
  relationships : Option (List Relationship)

def DiagramParts.finish (parts : DiagramParts) : Except String Diagram := do
  return ⟨← requiredPart "entities" parts.entities, parts.relationships.getD []⟩

def Diagram.record : Record DiagramParts Diagram where
  name := "Diagram"
  fields := [
    .part "entities" (·.entities) (fun x p => { p with entities := some x }) Entity.reader.list,
    .part "relationships" (·.relationships) (fun x p => { p with relationships := some x })
      (Relationship.reader.list.orNull [])]
  start := ⟨none, none⟩
  finish := DiagramParts.finish

def Diagram.reader : Reader Diagram := Diagram.record.reader

def Diagram.toJson (d : Diagram) : Json :=
  .object [("entities", .array (d.entities.map Entity.toJson)),
    ("relationships", .array (d.relationships.map Relationship.toJson))]

/-- The token of a value of a vocabulary, as a JSON string. -/
def Vocabulary.toJson {α : Type} [Vocabulary α] (a : α) : Json := .string (token a)

end ErDiagram
