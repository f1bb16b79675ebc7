import ErDiagram.Reference

/-! The statement text of a diagram: a block of entities and a block of relationships, one statement on each line.
    Rendering spells references as their entities declare them and checks nothing. -/

namespace ErDiagram
open Vocabulary

/-- The header of an entity: its name, its kind unless it is strong, and these options. -/
def Entity.header (e : Entity) (options : List String) : List String :=
  e.name :: (if e.kind = .strong then [] else [token e.kind]) ++ options

/-- The statement of an entity, with these options in place of its own. -/
def Entity.statementWith (e : Entity) (options : List String) : String :=
  ".".intercalate (e.header options) ++
    if e.attributes = [] then "" else " " ++ ", ".intercalate (e.attributes.map (·.marked))

/-- The words of a relationship, from one of these ends to the other. A single line is not written. -/
def Relationship.header (r : Relationship) (source target : String) : List String :=
  [source, token r.towardSource, r.name, token r.towardTarget, target] ++
    if r.line = .double then [token r.line] else []

/-- The statement of a relationship, between these ends in place of its own. -/
def Relationship.statementBetween (r : Relationship) (source target : String) : String :=
  " ".intercalate (r.header source target) ++
    if r.attributes = [] then "" else " \x7b" ++ ", ".intercalate (r.attributes.map (·.name)) ++ "\x7d"

/-- The statement of an entity of the diagram. The first option of a subclass is a reference, and it is spelt as its
    entity declares it. -/
def Diagram.entityStatement (d : Diagram) (e : Entity) : String :=
  e.statementWith <|
    if e.kind = .subclass then (e.options.take 1).map d.canonicalName ++ e.options.drop 1 else e.options

/-- The statement of a relationship of the diagram. Both ends are references, spelt as their entities declare them. -/
def Diagram.relationshipStatement (d : Diagram) (r : Relationship) : String :=
  r.statementBetween (d.canonicalName r.source) (d.canonicalName r.target)

namespace Document

def indent : String := "    "

/-- A statement on a line of its own. -/
def statementLine (statement : String) : String := indent ++ statement ++ ";"

def entitiesHeader : String := "entities:"

def relationshipsHeader : String := "relationships:"

end Document
open Document

/-- The lines of the text. The editor expects the last one, which holds an indent and nothing else. -/
def Diagram.lines (d : Diagram) : List String :=
  entitiesHeader :: d.entities.map (fun e => statementLine (d.entityStatement e)) ++ "" :: relationshipsHeader ::
    d.relationships.map (fun r => statementLine (d.relationshipStatement r)) ++ [indent]

def Diagram.render (d : Diagram) : String := "\n".intercalate d.lines

end ErDiagram
