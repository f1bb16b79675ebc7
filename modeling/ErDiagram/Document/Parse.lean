import ErDiagram.Document.Render
import ErDiagram.Document.Statement

/-! Reading a document. The text is first split into statements, which end at `;`, and then each statement is read. A
    position in the text is given by what is left of it from there: its line is found by counting line feeds. -/

namespace ErDiagram
open Character Document

/-! ### Splitting -/

namespace Document

/-- A statement, and the document from its `;` on. -/
structure Statement where
  text : List Char
  after : List Char

/-- The complete statements at the start, and what is left. A statement does not start with spacing and is not empty;
    where a colon ends it, it is the header of a block and is left. -/
def statements (s : List Char) : List Statement × List Char :=
  let start := skipSpacing s
  let text := start.takeWhile (!endsStatement ·)
  match _h : start.dropWhile (!endsStatement ·) with
  | ';' :: rest =>
    if text = [] then ([], s)
    else
      let (more, left) := statements rest
      (⟨text, ';' :: rest⟩ :: more, left)
  | _ => ([], s)
termination_by s.length
decreasing_by
  have shorter := length_skipSpacing_le s
  have left := (List.dropWhile_sublist (l := start) (!endsStatement ·)).length_le
  rw [_h, List.length_cons] at left
  simp only [start] at left
  omega

/-- A document that is split into its statements. -/
structure Blocks where
  entities : List Statement
  relationships : List Statement

/-- Splits a document; the block of relationships may be missing. A failure gives what was left. -/
def Blocks.split (document : List Char) : Except (List Char) Blocks :=
  let s := skipSpacing document
  match after? entitiesHeader.toList s with
  | none => .error s
  | some s =>
    let (entities, s) := statements s
    let s := skipSpacing s
    let (relationships, s) :=
      match after? relationshipsHeader.toList s with
      | some s => statements s
      | none => ([], s)
    match skipSpacing s with
    | [] => .ok ⟨entities, relationships⟩
    | s => .error s

/-! ### Errors -/

/-- The line on which the rest of the document starts. -/
def lineOf (document rest : List Char) : Nat := document.count '\n' - rest.count '\n' + 1

end Document

inductive StatementKind where
  | entity
  | relationship
  deriving DecidableEq, Repr

def StatementKind.text : StatementKind → String
  | .entity => "entity"
  | .relationship => "relationship"

/-- Why a text is no document. -/
inductive SyntaxFault where
  /-- The block of entities does not come first. -/
  | noEntities
  /-- The text goes on with something that is neither a statement nor a block. -/
  | unexpected (context : String)
  /-- A statement cannot be read, perhaps because of an unknown token. -/
  | malformed (kind : StatementKind) (statement : String) (unknown : Option UnknownToken)
  deriving DecidableEq, Repr

structure SyntaxError where
  line : Nat
  fault : SyntaxFault
  deriving DecidableEq, Repr

def SyntaxFault.text : SyntaxFault → String
  | .noEntities => "expected `entities:` block"
  | .unexpected context => "unexpected `" ++ context ++ "`"
  | .malformed kind statement none => "invalid " ++ kind.text ++ " `" ++ statement ++ "`"
  | .malformed kind statement (some unknown) =>
    unknown.message ++ " in " ++ kind.text ++ " `" ++ statement ++ "`"

def SyntaxError.message (e : SyntaxError) : String :=
  "syntax error on line " ++ toString e.line ++ ": " ++ e.fault.text

namespace Document

/-- The beginning of a line, for a message: at most forty characters. -/
def excerpt (s : List Char) : String :=
  let context := trim (s.takeWhile (· ≠ '\n'))
  if 40 < context.length then String.ofList (context.take 40) ++ "..." else String.ofList context

/-- The error of a document that does not split, by what was left of it. -/
def splitError (document rest : List Char) : SyntaxError :=
  ⟨lineOf document rest,
    if entitiesHeader.toList.isPrefixOf (trimStart document) then .unexpected (excerpt rest) else .noEntities⟩

/-- Reads one statement of a document. -/
def Statement.read {α : Type} (document : List Char) (kind : StatementKind)
    (read : List Char → Except Halt (α × List Char)) (s : Statement) : Except SyntaxError α :=
  match whole read s.text with
  | .ok a => .ok a
  | .error halt =>
    .error ⟨lineOf document (halt.rest ++ s.after),
      .malformed kind (String.ofList (trimEnd s.text)) halt.unknown⟩

/-- The first entity of each name. -/
def distinct : List Entity → List Entity
  | [] => []
  | e :: others => e :: (distinct others).filter fun other => !sameName e.name other.name

end Document

/-- Reads a document. An entity whose name is taken is read and then left out. -/
def Diagram.parse (text : String) : Except SyntaxError Diagram := do
  let document := text.toList
  let blocks ← (Blocks.split document).mapError (splitError document)
  let entities ← blocks.entities.mapM (Statement.read document .entity Entity.read)
  let relationships ← blocks.relationships.mapM (Statement.read document .relationship Relationship.read)
  return ⟨distinct entities, relationships⟩

end ErDiagram
