import ErDiagram.Proofs.DistinctNames
import ErDiagram.Proofs.Word

/-! Outlines of documents. An outline lists the statements of the two blocks with all the spacing around them, so it
    says how a document is put together and not how it is scanned. The scanner takes as many statements as it can;
    a block is over only where no statement can start, and this fixes where each part ends. So a text has at most
    one outline, and it is split exactly when it has one. -/

namespace ErDiagram
open Character

namespace Document

/-! ### Parts of a document -/

/-- The text of a statement, without the `;` at its end. -/
structure IsStatementText (t : List Char) : Prop where
  ne_nil : t ≠ []
  start : StartsOutside isSpacing t
  quiet : ∀ c ∈ t, endsStatement c = false

/-- A statement and the spacing before it. -/
@[ext] structure PlacedStatement where
  space : List Char
  text : List Char
  spacing : ∀ c ∈ space, isSpacing c = true
  statement : IsStatementText text

def PlacedStatement.written (p : PlacedStatement) : List Char := p.space ++ (p.text ++ [';'])

/-- What follows the header of a block: statements, and spacing after the last of them. -/
structure Block where
  statements : List PlacedStatement
  space : List Char
  spacing : ∀ c ∈ space, isSpacing c = true

def Block.written (b : Block) : List Char := b.statements.flatMap PlacedStatement.written ++ b.space

def Block.texts (b : Block) : List (List Char) := b.statements.map PlacedStatement.text

/-- The parts of a document, whose second block may be missing. -/
structure Outline where
  space : List Char
  spacing : ∀ c ∈ space, isSpacing c = true
  entities : Block
  relationships : Option Block

/-- The second block with its header, or nothing. -/
def writtenRelationships : Option Block → List Char
  | some b => relationshipsHeader.toList ++ b.written
  | none => []

def Outline.written (x : Outline) : List Char :=
  x.space ++ (entitiesHeader.toList ++ (x.entities.written ++ writtenRelationships x.relationships))

def Outline.relationshipTexts (x : Outline) : List (List Char) := (x.relationships.map Block.texts).getD []

/-- The statements as the scanner gives them, each with what follows it in the document. -/
def scanned : List PlacedStatement → List Char → List Statement
  | [], _ => []
  | p :: others, rest => ⟨p.text, ';' :: (others.flatMap PlacedStatement.written ++ rest)⟩ :: scanned others rest

/-- What a document of this outline is split into. -/
def Outline.blocks (x : Outline) : Blocks where
  entities := scanned x.entities.statements (x.entities.space ++ writtenRelationships x.relationships)
  relationships := (x.relationships.map fun b => scanned b.statements b.space).getD []

/-- Every statement of the outline can be read, and the diagram has what they say: the first entity of each name
    and all relationships. -/
def Outline.Denotes (x : Outline) (d : Diagram) : Prop :=
  ∃ entities, List.Forall₂ (fun text e => whole Entity.read text = .ok e) x.entities.texts entities ∧
    d.entities = firstOfName entities ∧
    List.Forall₂ (fun text r => whole Relationship.read text = .ok r) x.relationshipTexts d.relationships

/-! ### Ends of blocks -/

/-- No statement starts here, not even after spacing. -/
structure EndsBlock (s : List Char) : Prop where
  start : StartsOutside isSpacing s
  no_statement : ∀ {t more : List Char}, IsStatementText t → s ≠ t ++ ';' :: more

section
variable {s t rest more : List Char}

theorem not_endsStatement (h : IsStatementText t) : ∀ c ∈ t, (!endsStatement c) = true := fun c hc => by
  rw [h.quiet c hc]
  rfl

/-- The `;` after a statement is the first character that ends one. -/
theorem startsOutside_semicolon : StartsOutside (!endsStatement ·) (';' :: more) := startsOutside_cons.mpr rfl

/-- The first header starts with a letter, so the spacing before it ends there. -/
theorem startsOutside_entitiesHeader (s : List Char) : StartsOutside isSpacing (entitiesHeader.toList ++ s) :=
  startsOutside_cons.mpr (by decide)

theorem endsBlock_nil : EndsBlock [] := ⟨startsOutside_nil, fun _ h => by simp at h⟩

/-- The header of the second block is no statement, since a colon ends it. -/
theorem endsBlock_header (s : List Char) : EndsBlock (relationshipsHeader.toList ++ s) := by
  refine ⟨startsOutside_cons.mpr (by decide), fun {t more} text whole => ?_⟩
  have header : relationshipsHeader.toList ++ s = "relationships".toList ++ ':' :: s := rfl
  rw [header] at whole
  have word : ∀ c ∈ "relationships".toList, (!endsStatement c) = true := List.all_eq_true.mp (by decide)
  have colon : StartsOutside (!endsStatement ·) (':' :: s) := startsOutside_cons.mpr rfl
  obtain ⟨-, after⟩ := run_unique whole word colon (not_endsStatement text) startsOutside_semicolon
  cases after

theorem endsBlock_relationships (b : Option Block) : EndsBlock (writtenRelationships b) := by
  cases b with
  | none => exact endsBlock_nil
  | some b => exact endsBlock_header b.written

end

/-! ### One outline for a text -/

section
variable {b c : Block} {rest rest' : List Char}

theorem PlacedStatement.unique {p q : PlacedStatement} (h : p.written ++ rest = q.written ++ rest') :
    p = q ∧ rest = rest' := by
  simp only [written, List.append_assoc, List.singleton_append] at h
  obtain ⟨space, h⟩ := run_unique h p.spacing (startsOutside_append p.statement.start p.statement.ne_nil) q.spacing
    (startsOutside_append q.statement.start q.statement.ne_nil)
  obtain ⟨text, after⟩ := run_unique h (not_endsStatement p.statement) startsOutside_semicolon
    (not_endsStatement q.statement) startsOutside_semicolon
  exact ⟨PlacedStatement.ext space text, (List.cons.inj after).2⟩

/-- Spacing up to the end of a block does not hold a further statement. -/
theorem space_ne_statement {space more : List Char} (spacing : ∀ c ∈ space, isSpacing c = true) (h : EndsBlock rest)
    (p : PlacedStatement) : space ++ rest ≠ p.written ++ more := by
  intro whole
  simp only [PlacedStatement.written, List.append_assoc, List.singleton_append] at whole
  obtain ⟨-, whole⟩ := run_unique whole spacing h.start p.spacing
    (startsOutside_append p.statement.start p.statement.ne_nil)
  exact h.no_statement p.statement whole

theorem statements_unique {ps qs : List PlacedStatement} {space space' : List Char}
    (spacing : ∀ c ∈ space, isSpacing c = true) (spacing' : ∀ c ∈ space', isSpacing c = true)
    (hs : EndsBlock rest) (ht : EndsBlock rest')
    (h : ps.flatMap PlacedStatement.written ++ (space ++ rest) =
      qs.flatMap PlacedStatement.written ++ (space' ++ rest')) :
    ps = qs ∧ space = space' ∧ rest = rest' := by
  induction ps generalizing qs with
  | nil =>
    cases qs with
    | nil => exact ⟨rfl, run_unique h spacing hs.start spacing' ht.start⟩
    | cons q qs =>
      rw [List.flatMap_cons, List.append_assoc] at h
      exact absurd h (space_ne_statement spacing hs q)
  | cons p ps ih =>
    rw [List.flatMap_cons, List.append_assoc] at h
    cases qs with
    | nil => exact absurd h.symm (space_ne_statement spacing' ht p)
    | cons q qs =>
      rw [List.flatMap_cons, List.append_assoc] at h
      obtain ⟨rfl, others⟩ := PlacedStatement.unique h
      obtain ⟨rfl, ends⟩ := ih others
      exact ⟨rfl, ends⟩

theorem Block.unique (hb : EndsBlock rest) (hc : EndsBlock rest') (h : b.written ++ rest = c.written ++ rest') :
    b = c ∧ rest = rest' := by
  obtain ⟨ps, space, spacing⟩ := b
  obtain ⟨qs, space', spacing'⟩ := c
  simp only [written, List.append_assoc] at h
  obtain ⟨rfl, rfl, rfl⟩ := statements_unique spacing spacing' hb hc h
  exact ⟨rfl, rfl⟩

theorem writtenRelationships_injective : Function.Injective writtenRelationships := by
  intro b c h
  cases b with
  | none =>
    cases c with
    | none => rfl
    | some c => cases h
  | some b =>
    cases c with
    | none => cases h
    | some c =>
      have body := List.append_cancel_left h
      rw [← List.append_nil b.written, ← List.append_nil c.written] at body
      rw [(Block.unique endsBlock_nil endsBlock_nil body).1]

theorem Outline.written_injective : Function.Injective Outline.written := by
  rintro ⟨space, spacing, entities, relationships⟩ ⟨space', spacing', entities', relationships'⟩ h
  simp only [written] at h
  obtain ⟨rfl, body⟩ := run_unique h spacing (startsOutside_entitiesHeader _) spacing' (startsOutside_entitiesHeader _)
  obtain ⟨rfl, second⟩ := Block.unique (endsBlock_relationships _) (endsBlock_relationships _)
    (List.append_cancel_left body)
  obtain rfl := writtenRelationships_injective second
  rfl

end

/-! ### Splitting -/

section
variable {s t rest : List Char}

/-- Up to the first character that ends a statement there is a statement, unless there is nothing. -/
theorem isStatementText_takeWhile (ne : (skipSpacing s).takeWhile (!endsStatement ·) ≠ []) :
    IsStatementText ((skipSpacing s).takeWhile (!endsStatement ·)) := by
  refine ⟨ne, ?_, fun c hc => by simpa using of_mem_takeWhile hc⟩
  have start := startsOutside_skipSpacing s
  rw [← List.takeWhile_append_dropWhile (l := skipSpacing s) (p := (!endsStatement ·))] at start
  exact start.of_append

/-- Where the scanner finds no statement the block is over. -/
theorem endsBlock_skipSpacing
    (none : ∀ more, (skipSpacing s).dropWhile (!endsStatement ·) = ';' :: more →
      (skipSpacing s).takeWhile (!endsStatement ·) = []) : EndsBlock (skipSpacing s) := by
  refine ⟨startsOutside_skipSpacing s, fun {t more} text whole => text.ne_nil ?_⟩
  rw [whole, dropWhile_append_of_startsOutside (not_endsStatement text) startsOutside_semicolon,
    takeWhile_append_of_startsOutside (not_endsStatement text) startsOutside_semicolon] at none
  exact none more rfl

/-- What the scanner takes is a block, and it stops where that is over. -/
theorem exists_block (s : List Char) : ∃ (b : Block) (rest : List Char), s = b.written ++ rest ∧ EndsBlock rest ∧
    (statements s).1 = scanned b.statements (b.space ++ rest) ∧ skipSpacing (statements s).2 = rest := by
  fun_induction statements s with
  | case1 s start text rest after none =>
    obtain ⟨space, split, spacing⟩ := exists_spacing_append_skipSpacing s
    exact ⟨⟨[], space, spacing⟩, skipSpacing s, split, endsBlock_skipSpacing fun _ _ => none, rfl, rfl⟩
  | case2 s start text rest after ne more left taken ih =>
    rw [taken] at ih
    obtain ⟨b, last, whole, ends, taken, stop⟩ := ih
    obtain ⟨space, split, spacing⟩ := exists_spacing_append_skipSpacing s
    have cut : skipSpacing s = text ++ ';' :: rest := by
      rw [← after]
      exact List.takeWhile_append_dropWhile.symm
    let p : PlacedStatement := ⟨space, text, spacing, isStatementText_takeWhile ne⟩
    refine ⟨⟨p :: b.statements, b.space, b.spacing⟩, last, ?_, ends, ?_, stop⟩
    · rw [split, cut, whole]
      simp only [Block.written, PlacedStatement.written, List.flatMap_cons, List.append_assoc, List.cons_append,
        List.nil_append, p]
    · rw [scanned, ← taken, ← List.append_assoc, ← Block.written, ← whole]
  | case3 s start other =>
    obtain ⟨space, split, spacing⟩ := exists_spacing_append_skipSpacing s
    exact ⟨⟨[], space, spacing⟩, skipSpacing s, split, endsBlock_skipSpacing fun more h => absurd h (other more),
      rfl, rfl⟩

/-- A block is taken as a whole where it is over. -/
theorem statements_written (b : Block) (h : EndsBlock rest) :
    (statements (b.written ++ rest)).1 = scanned b.statements (b.space ++ rest) ∧
      skipSpacing (statements (b.written ++ rest)).2 = rest := by
  obtain ⟨c, last, whole, ends, taken, stop⟩ := exists_block (b.written ++ rest)
  obtain ⟨rfl, rfl⟩ := Block.unique h ends whole
  exact ⟨taken, stop⟩

theorem map_text_scanned (ps : List PlacedStatement) (rest : List Char) :
    (scanned ps rest).map Statement.text = ps.map PlacedStatement.text := by
  induction ps with
  | nil => rfl
  | cons p ps ih => rw [scanned, List.map_cons, List.map_cons, ih]

theorem Outline.map_text_entities (x : Outline) : x.blocks.entities.map Statement.text = x.entities.texts :=
  map_text_scanned _ _

theorem Outline.map_text_relationships (x : Outline) :
    x.blocks.relationships.map Statement.text = x.relationshipTexts := by
  rw [blocks, relationshipTexts]
  cases x.relationships with
  | none => rfl
  | some b => exact map_text_scanned _ _

theorem after?_eq_some_iff {start : List Char} : after? start s = some rest ↔ s = start ++ rest := by
  rw [after?]
  constructor
  · intro h
    split at h
    · next starts =>
      obtain ⟨more, rfl⟩ := List.isPrefixOf_iff_prefix.mp starts
      rw [List.drop_left] at h
      rw [Option.some.inj h]
    · cases h
  · rintro rfl
    rw [if_pos (List.isPrefixOf_iff_prefix.mpr (List.prefix_append _ _)), List.drop_left]

theorem after?_eq_none_iff {start : List Char} : after? start s = none ↔ ¬start <+: s := by
  rw [after?, ← List.isPrefixOf_iff_prefix]
  split
  · next starts => simp [starts]
  · next other => simp [other]

/-- All that splitting can do. Either the header of the entities does not come first; or the document begins with an
    outline that does not go on, and splitting succeeds where nothing is left. -/
theorem split_cases (document : List Char) :
    (∃ space rest, document = space ++ rest ∧ (∀ c ∈ space, isSpacing c = true) ∧ StartsOutside isSpacing rest ∧
        ¬entitiesHeader.toList <+: rest ∧ Blocks.split document = .error rest) ∨
      ∃ (x : Outline) (rest : List Char), document = x.written ++ rest ∧ EndsBlock rest ∧
        (x.relationships = none → ¬relationshipsHeader.toList <+: rest) ∧
        ((rest = [] ∧ Blocks.split document = .ok x.blocks) ∨ (rest ≠ [] ∧ Blocks.split document = .error rest)) := by
  obtain ⟨space, start, spacing⟩ := exists_spacing_append_skipSpacing document
  rw [Blocks.split]
  cases header : after? entitiesHeader.toList (skipSpacing document) with
  | none =>
    exact Or.inl ⟨space, _, start, spacing, startsOutside_skipSpacing document, after?_eq_none_iff.mp header, rfl⟩
  | some body =>
    obtain ⟨b, tail, first, ends, taken, stop⟩ := exists_block body
    rw [after?_eq_some_iff.mp header, first] at start
    simp only [stop, taken]
    cases next : after? relationshipsHeader.toList tail with
    | none =>
      refine Or.inr ⟨⟨space, spacing, b, none⟩, tail, ?_, ends, fun _ => after?_eq_none_iff.mp next, ?_⟩
      · simp only [start, Outline.written, writtenRelationships, List.append_nil, List.append_assoc]
      · simp only [skipSpacing_eq_self ends.start]
        cases tail with
        | nil => exact Or.inl ⟨rfl, rfl⟩
        | cons c tail => exact Or.inr ⟨List.cons_ne_nil _ _, rfl⟩
    | some more =>
      obtain ⟨c, last, second, ends, others, stop⟩ := exists_block more
      rw [after?_eq_some_iff.mp next, second] at start
      refine Or.inr ⟨⟨space, spacing, b, some c⟩, last, ?_, ends, fun none => absurd none (Option.some_ne_none c), ?_⟩
      · simp only [start, Outline.written, writtenRelationships, List.append_assoc]
      · simp only [stop, others]
        rw [after?_eq_some_iff.mp next, second]
        cases last with
        | nil =>
          rw [List.append_nil, List.append_nil]
          exact Or.inl ⟨rfl, rfl⟩
        | cons d last => exact Or.inr ⟨List.cons_ne_nil _ _, rfl⟩

theorem exists_outline_of_split {document : List Char} {blocks : Blocks} (h : Blocks.split document = .ok blocks) :
    ∃ x : Outline, document = x.written ∧ blocks = x.blocks := by
  rcases split_cases document with ⟨_, _, -, -, -, -, failed⟩ | ⟨x, _, cut, -, -, ⟨rfl, split⟩ | ⟨-, failed⟩⟩
  · rw [failed] at h
    cases h
  · rw [split] at h
    rw [List.append_nil] at cut
    exact ⟨x, cut, (Except.ok.inj h).symm⟩
  · rw [failed] at h
    cases h

theorem Outline.split_written (x : Outline) : Blocks.split x.written = .ok x.blocks := by
  obtain ⟨space, spacing, b, second⟩ := x
  obtain ⟨taken, stop⟩ := statements_written b (endsBlock_relationships second)
  rw [Outline.written, Blocks.split]
  simp only [skipSpacing_append spacing (startsOutside_entitiesHeader _), after?_eq_some_iff.mpr rfl, stop, taken]
  cases second with
  | none => rfl
  | some c =>
    obtain ⟨others, last⟩ := statements_written c endsBlock_nil
    rw [List.append_nil] at others last
    rw [writtenRelationships]
    simp only [after?_eq_some_iff.mpr rfl, last, others]
    rw [List.append_nil]
    rfl

end

/-! ### Reading -/

theorem Statement.read_eq_ok_iff {α : Type} {document : List Char} {kind : StatementKind}
    {read : List Char → Except Halt (α × List Char)} {s : Statement} {a : α} :
    s.read document kind read = .ok a ↔ whole read s.text = .ok a := by
  rw [Statement.read]
  split
  · next b result => simp [result]
  · next halt result => simp [result]

/-- The line of the error is the one on which the reader halted. -/
theorem Statement.read_eq_error_iff {α : Type} {document : List Char} {kind : StatementKind}
    {read : List Char → Except Halt (α × List Char)} {s : Statement} {e : SyntaxError} :
    s.read document kind read = .error e ↔
      ∃ halt, whole read s.text = .error halt ∧ e = ⟨lineOf document (halt.rest ++ s.after),
        .malformed kind (String.ofList (trimEnd s.text)) halt.unknown⟩ := by
  rw [Statement.read]
  split
  · next result => simp [result]
  · next halt result => simp [result, eq_comm]

theorem mapM_read_eq_ok_iff {α : Type} {document : List Char} {kind : StatementKind}
    {read : List Char → Except Halt (α × List Char)} {ss : List Statement} {values : List α} :
    ss.mapM (Statement.read document kind read) = .ok values ↔
      List.Forall₂ (fun t a => whole read t = .ok a) (ss.map Statement.text) values := by
  simp only [mapM_eq_ok_iff, List.forall₂_map_left_iff, Statement.read_eq_ok_iff]

theorem mapError_split_eq_ok_iff {document : List Char} {blocks : Blocks} :
    (Blocks.split document).mapError (splitError document) = .ok blocks ↔ Blocks.split document = .ok blocks := by
  cases Blocks.split document with
  | error rest => simp [Except.mapError]
  | ok found => simp [Except.mapError]

end Document
open Document

/-- A document is read as what its outline denotes. -/
theorem Diagram.parse_eq_ok_iff {text : String} {d : Diagram} :
    Diagram.parse text = .ok d ↔ ∃ x : Outline, text.toList = x.written ∧ x.Denotes d := by
  simp only [Diagram.parse, bind_eq_ok_iff, mapM_read_eq_ok_iff, mapError_split_eq_ok_iff]
  constructor
  · rintro ⟨blocks, split, entities, read, relationships, others, result⟩
    cases result
    obtain ⟨x, whole, rfl⟩ := exists_outline_of_split split
    rw [x.map_text_entities] at read
    rw [x.map_text_relationships] at others
    exact ⟨x, whole, entities, read, distinct_eq_firstOfName entities, others⟩
  · rintro ⟨x, whole, entities, read, first, others⟩
    rw [← x.map_text_entities] at read
    rw [← x.map_text_relationships] at others
    refine ⟨x.blocks, whole ▸ x.split_written, entities, read, d.relationships, others, ?_⟩
    rw [distinct_eq_firstOfName, ← first]
    rfl

/-- Reading accepts exactly the texts that have an outline whose statements can all be read, and gives the diagram
    that the outline denotes. No text has two outlines. -/
theorem Diagram.parse_eq_ok_iff_unique_outline :
    (∀ (text : String) (d : Diagram),
        Diagram.parse text = .ok d ↔ ∃ x : Outline, text.toList = x.written ∧ x.Denotes d) ∧
      Function.Injective Outline.written :=
  ⟨fun _ _ => Diagram.parse_eq_ok_iff, Outline.written_injective⟩

end ErDiagram
