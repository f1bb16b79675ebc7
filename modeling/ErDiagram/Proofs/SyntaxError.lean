import ErDiagram.Proofs.Halt
import ErDiagram.Proofs.Splitting

/-! Errors of documents. Where a text has an outline, its error is the one of the first statement, in the order of the
    document, that its reader rejects. Where it has none, the error is where splitting stopped: at the place of the
    first header, or after the longest beginning of the text that has an outline. -/

namespace ErDiagram
open Character Document

/-! ### Statements that are accepted -/

/-- What the reader of a kind of statements says of a text, whatever it reads there. -/
def StatementKind.check (kind : StatementKind) (text : List Char) : Except Halt Unit :=
  match kind with
  | .entity => (whole Entity.read text).map fun _ => ()
  | .relationship => (whole Relationship.read text).map fun _ => ()

/-- The reader is the one of this kind of statements. -/
structure StatementKind.ReadBy {α : Type} (kind : StatementKind) (read : List Char → Except Halt (α × List Char)) :
    Prop where
  check : ∀ t, kind.check t = (whole read t).map fun _ => ()
  leaves : ∀ t, Leaves Prod.snd t (read t)

theorem readBy_entity : StatementKind.entity.ReadBy Entity.read := ⟨fun _ => rfl, Entity.leaves_read⟩

theorem readBy_relationship : StatementKind.relationship.ReadBy Relationship.read :=
  ⟨fun _ => rfl, Relationship.leaves_read⟩

section
variable {α : Type} {kind : StatementKind} {read : List Char → Except Halt (α × List Char)} {t : List Char}

theorem StatementKind.ReadBy.check_of_ok (reads : kind.ReadBy read) {a : α} (h : whole read t = .ok a) :
    kind.check t = .ok () := by
  rw [reads.check, h]
  rfl

theorem StatementKind.ReadBy.check_of_error (reads : kind.ReadBy read) {halt : Halt} (h : whole read t = .error halt) :
    kind.check t = .error halt := by
  rw [reads.check, h]
  rfl

end

namespace Document

/-! ### Lines -/

/-- The line of the character after this beginning of a document. -/
def lineAfter (front : List Char) : Nat := front.count '\n' + 1

section
variable {front back : List Char}

theorem lineOf_append (front rest : List Char) : lineOf (front ++ rest) rest = lineAfter front := by
  rw [lineOf, List.count_append, Nat.add_sub_cancel, lineAfter]

theorem lineAfter_le (h : front <+: back) : lineAfter front ≤ lineAfter back :=
  Nat.succ_le_succ (h.sublist.count_le _)

end

/-! ### Statements in their places -/

/-- A statement of a document, with all that stands before it and all that follows its `;`. -/
structure Located where
  kind : StatementKind
  front : List Char
  text : List Char
  back : List Char

/-- The document that the statement stands in. -/
def Located.document (l : Located) : List Char := l.front ++ (l.text ++ ';' :: l.back)

theorem Located.prefix_document (l : Located) : l.front ++ l.text <+: l.document := by
  rw [document, ← List.append_assoc]
  exact List.prefix_append _ _

/-- The statement as the scanner gives it. -/
def Located.statement (l : Located) : Statement := ⟨l.text, ';' :: l.back⟩

/-- The statements of a block in their places, by what stands before and after them all. -/
def locate (kind : StatementKind) (front : List Char) : List PlacedStatement → List Char → List Located
  | [], _ => []
  | p :: others, rest =>
    ⟨kind, front ++ p.space, p.text, others.flatMap PlacedStatement.written ++ rest⟩ ::
      locate kind (front ++ p.written) others rest

def Outline.locatedEntities (x : Outline) : List Located :=
  locate .entity (x.space ++ entitiesHeader.toList) x.entities.statements
    (x.entities.space ++ writtenRelationships x.relationships)

def Outline.locatedRelationships (x : Outline) : List Located :=
  match x.relationships with
  | none => []
  | some b =>
    locate .relationship (x.space ++ (entitiesHeader.toList ++ (x.entities.written ++ relationshipsHeader.toList)))
      b.statements b.space

/-- All statements in the order of the document, repeated entities among them. -/
def Outline.located (x : Outline) : List Located := x.locatedEntities ++ x.locatedRelationships

section
variable {kind : StatementKind} {front rest : List Char} {ps : List PlacedStatement} {x : Outline} {l : Located}

theorem map_statement_locate (kind : StatementKind) (front rest : List Char) (ps : List PlacedStatement) :
    (locate kind front ps rest).map Located.statement = scanned ps rest := by
  induction ps generalizing front with
  | nil => rfl
  | cons p ps ih => rw [locate, List.map_cons, ih, scanned, Located.statement]

theorem of_mem_locate (h : l ∈ locate kind front ps rest) :
    l.kind = kind ∧ l.document = front ++ (ps.flatMap PlacedStatement.written ++ rest) := by
  induction ps generalizing front with
  | nil => cases h
  | cons p ps ih =>
    rw [List.flatMap_cons]
    rcases List.mem_cons.mp h with rfl | later
    · refine ⟨rfl, ?_⟩
      simp only [Located.document, PlacedStatement.written, List.append_assoc, List.cons_append, List.nil_append]
    · obtain ⟨same, document⟩ := ih later
      refine ⟨same, ?_⟩
      rw [document, List.append_assoc, List.append_assoc]

theorem Outline.map_statement_locatedEntities (x : Outline) :
    x.locatedEntities.map Located.statement = x.blocks.entities :=
  map_statement_locate _ _ _ _

theorem Outline.map_statement_locatedRelationships (x : Outline) :
    x.locatedRelationships.map Located.statement = x.blocks.relationships := by
  rw [locatedRelationships, blocks]
  cases x.relationships with
  | none => rfl
  | some b => exact map_statement_locate _ _ _ _

theorem Outline.of_mem_locatedEntities (h : l ∈ x.locatedEntities) : l.kind = .entity ∧ l.document = x.written := by
  obtain ⟨kind, document⟩ := of_mem_locate h
  refine ⟨kind, ?_⟩
  simp only [document, written, Block.written, List.append_assoc]

theorem Outline.of_mem_locatedRelationships (h : l ∈ x.locatedRelationships) :
    l.kind = .relationship ∧ l.document = x.written := by
  rw [locatedRelationships] at h
  cases second : x.relationships with
  | none => simp [second] at h
  | some b =>
    rw [second] at h
    obtain ⟨kind, document⟩ := of_mem_locate h
    refine ⟨kind, ?_⟩
    simp only [document, written, second, writtenRelationships, Block.written, List.append_assoc]

end

/-! ### The first statement that is rejected -/

/-- The error of a statement. Its reader halts, and the error is on the line where it halts: not before the line of the
    statement's first character, nor after the one of its `;`. The message quotes the statement without the blanks at
    its end. -/
structure Located.Reports (l : Located) (e : SyntaxError) : Prop where
  halts : ∃ halt taken, l.kind.check l.text = .error halt ∧ l.text = taken ++ halt.rest ∧
    e = ⟨lineAfter (l.front ++ taken), .malformed l.kind (String.ofList (trimEnd l.text)) halt.unknown⟩
  start : lineAfter l.front ≤ e.line
  stop : e.line ≤ lineAfter (l.front ++ l.text)
  quotes : ∃ beginning, e.message = beginning ++ " `" ++ String.ofList (trimEnd l.text) ++ "`"

theorem append_quoted (front reason statement : String) :
    front ++ (reason ++ " `" ++ statement ++ "`") = front ++ reason ++ " `" ++ statement ++ "`" := by
  rw [← String.append_assoc, ← String.append_assoc, ← String.append_assoc]

theorem exists_message_malformed (line : Nat) (kind : StatementKind) (statement : String)
    (unknown : Option UnknownToken) : ∃ beginning,
    SyntaxError.message ⟨line, .malformed kind statement unknown⟩ = beginning ++ " `" ++ statement ++ "`" := by
  let front := "syntax error on line " ++ toString line ++ ": "
  cases unknown with
  | none => exact ⟨_, append_quoted front ("invalid " ++ kind.text) statement⟩
  | some unknown => exact ⟨_, append_quoted front (unknown.message ++ " in " ++ kind.text) statement⟩

section
variable {α : Type} {kind : StatementKind} {read : List Char → Except Halt (α × List Char)} {ls : List Located}
  {document : List Char} {l : Located} {e : SyntaxError}

theorem Located.reports (reads : l.kind.ReadBy read) (h : l.statement.read l.document l.kind read = .error e) :
    l.Reports e := by
  obtain ⟨halt, rejected, rfl⟩ := Statement.read_eq_error_iff.mp h
  obtain ⟨taken, text⟩ := suffix_of_whole_eq_error (reads.leaves _) rejected
  have text : l.text = taken ++ halt.rest := text.symm
  have cut : l.document = (l.front ++ taken) ++ (halt.rest ++ l.statement.after) := by
    rw [Located.document, text, List.append_assoc, List.append_assoc]
    rfl
  rw [cut, lineOf_append]
  refine ⟨⟨halt, taken, reads.check_of_error rejected, text, rfl⟩, lineAfter_le (List.prefix_append _ _),
    lineAfter_le ?_, exists_message_malformed _ _ _ _⟩
  rw [text, ← List.append_assoc]
  exact List.prefix_append _ _

/-- In a row of statements of one kind the first that is rejected gives the error. -/
theorem exists_reports_of_mapM (reads : kind.ReadBy read) (places : ∀ l ∈ ls, l.kind = kind ∧ l.document = document)
    (h : (ls.map Located.statement).mapM (Statement.read document kind read) = .error e) :
    ∃ earlier l later, ls = earlier ++ l :: later ∧ (∀ m ∈ earlier, m.kind.check m.text = .ok ()) ∧ l.Reports e := by
  obtain ⟨before, s, after, split, accepted, fails⟩ := mapM_eq_error_iff.mp h
  obtain ⟨earlier, others, rfl, rfl, tail⟩ := List.map_eq_append_iff.mp split
  obtain ⟨l, later, rfl, rfl, -⟩ := List.map_eq_cons_iff.mp tail
  refine ⟨earlier, l, later, rfl, fun m hm => ?_, ?_⟩
  · obtain ⟨a, read⟩ := accepted m.statement (List.mem_map_of_mem hm)
    rw [(places m (List.mem_append_left _ hm)).1]
    exact reads.check_of_ok (Statement.read_eq_ok_iff.mp read)
  · obtain ⟨rfl, rfl⟩ := places l (by simp)
    exact l.reports reads fails

theorem accepted_of_mapM (reads : kind.ReadBy read) (kinds : ∀ l ∈ ls, l.kind = kind) {values : List α}
    (h : (ls.map Located.statement).mapM (Statement.read document kind read) = .ok values) :
    ∀ l ∈ ls, l.kind.check l.text = .ok () := by
  have all := mapM_read_eq_ok_iff.mp h
  rw [List.map_map, List.forall₂_map_left_iff] at all
  have both : List.Forall₂ (fun (l : Located) a => kind.check l.text = .ok () ∧ whole read l.text = .ok a) ls values :=
    all.imp fun _ _ read => ⟨reads.check_of_ok read, read⟩
  intro l hl
  rw [kinds l hl]
  exact ((List.forall₂_and_left _ _).mp both).1 l hl

end

/-- The error of a text with an outline: all statements before one are accepted, and that one gives the error. -/
theorem Outline.exists_reports {x : Outline} {text : String} {e : SyntaxError} (written : text.toList = x.written)
    (h : Diagram.parse text = .error e) :
    ∃ earlier l later, x.located = earlier ++ l :: later ∧ (∀ m ∈ earlier, m.kind.check m.text = .ok ()) ∧
      l.Reports e ∧ l.document = text.toList := by
  have entityPlaces : ∀ l ∈ x.locatedEntities, l.kind = .entity ∧ l.document = text.toList := fun l hl =>
    written ▸ of_mem_locatedEntities hl
  have relationshipPlaces : ∀ l ∈ x.locatedRelationships, l.kind = .relationship ∧ l.document = text.toList :=
    fun l hl => written ▸ of_mem_locatedRelationships hl
  have split : Blocks.split text.toList = .ok x.blocks := written ▸ x.split_written
  simp only [Diagram.parse, split, bind_eq_error_iff] at h
  rcases h with failed | ⟨_, found, others⟩
  · cases failed
  cases found
  rcases others with entities | ⟨values, accepted, relationships | ⟨_, -, done⟩⟩
  · rw [← x.map_statement_locatedEntities] at entities
    obtain ⟨earlier, l, later, located, accepted, reports⟩ :=
      exists_reports_of_mapM readBy_entity entityPlaces entities
    refine ⟨earlier, l, later ++ x.locatedRelationships, ?_, accepted, reports, (entityPlaces l ?_).2⟩
    · rw [Outline.located, located, List.append_assoc, List.cons_append]
    · simp [located]
  · -- The relationships are read only after all entities have been accepted.
    rw [← x.map_statement_locatedEntities] at accepted
    rw [← x.map_statement_locatedRelationships] at relationships
    obtain ⟨earlier, l, later, located, before, reports⟩ :=
      exists_reports_of_mapM readBy_relationship relationshipPlaces relationships
    have first := accepted_of_mapM readBy_entity (fun l hl => (entityPlaces l hl).1) accepted
    refine ⟨x.locatedEntities ++ earlier, l, later, ?_, List.forall_mem_append.mpr ⟨first, before⟩, reports,
      (relationshipPlaces l ?_).2⟩
    · rw [Outline.located, located, List.append_assoc]
    · simp [located]
  · cases done

/-! ### Texts without an outline -/

theorem exists_stopsAfter {text : String} {e : SyntaxError} (none : ¬∃ x : Outline, text.toList = x.written)
    (h : Diagram.parse text = .error e) : ∃ front, StopsAfter text.toList front ∧ e.line = lineAfter front := by
  cases split : Blocks.split text.toList with
  | ok blocks =>
    obtain ⟨x, written, -⟩ := exists_outline_of_split split
    exact absurd ⟨x, written⟩ none
  | error rest =>
    obtain ⟨front, cut, stops⟩ := exists_stopsAfter_of_split split
    simp only [Diagram.parse, split] at h
    cases h
    refine ⟨front, stops, ?_⟩
    rw [cut, splitError, lineOf_append]

end Document

/-! ### Errors -/

/-- The error points at the first fault of the document. -/
structure SyntaxError.PointsInto (e : SyntaxError) (document : List Char) : Prop where
  /-- There is such a line. -/
  line : 1 ≤ e.line ∧ e.line ≤ 1 + document.count '\n'
  /-- Where the document is split into statements, the error is the one of the first that its reader rejects. -/
  statement : ∀ x : Outline, document = x.written →
    ∃ earlier l later, x.located = earlier ++ l :: later ∧ (∀ m ∈ earlier, m.kind.check m.text = .ok ()) ∧
      l.Reports e ∧ l.document = document
  /-- Where it is not, the line is the one of the first character after the part that can be split. -/
  split : (¬∃ x : Outline, document = x.written) →
    (∃ front, StopsAfter document front) ∧ ∀ front, StopsAfter document front → e.line = lineAfter front

/-- Every error of a text points at its first fault. -/
theorem Diagram.pointsInto_of_parse {text : String} {e : SyntaxError} (h : Diagram.parse text = .error e) :
    e.PointsInto text.toList where
  line := by
    rw [Nat.add_comm]
    by_cases outline : ∃ x : Outline, text.toList = x.written
    · obtain ⟨x, written⟩ := outline
      obtain ⟨-, l, -, -, -, reports, document⟩ := x.exists_reports written h
      rw [← document]
      exact ⟨(Nat.succ_pos _).trans_le reports.start, reports.stop.trans (lineAfter_le l.prefix_document)⟩
    · obtain ⟨front, stops, line⟩ := exists_stopsAfter outline h
      rw [line]
      exact ⟨Nat.succ_pos _, lineAfter_le stops.begins⟩
  statement x written := x.exists_reports written h
  split none := by
    obtain ⟨front, stops, line⟩ := exists_stopsAfter none h
    exact ⟨⟨front, stops⟩, fun other stops' => stops'.unique stops ▸ line⟩

/-- A text whose third entity cannot be read: no attribute follows the comma on its second line. -/
def danglingComma : String := "entities:\n    Ship u.imo;\n    SHIP;\n    Crew.weak\n        du.rank,\n    ;\n"

/-- A text whose second entity does not end: a block follows instead. -/
def missingSemicolon : String := "\nentities:\n    Ship u.imo;\n\n    Crew.weak du.rank\nrelationships:\n"

theorem Diagram.pointsInto_of_parse_danglingComma :
    Diagram.parse danglingComma = .error ⟨5, .malformed .entity "Crew.weak\n        du.rank," none⟩ ∧
      SyntaxError.PointsInto ⟨5, .malformed .entity "Crew.weak\n        du.rank," none⟩ danglingComma.toList ∧
      Diagram.parse missingSemicolon = .error ⟨5, .unexpected "Crew.weak du.rank"⟩ ∧
      SyntaxError.PointsInto ⟨5, .unexpected "Crew.weak du.rank"⟩ missingSemicolon.toList := by
  have comma : Diagram.parse danglingComma =
      .error ⟨5, .malformed .entity "Crew.weak\n        du.rank," none⟩ := by decide +kernel
  have semicolon : Diagram.parse missingSemicolon = .error ⟨5, .unexpected "Crew.weak du.rank"⟩ := by decide +kernel
  exact ⟨comma, pointsInto_of_parse comma, semicolon, pointsInto_of_parse semicolon⟩

end ErDiagram
