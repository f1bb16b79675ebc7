import ErDiagram.Document.Render
import ErDiagram.Edit
import ErDiagram.Proofs.Duplicates

/-! Changes to a diagram. A step that changes a part where it stands keeps the names of the entities, and references are
    spelt by these names only. So it rewrites one line of the text, and a run of such steps rewrites the lines of the
    parts that it changes. With the other steps every diagram is built from any other. -/

namespace ErDiagram
open Document

/-! ### Diagrams with the same names -/

section
variable {d d' : Diagram}

theorem map_name_named (d : Diagram) (name : String) :
    (d.named name).map (·.1.name) = (d.entities.map (·.name)).filter (sameName · name) := by
  have names : d.entities.map (·.name) = (d.entities.zipIdx.map Prod.fst).map (·.name) := by rw [List.zipIdx_map_fst]
  rw [names, List.map_map, List.filter_map]
  rfl

theorem canonicalName_eq (d : Diagram) (name : String) : d.canonicalName name =
    if ((d.named name).map (·.1.name)).length = 1 then ((d.named name).map (·.1.name)).headD name else name := by
  rw [Diagram.canonicalName, Diagram.resolve]
  cases d.named name with
  | nil => rfl
  | cons x others =>
    cases others with
    | nil => rfl
    | cons y others => rfl

/-- How a reference is spelt depends on the names of the entities only. -/
theorem canonicalName_congr (names : d'.entities.map (·.name) = d.entities.map (·.name)) :
    d'.canonicalName = d.canonicalName := by
  funext name
  rw [canonicalName_eq, canonicalName_eq, map_name_named, map_name_named, names]

/-- So the parts of diagrams with the same names have the same statements. -/
theorem statements_congr (names : d'.entities.map (·.name) = d.entities.map (·.name)) :
    d'.entityStatement = d.entityStatement ∧ d'.relationshipStatement = d.relationshipStatement := by
  have spelling : d'.canonicalName = d.canonicalName := canonicalName_congr names
  constructor
  · funext e
    rw [Diagram.entityStatement, Diagram.entityStatement, spelling]
  · funext r
    rw [Diagram.relationshipStatement, Diagram.relationshipStatement, spelling]

theorem countP_sameName_congr (names : d'.entities.map (·.name) = d.entities.map (·.name)) (name : String) :
    d'.entities.countP (sameName ·.name name) = d.entities.countP (sameName ·.name name) := by
  have count (l : List Entity) : l.countP (sameName ·.name name) = (l.map (·.name)).countP (sameName · name) := by
    rw [List.countP_map]
    rfl
  rw [count, count, names]

end

/-! ### What a change in place keeps -/

namespace Diagram

/-- One diagram comes from the other by changes in place: the entities keep their names, and the texts have the same
    lines but for those of some numbers. -/
structure Revised (d d' : Diagram) (rewritten : List Nat) : Prop where
  names : d'.entities.map (·.name) = d.entities.map (·.name)
  length : d'.lines.length = d.lines.length
  lines : ∀ index, index ∉ rewritten → d'.lines[index]? = d.lines[index]?

namespace Revised
variable {d d' d'' : Diagram} {first second rewritten : List Nat}

theorem refl (d : Diagram) : d.Revised d [] := ⟨rfl, rfl, fun _ _ => rfl⟩

theorem trans (h : d.Revised d' first) (h' : d'.Revised d'' second) : d.Revised d'' (first ++ second) := by
  refine ⟨h'.names.trans h.names, h'.length.trans h.length, fun index outside => ?_⟩
  rw [List.mem_append, not_or] at outside
  exact (h'.lines index outside.2).trans (h.lines index outside.1)

theorem entities_length (h : d.Revised d' rewritten) : d'.entities.length = d.entities.length := by
  rw [← List.length_map (·.name), h.names, List.length_map]

/-- Texts that differ in one line. -/
theorem of_lines {before after : List String} {old new : String}
    (names : d'.entities.map (·.name) = d.entities.map (·.name)) (lines : d.lines = before ++ old :: after)
    (lines' : d'.lines = before ++ new :: after) : d.Revised d' [before.length] := by
  refine ⟨names, ?_, fun index outside => ?_⟩
  · rw [lines, lines', List.length_append, List.length_append, List.length_cons, List.length_cons]
  · rw [List.mem_singleton] at outside
    rw [lines, lines']
    rcases Nat.lt_or_gt_of_ne outside with inside | beyond
    · rw [List.getElem?_append_left inside, List.getElem?_append_left inside]
    · obtain ⟨more, rfl⟩ := Nat.exists_eq_add_of_lt beyond
      have right : before.length ≤ before.length + more + 1 := by omega
      have place : before.length + more + 1 - before.length = more + 1 := by omega
      rw [List.getElem?_append_right right, List.getElem?_append_right right, place, List.getElem?_cons_succ,
        List.getElem?_cons_succ]

theorem entity {before after : List Entity} {e e' : Entity} (h : d.entities = before ++ e :: after)
    (h' : d'.entities = before ++ e' :: after) (name : e'.name = e.name) (others : d'.relationships = d.relationships) :
    d.Revised d' [before.length + 1] := by
  have names : d'.entities.map (·.name) = d.entities.map (·.name) := by
    rw [h, h', List.map_append, List.map_append, List.map_cons, List.map_cons, name]
  obtain ⟨entities, relationships⟩ := statements_congr names
  let first := entitiesHeader :: before.map fun e => statementLine (d.entityStatement e)
  let last := (after.map fun e => statementLine (d.entityStatement e)) ++ "" :: relationshipsHeader ::
    d.relationships.map (fun r => statementLine (d.relationshipStatement r)) ++ [indent]
  have lines : d.lines = first ++ statementLine (d.entityStatement e) :: last := by
    rw [Diagram.lines, h]
    simp only [first, last, List.map_append, List.map_cons, List.append_assoc, List.cons_append]
  have lines' : d'.lines = first ++ statementLine (d.entityStatement e') :: last := by
    rw [Diagram.lines, h', others, entities, relationships]
    simp only [first, last, List.map_append, List.map_cons, List.append_assoc, List.cons_append]
  have length : first.length = before.length + 1 := by rw [List.length_cons, List.length_map]
  exact length ▸ of_lines names lines lines'

theorem relationship {before after : List Relationship} {r r' : Relationship}
    (h : d.relationships = before ++ r :: after) (h' : d'.relationships = before ++ r' :: after)
    (others : d'.entities = d.entities) : d.Revised d' [d.entities.length + before.length + 3] := by
  have names : d'.entities.map (·.name) = d.entities.map (·.name) := by rw [others]
  obtain ⟨entities, relationships⟩ := statements_congr names
  let first := entitiesHeader :: d.entities.map (fun e => statementLine (d.entityStatement e)) ++
    "" :: relationshipsHeader :: before.map fun r => statementLine (d.relationshipStatement r)
  let last := (after.map fun r => statementLine (d.relationshipStatement r)) ++ [indent]
  have lines : d.lines = first ++ statementLine (d.relationshipStatement r) :: last := by
    rw [Diagram.lines, h]
    simp only [first, last, List.map_append, List.map_cons, List.append_assoc, List.cons_append]
  have lines' : d'.lines = first ++ statementLine (d.relationshipStatement r') :: last := by
    rw [Diagram.lines, h', others, entities, relationships]
    simp only [first, last, List.map_append, List.map_cons, List.append_assoc, List.cons_append]
  have length : first.length = d.entities.length + before.length + 3 := by
    simp only [first, List.length_append, List.length_cons, List.length_map]
    omega
  exact length ▸ of_lines names lines lines'

end Revised

/-! ### Steps -/

variable {d d' : Diagram} {line place : Nat}

theorem revised_of_modifyEntity? {f : Entity → Entity} (name : ∀ e, (f e).name = e.name)
    (done : d.modifyEntity? place f = some d') : d.Revised d' [place + 1] := by
  rw [modifyEntity?] at done
  split at done
  · next inside =>
    obtain ⟨before, e, after, whole, rfl, modified⟩ := List.exists_of_modify f inside
    rw [Option.some.injEq] at done
    subst done
    exact .entity whole modified (name e) rfl
  · cases done

theorem revised_of_modifyRelationship? {f : Relationship → Relationship}
    (done : d.modifyRelationship? place f = some d') : d.Revised d' [d.entities.length + place + 3] := by
  rw [modifyRelationship?] at done
  split at done
  · next inside =>
    obtain ⟨before, r, after, whole, rfl, modified⟩ := List.exists_of_modify f inside
    rw [Option.some.injEq] at done
    subst done
    exact .relationship whole modified rfl
  · cases done

/-- The number of the line that a step rewrites, if it changes a part where it stands. Before the statements of the
    relationships stand those of the entities, the two headers and an empty line. -/
def lineOf? (d : Diagram) : Edit → Option Nat
  | .setOptions place _ | .setAttributes place _ => some (place + 1)
  | .doubleLine place => some (d.entities.length + place + 3)
  | _ => none

theorem revised_of_edit? {step : Edit} (in_place : d.lineOf? step = some line) (done : d.edit? step = some d') :
    d.Revised d' [line] := by
  cases step with
  | setOptions place options =>
    obtain rfl := Option.some.inj in_place
    exact revised_of_modifyEntity? (f := (·.withOptions options)) (fun _ => rfl) done
  | setAttributes place attributes =>
    obtain rfl := Option.some.inj in_place
    exact revised_of_modifyEntity? (f := (·.withAttributes attributes)) (fun _ => rfl) done
  | doubleLine place =>
    obtain rfl := Option.some.inj in_place
    exact revised_of_modifyRelationship? done
  | _ => cases in_place

/-! ### Runs -/

/-- The diagram after steps, where a step at a place that does not exist is passed over. -/
def run (d : Diagram) : List Edit → Diagram
  | [] => d
  | step :: steps => ((d.edit? step).getD d).run steps

variable {steps : List Edit} {rewritten : List Nat}

theorem run_append (d : Diagram) (steps more : List Edit) : d.run (steps ++ more) = (d.run steps).run more := by
  induction steps generalizing d with
  | nil => rfl
  | cons step steps ih => exact ih _

/-- Changes in place move no line. -/
theorem Revised.lineOf? (h : d.Revised d' rewritten) : d'.lineOf? = d.lineOf? := by
  funext step
  cases step with
  | doubleLine place => rw [Diagram.lineOf?, Diagram.lineOf?, h.entities_length]
  | _ => rfl

theorem revised_run (in_place : ∀ step ∈ steps, (d.lineOf? step).isSome) :
    d.Revised (d.run steps) (steps.filterMap d.lineOf?) := by
  induction steps generalizing d with
  | nil => exact .refl d
  | cons step steps ih =>
    rw [List.forall_mem_cons] at in_place
    obtain ⟨line, found⟩ := Option.isSome_iff_exists.mp in_place.1
    have first : d.Revised ((d.edit? step).getD d) [line] := by
      cases done : d.edit? step with
      | none => exact ⟨rfl, rfl, fun _ _ => rfl⟩
      | some d' => exact revised_of_edit? found done
    rw [List.filterMap_cons_some found]
    rw [← first.lineOf?] at in_place ⊢
    exact first.trans (ih in_place.2)

/-- Changes in place rewrite the lines of the changed parts only. Every reference is spelt as before and resolved if it
    was, and every name is reported as a duplicate as often as it was. -/
theorem run_in_place (in_place : ∀ step ∈ steps, (d.lineOf? step).isSome) :
    (d.run steps).lines.length = d.lines.length ∧
      (∀ index, (∀ step ∈ steps, d.lineOf? step ≠ some index) → (d.run steps).lines[index]? = d.lines[index]?) ∧
      ∀ name, (d.run steps).canonicalName name = d.canonicalName name ∧
        ((d.run steps).Resolves name ↔ d.Resolves name) ∧
        (d.run steps).violations.countP (·.repeats name) = d.violations.countP (·.repeats name) := by
  have revised := revised_run in_place
  refine ⟨revised.length, fun index untouched => revised.lines index fun member => ?_, fun name => ?_⟩
  · obtain ⟨step, hs, line⟩ := List.mem_filterMap.mp member
    exact untouched step hs line
  · have count := countP_sameName_congr revised.names name
    refine ⟨congrFun (canonicalName_congr revised.names) name, ?_, ?_⟩
    · rw [Resolves, Resolves, count]
    · rw [countP_repeats, countP_repeats, count]

/-! ### Building a diagram -/

/-- The steps that build a diagram, part by part. -/
def script (d : Diagram) : List Edit :=
  .clear :: d.entities.map (.insertEntity none) ++ d.relationships.map .appendRelationship

theorem run_insertEntity (entities : List Entity) :
    d.run (entities.map (.insertEntity none)) = { d with entities := d.entities ++ entities } := by
  induction entities generalizing d with
  | nil => rw [List.append_nil]; rfl
  | cons e entities ih =>
    have done : d.edit? (.insertEntity none e) = some { d with entities := d.entities ++ [e] } := by
      rw [edit?, Option.getD_none, insertEntity?, if_pos (Nat.le_refl _), List.insertIdx_length_self]
    rw [List.map_cons, run, done, Option.getD_some, ih, List.append_assoc, List.singleton_append]

theorem run_appendRelationship (relationships : List Relationship) :
    d.run (relationships.map .appendRelationship) = { d with relationships := d.relationships ++ relationships } := by
  induction relationships generalizing d with
  | nil => rw [List.append_nil]; rfl
  | cons r relationships ih =>
    rw [List.map_cons, run, edit?, Option.getD_some, ih, List.append_assoc, List.singleton_append]

/-- Every diagram is built by its script, whatever there was before. -/
theorem run_script (d d' : Diagram) : d.run d'.script = d' := by
  rw [script, List.cons_append, run, edit?, Option.getD_some, run_append, run_insertEntity, run_appendRelationship]
  rfl

end Diagram
end ErDiagram
