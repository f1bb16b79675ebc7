import ErDiagram.Proofs.Outline

/-! Where splitting stops. The scanner takes the longest beginning of a text that has an outline: every other beginning
    with an outline is a beginning of that one. So a text that is not split has one place where it stops, either
    before the header of the entities or after that longest beginning. -/

namespace ErDiagram
open Character

namespace Document

/-! ### Beginnings of a text -/

section
variable {s t rest : List Char} {p : Char → Bool} {b c : Block} {ps qs : List PlacedStatement}
  {space space' : List Char}

/-- A run that begins a text lies within the longest one. -/
theorem run_within (hs : ∀ c ∈ s, p c = true) (ht : ∀ c ∈ t, p c = true) (outside : StartsOutside p rest)
    (h : s <+: t ++ rest) : s <+: t := by
  obtain ⟨more, h⟩ := h
  have cut : (s ++ more.takeWhile p) ++ more.dropWhile p = t ++ rest := by
    rw [List.append_assoc, List.takeWhile_append_dropWhile, h]
  obtain ⟨whole, -⟩ := run_unique cut (List.forall_mem_append.mpr ⟨hs, fun _ => of_mem_takeWhile⟩)
    (startsOutside_dropWhile p more) ht outside
  exact ⟨_, whole⟩

theorem statements_within (spacing : ∀ c ∈ space, isSpacing c = true) (spacing' : ∀ c ∈ space', isSpacing c = true)
    (ends : EndsBlock rest)
    (h : qs.flatMap PlacedStatement.written ++ space' <+: ps.flatMap PlacedStatement.written ++ (space ++ rest)) :
    qs.flatMap PlacedStatement.written ++ space' <+: ps.flatMap PlacedStatement.written ++ space := by
  -- As far as both go the two rows have the same statements, so at the end there is spacing to be compared.
  induction qs generalizing ps with
  | nil =>
    cases ps with
    | nil => exact run_within spacing' spacing ends.start h
    | cons p ps =>
      rw [List.flatMap_cons, PlacedStatement.written, List.append_assoc, List.append_assoc] at h ⊢
      rw [List.append_assoc p.text] at h
      exact (run_within spacing' p.spacing (startsOutside_append p.statement.start p.statement.ne_nil) h).trans
        (List.prefix_append _ _)
  | cons q qs ih =>
    rw [List.flatMap_cons, List.append_assoc] at h ⊢
    obtain ⟨more, h⟩ := h
    cases ps with
    | nil =>
      rw [List.append_assoc] at h
      exact absurd h.symm (space_ne_statement spacing ends q)
    | cons p ps =>
      rw [List.append_assoc, List.flatMap_cons, List.append_assoc p.written] at h
      obtain ⟨rfl, others⟩ := PlacedStatement.unique h
      rw [List.flatMap_cons, List.append_assoc]
      exact (List.prefix_append_right_inj _).mpr (ih ⟨more, others⟩)

/-- A block is the longest one where it stands. -/
theorem Block.prefix_written (ends : EndsBlock rest) (h : c.written <+: b.written ++ rest) :
    c.written <+: b.written := by
  rw [written, written, List.append_assoc] at h
  exact statements_within b.spacing c.spacing ends h

/-- So is an outline, where no block can follow. -/
theorem Outline.prefix_written {x y : Outline} (ends : EndsBlock rest)
    (last : x.relationships = none → ¬relationshipsHeader.toList <+: rest) (h : y.written <+: x.written ++ rest) :
    y.written <+: x.written := by
  obtain ⟨space, spacing, b, second⟩ := x
  obtain ⟨space', spacing', c, second'⟩ := y
  obtain ⟨more, h⟩ := h
  simp only [written, List.append_assoc] at h ⊢
  obtain ⟨rfl, headed⟩ := run_unique h spacing' (startsOutside_entitiesHeader _) spacing
    (startsOutside_entitiesHeader _)
  have body := List.append_cancel_left headed
  rw [List.prefix_append_right_inj, List.prefix_append_right_inj]
  have first : EndsBlock (writtenRelationships second ++ rest) := by
    cases second with
    | none => exact ends
    | some d =>
      rw [writtenRelationships, List.append_assoc]
      exact endsBlock_header _
  cases second' with
  | none =>
    rw [writtenRelationships, List.append_nil]
    exact (Block.prefix_written first ⟨_, body⟩).trans (List.prefix_append _ _)
  | some d' =>
    -- The header of this block ends the first block of both texts.
    rw [writtenRelationships, List.append_assoc] at body
    obtain ⟨rfl, tail⟩ := Block.unique (endsBlock_header _) first body
    rw [List.prefix_append_right_inj]
    cases second with
    | none => exact absurd ⟨_, tail⟩ (last rfl)
    | some d =>
      simp only [writtenRelationships, List.append_assoc] at tail ⊢
      rw [List.prefix_append_right_inj]
      exact Block.prefix_written ends ⟨_, List.append_cancel_left tail⟩

end

/-! ### Where splitting stops -/

/-- The document is split up to here and no further. Either the header of the entities should come next and does not,
    with spacing at most before it; or this is the longest beginning of the document that has an outline, so all
    spacing at its end belongs to it, and more follows. -/
inductive StopsAfter (document : List Char) : List Char → Prop where
  | header {space rest : List Char} (cut : document = space ++ rest) (spacing : ∀ c ∈ space, isSpacing c = true)
    (start : StartsOutside isSpacing rest) (missing : ¬entitiesHeader.toList <+: rest) : StopsAfter document space
  | outline {x : Outline} {c : Char} {rest : List Char} (cut : document = x.written ++ c :: rest)
    (start : isSpacing c = false) (longest : ∀ y : Outline, y.written <+: document → y.written <+: x.written) :
    StopsAfter document x.written

theorem Outline.stopsAfter {x : Outline} {document rest : List Char} (cut : document = x.written ++ rest)
    (ends : EndsBlock rest) (ne : rest ≠ []) (last : x.relationships = none → ¬relationshipsHeader.toList <+: rest) :
    StopsAfter document x.written := by
  cases rest with
  | nil => exact absurd rfl ne
  | cons c rest => exact .outline cut (startsOutside_cons.mp ends.start) fun y h => prefix_written ends last (cut ▸ h)

theorem exists_stopsAfter_of_split {document rest : List Char} (h : Blocks.split document = .error rest) :
    ∃ front, document = front ++ rest ∧ StopsAfter document front := by
  rcases split_cases document with ⟨space, _, cut, spacing, start, missing, failed⟩ |
    ⟨x, _, cut, ends, last, ⟨-, split⟩ | ⟨ne, failed⟩⟩
  · rw [failed, Except.error.injEq] at h
    subst h
    exact ⟨space, cut, .header cut spacing start missing⟩
  · rw [split] at h
    cases h
  · rw [failed, Except.error.injEq] at h
    subst h
    exact ⟨x.written, cut, x.stopsAfter cut ends ne last⟩

theorem StopsAfter.begins {document front : List Char} (h : StopsAfter document front) : front <+: document := by
  cases h with
  | header cut => exact ⟨_, cut.symm⟩
  | outline cut => exact ⟨_, cut.symm⟩

theorem Outline.written_append_ne {space rest : List Char} (spacing : ∀ c ∈ space, isSpacing c = true)
    (start : StartsOutside isSpacing rest) (missing : ¬entitiesHeader.toList <+: rest) (x : Outline)
    (more : List Char) : x.written ++ more ≠ space ++ rest := by
  intro h
  simp only [written, List.append_assoc] at h
  obtain ⟨-, headed⟩ := run_unique h x.spacing (startsOutside_entitiesHeader _) spacing start
  exact missing ⟨_, headed⟩

/-- There is one place where splitting stops. -/
theorem StopsAfter.unique {document front front' : List Char} (h : StopsAfter document front)
    (h' : StopsAfter document front') : front = front' := by
  cases h with
  | header cut spacing start missing =>
    cases h' with
    | header cut' spacing' start' => exact (run_unique (cut.symm.trans cut') spacing start spacing' start').1
    | outline cut' => exact absurd (cut'.symm.trans cut) (Outline.written_append_ne spacing start missing _ _)
  | @outline x _ _ cut _ longest =>
    cases h' with
    | header cut' spacing start missing =>
      exact absurd (cut.symm.trans cut') (Outline.written_append_ne spacing start missing _ _)
    | @outline y _ _ cut' _ longest' =>
      have shorter : x.written <+: y.written := longest' x ⟨_, cut.symm⟩
      exact shorter.eq_of_length_le (longest y ⟨_, cut'.symm⟩).length_le

end Document

end ErDiagram
