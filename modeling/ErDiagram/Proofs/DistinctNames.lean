import ErDiagram.Document.Parse

/-! Entities of distinct names. The reader drops an entity when an earlier one of the document has its name, dropped
    or not; what is left are the first entities of each name, in their order. -/

namespace ErDiagram
open Document

/-- The entities whose name no earlier entity of the list has. -/
def firstOfName (entities : List Entity) : List Entity :=
  (entities.zipIdx.filter fun (e, index) => !(entities.take index).any (sameName ·.name e.name)).map Prod.fst

/-- The same with some entities already seen, which are the first ones of the whole list. -/
theorem filter_zipIdx_eq_filter_distinct (seen others : List Entity) :
    ((others.zipIdx seen.length).filter fun (e, index) =>
        !((seen ++ others).take index).any (sameName ·.name e.name)).map Prod.fst =
      (distinct others).filter fun e => !seen.any (sameName ·.name e.name) := by
  induction others generalizing seen with
  | nil => rfl
  | cons e others ih =>
    have tail := ih (seen ++ [e])
    rw [List.append_assoc, List.singleton_append, List.length_append, List.length_singleton] at tail
    have merge : ((distinct others).filter fun other => !sameName e.name other.name).filter
          (fun other => !seen.any (sameName ·.name other.name)) =
        (distinct others).filter fun other => !(seen ++ [e]).any (sameName ·.name other.name) := by
      rw [List.filter_filter]
      refine List.filter_congr fun other _ => ?_
      simp only [List.any_append, List.any_cons, List.any_nil, Bool.or_false, Bool.not_or]
    rw [distinct, List.zipIdx_cons, List.filter_cons, List.filter_cons, merge, ← tail]
    simp only [List.take_left]
    split <;> rfl

theorem distinct_eq_firstOfName (entities : List Entity) : distinct entities = firstOfName entities := by
  refine Eq.trans ?_ (filter_zipIdx_eq_filter_distinct [] entities).symm
  exact (List.filter_eq_self.mpr fun _ _ => rfl).symm

theorem mem_of_mem_distinct {entities : List Entity} {e : Entity} (h : e ∈ distinct entities) : e ∈ entities := by
  induction entities with
  | nil => exact h
  | cons first others ih =>
    rw [distinct, List.mem_cons, List.mem_filter] at h
    rcases h with rfl | ⟨h, -⟩
    · exact List.mem_cons_self
    · exact List.mem_cons_of_mem _ (ih h)

theorem pairwise_distinct (entities : List Entity) :
    (distinct entities).Pairwise fun e other => sameName e.name other.name = false := by
  induction entities with
  | nil => exact .nil
  | cons first others ih =>
    rw [distinct, List.pairwise_cons]
    refine ⟨fun other h => ?_, ih.filter _⟩
    simpa using (List.mem_filter.mp h).2

/-- Nothing is dropped where the names are distinct already. -/
theorem distinct_eq_self {entities : List Entity}
    (h : entities.Pairwise fun e other => sameName e.name other.name = false) : distinct entities = entities := by
  induction entities with
  | nil => rfl
  | cons first others ih =>
    rw [List.pairwise_cons] at h
    rw [distinct, ih h.2, List.filter_eq_self.mpr]
    intro other member
    rw [h.1 other member]
    rfl

end ErDiagram
