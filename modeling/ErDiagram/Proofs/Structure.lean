import ErDiagram.Proofs.ImpliedEdge
import ErDiagram.Proofs.WellFormed
import Mathlib.Logic.Relation

/-! The structure of a valid diagram. An edge is implied by names alone, and a name that is not resolved would leave it
    out; in a valid diagram none is left out and none is doubled. There is one edge to each subclass, from a superclass
    before it, and one to each weak entity, from the other end of its only owning line. An owner may be weak itself, but
    then that line is its only owning line as well, and the two own each other. All other edges lead from one level of
    entities to a higher one, so nothing else leads back to where it came from. -/

namespace ErDiagram

/-! ### Parents and owners -/

/-- The ends of the relationship have the two names. -/
def Relationship.Joins (r : Relationship) (a b : String) : Prop :=
  sameName r.source a = true ∧ sameName r.target b = true ∨ sameName r.source b = true ∧ sameName r.target a = true

/-- The entity at the place has one option, which is the name of the superclass, and the superclass is declared
    earlier. -/
structure Diagram.IsParent (d : Diagram) (index : Nat) (e parent : Entity) : Prop where
  earlier : ∃ place < index, d.entities[place]? = some parent
  kind : parent.kind = .superclass
  named : ∃ name, e.options = [name] ∧ sameName parent.name name = true

/-- The owner is another entity, and of all double lines that tie the weak entity to another one there is a single one,
    the one between the two. -/
structure Diagram.IsOwner (d : Diagram) (owner weak : Entity) : Prop where
  member : owner ∈ d.entities
  other : sameName owner.name weak.name = false
  line : ∃ r, d.relationships.filter (·.binds weak.name) = [r] ∧ r.Joins owner.name weak.name

section
variable {d : Diagram} {e parent owner weak : Entity} {r : Relationship} {index : Nat} {a b : String}

theorem Relationship.Joins.symm (h : r.Joins a b) : r.Joins b a := Or.symm h

theorem Diagram.IsOwner.exists_line (is_owner : d.IsOwner owner weak) : ∃ r ∈ d.relationships, r.line = .double ∧
    d.relationships.filter (·.binds weak.name) = [r] ∧ r.Joins owner.name weak.name := by
  obtain ⟨r, only, joins⟩ := is_owner.line
  have bound : r ∈ d.relationships.filter (·.binds weak.name) := only ▸ List.mem_singleton_self r
  obtain ⟨member, binds⟩ := List.mem_filter.mp bound
  rw [Relationship.binds, Bool.and_eq_true, decide_eq_true_eq] at binds
  exact ⟨r, member, binds.1, only, joins⟩

/-- A double line between two names gives each of them the other as its owner. -/
theorem Relationship.Joins.exists_ownerOf? (h : r.Joins a b) (other : sameName a b = false)
    (double : r.line = .double) :
    ∃ name, r.ownerOf? b = some name ∧ sameName a name = true := by
  rcases h with ⟨source, target⟩ | ⟨source, target⟩
  · rw [sameName_comm] at source
    rw [sameName_congr_left source] at other
    exact ⟨r.source, ownerOf?_eq_some_iff.mpr ⟨double, other, Or.inr ⟨target, rfl⟩⟩, source⟩
  · rw [sameName_comm] at target
    rw [sameName_congr_left target] at other
    exact ⟨r.target, ownerOf?_eq_some_iff.mpr ⟨double, other, Or.inl ⟨source, rfl⟩⟩, target⟩

theorem Relationship.Joins.binds (h : r.Joins a b) (other : sameName a b = false) (double : r.line = .double) :
    r.binds b = true := by
  obtain ⟨name, own, -⟩ := h.exists_ownerOf? other double
  rw [← isSome_ownerOf?, own, Option.isSome_some]

/-- Only the lines that bind a weak entity give it owners. -/
theorem owners_eq_filterMap_binds (d : Diagram) (weak : String) :
    d.owners weak =
      (d.relationships.filter (·.binds weak)).filterMap fun r => (r.ownerOf? weak).map d.canonicalName := by
  rw [Diagram.owners, List.filterMap_filter]
  refine List.filterMap_congr fun r _ => ?_
  rw [← Relationship.isSome_ownerOf?]
  cases r.ownerOf? weak <;> rfl

/-! ### Every subclass has a parent, and every weak entity an owner -/

theorem Diagram.Valid.exists_parent (h : d.Valid) (at_index : d.entities[index]? = some e) (kind : e.kind = .subclass) :
    ∃ parent, d.IsParent index e parent := by
  have options := h.hasOptions at_index
  rw [Entity.HasOptions, kind] at options
  obtain ⟨name, -, only⟩ := options
  have names : e.parent? = some name := Entity.parent?_eq_some_iff.mpr ⟨kind, by rw [only, List.head?_cons]⟩
  obtain ⟨-, place, before, parent, at_place, same, superclass⟩ := h.hasSuperclass at_index names
  exact ⟨parent, ⟨place, before, at_place⟩, superclass, name, only, same⟩

theorem Diagram.IsParent.hierarchyEdge? (is_parent : d.IsParent index e parent) (h : d.Valid)
    (at_index : d.entities[index]? = some e) (kind : e.kind = .subclass) :
    d.hierarchyEdge? e = some (.hierarchy parent.name e.name) := by
  obtain ⟨place, -, at_place⟩ := is_parent.earlier
  obtain ⟨name, only, same⟩ := is_parent.named
  have names : e.parent? = some name := Entity.parent?_eq_some_iff.mpr ⟨kind, by rw [only, List.head?_cons]⟩
  have found : d.resolve name = .found place parent := (h.resolves (.parent at_index names)).found at_place same
  exact hierarchyEdge?_eq_some_iff.mpr ⟨name, place, parent, names, found, rfl⟩

theorem hierarchyEdge?_of_ne_subclass (kind : e.kind ≠ .subclass) : d.hierarchyEdge? e = none := by
  rw [Diagram.hierarchyEdge?, Entity.parent?, if_neg kind]
  rfl

theorem Diagram.Valid.exists_owner (h : d.Valid) (member : weak ∈ d.entities) (kind : weak.kind = .weak) :
    ∃ owner, d.IsOwner owner weak := by
  obtain ⟨index, at_index⟩ := List.getElem?_of_mem member
  have one := (h.entity at_index).owner kind
  rw [List.countP_eq_length_filter] at one
  obtain ⟨r, only⟩ := List.length_eq_one_iff.mp one
  have bound : r ∈ d.relationships.filter (·.binds weak.name) := only ▸ List.mem_singleton_self r
  obtain ⟨line, binds⟩ := List.mem_filter.mp bound
  rw [← Relationship.isSome_ownerOf?, Option.isSome_iff_exists] at binds
  obtain ⟨name, own⟩ := binds
  obtain ⟨place, owner, found⟩ :=
    ((h.relationship line).ends name (Relationship.mem_ends_of_ownerOf? own)).2.exists_found
  obtain ⟨at_place, same⟩ := of_resolve_eq_found found
  obtain ⟨-, other, ends⟩ := Relationship.ownerOf?_eq_some_iff.mp own
  refine ⟨owner, List.mem_of_getElem? at_place, by rw [sameName_congr_left same, other], r, only, ?_⟩
  rw [sameName_comm] at same
  rcases ends with ⟨source, rfl⟩ | ⟨target, rfl⟩
  · exact Or.inr ⟨source, same⟩
  · exact Or.inl ⟨same, target⟩

theorem Diagram.IsOwner.ownershipEdges (is_owner : d.IsOwner owner weak) (h : d.Valid) (kind : weak.kind = .weak) :
    d.ownershipEdges weak = [.ownership owner.name weak.name] := by
  obtain ⟨r, line, double, only, joins⟩ := is_owner.exists_line
  obtain ⟨name, own, same⟩ := joins.exists_ownerOf? is_owner.other double
  have resolves := ((h.relationship line).ends name (Relationship.mem_ends_of_ownerOf? own)).2
  obtain ⟨place, at_place⟩ := List.getElem?_of_mem is_owner.member
  have canonical : d.canonicalName name = owner.name := canonicalName_of_found (resolves.found at_place same)
  have owners : d.owners weak.name = [owner.name] := by
    rw [owners_eq_filterMap_binds, only, List.filterMap_cons_some (b := owner.name), List.filterMap_nil]
    rw [own, Option.map_some, canonical]
  rw [ownershipEdges_eq, if_pos kind, owners, List.map_singleton]

theorem ownershipEdges_of_ne_weak (kind : e.kind ≠ .weak) : d.ownershipEdges e = [] := by
  rw [ownershipEdges_eq, if_neg kind]

/-- Of two weak entities of which one owns the other, each owns the other: they have their only owning line in
    common. -/
theorem Diagram.IsOwner.symm (is_owner : d.IsOwner owner weak) (h : d.Valid) (member : weak ∈ d.entities)
    (kind : owner.kind = .weak) : d.IsOwner weak owner := by
  obtain ⟨r, line, double, only, joins⟩ := is_owner.exists_line
  have other : sameName weak.name owner.name = false := sameName_comm owner.name weak.name ▸ is_owner.other
  -- The owner has an owning line of its own, and this line is one, so it is the only one.
  obtain ⟨-, -, -, s, only', -⟩ := h.exists_owner is_owner.member kind
  have shared : r ∈ d.relationships.filter (·.binds owner.name) :=
    List.mem_filter.mpr ⟨line, joins.symm.binds other double⟩
  rw [only', List.mem_singleton] at shared
  exact ⟨member, other, r, shared ▸ only', joins.symm⟩

/-! ### All edges -/

/-- Items that give one thing each, where the others give nothing, are matched by what the whole list gives. -/
theorem forall₂_filter_flatMap {α β : Type} {l : List α} {p : α → Bool} {f : α → List β} {related : α → β → Prop}
    (one : ∀ a ∈ l, p a = true → ∃ b, f a = [b] ∧ related a b) (none : ∀ a ∈ l, p a = false → f a = []) :
    List.Forall₂ related (l.filter p) (l.flatMap f) := by
  induction l with
  | nil => exact .nil
  | cons a l ih =>
    rw [List.forall_mem_cons] at one none
    have rest := ih one.2 none.2
    rw [List.flatMap_cons]
    cases kept : p a with
    | true =>
      obtain ⟨b, given, first⟩ := one.1 kept
      rw [List.filter_cons_of_pos kept, given]
      exact .cons first rest
    | false =>
      rw [List.filter_cons_of_neg (Bool.eq_false_iff.mp kept), none.1 kept]
      exact rest

/-- A valid diagram implies one edge from its parent for each subclass and then one edge from its owner for each weak
    entity, both in the order of the entities, and no other edges. -/
theorem Diagram.Valid.exists_impliedEdges (h : d.Valid) : ∃ hierarchies ownerships : List ImpliedEdge,
    d.impliedEdges = hierarchies ++ ownerships ∧
      List.Forall₂ (fun (e, index) edge => ∃ parent, d.IsParent index e parent ∧ edge = .hierarchy parent.name e.name)
        (d.entities.zipIdx.filter fun (e, _) => e.kind = .subclass) hierarchies ∧
      List.Forall₂ (fun weak edge => ∃ owner, d.IsOwner owner weak ∧ edge = .ownership owner.name weak.name)
        (d.entities.filter (·.kind = .weak)) ownerships := by
  refine ⟨_, _, rfl, ?_, forall₂_filter_flatMap (fun weak member kind => ?_) fun e _ kind => ?_⟩
  · have places : d.entities.filterMap d.hierarchyEdge? =
        d.entities.zipIdx.flatMap fun x => (d.hierarchyEdge? x.1).toList := by
      conv_lhs => rw [← List.zipIdx_map_fst 0 d.entities, List.filterMap_map, List.filterMap_eq_flatMap_toList]
      rfl
    rw [places]
    refine forall₂_filter_flatMap (fun (e, index) member kind => ?_) fun (e, index) _ kind => ?_
    · have at_index := List.mem_zipIdx_iff_getElem?.mp member
      have kind := of_decide_eq_true kind
      obtain ⟨parent, is_parent⟩ := h.exists_parent at_index kind
      refine ⟨.hierarchy parent.name e.name, ?_, parent, is_parent, rfl⟩
      rw [is_parent.hierarchyEdge? h at_index kind, Option.toList_some]
    · rw [hierarchyEdge?_of_ne_subclass (of_decide_eq_false kind), Option.toList_none]
  · have kind := of_decide_eq_true kind
    obtain ⟨owner, is_owner⟩ := h.exists_owner member kind
    exact ⟨_, is_owner.ownershipEdges h kind, owner, is_owner, rfl⟩
  · exact ownershipEdges_of_ne_weak (of_decide_eq_false kind)

/-- A superclass and its subclasses, and weak entities of which one has its line drawn from the other side and one has a
    loop besides. References are in capitals of their own. -/
def Diagram.clinic : Diagram where
  entities := [
    ⟨"Visit", .weak, [], [⟨"day", .partialKey⟩]⟩,
    ⟨"Person", .superclass, ["partial", "overlap"], [⟨"id", .primary⟩, ⟨"role(doctor?, patient?)", .plain⟩]⟩,
    ⟨"Doctor", .subclass, ["PERSON"], []⟩,
    ⟨"Note", .weak, [], [⟨"page", .partialKey⟩]⟩,
    ⟨"Patient", .subclass, ["person"], []⟩]
  relationships := [
    ⟨"VISIT", .exactlyOne, "follows", .zeroOrOne, "visit", .double, []⟩,
    ⟨"visit", .zeroOrMany, "of", .exactlyOne, "PATIENT", .double, []⟩,
    ⟨"doctor", .exactlyOne, "writes", .zeroOrMany, "NOTE", .double, []⟩,
    ⟨"Note", .zeroOrMany, "on", .exactlyOne, "Visit", .single, []⟩]

theorem Diagram.Valid.exists_impliedEdges_clinic : clinic.Valid ∧ ∃ hierarchies ownerships : List ImpliedEdge,
    clinic.impliedEdges = hierarchies ++ ownerships ∧
      List.Forall₂
        (fun (e, index) edge => ∃ parent, clinic.IsParent index e parent ∧ edge = .hierarchy parent.name e.name)
        (clinic.entities.zipIdx.filter fun (e, _) => e.kind = .subclass) hierarchies ∧
      List.Forall₂ (fun weak edge => ∃ owner, clinic.IsOwner owner weak ∧ edge = .ownership owner.name weak.name)
        (clinic.entities.filter (·.kind = .weak)) ownerships := by
  have valid : clinic.Valid := by decide +kernel
  exact ⟨valid, valid.exists_impliedEdges⟩

/-! ### Chains of edges -/

/-- There is an implied edge from the first name to the second. -/
def Diagram.Leads (d : Diagram) (a b : String) : Prop :=
  .hierarchy a b ∈ d.impliedEdges ∨ .ownership a b ∈ d.impliedEdges

/-- The names are those of two weak entities of which each is the owner of the other: the only line that ties either to
    another entity is the one between them. -/
def Diagram.OwnEachOther (d : Diagram) (a b : String) : Prop :=
  ∃ e other, e.kind = .weak ∧ e.name = a ∧ other.kind = .weak ∧ other.name = b ∧ d.IsOwner e other ∧ d.IsOwner other e

/-- The levels of the structure: a subclass stands above its superclass, and a weak entity above its owner. -/
def EntityKind.level : EntityKind → Nat
  | .strong | .associative | .superclass => 0
  | .subclass => 1
  | .weak => 2

/-- The level of the entity that the name refers to. -/
def Diagram.level (d : Diagram) (name : String) : Nat :=
  match d.resolve name with
  | .found _ e => e.kind.level
  | _ => 0

theorem mem_impliedEdges {edge : ImpliedEdge} : edge ∈ d.impliedEdges ↔
    (∃ e ∈ d.entities, d.hierarchyEdge? e = some edge) ∨ ∃ e ∈ d.entities, edge ∈ d.ownershipEdges e := by
  rw [Diagram.impliedEdges, List.mem_append, List.mem_filterMap, List.mem_flatMap]

theorem Diagram.IsOwner.mem_impliedEdges (is_owner : d.IsOwner owner weak) (h : d.Valid) (member : weak ∈ d.entities)
    (kind : weak.kind = .weak) : .ownership owner.name weak.name ∈ d.impliedEdges := by
  refine ErDiagram.mem_impliedEdges.mpr (Or.inr ⟨weak, member, ?_⟩)
  rw [is_owner.ownershipEdges h kind]
  exact List.mem_singleton_self _

theorem Diagram.IsOwner.ownEachOther (is_owner : d.IsOwner owner weak) (h : d.Valid) (member : weak ∈ d.entities)
    (kind : weak.kind = .weak) (owner_kind : owner.kind = .weak) : d.OwnEachOther owner.name weak.name :=
  ⟨owner, weak, owner_kind, rfl, kind, rfl, is_owner, is_owner.symm h member owner_kind⟩

/-- An edge of either sort comes from the parent or the owner of the entity that it leads to. -/
theorem Diagram.Valid.of_mem_impliedEdges (h : d.Valid) {edge : ImpliedEdge} (member : edge ∈ d.impliedEdges) :
    (∃ index e parent, d.entities[index]? = some e ∧ e.kind = .subclass ∧ d.IsParent index e parent ∧
        edge = .hierarchy parent.name e.name) ∨
      ∃ weak owner, weak ∈ d.entities ∧ weak.kind = .weak ∧ d.IsOwner owner weak ∧
        edge = .ownership owner.name weak.name := by
  rcases mem_impliedEdges.mp member with ⟨e, member, given⟩ | ⟨weak, member, given⟩
  · by_cases kind : e.kind = .subclass
    · obtain ⟨index, at_index⟩ := List.getElem?_of_mem member
      obtain ⟨parent, is_parent⟩ := h.exists_parent at_index kind
      rw [is_parent.hierarchyEdge? h at_index kind] at given
      exact Or.inl ⟨index, e, parent, at_index, kind, is_parent, (Option.some.inj given).symm⟩
    · rw [hierarchyEdge?_of_ne_subclass kind] at given
      cases given
  · by_cases kind : weak.kind = .weak
    · obtain ⟨owner, is_owner⟩ := h.exists_owner member kind
      rw [is_owner.ownershipEdges h kind, List.mem_singleton] at given
      exact Or.inr ⟨weak, owner, member, kind, is_owner, given⟩
    · rw [ownershipEdges_of_ne_weak kind] at given
      cases given

theorem Diagram.Valid.level_name (h : d.Valid) (member : e ∈ d.entities) : d.level e.name = e.kind.level := by
  obtain ⟨index, at_index⟩ := List.getElem?_of_mem member
  rw [Diagram.level, resolve_name h.wellFormed.distinct at_index]

theorem Diagram.Valid.level_lt_of_hierarchy (h : d.Valid) (member : .hierarchy a b ∈ d.impliedEdges) :
    d.level a < d.level b := by
  rcases h.of_mem_impliedEdges member with ⟨index, e, parent, at_index, kind, is_parent, same⟩ | ⟨_, _, _, _, _, same⟩
  · cases same
    obtain ⟨place, -, at_place⟩ := is_parent.earlier
    rw [h.level_name (List.mem_of_getElem? at_place), h.level_name (List.mem_of_getElem? at_index), is_parent.kind,
      kind]
    decide
  · cases same

/-- An owner stands at a lower level, or it is weak and owned in turn. -/
theorem Diagram.Valid.level_of_ownership (h : d.Valid) (member : .ownership a b ∈ d.impliedEdges) :
    d.level a < d.level b ∨ d.level a = d.level b ∧ d.OwnEachOther a b := by
  rcases h.of_mem_impliedEdges member with ⟨_, _, _, _, _, _, same⟩ | ⟨weak, owner, declared, kind, is_owner, same⟩
  · cases same
  · cases same
    rw [h.level_name is_owner.member, h.level_name declared, kind]
    cases owner_kind : owner.kind with
    | weak => exact Or.inr ⟨rfl, is_owner.ownEachOther h declared kind owner_kind⟩
    | _ => exact Or.inl (by decide)

theorem Diagram.Valid.level_of_leads (h : d.Valid) (leads : d.Leads a b) :
    d.level a < d.level b ∨ d.level a = d.level b ∧ d.OwnEachOther a b := by
  rcases leads with member | member
  · exact Or.inl (h.level_lt_of_hierarchy member)
  · exact h.level_of_ownership member

theorem Diagram.Valid.level_le_of_chain (h : d.Valid) (chain : Relation.ReflTransGen d.Leads a b) :
    d.level a ≤ d.level b := by
  induction chain with
  | refl => exact Nat.le_refl _
  | tail _ leads ih =>
    rcases h.level_of_leads leads with lower | ⟨same, -⟩
    · exact ih.trans (Nat.le_of_lt lower)
    · exact ih.trans (Nat.le_of_eq same)

theorem Diagram.Valid.exists_ownEachOther (h : d.Valid) (chain : Relation.TransGen d.Leads a a) :
    ∃ partner, d.OwnEachOther a partner := by
  -- Levels do not fall along a chain, so the first edge of one that comes back cannot raise them.
  obtain ⟨c, first, rest⟩ := Relation.TransGen.head'_iff.mp chain
  rcases h.level_of_leads first with lower | ⟨-, both⟩
  · exact absurd (h.level_le_of_chain rest) (Nat.not_le_of_lt lower)
  · exact ⟨c, both⟩

theorem Diagram.OwnEachOther.chain (both : d.OwnEachOther a b) (h : d.Valid) : Relation.TransGen d.Leads a a := by
  obtain ⟨e, other, kind, rfl, kind', rfl, owns, owns'⟩ := both
  have there : d.Leads e.name other.name := Or.inr (owns.mem_impliedEdges h owns'.member kind')
  have back : d.Leads other.name e.name := Or.inr (owns'.mem_impliedEdges h owns.member kind)
  exact .tail (.single there) back

/-- In a valid diagram an entity leads back to itself just when it and another weak entity own each other. The owner of
    a weak entity is not weak, and the chain of owners ends there, or the two own each other. Where none do, the edges
    are well-founded. -/
theorem Diagram.Valid.leads_to_itself_iff (h : d.Valid) :
    (∀ name, Relation.TransGen d.Leads name name ↔ ∃ partner, d.OwnEachOther name partner) ∧
      (∀ weak ∈ d.entities, weak.kind = .weak → ∃ owner, d.IsOwner owner weak ∧
        .ownership owner.name weak.name ∈ d.impliedEdges ∧
          (owner.kind ≠ .weak ∨ d.OwnEachOther owner.name weak.name)) ∧
      ((∀ a b, ¬d.OwnEachOther a b) → WellFounded d.Leads) := by
  refine ⟨fun name => ⟨h.exists_ownEachOther, fun ⟨_, both⟩ => both.chain h⟩, fun weak member kind => ?_, fun none => ?_⟩
  · obtain ⟨owner, is_owner⟩ := h.exists_owner member kind
    refine ⟨owner, is_owner, is_owner.mem_impliedEdges h member kind, ?_⟩
    by_cases owner_kind : owner.kind = .weak
    · exact Or.inr (is_owner.ownEachOther h member kind owner_kind)
    · exact Or.inl owner_kind
  · refine Subrelation.wf (fun {a b} leads => ?_) (measure d.level).wf
    exact (h.level_of_leads leads).resolve_right fun both => none a b both.2

end

/-- Two weak entities and one double line between them. -/
def Diagram.twins : Diagram where
  entities := [⟨"Left", .weak, [], [⟨"side", .partialKey⟩]⟩, ⟨"Right", .weak, [], [⟨"side", .partialKey⟩]⟩]
  relationships := [⟨"Left", .exactlyOne, "mirrors", .exactlyOne, "Right", .double, []⟩]

theorem Diagram.Valid.leads_to_itself_iff_twins : twins.Valid ∧
    (∀ name, Relation.TransGen twins.Leads name name ↔ ∃ partner, twins.OwnEachOther name partner) ∧
      (∀ weak ∈ twins.entities, weak.kind = .weak → ∃ owner, twins.IsOwner owner weak ∧
        .ownership owner.name weak.name ∈ twins.impliedEdges ∧
          (owner.kind ≠ .weak ∨ twins.OwnEachOther owner.name weak.name)) ∧
      ((∀ a b, ¬twins.OwnEachOther a b) → WellFounded twins.Leads) := by
  have valid : twins.Valid := by decide +kernel
  exact ⟨valid, valid.leads_to_itself_iff⟩

/-- A valid diagram whose entities are all weak: each is the owner of its owner. -/
theorem Diagram.twins_lead_back : twins.Valid ∧ Relation.TransGen twins.Leads "Left" "Left" ∧
    ∀ e ∈ twins.entities, e.kind = .weak := by
  have valid : twins.Valid := by decide +kernel
  have edges : twins.impliedEdges = [.ownership "Right" "Left", .ownership "Left" "Right"] := by decide +kernel
  have there : twins.Leads "Left" "Right" := Or.inr (by simp [edges])
  have back : twins.Leads "Right" "Left" := Or.inr (by simp [edges])
  exact ⟨valid, .tail (.single there) back, by decide⟩

end ErDiagram
