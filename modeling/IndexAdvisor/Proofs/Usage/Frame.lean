import IndexAdvisor.Proofs.Text.Ordered
import IndexAdvisor.Proofs.Usage.Absorb

/-! # What a statement may add to the usage

Facts are only added, and those of one statement are under its query id and about its own tables.
`Gains` says so of the facts that a tracker keeps, and `Framed` of what is read off it: the usage of
other tables and under other queries is the same, and nothing that was there is gone.
-/

namespace IndexAdvisor

open Text

/-! ## Added facts -/

/-- The second list is the first with more facts before it, all of a kind. -/
def Adds {α : Type} (P : α → Prop) (old new : List α) : Prop :=
  ∃ more, new = more ++ old ∧ ∀ fact ∈ more, P fact

namespace Adds

variable {α : Type} {P : α → Prop} {old between new : List α}

theorem refl (P : α → Prop) (old : List α) : Adds P old old := ⟨[], rfl, nofun⟩

theorem trans (first : Adds P old between) (second : Adds P between new) : Adds P old new := by
  obtain ⟨more, rfl, fine⟩ := first
  obtain ⟨later, rfl, fine'⟩ := second
  refine ⟨later ++ more, (List.append_assoc ..).symm, fun fact mem => ?_⟩
  exact (List.mem_append.mp mem).elim (fine' fact) (fine fact)

theorem note [BEq α] [LawfulBEq α] {fact : α} (fine : P fact) : Adds P old (note fact old) := by
  by_cases known : fact ∈ old
  · rw [note_of_mem known]
    exact refl P old
  · refine ⟨[fact], by simp [IndexAdvisor.note, known], fun other mem => ?_⟩
    rwa [List.mem_singleton.mp mem]

/-- A reading that looks at none of the added facts is the same. -/
theorem filter_eq (adds : Adds P old new) {p : α → Bool} (apart : ∀ fact, P fact → p fact = false) :
    new.filter p = old.filter p := by
  obtain ⟨more, rfl, fine⟩ := adds
  have nothing : more.filter p = [] := by
    refine List.filter_eq_nil_iff.mpr fun fact mem => ?_
    simp [apart fact (fine fact mem)]
  rw [List.filter_append, nothing, List.nil_append]

theorem filter (adds : Adds P old new) (p : α → Bool) :
    Adds (fun fact => P fact ∧ p fact) (old.filter p) (new.filter p) := by
  obtain ⟨more, rfl, fine⟩ := adds
  refine ⟨more.filter p, List.filter_append .., fun fact mem => ?_⟩
  obtain ⟨listed, holds⟩ := List.mem_filter.mp mem
  exact ⟨fine fact listed, holds⟩

theorem subset (adds : Adds P old new) : old ⊆ new := by
  obtain ⟨more, rfl, -⟩ := adds
  exact List.subset_append_right more old

end Adds

namespace Tracker

/-- The facts of the second tracker are those of the first and more of one statement, of the given
    kind, under the id of its query and about its tables. -/
structure Gains (query : String) (kind : StatementKind) (tables : List String) (u v : Tracker) :
    Prop where
  joined : Adds (fun fact => fact.query = query ∧ fact.table ∈ tables) u.joined v.joined
  filtered : Adds (fun fact => fact.query = query ∧ fact.table ∈ tables) u.filtered v.filtered
  updated : Adds (fun fact => kind = .update ∧ fact.table ∈ tables) u.updated v.updated
  touched : Adds (fun fact => fact.query = query ∧ ∀ t, fact.table = some t → t ∈ tables)
    u.touched v.touched

namespace Gains

variable {query : String} {kind : StatementKind} {tables : List String} {u v w : Tracker}

theorem refl (u : Tracker) : u.Gains query kind tables u := ⟨.refl _ _, .refl _ _, .refl _ _, .refl _ _⟩

theorem trans (first : u.Gains query kind tables v) (second : v.Gains query kind tables w) :
    u.Gains query kind tables w :=
  ⟨first.joined.trans second.joined, first.filtered.trans second.filtered,
    first.updated.trans second.updated, first.touched.trans second.touched⟩

section Recording

variable {table : String} (u) (mem : table ∈ tables) (column : String)

include mem

theorem recordJoin : u.Gains query kind tables (u.recordJoin table query column) :=
  { refl u with joined := .note ⟨rfl, mem⟩ }

theorem recordFilter : u.Gains query kind tables (u.recordFilter table query column) :=
  { refl u with filtered := .note ⟨rfl, mem⟩ }

theorem recordUpdate : u.Gains query .update tables (u.recordUpdate table column) :=
  { (refl u : u.Gains query .update tables u) with updated := .note ⟨rfl, mem⟩ }

end Recording

theorem recordTouch (u : Tracker) {target : Option String} (mem : ∀ t, target = some t → t ∈ tables) :
    u.Gains query kind tables (u.recordTouch kind target query) :=
  { refl u with touched := .note ⟨rfl, mem⟩ }

end Gains

/-! ## Readings -/

/-- The columns of a table that a query uses, by the facts. -/
def columnsOf (table query : String) (uses : List ColumnUse) : List String :=
  ((uses.filter (·.table = table)).filter (·.query = query)).map (·.column)

theorem lookup_byQuery (table query : String) (uses : List ColumnUse) :
    (byQuery table uses).lookup query
      = if columnsOf table query uses = [] then none else some (columnsOf table query uses) := by
  let own := uses.filter (·.table = table)
  have keys : query ∈ sortedDistinct (own.map (·.query)) ↔ columnsOf table query uses ≠ [] := by
    rw [sortedDistinct, mem_sorted, List.mem_eraseDups, columnsOf, Ne, List.map_eq_nil_iff,
      List.filter_eq_nil_iff]
    simp [own, and_assoc]
  by_cases used : columnsOf table query uses = []
  · rw [if_pos used, List.lookup_eq_none_iff]
    intro entry mem
    obtain ⟨key, listed, rfl⟩ := List.mem_map.mp mem
    refine bne_iff_ne.mpr fun same => ?_
    exact (keys.mp (same ▸ listed)) used
  · rw [if_neg used]
    exact List.lookup_graph (fun query => (own.filter (·.query = query)).map (·.column)) (keys.mpr used)

theorem lookup_joins (u : Tracker) (table query : String) :
    (u.joins table).lookup query = ((byQuery table u.joined).lookup query).map sorted := by
  rw [joins]
  induction byQuery table u.joined with
  | nil => rfl
  | cons entry rest ih =>
      obtain ⟨key, columns⟩ := entry
      rw [List.map_cons, List.lookup_cons, List.lookup_cons, ih]
      cases query == key <;> rfl

section Added

variable {P : ColumnUse → Prop} {old new : List ColumnUse}

theorem byQuery_eq (adds : Adds P old new) {table : String}
    (apart : ∀ fact, P fact → fact.table ≠ table) : byQuery table new = byQuery table old := by
  have same := adds.filter_eq (p := (·.table = table)) fun fact holds => by simp [apart fact holds]
  rw [byQuery, byQuery, same]

theorem columnsOf_eq (adds : Adds P old new) (table : String) {id : String}
    (apart : ∀ fact, P fact → fact.query ≠ id) : columnsOf table id new = columnsOf table id old := by
  have same := (adds.filter (·.table = table)).filter_eq (p := (·.query = id)) fun fact holds => by
    simp [apart fact holds.1]
  rw [columnsOf, columnsOf, same]

theorem lookup_byQuery_kept (adds : Adds P old new) {table id : String} {columns : List String}
    (found : (byQuery table old).lookup id = some columns) :
    ∃ more, (byQuery table new).lookup id = some (more ++ columns) := by
  rw [lookup_byQuery] at found
  split at found
  · exact nomatch found
  · next used =>
      obtain rfl := Option.some.inj found
      obtain ⟨more, split, -⟩ := (adds.filter (·.table = table)).filter (·.query = id)
      have same : columnsOf table id new = more.map (·.column) ++ columnsOf table id old := by
        rw [columnsOf, split, List.map_append, columnsOf]
      refine ⟨more.map (·.column), ?_⟩
      rw [lookup_byQuery, same, if_neg (by simp [used])]

end Added

/-- The second tracker reads like the first, but for what one statement adds: it is of a kind, has a
    query id and is about some tables. -/
structure Framed (query : String) (kind : StatementKind) (tables : List String) (u v : Tracker) :
    Prop where
  /-- Every other table is used as before. -/
  elsewhere : ∀ t ∉ tables, v.joins t = u.joins t ∧ v.filters t = u.filters t ∧
    v.updates t = u.updates t ∧ ∀ k, v.queries k (some t) = u.queries k (some t)
  /-- Every other query uses the same columns, and is known to touch the same tables. -/
  others : ∀ id ≠ query, (∀ t, (v.joins t).lookup id = (u.joins t).lookup id ∧
    (v.filters t).lookup id = (u.filters t).lookup id) ∧
      ∀ k target, id ∈ v.queries k target ↔ id ∈ u.queries k target
  joins : ∀ t id columns, (u.joins t).lookup id = some columns →
    ∃ more, (v.joins t).lookup id = some more ∧ columns ⊆ more
  filters : ∀ t id columns, (u.filters t).lookup id = some columns →
    ∃ more, (v.filters t).lookup id = some (more ++ columns)
  updates : ∀ t, u.updates t ⊆ v.updates t
  queries : ∀ k target, u.queries k target ⊆ v.queries k target
  /-- Only an `UPDATE` updates columns. -/
  unassigned : kind ≠ .update → ∀ t, v.updates t = u.updates t

namespace Gains

variable {query : String} {kind : StatementKind} {tables : List String} {u v : Tracker}

theorem framed (gains : u.Gains query kind tables v) : u.Framed query kind tables v where
  elsewhere := by
    intro t other
    -- what is added is about the tables of the statement, so it is not found for others
    have apart (fact : ColumnUse) (new : fact.query = query ∧ fact.table ∈ tables) :
        fact.table ≠ t := fun same => other (same ▸ new.2)
    refine ⟨?_, byQuery_eq gains.filtered apart, ?_, fun k => ?_⟩
    · rw [Tracker.joins, byQuery_eq gains.joined apart, Tracker.joins]
    · rw [Tracker.updates, Tracker.updates, gains.updated.filter_eq fun fact new => ?_]
      exact decide_eq_false fun same => other (same ▸ new.2)
    · rw [Tracker.queries, Tracker.queries, gains.touched.filter_eq fun fact new => ?_]
      exact decide_eq_false fun same => other (new.2 t same.2)
  others := by
    intro id other
    have apart (fact : ColumnUse) (new : fact.query = query ∧ fact.table ∈ tables) :
        fact.query ≠ id := fun same => other (same.symm.trans new.1)
    refine ⟨fun t => ⟨?_, ?_⟩, fun k target => ?_⟩
    · rw [lookup_joins, lookup_joins, lookup_byQuery, lookup_byQuery,
        columnsOf_eq gains.joined t apart]
    · rw [Tracker.filters, Tracker.filters, lookup_byQuery, lookup_byQuery,
        columnsOf_eq gains.filtered t apart]
    · obtain ⟨more, split, new⟩ := gains.touched
      simp only [Tracker.queries, mem_sorted, split, List.filter_append, List.map_append,
        List.mem_append, or_iff_right_iff_imp]
      intro added
      obtain ⟨fact, mem, rfl⟩ := List.mem_map.mp added
      exact absurd (new fact (List.mem_of_mem_filter mem)).1 other
  joins := by
    intro t id columns found
    rw [lookup_joins] at found ⊢
    obtain ⟨before, looked, rfl⟩ := Option.map_eq_some_iff.mp found
    obtain ⟨more, after⟩ := lookup_byQuery_kept gains.joined looked
    refine ⟨sorted (more ++ before), by rw [after, Option.map_some], fun column mem => ?_⟩
    rw [mem_sorted] at mem ⊢
    exact List.mem_append_right more mem
  filters := fun _ _ _ found => lookup_byQuery_kept gains.filtered found
  updates := by
    intro t column mem
    rw [Tracker.updates, mem_sorted] at mem ⊢
    exact List.map_subset _ (gains.updated.filter _).subset mem
  queries := by
    intro k target id mem
    rw [Tracker.queries, mem_sorted] at mem ⊢
    exact List.map_subset _ (gains.touched.filter _).subset mem
  unassigned := by
    intro other t
    rw [Tracker.updates, Tracker.updates, gains.updated.filter_eq fun fact new => ?_]
    exact absurd new.1 other

end Gains

end Tracker

end IndexAdvisor
