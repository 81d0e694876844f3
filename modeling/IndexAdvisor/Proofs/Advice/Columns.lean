import IndexAdvisor.Advice
import IndexAdvisor.Proofs.Text.Ordered

/-! # Columns of advice

Advice on a table names the columns that queries filter or join on and those of its foreign keys, and
no others. A used column that is not updated is always part of the advised key.
-/

namespace IndexAdvisor

/-- A query filters or joins on a column of the table. -/
def Tracker.Uses (u : Tracker) (table column : String) : Prop :=
  ∃ fact, (fact ∈ u.joined ∨ fact ∈ u.filtered) ∧ fact.table = table ∧ fact.column = column

def TableAdvice.columns (advice : TableAdvice) : List String :=
  (advice.key.map (·.columns)).getD [] ++ advice.indexes.flatMap (·.columns)

namespace Tracker

theorem mem_columns_byQuery {table column : String} {uses : List ColumnUse} :
    column ∈ (byQuery table uses).flatMap (·.2) ↔
      ∃ fact ∈ uses, fact.table = table ∧ fact.column = column := by
  rw [byQuery, List.mem_flatMap]
  constructor
  · rintro ⟨use, mem, listed⟩
    obtain ⟨query, -, rfl⟩ := List.mem_map.mp mem
    obtain ⟨fact, own, rfl⟩ := List.mem_map.mp listed
    obtain ⟨known, same⟩ := List.mem_filter.mp (List.mem_of_mem_filter own)
    exact ⟨fact, known, of_decide_eq_true same, rfl⟩
  · rintro ⟨fact, known, same, rfl⟩
    have listed : fact ∈ uses.filter (·.table = table) :=
      List.mem_filter.mpr ⟨known, decide_eq_true same⟩
    have query : fact.query ∈ Text.sortedDistinct ((uses.filter (·.table = table)).map (·.query)) := by
      rw [Text.sortedDistinct, Text.mem_sorted, List.mem_eraseDups]
      exact List.mem_map_of_mem listed
    exact ⟨_, List.mem_map_of_mem query,
      List.mem_map_of_mem (List.mem_filter.mpr ⟨listed, decide_eq_true rfl⟩)⟩

variable {u : Tracker} {table column : String}

theorem mem_columns_joins :
    column ∈ (u.joins table).flatMap (·.2) ↔
      ∃ fact ∈ u.joined, fact.table = table ∧ fact.column = column := by
  rw [← mem_columns_byQuery]
  simp [joins, Text.mem_sorted]

theorem uses_iff : u.Uses table column ↔
    column ∈ (u.joins table ++ u.filters table).flatMap (·.2) := by
  rw [List.flatMap_append, List.mem_append, mem_columns_joins, filters, mem_columns_byQuery, Uses]
  simp only [or_and_right, exists_or]

theorem Uses.hasKeyUsage (uses : u.Uses table column) : u.hasKeyUsage table := by
  obtain ⟨fact, either, same, -⟩ := uses
  rw [Tracker.hasKeyUsage, Bool.or_eq_true, List.any_eq_true, List.any_eq_true]
  exact either.imp (fun mem => ⟨fact, mem, decide_eq_true same⟩)
    fun mem => ⟨fact, mem, decide_eq_true same⟩

end Tracker

namespace TableSchema

variable {table : TableSchema} {usage : Tracker} {column : String}

theorem mem_keyColumns : column ∈ table.keyColumns usage ↔
    usage.Uses table.name column ∧ column ∉ usage.updates table.name := by
  rw [Tracker.uses_iff, keyColumns, Text.sortedDistinct, Text.mem_sorted, List.mem_eraseDups,
    List.mem_filter]
  simp

theorem columns_keyAdvice (table : TableSchema) (usage : Tracker) :
    ((table.keyAdvice? usage).map (·.columns)).getD [] = table.keyColumns usage := by
  cases found : table.keyColumns usage <;> simp [keyAdvice?, found]

theorem of_mem_candidates {candidate : List String} (mem : candidate ∈ table.candidates usage)
    (listed : column ∈ candidate) :
    usage.Uses table.name column ∨ ∃ key ∈ table.importedKeys, key.column = column := by
  rw [candidates, List.mem_eraseDups, List.mem_filter, List.mem_append, List.mem_append] at mem
  rw [Tracker.uses_iff, List.flatMap_append, List.mem_append]
  rcases mem.1 with (filtered | joined) | keyed
  · obtain ⟨use, known, rfl⟩ := List.mem_map.mp filtered
    exact .inl (.inr (List.mem_flatMap.mpr ⟨use, known, listed⟩))
  · obtain ⟨use, known, single⟩ := List.mem_flatMap.mp joined
    obtain ⟨other, own, rfl⟩ := List.mem_map.mp single
    rw [List.mem_singleton.mp listed]
    exact .inl (.inl (List.mem_flatMap.mpr ⟨use, known, own⟩))
  · obtain ⟨key, known, rfl⟩ := List.mem_map.mp keyed
    exact .inr ⟨key, known, (List.mem_singleton.mp listed).symm⟩

theorem trimUpdated_subset (columns updated : List String) : trimUpdated columns updated ⊆ columns := by
  cases columns with
  | nil => exact List.Subset.refl _
  | cons first rest => exact List.cons_subset_cons first (List.filter_subset_self ..)

theorem of_mem_advisedColumns {columns : List String} (mem : columns ∈ table.advisedColumns usage)
    (listed : column ∈ columns) :
    usage.Uses table.name column ∨ ∃ key ∈ table.importedKeys, key.column = column := by
  rw [advisedColumns, List.mem_eraseDups] at mem
  obtain ⟨candidate, kept, rfl⟩ := List.mem_map.mp (List.mem_of_mem_filter mem)
  have ranked := List.mem_mergeSort.mp (List.mem_of_mem_filter kept)
  exact of_mem_candidates ranked (trimUpdated_subset _ _ listed)

/-- Advice on a table names only columns that are used, or of a foreign key. -/
theorem uses_of_advised (mem : column ∈ (table.advice usage).columns) :
    usage.Uses table.name column ∨ ∃ key ∈ table.importedKeys, key.column = column := by
  unfold TableAdvice.columns advice at mem
  by_cases used : usage.hasKeyUsage table.name
  · simp only [if_pos used] at mem
    rcases List.mem_append.mp mem with keyed | indexed
    · rw [columns_keyAdvice] at keyed
      exact .inl (mem_keyColumns.mp keyed).1
    · obtain ⟨index, made, listed⟩ := List.mem_flatMap.mp indexed
      obtain ⟨⟨columns, place⟩, numbered, rfl⟩ := List.mem_map.mp made
      exact of_mem_advisedColumns (List.fst_mem_of_mem_zipIdx numbered) listed
  · simp [used] at mem

/-- Advice on a table names every column that is used and not updated. -/
theorem advised_of_uses (uses : usage.Uses table.name column)
    (unchanged : column ∉ usage.updates table.name) : column ∈ (table.advice usage).columns := by
  have key : column ∈ table.keyColumns usage := mem_keyColumns.mpr ⟨uses, unchanged⟩
  refine List.mem_append_left _ ?_
  simp only [advice, if_pos uses.hasKeyUsage]
  rw [columns_keyAdvice]
  exact key

end TableSchema

end IndexAdvisor
