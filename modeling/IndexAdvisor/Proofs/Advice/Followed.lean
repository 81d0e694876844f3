import IndexAdvisor.Proofs.Advice.Hot

/-! # Advice that is followed

Once an advised index is there it is advised no more, and the others are advised as before, in the same
order. Dropping a candidate never lets another one through: both would have been trimmed to the same
columns. So advice that is followed to the end is used up.
-/

namespace IndexAdvisor

namespace Entries

variable {α : Type} {entries more : Entries α}

def putAll (entries more : Entries α) : Entries α :=
  more.foldl (fun entries entry => entries.put entry.1 entry.2) entries

theorem put_of_new {name : String} (new : name ∉ entries.names) (value : α) :
    entries.put name value = entries ++ [(name, value)] := by
  induction entries with
  | nil => rfl
  | cons entry rest ih =>
      obtain ⟨other, v⟩ := entry
      obtain ⟨apart, later⟩ := not_or.mp (mt List.mem_cons.mpr new)
      rw [put, if_neg (Ne.symm apart), ih later, List.cons_append]

theorem putAll_of_new (distinct : more.names.Nodup) (new : ∀ name ∈ more.names, name ∉ entries.names) :
    entries.putAll more = entries ++ more := by
  induction more generalizing entries with
  | nil => exact (List.append_nil entries).symm
  | cons entry rest ih =>
      obtain ⟨name, value⟩ := entry
      obtain ⟨here, later⟩ := List.forall_mem_cons.mp new
      obtain ⟨unlisted, distinct⟩ := List.nodup_cons.mp distinct
      -- what comes after the first entry is new beside it, too, as the names are distinct
      have still : ∀ other ∈ names rest, other ∉ names (entries ++ [(name, value)]) := by
        intro other mem listed
        rw [names, List.map_append, List.mem_append] at listed
        rcases listed with before | same
        · exact later other mem before
        · rw [List.mem_singleton.mp same] at mem
          exact unlisted mem
      calc putAll entries ((name, value) :: rest)
          = putAll (entries ++ [(name, value)]) rest := by rw [putAll, List.foldl_cons, put_of_new here, putAll]
        _ = entries ++ [(name, value)] ++ rest := ih distinct still
        _ = entries ++ (name, value) :: rest := by rw [List.append_assoc, List.singleton_append]

end Entries

/-- Indexes in their order, with ranks that count from one on. -/
def IndexAdvice.reranked (indexes : List IndexAdvice) : List IndexAdvice :=
  indexes.zipIdx.map fun (index, place) => { index with rank := place + 1 }

theorem IndexAdvice.columns_reranked (indexes : List IndexAdvice) :
    (reranked indexes).map (·.columns) = indexes.map (·.columns) := by
  calc (reranked indexes).map (·.columns)
      = (indexes.zipIdx.map (·.1)).map (·.columns) := by rw [reranked, List.map_map, List.map_map]; rfl
    _ = indexes.map (·.columns) := by rw [List.zipIdx_map_fst]

namespace TableSchema

variable {table : TableSchema} {usage : Tracker} {more : Entries (List String)}

def withIndexes (table : TableSchema) (more : Entries (List String)) : TableSchema :=
  { table with indexes := Entries.putAll table.indexes more }

theorem advisedColumns_withIndexes (distinct : more.names.Nodup)
    (new : ∀ name ∈ more.names, name ∉ table.indexes.names) :
    (table.withIndexes more).advisedColumns usage
      = (table.advisedColumns usage).filter fun columns => columns ∉ more.values := by
  have values : (table.withIndexes more).indexes.values = table.indexes.values ++ more.values := by
    rw [withIndexes, Entries.putAll_of_new distinct new, Entries.values, List.map_append]
    rfl
  have fresh (columns : List String) : (!(table.indexes.values ++ more.values).contains columns)
      = (decide (columns ∉ more.values) && !table.indexes.values.contains columns) := by
    rw [List.contains_append, Bool.not_or, Bool.and_comm, List.contains_eq_mem, decide_not]
  -- the candidates do not depend on the indexes, only what is left of them does
  rw [advisedColumns, values, advisedColumns, Text.filter_eraseDups, List.filter_filter]
  simp only [fresh]
  rfl

/-- A part of the advised indexes is what is made of the same part of their columns. -/
theorem reranked_filter (table : TableSchema) (usage : Tracker) (keep : List String → Bool) :
    IndexAdvice.reranked ((table.indexAdvice usage).filter (keep ·.columns))
      = ((table.advisedColumns usage).filter keep).zipIdx.map fun (columns, place) =>
          table.indexOn (usage.updates table.name) columns (place + 1) := by
  let made (entry : List String × Nat) := table.indexOn (usage.updates table.name) entry.1 (entry.2 + 1)
  let kept := (table.advisedColumns usage).zipIdx.filter fun entry => keep entry.1
  have columns : kept.map (·.1) = (table.advisedColumns usage).filter keep := by
    calc kept.map (·.1)
        = ((table.advisedColumns usage).zipIdx.map (·.1)).filter keep := by rw [List.filter_map]; rfl
      _ = (table.advisedColumns usage).filter keep := by rw [List.zipIdx_map_fst]
  have indexes : (table.indexAdvice usage).filter (keep ·.columns) = kept.map made := by
    rw [indexAdvice, List.filter_map]
    rfl
  rw [← columns, indexes, IndexAdvice.reranked, List.zipIdx_map, List.zipIdx_map, List.map_map, List.map_map]
  rfl

/-- With more indexes, whatever their names, exactly those of the advised indexes are advised that are not
    among them, in the same order; none is, if all are among them. -/
theorem indexAdvice_withIndexes (table : TableSchema) (usage : Tracker) (distinct : more.names.Nodup)
    (new : ∀ name ∈ more.names, name ∉ table.indexes.names) :
    (table.withIndexes more).indexAdvice usage = IndexAdvice.reranked
        ((table.indexAdvice usage).filter fun index => index.columns ∉ more.values) ∧
      ((∀ index ∈ table.indexAdvice usage, index.columns ∈ more.values) →
        (table.withIndexes more).indexAdvice usage = []) := by
  have remaining : (table.withIndexes more).indexAdvice usage = IndexAdvice.reranked
      ((table.indexAdvice usage).filter fun index => index.columns ∉ more.values) := by
    rw [table.reranked_filter usage fun columns => columns ∉ more.values,
      ← advisedColumns_withIndexes distinct new]
    rfl
  refine ⟨remaining, fun followed => ?_⟩
  have nothing : ((table.indexAdvice usage).filter fun index => index.columns ∉ more.values) = [] := by
    refine List.filter_eq_nil_iff.mpr fun index mem => ?_
    simpa using followed index mem
  rw [remaining, nothing]
  rfl

/-- One of the two advised indexes is created, and then the other as well. -/
theorem indexAdvice_withIndexes_accounts :
    let first : Entries (List String) := [("accounts_balance", ["balance"])]
    let both : Entries (List String) := ("accounts_balance_state", ["balance", "state"]) :: first
    (both.names.Nodup ∧ ∀ name ∈ both.names, name ∉ accounts.indexes.names) ∧
      ((accounts.withIndexes first).indexAdvice .accounts).map (·.columns) = [["balance", "state"]] ∧
      (accounts.withIndexes both).indexAdvice .accounts = [] := by
  intro first both
  have distinct : both.names.Nodup := by decide
  have new : ∀ name ∈ both.names, name ∉ accounts.indexes.names := by decide
  refine ⟨⟨distinct, new⟩, ?_, ?_⟩
  · have remaining := (indexAdvice_withIndexes accounts .accounts (List.nodup_cons.mp distinct).2
      fun name mem => new name (List.mem_cons_of_mem _ mem)).1
    have kept := congrArg (List.filter fun columns => columns ∉ first.values) columns_accounts
    rw [List.filter_map] at kept
    rw [remaining, IndexAdvice.columns_reranked]
    exact kept
  · refine (indexAdvice_withIndexes accounts .accounts distinct new).2 fun index mem => ?_
    have advised : index.columns ∈ [["balance", "state"], ["balance"]] := by
      rw [← columns_accounts]
      exact List.mem_map_of_mem mem
    have followed : ∀ columns ∈ [["balance", "state"], ["balance"]], columns ∈ both.values := by decide
    exact followed _ advised

end TableSchema

end IndexAdvisor
