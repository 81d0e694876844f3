import IndexAdvisor.Proofs.Advice.Ranking

/-! # Advice and updates in place

Updated columns are trimmed from an advised index except where one leads it, and a candidate of several
columns that are all updated is dropped before. So the one index that stands in the way of updates in
place is that on a single updated column, which was a candidate as it is.

Of the indexes that are there, those with a column at risk are told in two ways: by the status of each
column, and by the indexes that hold an updated one.
-/

namespace IndexAdvisor

section Trimmed

variable {columns updated : List String} {column : String}

theorem not_updated_of_trimUpdated (listed : column ∈ (trimUpdated columns updated).tail) : column ∉ updated := by
  cases columns with
  | nil => cases listed
  | cons first rest => simpa using (List.mem_filter.mp listed).2

/-- A single updated column is all there was, or the candidate did not count. -/
theorem eq_of_trimUpdated_single (mem : column ∈ updated) (counts : ¬isOnlyUpdated columns updated)
    (single : trimUpdated columns updated = [column]) : columns = [column] := by
  cases columns with
  | nil => cases single
  | cons first rest =>
      obtain ⟨rfl, gone⟩ := List.cons.inj single
      have changed : ∀ other ∈ rest, other ∈ updated := by
        intro other listed
        simpa using List.filter_eq_nil_iff.mp gone other listed
      cases rest with
      | nil => rfl
      | cons second others =>
          have only : isOnlyUpdated (first :: second :: others) updated := by
            simpa [isOnlyUpdated, mem] using changed
          exact absurd only counts

end Trimmed

/-- The balance of accounts is updated. It is joined on, and filtered together with the state. -/
def Tracker.accounts : Tracker :=
  ⟨[⟨"accounts", "query.select.002", "balance"⟩],
    [⟨"accounts", "query.select.001", "balance"⟩, ⟨"accounts", "query.select.001", "state"⟩],
    [⟨"accounts", "balance"⟩], []⟩

namespace TableSchema

variable {table : TableSchema} {usage : Tracker} {updated : List String} {column : String}

/-! ## The status of a column -/

theorem mem_hotColumns {status : HotStatus} : (column, status) ∈ table.hotColumns usage ↔
    column ∈ table.columns.names ∧ table.hotStatus (usage.updates table.name) column = status := by
  simp [hotColumns]

theorem mem_indexedColumns : column ∈ table.indexedColumns ↔ ∃ index ∈ table.indexes, column ∈ index.2 := by
  rw [indexedColumns, List.mem_eraseDups, Entries.values, List.mem_flatten]
  simp only [List.mem_map, exists_exists_and_eq_and]

theorem hotStatus_eq_risk : table.hotStatus updated column = .risk ↔
    column ∈ updated ∧ ∃ index ∈ table.indexes, column ∈ index.2 := by
  rw [← mem_indexedColumns, hotStatus]
  by_cases changed : column ∈ updated <;> by_cases held : column ∈ table.indexedColumns <;>
    simp [changed, held]

theorem hotStatus_eq_plain : table.hotStatus updated column = .plain ↔ column ∉ updated := by
  rw [hotStatus]
  by_cases changed : column ∈ updated <;> by_cases held : column ∈ table.indexedColumns <;>
    simp [changed, held]

theorem mem_hotColumns_risk : (column, .risk) ∈ table.hotColumns usage ↔ column ∈ table.columns.names ∧
    column ∈ usage.updates table.name ∧ ∃ index ∈ table.indexes, column ∈ index.2 := by
  rw [mem_hotColumns, hotStatus_eq_risk]

/-! ## Advised indexes -/

theorem hotSafe_indexOn {columns : List String} {rank : Nat} :
    (table.indexOn updated columns rank).hotSafe = false ↔ ∃ column ∈ updated, columns = [column] := by
  rw [indexOn, Bool.not_eq_false', decide_eq_true_iff, List.length_eq_one_iff]
  constructor
  · rintro ⟨⟨column, rfl⟩, changed⟩
    exact ⟨column, by simpa using changed, rfl⟩
  · rintro ⟨column, mem, rfl⟩
    exact ⟨⟨column, rfl⟩, by simpa using mem⟩

/-- The candidate of an advised index, and whether the index leaves updates in place possible. -/
theorem of_mem_indexAdvice {index : IndexAdvice} (mem : index ∈ table.indexAdvice usage) :
    (∃ candidate ∈ table.counted usage, trimUpdated candidate (usage.updates table.name) = index.columns) ∧
      (index.hotSafe = false ↔ ∃ column ∈ usage.updates table.name, index.columns = [column]) := by
  obtain ⟨⟨columns, place⟩, numbered, rfl⟩ := List.mem_map.mp mem
  have advised : columns ∈ table.advisedColumns usage := List.fst_mem_of_mem_zipIdx numbered
  exact ⟨(mem_advisedColumns.mp advised).2, hotSafe_indexOn⟩

/-- An updated column only ever leads an advised index, and behind it none is at risk or updated by its
    status. Of several columns one is not updated. An index stands in the way of updates in place exactly if
    it is on a single updated column, and then every candidate that was trimmed to it is that column alone. -/
theorem indexAdvice_hot (table : TableSchema) (usage : Tracker) : ∀ index ∈ table.indexAdvice usage,
    let updated := usage.updates table.name
    (∀ column ∈ index.columns.tail, column ∉ updated ∧ (column, .risk) ∉ table.hotColumns usage ∧
      (column, .updated) ∉ table.hotColumns usage) ∧
    (2 ≤ index.columns.length → ∃ column ∈ index.columns, column ∉ updated) ∧
    (index.hotSafe = false ↔ ∃ column ∈ updated, index.columns = [column]) ∧
    (index.hotSafe = false → index.columns ∈ table.candidates usage ∧
      ∀ candidate ∈ table.counted usage, trimUpdated candidate updated = index.columns →
        candidate = index.columns) := by
  intro index mem updated
  obtain ⟨⟨candidate, counted, trimmed⟩, blocks_iff⟩ := of_mem_indexAdvice mem
  have behind : ∀ column ∈ index.columns.tail, column ∉ updated := by
    rw [← trimmed]
    exact fun column listed => not_updated_of_trimUpdated listed
  have alone {column : String} (changed : column ∈ updated) (single : index.columns = [column])
      {other : List String} (counted : other ∈ table.counted usage)
      (same : trimUpdated other updated = index.columns) : other = index.columns := by
    rw [single] at same ⊢
    exact eq_of_trimUpdated_single changed (by simpa using (List.mem_filter.mp counted).2) same
  refine ⟨?_, ?_, blocks_iff, ?_⟩
  · intro column listed
    have plain : table.hotStatus updated column = .plain := hotStatus_eq_plain.mpr (behind column listed)
    refine ⟨behind column listed, ?_, ?_⟩ <;>
      · rw [mem_hotColumns, plain]
        exact fun named => nomatch named.2
  · intro several
    match columns : index.columns, several with
    | first :: second :: rest, _ =>
        rw [columns] at behind
        exact ⟨second, by simp, behind second (by simp)⟩
  · intro blocks
    obtain ⟨column, changed, single⟩ := blocks_iff.mp blocks
    have same := alone changed single counted trimmed
    exact ⟨same ▸ List.mem_of_mem_filter counted, fun other counted => alone changed single counted⟩

/-- Accounts, with an index that holds the balance behind the state. -/
def accounts : TableSchema :=
  ⟨"accounts", [("id", .integer), ("balance", .numeric), ("state", .integer)], ["id"],
    [("accounts_state", ["state", "balance"])], [], []⟩

theorem columns_accounts :
    (accounts.indexAdvice .accounts).map (·.columns) = [["balance", "state"], ["balance"]] := by
  rw [columns_indexAdvice, advisedColumns, rankedCandidates, candidates]
  simp [accounts, Tracker.accounts, Tracker.filters, Tracker.joins, Tracker.updates, Tracker.byQuery,
    Text.sortedDistinct, Text.sorted, List.eraseDups_cons, isOnlyUpdated, trimUpdated, Entries.values,
    List.mergeSort]

/-- The index on both columns is led by the balance, and the one on the balance alone stands in the way of
    updates in place. -/
theorem indexAdvice_hot_accounts :
    ∃ both ∈ accounts.indexAdvice .accounts, both.columns = ["balance", "state"] ∧
      "state" ∉ Tracker.accounts.updates "accounts" ∧
    ∃ single ∈ accounts.indexAdvice .accounts, single.columns = ["balance"] ∧ single.hotSafe = false ∧
      ["balance"] ∈ accounts.candidates .accounts := by
  have advised (columns : List String) (listed : columns ∈ [["balance", "state"], ["balance"]]) :
      ∃ index ∈ accounts.indexAdvice .accounts, index.columns = columns := by
    rw [← columns_accounts] at listed
    exact List.mem_map.mp listed
  obtain ⟨both, mem, columns⟩ := advised ["balance", "state"] (by decide)
  obtain ⟨single, mem', columns'⟩ := advised ["balance"] (by decide)
  have leads := (indexAdvice_hot accounts .accounts both mem).1 "state" (by simp [columns])
  obtain ⟨-, -, blocks_iff, alone⟩ := indexAdvice_hot accounts .accounts single mem'
  have changed : "balance" ∈ Tracker.accounts.updates accounts.name := by
    simp [accounts, Tracker.accounts, Tracker.updates, Text.sorted]
  have blocks : single.hotSafe = false := blocks_iff.mpr ⟨"balance", changed, columns'⟩
  exact ⟨both, mem, columns, leads.1, single, mem', columns', blocks, columns' ▸ (alone blocks).1⟩

/-! ## Indexes that are there -/

/-- Every column that an index of the table holds is one of the table. -/
def HoldsOwn (table : TableSchema) : Prop :=
  ∀ index ∈ table.indexes, ∀ column ∈ index.2, column ∈ table.columns.names

/-- The status of the columns and the indexes that stand in the way of updates in place tell the same. -/
structure RisksAgree (table : TableSchema) (usage : Tracker) : Prop where
  /-- Those indexes stand in the way that hold a column at risk, in their order. -/
  blocking : table.blockingIndexes usage = (table.indexes.filter fun index =>
    index.2.any fun column => (column, HotStatus.risk) ∈ table.hotColumns usage).map (·.1)
  held : ∀ column, (column, .risk) ∈ table.hotColumns usage →
    ∃ index ∈ table.indexes, index.1 ∈ table.blockingIndexes usage ∧ column ∈ index.2
  classified : ∀ column ∈ table.columns.names, ∃! status, (column, status) ∈ table.hotColumns usage

theorem risksAgree (own : table.HoldsOwn) (usage : Tracker) : table.RisksAgree usage where
  blocking := by
    rw [blockingIndexes]
    congr 1
    refine List.filter_congr fun index listed => ?_
    rw [Bool.eq_iff_iff, List.any_eq_true, List.any_eq_true]
    refine exists_congr fun column => and_congr_right fun held => ?_
    rw [List.contains_iff_mem, decide_eq_true_iff, mem_hotColumns_risk]
    constructor
    · intro changed
      exact ⟨own index listed column held, changed, index, listed, held⟩
    · intro risk
      exact risk.2.1
  held := by
    intro column risk
    obtain ⟨-, changed, index, listed, held⟩ := mem_hotColumns_risk.mp risk
    refine ⟨index, listed, List.mem_map_of_mem (List.mem_filter.mpr ⟨listed, ?_⟩), held⟩
    exact List.any_eq_true.mpr ⟨column, held, List.contains_iff_mem.mpr changed⟩
  classified := by
    intro column named
    refine ⟨table.hotStatus (usage.updates table.name) column, mem_hotColumns.mpr ⟨named, rfl⟩, ?_⟩
    intro status told
    exact (mem_hotColumns.mp told).2.symm

end TableSchema

namespace TableAdvice

theorem mem_riskColumns {advice : TableAdvice} {column : String} :
    column ∈ advice.riskColumns ↔ (column, .risk) ∈ advice.hotColumns := by
  simp [riskColumns]

end TableAdvice

/-- Advice tells of a column at risk exactly if it tells of an index that stands in the way. -/
theorem TableSchema.RisksAgree.riskColumns_ne_nil {table : TableSchema} {usage : Tracker}
    (agree : table.RisksAgree usage) :
    (table.advice usage).riskColumns ≠ [] ↔ (table.advice usage).blocking ≠ [] := by
  constructor
  · intro risky
    obtain ⟨column, listed⟩ := List.exists_mem_of_ne_nil _ risky
    obtain ⟨index, -, blocks, -⟩ := agree.held column (TableAdvice.mem_riskColumns.mp listed)
    exact List.ne_nil_of_mem blocks
  · intro blocked
    obtain ⟨name, listed⟩ := List.exists_mem_of_ne_nil _ blocked
    rw [show (table.advice usage).blocking = _ from agree.blocking] at listed
    obtain ⟨index, kept, -⟩ := List.mem_map.mp listed
    obtain ⟨column, -, risk⟩ := List.any_eq_true.mp (List.mem_filter.mp kept).2
    exact List.ne_nil_of_mem (TableAdvice.mem_riskColumns.mpr (of_decide_eq_true risk))

end IndexAdvisor
