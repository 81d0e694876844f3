import IndexAdvisor.Proofs.Advice.Hot
import IndexAdvisor.Proofs.Batch.Named

/-! # Risks in a report

A report tells of the columns at risk by table, for the tables that have any. As the two analyses of updates
in place agree on a table, these are the tables for which the report tells of an index that stands in the way.
-/

namespace IndexAdvisor

/-- The tables of a report with columns at risk are told by their names. -/
theorem Report.mem_names_riskColumns {report : Report} (distinct : (report.tables.map (·.schema.name)).Nodup)
    {table : TableReport} (reported : table ∈ report.tables) :
    table.schema.name ∈ report.riskColumns.names ↔ table.advice.riskColumns ≠ [] := by
  rw [riskColumns, Entries.names, List.mem_map]
  constructor
  · rintro ⟨entry, kept, same⟩
    obtain ⟨listed, risky⟩ := List.mem_filter.mp kept
    obtain ⟨other, mem, rfl⟩ := List.mem_map.mp listed
    obtain rfl := List.inj_on_of_nodup_map distinct mem reported same
    simpa using risky
  · intro risky
    refine ⟨_, List.mem_filter.mpr ⟨List.mem_map_of_mem reported, ?_⟩, rfl⟩
    simpa using risky

theorem Step.nodup_names_of_report {setting : Setting} {options : BatchOptions} {corpus : Entries String}
    {seconds : Float} {run : Run} {s t : Session} {report : Report} (proper : s.catalog.Proper)
    (given : Gives (run.report setting options corpus seconds) s report t) :
    (report.tables.map (·.schema.name)).Nodup := by
  have names : report.tables.map (·.schema.name) = (report.tables.map (·.schema)).map (·.name) :=
    (List.map_map ..).symm
  rw [names, (all_tables_of_report given).1]
  exact proper.nodup_sortedTables

/-- On a table whose indexes hold columns of the table both analyses of updates in place agree, whatever the
    usage. So a report on the table tells of columns at risk exactly if it tells of an index that stands in
    the way. -/
theorem TableSchema.risks_reported {table : TableSchema} (own : table.HoldsOwn) :
    (∀ usage, table.RisksAgree usage) ∧
    ∀ {setting : Setting} {options : BatchOptions} {corpus : Entries String} {seconds : Float} {run : Run}
      {s t : Session} {report : Report}, s.catalog.Proper →
      Step.Gives (run.report setting options corpus seconds) s report t →
      ∀ told ∈ report.tables, told.schema = table →
        told.advice.hotColumns = table.hotColumns s.usage ∧
        told.advice.blocking = table.blockingIndexes s.usage ∧
        (table.name ∈ report.riskColumns.names ↔ told.advice.blocking ≠ []) := by
  refine ⟨table.risksAgree own, ?_⟩
  rintro setting options corpus seconds run s t report proper given told reported rfl
  have advice : told.advice = told.schema.advice s.usage := (Step.tables_of_report given told reported).2
  refine ⟨by rw [advice]; rfl, by rw [advice]; rfl, ?_⟩
  rw [Report.mem_names_riskColumns (Step.nodup_names_of_report proper given) reported, advice]
  exact (risksAgree own s.usage).riskColumns_ne_nil

/-! ## Accounts -/

/-- Accounts are known, and their balance is updated. -/
def Session.accounts : Session :=
  { start with catalog := ⟨[("accounts", .accounts)], []⟩, usage := .accounts }

theorem Session.proper_accounts : Session.accounts.catalog.Proper where
  distinct := by decide
  named := by
    intro name schema found
    obtain ⟨before, after, split, -⟩ := List.lookup_eq_some_iff.mp found
    have mem : (name, schema) ∈ Session.accounts.catalog.tables := by simp [split]
    obtain ⟨rfl, rfl⟩ := Prod.mk.inj (List.mem_singleton.mp mem)
    rfl

theorem Session.sortedTables_accounts : Session.accounts.catalog.sortedTables = [.accounts] := by
  have names : Session.accounts.catalog.tableNames = ["accounts"] := List.mergeSort_singleton _
  rw [Catalog.sortedTables, names]
  rfl

/-- The index on the state and the balance stands in the way, and the balance is at risk. -/
theorem TableSchema.risks_reported_accounts :
    accounts.HoldsOwn ∧ Session.accounts.catalog.Proper ∧
    ∃ report t, Step.Gives (Run.report ⟨[], none⟩ .shop ⟨1, none, false, false⟩ [] 0) .accounts report t ∧
      ∃ told ∈ report.tables, told.schema = accounts ∧ told.advice.blocking = ["accounts_state"] ∧
        "accounts" ∈ report.riskColumns.names := by
  have own : accounts.HoldsOwn := by
    unfold HoldsOwn
    decide
  have proper := Session.proper_accounts
  obtain ⟨report, t, given⟩ := Step.exists_report .shop ⟨1, none, false, false⟩ [] 0 ⟨[], none⟩ .accounts
  have listed : accounts ∈ report.tables.map (·.schema) := by
    rw [(Step.all_tables_of_report given).1, Session.sortedTables_accounts]
    exact List.mem_singleton_self _
  obtain ⟨told, reported, schema⟩ := List.mem_map.mp listed
  obtain ⟨-, blocking, risky⟩ := (risks_reported own).2 proper given told reported schema
  have blocks : told.advice.blocking = ["accounts_state"] := by
    rw [blocking]
    simp [accounts, blockingIndexes, Session.accounts, Tracker.accounts, Tracker.updates, Text.sorted]
  exact ⟨own, proper, report, t, given, told, reported, schema, blocks, risky.mpr (by simp [blocks])⟩

end IndexAdvisor
