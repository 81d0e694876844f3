import IndexAdvisor.Proofs.Advice.Names
import IndexAdvisor.Proofs.Batch.Advised
import IndexAdvisor.Proofs.Usage.Frame

/-! # Names in a report

A report advises no index twice. It can give two indexes one name; then the statements that create them
cannot both be run.
-/

namespace IndexAdvisor

/-! ## Indexes of a report -/

/-- The table and the columns of an index. -/
def IndexAdvice.pair (index : IndexAdvice) : String × List String := (index.table, index.columns)

namespace Step

variable {setting : Setting} {options : BatchOptions} {corpus : Entries String} {seconds : Float}
  {run : Run} {s t : Session} {report : Report}

theorem indexes_of_report (given : Gives (run.report setting options corpus seconds) s report t) :
    report.indexes = s.catalog.sortedTables.flatMap fun table => (table.advice s.usage).indexes := by
  obtain ⟨-, advice⟩ := all_tables_of_report given
  have indexes : report.indexes = (report.tables.map (·.advice)).flatMap (·.indexes) := by
    rw [Report.indexes, List.flatMap_map]
  rw [indexes, advice, List.flatMap_map]

/-- There always is a report: what the database does not tell is left out. -/
theorem exists_report (setting : Setting) (options : BatchOptions) (corpus : Entries String)
    (seconds : Float) (run : Run) (s : Session) :
    ∃ report t, Gives (run.report setting options corpus seconds) s report t := by
  obtain ⟨tables, t, listed, -, -⟩ := gives_tablesOf setting options s.catalog.sortedTables s
  have results (total : Nat) (abort : Option Abort) :
      ∃ report, Gives (Report.ofResults setting options total run.results abort) s report t :=
    ⟨_, gives_get.mpr (gives_bind.mpr ⟨tables, t, listed, rfl⟩)⟩
  unfold Run.report
  cases run.failure with
  | none =>
      obtain ⟨report, made⟩ := results run.results.length none
      exact ⟨_, t, gives_bind.mpr ⟨report, t, made, rfl⟩⟩
  | some failure =>
      obtain ⟨report, made⟩ := results corpus.length (some ⟨failure.1, failure.2.message⟩)
      exact ⟨report, t, made⟩

theorem of_mem_indexes_of_report (given : Gives (run.report setting options corpus seconds) s report t)
    {index : IndexAdvice} (mem : index ∈ report.indexes) : ∃ table ∈ s.catalog.sortedTables,
      index ∈ (table.advice s.usage).indexes := by
  rw [indexes_of_report given] at mem
  exact List.mem_flatMap.mp mem

/-- An advised index has columns that are used, or of a foreign key. -/
theorem used_of_report (given : Gives (run.report setting options corpus seconds) s report t)
    {index : IndexAdvice} (mem : index ∈ report.indexes) {column : String} (listed : column ∈ index.columns) :
    s.usage.Uses index.table column ∨
      ∃ table ∈ s.catalog.sortedTables, ∃ key ∈ table.importedKeys, key.column = column := by
  obtain ⟨table, sorted, advised⟩ := of_mem_indexes_of_report given mem
  have named : column ∈ (table.advice s.usage).columns :=
    List.mem_append_right _ (List.mem_flatMap.mpr ⟨index, advised, listed⟩)
  rw [(TableSchema.of_mem_indexes advised).1]
  exact (TableSchema.uses_of_advised named).imp_right fun key => ⟨table, sorted, key⟩

theorem columns_of_report (given : Gives (run.report setting options corpus seconds) s report t) :
    ∀ index ∈ report.indexes, index.columns ≠ [] := by
  intro index mem
  obtain ⟨table, -, advised⟩ := of_mem_indexes_of_report given mem
  exact (TableSchema.of_mem_indexes advised).2

theorem nodup_pairs_of_report (proper : s.catalog.Proper)
    (given : Gives (run.report setting options corpus seconds) s report t) :
    (report.indexes.map (·.pair)).Nodup := by
  rw [indexes_of_report given, List.map_flatMap, List.nodup_flatMap]
  constructor
  · intro table _
    apply List.Nodup.of_map Prod.snd
    rw [List.map_map]
    exact table.nodup_columns_indexes s.usage
  · refine (List.pairwise_map.mp proper.nodup_sortedTables).imp ?_
    intro table other apart pair mem mem'
    obtain ⟨index, advised, rfl⟩ := List.mem_map.mp mem
    obtain ⟨index', advised', same⟩ := List.mem_map.mp mem'
    have table_eq := (TableSchema.of_mem_indexes advised).1
    have other_eq := (TableSchema.of_mem_indexes advised').1
    exact apart (table_eq.symm.trans ((Prod.mk.inj same).1.symm.trans other_eq))

end Step

/-- Indexes that are apart have names that are apart, exactly if no two of them clash. -/
theorem IndexAdvice.nodup_names_iff {indexes : List IndexAdvice}
    (given : ∀ index ∈ indexes, index.columns ≠ []) (apart : (indexes.map (·.pair)).Nodup) :
    (indexes.map (·.name)).Nodup ↔ ∀ a ∈ indexes, ∀ b ∈ indexes, ¬a.Clashes b := by
  constructor
  · intro names a mem b mem' clash
    have same := (name_eq_iff (given a mem) (given b mem')).mpr (.inr (.inl clash))
    obtain rfl := List.inj_on_of_nodup_map names mem mem' same
    exact a.not_clashes_self clash
  · intro free
    apply List.Nodup.map_on ?_ apart.of_map
    intro a mem b mem' same
    rcases (name_eq_iff (given a mem) (given b mem')).mp same with pair | clash | clash
    · exact List.inj_on_of_nodup_map apart mem mem' pair
    · exact absurd clash (free a mem b mem')
    · exact absurd clash (free b mem' a mem)

/-! ## Names after a run -/

namespace Run

/-- No index is advised twice, and all names are different as long as no two indexes clash. Those that do
    are of one table, with an underscore in a column, or the name of a table goes on behind that of
    another one and an underscore. -/
theorem index_names (setting : Setting) (options : BatchOptions) (corpus : Entries String)
    (seconds : Float) {s : Session} (proper : s.catalog.Proper) :
    let ends := ofCorpus setting options corpus s
    ∃ report t, Step.Gives (ends.1.report setting options corpus seconds) ends.2 report t ∧
      (report.indexes.map fun index => (index.table, index.columns)).Nodup ∧
      ((report.indexes.map (·.name)).Nodup ↔
        ∀ a ∈ report.indexes, ∀ b ∈ report.indexes, ¬a.Clashes b) ∧
      ∀ a b : IndexAdvice, a.Clashes b →
        (a.table = b.table ∧ ∃ column ∈ a.columns ++ b.columns, '_' ∈ column.toList) ∨
          (a.table ++ "_").toList <+: b.table.toList := by
  intro ends
  have kept : ends.2.catalog.Proper := proper_ofQueries setting options _ proper
  obtain ⟨report, t, given⟩ := Step.exists_report setting options corpus seconds ends.1 ends.2
  have apart := Step.nodup_pairs_of_report kept given
  have names := IndexAdvice.nodup_names_iff (Step.columns_of_report given) apart
  exact ⟨report, t, given, apart, names, fun a b clash => clash.cause⟩

theorem index_names_filter :
    Session.start.catalog.Proper ∧
    let ends := ofCorpus .shop ⟨1, none, false, false⟩ filterCorpus .start
    ∃ report t, Step.Gives (ends.1.report .shop ⟨1, none, false, false⟩ filterCorpus 0) ends.2 report t ∧
      (report.indexes.map (·.name)).Nodup := by
  have start : Session.start.catalog.Proper := Catalog.proper_empty
  have queries : queriesOf filterCorpus = filterCorpus := queriesOf_single (by decide +kernel) _
  have runs : let ends := ofQueries .shop ⟨1, none, false, false⟩ filterCorpus .start
      ends.2.usage.joined.isEmpty && ends.2.usage.filtered == [⟨"users", "query.a", "id"⟩] &&
        ends.2.catalog.tables.all (·.2.importedKeys.isEmpty) := by
    decide +kernel
  have run := ofCorpus_eq_ofQueries .shop ⟨1, none, false, false⟩ queries .start
  simp only [← run, Bool.and_eq_true, List.isEmpty_iff, beq_iff_eq] at runs
  obtain ⟨⟨joined, filtered⟩, free⟩ := runs
  refine ⟨start, ?_⟩
  intro ends
  obtain ⟨report, t, given, -, names, cause⟩ := index_names .shop ⟨1, none, false, false⟩ filterCorpus 0 start
  have proper : ends.2.catalog.Proper := proper_ofQueries _ _ _ start
  have used : ∀ index ∈ report.indexes, ∀ column ∈ index.columns, index.table = "users" ∧ column = "id" := by
    intro index mem column listed
    rcases Step.used_of_report given mem listed with
      ⟨fact, known, about, rfl⟩ | ⟨table, sorted, key, keyed, -⟩
    · rw [joined, filtered] at known
      simp at known
      simp [← about, known]
    · rw [keys_of_all free (proper.find?_of_sorted sorted)] at keyed
      cases keyed
  refine ⟨report, t, given, names.mpr ?_⟩
  intro a mem b mem' clash
  have columns := Step.columns_of_report given
  rcases cause a b clash with ⟨-, column, listed, underscore⟩ | longer
  · have plain : column = "id" := by
      rcases List.mem_append.mp listed with listed | listed
      · exact (used a mem column listed).2
      · exact (used b mem' column listed).2
    rw [plain] at underscore
    revert underscore
    decide
  · obtain ⟨column, listed⟩ := List.exists_mem_of_ne_nil _ (columns a mem)
    obtain ⟨column', listed'⟩ := List.exists_mem_of_ne_nil _ (columns b mem')
    rw [(used a mem column listed).1, (used b mem' column' listed').1] at longer
    revert longer
    decide

end Run

/-! ## Two indexes of one name -/

/-- What a query filters on together is advised as an index, if none of the columns is updated and there is
    no such index yet. -/
theorem TableSchema.indexed_of_filters {table : TableSchema} {usage : Tracker} {query : String}
    {columns : List String} (filters : Tracker.columnsOf table.name query usage.filtered = columns)
    (given : columns ≠ []) (unchanged : usage.updates table.name = []) (fresh : table.indexes = []) :
    ∃ index ∈ (table.advice usage).indexes, index.pair = (table.name, columns) := by
  have own : (usage.filters table.name).lookup query = some columns := by
    rw [Tracker.filters, Tracker.lookup_byQuery, filters, if_neg given]
  obtain ⟨before, after, split, -⟩ := List.lookup_eq_some_iff.mp own
  have listed : (query, columns) ∈ usage.filters table.name := by simp [split]
  have candidate : columns ∈ table.candidates usage := by
    rw [candidates, List.mem_eraseDups, List.mem_filter, List.append_assoc]
    exact ⟨List.mem_append_left _ (List.mem_map_of_mem listed), by simpa using given⟩
  have advised : columns ∈ table.advisedColumns usage := by
    obtain ⟨first, rest, rfl⟩ := List.exists_cons_of_ne_nil given
    have ranked : first :: rest ∈ table.rankedCandidates usage := List.mem_mergeSort.mpr candidate
    rw [advisedColumns, List.mem_eraseDups, unchanged, fresh, List.mem_filter]
    refine ⟨List.mem_map.mpr ⟨first :: rest, ?_, by simp [trimUpdated]⟩, rfl⟩
    exact List.mem_filter.mpr ⟨ranked, by simp [isOnlyUpdated]⟩
  have used : usage.hasKeyUsage table.name := by
    obtain ⟨first, rest, rfl⟩ := List.exists_cons_of_ne_nil given
    have mem : first ∈ (usage.joins table.name ++ usage.filters table.name).flatMap (·.2) := by
      rw [List.flatMap_append]
      exact List.mem_append_right _ (List.mem_flatMap.mpr ⟨_, listed, List.mem_cons_self⟩)
    exact (Tracker.uses_iff.mpr mem).hasKeyUsage
  rw [← columns_indexAdvice] at advised
  obtain ⟨index, made, same⟩ := List.mem_map.mp advised
  have mem : index ∈ (table.advice usage).indexes := by simpa [advice, used] using made
  refine ⟨index, mem, ?_⟩
  rw [IndexAdvice.pair, (of_mem_indexes mem).1, same]

/-- A database of jobs. -/
def Setting.office : Setting where
  database := .ofTables [("jobs", [("done", "bool"), ("late", "bool"), ("late_done", "bool")],
    [("done", .bool true), ("late", .bool true), ("late_done", .bool true)])]
  schema := "public"
  now := ⟨⟨2024, 1, 1⟩, ⟨0, 0, 0, 0, none⟩⟩

namespace Run

/-- A query that filters on two columns, and one that filters on a column with the names of both. -/
def jobCorpus : Entries String :=
  [("query.a", "DELETE FROM jobs WHERE done AND late"), ("query.b", "DELETE FROM jobs WHERE late_done")]

theorem one_name_of_two :
    let ends := ofCorpus .office ⟨1, none, false, false⟩ jobCorpus .start
    ∃ report t, Step.Gives (ends.1.report .office ⟨1, none, false, false⟩ jobCorpus 0) ends.2 report t ∧
      ∃ a ∈ report.indexes, ∃ b ∈ report.indexes, a.columns = ["late", "done"] ∧
        b.columns = ["late_done"] ∧ a.name = b.name := by
  have queries : queriesOf jobCorpus = jobCorpus :=
    queriesOf_pair (by decide +kernel) (by decide +kernel) (by decide +kernel)
  have runs : let ends := ofQueries .office ⟨1, none, false, false⟩ jobCorpus .start
      ends.1.failure.isNone && ends.2.usage.updated.isEmpty &&
        (ends.1.results.flatMap (·.tables)).contains "jobs" &&
        Tracker.columnsOf "jobs" "query.a" ends.2.usage.filtered == ["late", "done"] &&
        Tracker.columnsOf "jobs" "query.b" ends.2.usage.filtered == ["late_done"] &&
        ends.2.catalog.tables.all (·.2.indexes.isEmpty) := by
    decide +kernel
  have run := ofCorpus_eq_ofQueries .office ⟨1, none, false, false⟩ queries .start
  simp only [← run, Bool.and_eq_true, Option.isNone_iff_eq_none, List.isEmpty_iff, beq_iff_eq,
    List.contains_iff_mem] at runs
  obtain ⟨⟨⟨⟨⟨complete, unchanged⟩, about⟩, both⟩, single⟩, free⟩ := runs
  obtain ⟨report, t, given, known, reported⟩ := reported_of_known complete 0
  obtain ⟨table, mem, named⟩ := reported "jobs" about
  have updates (table : String) :
      (ofCorpus .office ⟨1, none, false, false⟩ jobCorpus .start).2.usage.updates table = [] := by
    simp [Tracker.updates, unchanged, Text.sorted]
  have fresh : table.schema.indexes = [] :=
    List.isEmpty_iff.mp (of_all_tables (·.indexes.isEmpty) free (known table mem))
  rw [← named] at both single
  obtain ⟨a, advised, pair⟩ := TableSchema.indexed_of_filters both (by simp) (updates _) fresh
  obtain ⟨b, advised', pair'⟩ := TableSchema.indexed_of_filters single (by simp) (updates _) fresh
  have listed {index : IndexAdvice} (advised : index ∈ (table.schema.advice
      (ofCorpus .office ⟨1, none, false, false⟩ jobCorpus .start).2.usage).indexes) : index ∈ report.indexes := by
    rw [Step.indexes_of_report given]
    exact List.mem_flatMap.mpr ⟨table.schema, (Step.tables_of_report given table mem).1, advised⟩
  obtain ⟨about, columns⟩ := Prod.mk.inj pair
  obtain ⟨about', columns'⟩ := Prod.mk.inj pair'
  refine ⟨report, t, given, a, listed advised, b, listed advised', columns, columns', ?_⟩
  simp only [IndexAdvice.name, about, about', columns, columns', named]
  decide

end Run

end IndexAdvisor
