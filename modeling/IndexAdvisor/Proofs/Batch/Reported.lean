import IndexAdvisor.Batch.Report
import IndexAdvisor.Proofs.Batch.Turns

/-! # What a run reports

A run that analyses all its queries knows the tables of their statements and no others, and its report
tells of these in order. A run that is aborted keeps the results before the query it is aborted at.
-/

namespace IndexAdvisor

/-! ## Tables that a run learns -/

namespace Run

variable {setting : Setting} {options : BatchOptions} {s : Session}
  {queries : List (String × String)}

theorem proper_ofQueries (setting : Setting) (options : BatchOptions)
    (queries : List (String × String)) (proper : s.catalog.Proper) :
    (ofQueries setting options queries s).2.catalog.Proper := by
  induction queries generalizing s with
  | nil => exact proper
  | cons first rest ih =>
      obtain ⟨id, query⟩ := first
      have kept := Step.keeps_analyse_proper setting options id query s proper
      rcases run : (Step.analyse setting options id query).outcome s with ⟨e | result, t⟩
      · rw [run] at kept
        rw [ofQueries_error run]
        exact kept
      · rw [run] at kept
        rw [ofQueries_ok run]
        exact ih kept

theorem names_of_complete (complete : (ofQueries setting options queries s).1.failure = none)
    (name : String) :
    let ends := ofQueries setting options queries s
    name ∈ ends.2.catalog.tables.names ↔
      name ∈ s.catalog.tables.names ∨ name ∈ ends.1.results.flatMap (·.tables) := by
  induction queries generalizing s with
  | nil => simp [ofQueries]
  | cons first rest ih =>
      obtain ⟨id, query⟩ := first
      rcases run : (Step.analyse setting options id query).outcome s with ⟨e | result, t⟩
      · rw [ofQueries_error run] at complete
        cases complete
      · rw [ofQueries_ok run] at complete ⊢
        -- what is known before the others is what was known at first and the tables of the first
        refine (ih complete).trans ?_
        rw [Step.names_of_analyse run, List.flatMap_cons, List.mem_append, or_assoc]

end Run

/-! ## Reports of tables -/

namespace Step

variable {setting : Setting} {options : BatchOptions}

/-- The size of a table is always told, be it as an empty text. -/
theorem gives_size (setting : Setting) (what : Storage) (table : String) (s : Session) :
    ∃ text t, Gives (TableReport.size setting what table) s text t ∧ t.usage = s.usage := by
  let t : Session := { s with asked := .size what table :: s.asked }
  have asks : (ask setting (.size what table)).outcome s
      = (.ok (setting.database.answer s.asked (.size what table)), t) := rfl
  cases answer : setting.database.answer s.asked (.size what table) with
  | ok text => exact ⟨text, t, by rw [Gives, TableReport.size, outcome_bind, asks, answer]; rfl, rfl⟩
  | error fault => exact ⟨"", t, by rw [Gives, TableReport.size, outcome_bind, asks, answer]; rfl, rfl⟩

theorem gives_ofTable (setting : Setting) (options : BatchOptions) (table : TableSchema)
    (s : Session) :
    ∃ report t, Gives (TableReport.ofTable setting options table) s report t ∧
      report.schema = table ∧ report.advice = table.advice s.usage ∧ t.usage = s.usage := by
  let report (tableSize indexSize : String) : TableReport :=
    ⟨table, table.advice s.usage, tableSize, indexSize,
      if options.debug then some (s.usage.report table.name) else none⟩
  cases sizes : options.sizes with
  | false =>
      refine ⟨report "" "", s, gives_get.mpr ?_, rfl, rfl, rfl⟩
      simp only [sizes]
      rfl
  | true =>
      obtain ⟨tableSize, t, first, kept⟩ := gives_size setting .table table.name s
      obtain ⟨indexSize, u, second, kept'⟩ := gives_size setting .indexes table.name t
      refine ⟨report tableSize indexSize, u, gives_get.mpr ?_, rfl, rfl, kept'.trans kept⟩
      simp only [sizes, if_true]
      exact gives_bind.mpr ⟨tableSize, t, first, gives_bind.mpr ⟨indexSize, u, second, rfl⟩⟩

/-- Every table is reported with its advice, whatever the database answers. -/
theorem gives_tablesOf (setting : Setting) (options : BatchOptions) (tables : List TableSchema)
    (s : Session) :
    ∃ reports t, Gives (Report.tablesOf setting options tables) s reports t ∧
      reports.map (·.schema) = tables ∧ reports.map (·.advice) = tables.map (·.advice s.usage) := by
  induction tables generalizing s with
  | nil => exact ⟨[], s, rfl, rfl, rfl⟩
  | cons table rest ih =>
      obtain ⟨report, t, first, schema, advice, kept⟩ := gives_ofTable setting options table s
      obtain ⟨reports, u, later, schemas, advices⟩ := ih t
      refine ⟨report :: reports, u,
        gives_bind.mpr ⟨report, t, first, gives_bind.mpr ⟨reports, u, later, rfl⟩⟩, ?_, ?_⟩
      · rw [List.map_cons, schema, schemas]
      · rw [List.map_cons, List.map_cons, advice, advices, kept]

end Step

/-! ## Runs of a corpus -/

/-- The report tells of all results and of the tables in them, with the advice that the usage of the
    session calls for. -/
structure Report.Tells (results : List QueryResult) (s : Session) (report : Report) : Prop where
  kept : report.results = results
  total : report.total = results.length
  counts : report.analysedCount + report.unsupportedCount = report.total
  /-- The supported results, whose timings are shown, in their order. -/
  timings : report.supported = results.filter (·.isSupported)
  tables : report.tables.map (·.schema.name) = Text.sortedDistinct (results.flatMap (·.tables))
  advice : report.tables.map (·.advice) = s.advice
  suggestions : report.indexes.length = (s.advice.map (·.indexes.length)).sum

theorem Report.counts (report : Report) :
    report.analysedCount + report.unsupportedCount = report.results.length := by
  rw [analysedCount, unsupportedCount, supported]
  exact (List.length_eq_length_filter_add _).symm

namespace Run

/-- All queries were analysed, and a report can be made that tells of them. -/
structure Completes (setting : Setting) (options : BatchOptions) (corpus : Entries String)
    (run : Run) (s : Session) : Prop where
  queries : run.results.map (fun r => (r.id, r.query)) = queriesOf corpus
  progress : run.progress (queriesOf corpus).length
    = (List.range (queriesOf corpus).length).map fun i => (i + 1, (queriesOf corpus).length)
  report : ∀ seconds, ∃ report t,
    Step.Gives (run.report setting options corpus seconds) s report t ∧ report.Tells run.results s

/-- The analysis of a query failed. The queries before it were analysed, as they would have been
    without it, and whatever queries follow, the run is the same and asks nothing more. -/
def Aborts (setting : Setting) (options : BatchOptions) (corpus : Entries String) (run : Run)
    (s : Session) (id : String) (e : Failure) : Prop :=
  ∃ done query later t u, queriesOf corpus = done ++ (id, query) :: later ∧
    run.results.map (fun r => (r.id, r.query)) = done ∧
    ofQueries setting options done .start = (⟨run.results, none⟩, t) ∧
    (Step.analyse setting options id query).outcome t = (.error e, u) ∧ s.asked = u.asked ∧
    ∀ others, ofQueries setting options (done ++ (id, query) :: others) .start = (run, s)

theorem aborts_of_failure {setting : Setting} {options : BatchOptions} {corpus : Entries String}
    {id : String} {e : Failure}
    (failed : (ofCorpus setting options corpus .start).1.failure = some (id, e)) :
    let ends := ofCorpus setting options corpus .start
    ends.1.Aborts setting options corpus ends.2 id e := by
  obtain ⟨done, query, later, t, u, split, complete, failed', ends⟩ := ofQueries_failure failed
  have before := queries_of_complete (congrArg (·.1.failure) complete)
  rw [complete] at before
  refine ⟨done, query, later, t, u, split, before, complete, failed', ?_, fun others => ?_⟩
  · rw [ofCorpus, ends]
  · rw [ofQueries_append complete, ofQueries_error failed']
    refine Prod.ext ?_ ends.symm
    exact Run.mk.injEq .. ▸ ⟨List.append_nil _, failed.symm⟩

theorem completes_of_success {setting : Setting} {options : BatchOptions} {corpus : Entries String}
    (complete : (ofCorpus setting options corpus .start).1.failure = none) :
    let ends := ofCorpus setting options corpus .start
    ends.1.Completes setting options corpus ends.2 := by
  intro ends
  have queries : ends.1.results.map (fun r => (r.id, r.query)) = queriesOf corpus :=
    queries_of_complete complete
  have length : ends.1.results.length = (queriesOf corpus).length := by
    rw [← queries, List.length_map]
  have proper : ends.2.catalog.Proper := proper_ofQueries setting options _ Catalog.proper_empty
  refine ⟨queries, by rw [progress, length], fun seconds => ?_⟩
  obtain ⟨tables, t, given, schemas, advice⟩ :=
    Step.gives_tablesOf setting options ends.2.catalog.sortedTables ends.2
  let report : Report := ⟨setting.now, setting.database.name.getD "", options.warmUps,
    ends.1.results.length, ends.1.results, none, tables, ends.2.aliases, seconds⟩
  have reported : Step.Gives (ends.1.report setting options corpus seconds) ends.2 report t := by
    rw [Run.report, show ends.1.failure = none from complete]
    refine Step.gives_bind.mpr ⟨{ report with seconds := 0.0 }, t, ?_, rfl⟩
    exact Step.gives_get.mpr (Step.gives_bind.mpr ⟨tables, t, given, rfl⟩)
  refine ⟨report, t, reported, rfl, rfl, report.counts, rfl, ?_, advice, ?_⟩
  -- both sides are sorted and without duplicates, so only the members matter
  · have names : tables.map (·.schema.name) = ends.2.catalog.sortedTables.map (·.name) := by
      rw [← schemas, List.map_map]
      rfl
    rw [names, proper.names_sortedTables]
    refine Text.sortedDistinct_eq proper.distinct fun name => ?_
    exact (names_of_complete complete name).trans (or_iff_right nofun)
  · rw [Report.indexes, List.length_flatMap, Session.advice, ← advice, List.map_map]
    rfl

/-- Two queries, and a property that is none. -/
def shopCorpus : Entries String :=
  [("query.b", "SELECT id FROM users"), ("name", "shop"), ("query.a", "SELECT 1 FROM orders")]

theorem queriesOf_shopCorpus :
    queriesOf shopCorpus = [("query.a", "SELECT 1 FROM orders"), ("query.b", "SELECT id FROM users")] := by
  have ids : shopCorpus.names.filter Config.isQueryId = ["query.b", "query.a"] := by decide +kernel
  have order : Text.sorted ["query.b", "query.a"] = ["query.a", "query.b"] := by
    simp [Text.sorted, List.mergeSort]
  rw [queriesOf, ids, order]
  decide +kernel

end Run

end IndexAdvisor
