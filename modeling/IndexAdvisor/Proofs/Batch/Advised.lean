import IndexAdvisor.Proofs.Advice.Columns
import IndexAdvisor.Proofs.Batch.Recordings
import IndexAdvisor.Proofs.Batch.Reported

/-! # Columns that a report advises

A report advises columns of its tables, as long as every column is recorded for a table that has it.
A column of a derived table is none of the tables of a statement, yet it is recorded for the table at
hand; then the advice names it as a column of this table.
-/

namespace IndexAdvisor

/-! ## Misplaced columns -/

/-- A column is recorded for a table that does not have it: its qualifier stands for the table, or tells
    nothing while no table of the statement has the column and this one is at hand. -/
def Recording.Misplaces (n : Recording) (table column : String) : Prop :=
  n.session.catalog.hasColumn table column = false ∧
    ∃ r ∈ n.outline.usage.noted, r.use ≠ .assignment ∧ r.column.name = column ∧
      ((table ∈ n.outline.usage.tables ∧
          r.column.qualifier.map n.session.aliases.resolve = some table) ∨
        (r.table = some table ∧
          (∀ q, r.column.qualifier = some q →
            n.session.aliases.resolve q ∉ n.outline.usage.tables) ∧
          ∀ t ∈ n.outline.usage.tables, n.session.catalog.hasColumn t column = false))

/-- A column falls to a table that lacks it only if no table has it, and this one is at hand. -/
theorem fallenOwner_eq_iff_lacks {catalog : Catalog} {tables : List String} {column table : String}
    {context : Option String} (read : ∀ t, context = some t → t ∈ tables)
    (lacks : catalog.hasColumn table column = false) :
    fallenOwner catalog tables column context = some table ↔
      context = some table ∧ ∀ t ∈ tables, catalog.hasColumn t column = false := by
  unfold fallenOwner
  cases found : (context.toList ++ tables).find? (catalog.hasColumn · column) with
  | none =>
      have none_has := List.find?_eq_none.mp found
      rw [Option.none_or, iff_self_and]
      exact fun _ t mem => Bool.eq_false_iff.mpr (none_has t (List.mem_append_right _ mem))
  | some t =>
      have has : catalog.hasColumn t column = true := by simpa using List.find?_some found
      have listed : t ∈ tables := by
        rcases List.mem_append.mp (List.mem_of_find?_eq_some found) with here | listed
        · exact read t (Option.mem_toList.mp here)
        · exact listed
      rw [Option.some_or]
      constructor
      · rintro ⟨⟩
        exact absurd has (Bool.eq_false_iff.mp lacks)
      · rintro ⟨-, none_has⟩
        exact absurd has (Bool.eq_false_iff.mp (none_has t listed))

namespace Recording

variable {n : Recording} {table column : String}

theorem misplaces_iff : n.Misplaces table column ↔
    n.session.catalog.hasColumn table column = false ∧
      ∃ r ∈ n.outline.usage.noted, r.use ≠ .assignment ∧ r.column.name = column ∧
        n.owner r = some table := by
  unfold Misplaces
  refine and_congr_right fun lacks => exists_congr fun r => and_congr_right fun mem =>
    and_congr_right fun _ => and_congr_right ?_
  rintro rfl
  have read : ∀ t, r.table = some t → t ∈ n.outline.usage.tables :=
    (Walk.sound_outline n.outline).records r (n.outline.usage.noted_subset mem)
  have fallen := fallenOwner_eq_iff_lacks read lacks
  unfold owner
  cases qualified : r.column.qualifier with
  | none =>
      rw [columnOwner_unqualified _ _ qualified, fallen]
      simp
  | some q =>
      rw [columnOwner_qualified _ _ qualified, ownerBy]
      by_cases listed : n.session.aliases.resolve q ∈ n.outline.usage.tables
      · rw [if_pos listed]
        constructor
        · rintro (⟨-, same⟩ | ⟨-, unlisted, -⟩)
          · exact same
          · exact absurd listed (unlisted q rfl)
        · intro same
          exact .inl ⟨Option.some.inj same ▸ listed, same⟩
      · rw [if_neg listed, fallen]
        constructor
        · rintro (⟨mem, same⟩ | ⟨here, -, none_has⟩)
          · exact absurd (Option.some.inj same ▸ mem) listed
          · exact ⟨here, none_has⟩
        · rintro ⟨here, none_has⟩
          exact .inr ⟨here, fun q' same => Option.some.inj same ▸ listed, none_has⟩

end Recording

/-- The used columns after some moments are those of their records, but for assignments. -/
theorem Session.Follows.uses_iff {moments : List Recording} {s : Session}
    (follows : Session.start.Follows moments s) {table column : String} :
    s.usage.Uses table column ↔ ∃ n ∈ moments, ∃ r ∈ n.outline.usage.noted,
      r.use ≠ .assignment ∧ r.column.name = column ∧ n.owner r = some table := by
  have told (fact : UsageFact) : s.usage.Has fact ↔ ∃ n ∈ moments, n.Tells fact := by
    rw [follows.has]
    refine or_iff_right ?_
    cases fact <;> exact nofun
  constructor
  · rintro ⟨fact, mem | mem, rfl, rfl⟩
    · obtain ⟨n, listed, r, noted, owner, owned, same⟩ := (told (.joined fact)).mp mem
      cases used : r.use <;> simp only [UsageRecord.fact, used, reduceCtorEq, UsageFact.joined.injEq] at same
      subst same
      exact ⟨n, listed, r, noted, by simp [used], rfl, owned⟩
    · obtain ⟨n, listed, r, noted, owner, owned, same⟩ := (told (.filtered fact)).mp mem
      cases used : r.use <;> simp only [UsageRecord.fact, used, reduceCtorEq, UsageFact.filtered.injEq] at same
      all_goals
        subst same
        exact ⟨n, listed, r, noted, by simp [used], rfl, owned⟩
  · rintro ⟨n, listed, r, noted, other, rfl, owned⟩
    have has := (told (r.fact n.query table)).mpr ⟨n, listed, r, noted, table, owned, rfl⟩
    cases used : r.use with
    | assignment => exact absurd used other
    | join =>
        rw [UsageRecord.fact, used] at has
        exact ⟨_, .inl has, rfl, rfl⟩
    | membership | condition =>
        rw [UsageRecord.fact, used] at has
        exact ⟨_, .inr has, rfl, rfl⟩

/-! ## Tables of a report -/

theorem Catalog.Proper.find?_of_sorted {catalog : Catalog} (proper : catalog.Proper)
    {schema : TableSchema} (mem : schema ∈ catalog.sortedTables) :
    catalog.tables.find? schema.name = some schema := by
  obtain ⟨name, -, found⟩ := List.mem_filterMap.mp mem
  rw [proper.named name schema found]
  exact found

/-- The tables of a report are the known ones, with the advice that the usage calls for. -/
theorem Step.all_tables_of_report {run : Run} {setting : Setting} {options : BatchOptions}
    {corpus : Entries String} {seconds : Float} {s t : Session} {report : Report}
    (given : Gives (run.report setting options corpus seconds) s report t) :
    report.tables.map (·.schema) = s.catalog.sortedTables ∧
      report.tables.map (·.advice) = s.catalog.sortedTables.map (·.advice s.usage) := by
  obtain ⟨tables, u, told, schemas, advice⟩ := gives_tablesOf setting options s.catalog.sortedTables s
  have of_results {total : Nat} {results : List QueryResult} {abort : Option Abort} {made : Report}
      {v : Session} (given : Gives (Report.ofResults setting options total results abort) s made v) :
      made.tables = tables := by
    obtain ⟨found, w, listed, ends⟩ := gives_bind.mp (gives_get.mp given)
    obtain ⟨⟨⟩, -⟩ := Prod.mk.inj ends
    obtain ⟨same, -⟩ := Prod.mk.inj (listed.symm.trans told)
    exact Except.ok.inj same
  have same : report.tables = tables := by
    unfold Run.report at given
    cases failed : run.failure with
    | none =>
        rw [failed] at given
        obtain ⟨made, v, first, ends⟩ := gives_bind.mp given
        obtain ⟨⟨⟩, -⟩ := Prod.mk.inj ends
        have listed := of_results first
        exact listed
    | some failure =>
        rw [failed] at given
        exact of_results given
  rw [same]
  exact ⟨schemas, advice⟩

theorem Step.tables_of_report {run : Run} {setting : Setting} {options : BatchOptions}
    {corpus : Entries String} {seconds : Float} {s t : Session} {report : Report}
    (given : Gives (run.report setting options corpus seconds) s report t) :
    ∀ table ∈ report.tables, table.schema ∈ s.catalog.sortedTables ∧
      table.advice = table.schema.advice s.usage := by
  intro table mem
  obtain ⟨schemas, advice⟩ := all_tables_of_report given
  rw [← schemas, List.map_map] at advice
  exact ⟨schemas ▸ List.mem_map_of_mem mem, List.map_inj_left.mp advice table mem⟩

namespace Run

variable {setting : Setting} {options : BatchOptions} {corpus : Entries String} {seconds : Float}
  {report : Report} {t : Session}

/-- A moment of recording knows the columns of a reported table, if the statement is about it. -/
theorem hasColumn_of_reported {n : Recording}
    (mem : n ∈ recordings setting options (queriesOf corpus) .start) {schema : TableSchema}
    (reported : schema ∈ (ofCorpus setting options corpus .start).2.catalog.sortedTables)
    (listed : schema.name ∈ n.outline.usage.tables) (column : String) :
    n.session.catalog.hasColumn schema.name column = (schema.columnType? column).isSome := by
  have proper : (ofCorpus setting options corpus .start).2.catalog.Proper :=
    proper_ofQueries setting options _ Catalog.proper_empty
  obtain ⟨query, parsed, -, read, outlined⟩ := read_of_recordings mem
  have small : Text.lowercase schema.name = schema.name :=
    Outline.small_table ((Parsed.outline_of_read read).trans (congrArg some outlined)) listed
  obtain ⟨known, more⟩ := (follows_ofQueries setting options (queriesOf corpus) .start).knew n mem
  have found : (ofCorpus setting options corpus .start).2.catalog.find? schema.name = some schema := by
    rw [Catalog.find?, small]
    exact proper.find?_of_sorted reported
  rw [← more.hasColumn_eq (known _ listed)]
  change ((Catalog.find? (ofCorpus setting options corpus .start).2.catalog schema.name).bind _).isSome = _
  rw [found]
  rfl

/-- Every column that a report advises for a table is one of the table or was misplaced there, given
    that the foreign keys of the table name its columns; and a misplaced column that is not updated is
    advised indeed. -/
theorem advised_columns
    (given : Step.Gives ((ofCorpus setting options corpus .start).1.report setting options corpus
      seconds) (ofCorpus setting options corpus .start).2 report t)
    {table : TableReport} (reported : table ∈ report.tables)
    (keys : ∀ key ∈ table.schema.importedKeys, (table.schema.columnType? key.column).isSome) :
    let moments := recordings setting options (queriesOf corpus) .start
    (∀ column ∈ table.advice.columns, (table.schema.columnType? column).isSome ∨
      ∃ n ∈ moments, n.Misplaces table.schema.name column) ∧
    ∀ n ∈ moments, ∀ column, n.Misplaces table.schema.name column →
      table.schema.columnType? column = none ∧
      (column ∉ (ofCorpus setting options corpus .start).2.usage.updates table.schema.name →
        column ∈ table.advice.columns) := by
  intro moments
  obtain ⟨sorted, advice⟩ := Step.tables_of_report given table reported
  have follows : Session.start.Follows moments (ofCorpus setting options corpus .start).2 :=
    follows_ofQueries setting options (queriesOf corpus) .start
  -- a table that was known when a use was recorded has the same columns in the report
  have knows {n : Recording} (mem : n ∈ moments) {r : UsageRecord}
      (noted : r ∈ n.outline.usage.noted) (owned : n.owner r = some table.schema.name)
      (column : String) :
      n.session.catalog.hasColumn table.schema.name column
        = (table.schema.columnType? column).isSome := by
    have read := (Walk.sound_outline n.outline).records r (n.outline.usage.noted_subset noted)
    exact hasColumn_of_reported mem sorted (columnOwner_mem read owned) column
  rw [advice]
  refine ⟨fun column named => ?_, fun n mem column misplaced => ?_⟩
  · rcases TableSchema.uses_of_advised named with used | ⟨key, listed, rfl⟩
    · obtain ⟨n, mem, r, noted, other, same, owned⟩ := follows.uses_iff.mp used
      rw [← knows mem noted owned column]
      cases has : n.session.catalog.hasColumn table.schema.name column with
      | true => exact .inl rfl
      | false =>
          exact .inr ⟨n, mem, Recording.misplaces_iff.mpr ⟨has, r, noted, other, same, owned⟩⟩
    · exact .inl (keys key listed)
  · obtain ⟨lacks, r, noted, other, same, owned⟩ := Recording.misplaces_iff.mp misplaced
    rw [knows mem noted owned column] at lacks
    refine ⟨by simpa using lacks, fun unchanged => ?_⟩
    exact TableSchema.advised_of_uses
      (follows.uses_iff.mpr ⟨n, mem, r, noted, other, same, owned⟩) unchanged

/-- A complete run is reported with every known table. -/
theorem reported_of_known (complete : (ofCorpus setting options corpus .start).1.failure = none)
    (seconds : Float) :
    let ends := ofCorpus setting options corpus .start
    ∃ report t, Step.Gives (ends.1.report setting options corpus seconds) ends.2 report t ∧
      (∀ table ∈ report.tables,
        ends.2.catalog.tables.find? table.schema.name = some table.schema) ∧
      ∀ name ∈ ends.1.results.flatMap (·.tables), ∃ table ∈ report.tables, table.schema.name = name := by
  intro ends
  have proper : ends.2.catalog.Proper := proper_ofQueries setting options _ Catalog.proper_empty
  obtain ⟨report, t, given, tells⟩ := (completes_of_success complete).report seconds
  refine ⟨report, t, given, fun table mem => ?_, fun name mem => ?_⟩
  · exact proper.find?_of_sorted (Step.tables_of_report given table mem).1
  · have listed : name ∈ report.tables.map (·.schema.name) := by
      rw [tells.tables, Text.sortedDistinct, Text.mem_sorted, List.mem_eraseDups]
      exact mem
    exact List.mem_map.mp listed

theorem of_all_tables {catalog : Catalog} (check : TableSchema → Bool)
    (all : catalog.tables.all fun entry => check entry.2) {name : String} {schema : TableSchema}
    (found : catalog.tables.find? name = some schema) : check schema := by
  obtain ⟨before, after, split, -⟩ := List.lookup_eq_some_iff.mp found
  exact List.all_eq_true.mp all (name, schema) (by simp [split])

theorem keys_of_all {catalog : Catalog} (free : catalog.tables.all (·.2.importedKeys.isEmpty))
    {name : String} {schema : TableSchema} (found : catalog.tables.find? name = some schema) :
    schema.importedKeys = [] :=
  List.isEmpty_iff.mp (of_all_tables (·.importedKeys.isEmpty) free found)

/-- A query that filters on a column of its table. -/
def filterCorpus : Entries String := [("query.a", "SELECT id FROM users WHERE id = 1")]

theorem advised_columns_filter :
    let ends := ofCorpus .shop ⟨1, none, false, false⟩ filterCorpus .start
    ∃ report t, Step.Gives (ends.1.report .shop ⟨1, none, false, false⟩ filterCorpus 0) ends.2 report t ∧
      ∀ table ∈ report.tables, table.schema.importedKeys = [] ∧
        ∀ column ∈ table.advice.columns, (table.schema.columnType? column).isSome := by
  have queries : queriesOf filterCorpus = filterCorpus := queriesOf_single (by decide +kernel) _
  have runs : let ends := ofQueries .shop ⟨1, none, false, false⟩ filterCorpus .start
      ends.1.failure.isNone && ends.2.catalog.tables.all (·.2.importedKeys.isEmpty) &&
        (recordings .shop ⟨1, none, false, false⟩ filterCorpus .start).all (fun n =>
          n.outline.usage.noted.all (fun r => r.column = ⟨none, "id"⟩ && r.table = some "users") &&
            n.session.catalog.hasColumn "users" "id") := by
    decide +kernel
  simp only [Bool.and_eq_true, Option.isNone_iff_eq_none] at runs
  obtain ⟨⟨complete, free⟩, all⟩ := runs
  have run := ofCorpus_eq_ofQueries .shop ⟨1, none, false, false⟩ queries .start
  rw [← run] at complete free
  obtain ⟨report, t, given, known, -⟩ := reported_of_known complete 0
  refine ⟨report, t, given, fun table mem => ?_⟩
  have keys := keys_of_all free (known table mem)
  refine ⟨keys, fun column named => ?_⟩
  refine ((advised_columns given mem (by simp [keys])).1 column named).resolve_right ?_
  rintro ⟨n, listed, lacks, r, noted, -, rfl, place⟩
  rw [queries] at listed
  obtain ⟨about, has⟩ := Bool.and_eq_true_iff.mp (List.all_eq_true.mp all n listed)
  have own := List.all_eq_true.mp about r noted
  simp only [Bool.and_eq_true, decide_eq_true_eq] at own
  rcases place with ⟨-, qualified⟩ | ⟨here, -⟩
  · simp [own.1] at qualified
  · have same : table.schema.name = "users" := Option.some.inj (here.symm.trans own.2)
    rw [same, own.1, has] at lacks
    cases lacks

/-- The statement `SELECT … FROM table JOIN (SELECT … AS column …) byname ON byname.column …`. -/
def joinsOutput (table byname column : String) : Sql.Statement → Bool
  | .query (.mk false [] (.select _ _ _ _ [.join _ false (.table _ ⟨_, _, named⟩ none)
      (.query _ (.mk _ _ (.select _ _ [.mk _ (some label)] _ _ _ _ _ _ _) _ _ _ _ _) (some ⟨other, _⟩))
      (some (.binary _ (.column [qualifier, name] false) _)) _ _ _] _ _ _ _ _) _ _ _ _ _) =>
    named = table && label = column && other = byname && qualifier = byname && name = column
  | _ => false

/-- A query that joins a table with a derived one, on a column that only the derived one has. -/
def derivedQuery : String :=
  "SELECT users.id FROM users JOIN (SELECT user_id AS uid FROM orders) d ON d.uid = users.id"

def derivedCorpus : Entries String := [("query.a", derivedQuery)]

/-- The column of the derived table is advised for `users`. -/
theorem output_column_advised :
    let ends := ofCorpus .shop ⟨1, none, false, false⟩ derivedCorpus .start
    (∀ query ∈ derivedCorpus, ∃ parsed, Parsed.read query.2 = .ok parsed ∧
      joinsOutput "users" "d" "uid" parsed.statement) ∧
    ∃ report t, Step.Gives (ends.1.report .shop ⟨1, none, false, false⟩ derivedCorpus 0) ends.2 report t ∧
      ∃ table ∈ report.tables, table.schema.name = "users" ∧ table.schema.importedKeys = [] ∧
        "uid" ∈ table.advice.columns ∧ table.schema.columnType? "uid" = none := by
  have queries : queriesOf derivedCorpus = derivedCorpus := queriesOf_single (by decide +kernel) _
  have runs : let ends := ofQueries .shop ⟨1, none, false, false⟩ derivedCorpus .start
      (Parsed.read derivedQuery).toOption.any (joinsOutput "users" "d" "uid" ·.statement) &&
        ends.1.failure.isNone && ends.2.catalog.tables.all (·.2.importedKeys.isEmpty) &&
        (ends.1.results.flatMap (·.tables)).contains "users" &&
        ends.2.usage.joined.contains ⟨"users", "query.a", "uid"⟩ && ends.2.usage.updated.isEmpty &&
        (ends.2.catalog.tables.find? "users").all fun schema =>
          (schema.columnType? "uid").isNone := by
    decide +kernel
  simp only [Bool.and_eq_true, Option.isNone_iff_eq_none, List.contains_iff_mem] at runs
  obtain ⟨⟨⟨⟨⟨⟨reads, complete⟩, free⟩, about⟩, joined⟩, unchanged⟩, lacks⟩ := runs
  have run := ofCorpus_eq_ofQueries .shop ⟨1, none, false, false⟩ queries .start
  rw [← run] at complete free about joined unchanged lacks
  refine ⟨fun query mem => List.mem_singleton.mp mem ▸ Parsed.exists_of_any reads, ?_⟩
  obtain ⟨report, t, given, known, reported⟩ := reported_of_known complete 0
  obtain ⟨table, mem, named⟩ := reported "users" about
  have found := known table mem
  refine ⟨report, t, given, table, mem, named, keys_of_all free found, ?_, ?_⟩
  · rw [(Step.tables_of_report given table mem).2]
    refine TableSchema.advised_of_uses ⟨_, .inl joined, named.symm, rfl⟩ ?_
    simp [Tracker.updates, List.isEmpty_iff.mp unchanged, Text.sorted]
  · rw [← named, found] at lacks
    simpa using lacks

end Run

end IndexAdvisor
