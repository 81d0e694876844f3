import IndexAdvisor.Advice
import IndexAdvisor.Batch.Run

/-! # Reports

What a run has found: the results of its queries, and for every known table the advice that the
usage so far calls for.
-/

namespace IndexAdvisor

structure TableReport where
  schema : TableSchema
  advice : TableAdvice
  tableSize : String
  indexSize : String
  /-- The usage of the table, if it is shown. -/
  usage : Option Json

/-- Why a run was not completed: the query it ended at, if it got to one, and the cause. -/
structure Abort where
  queryId : Option String
  message : String
  deriving DecidableEq, Repr

structure Report where
  now : DateTime
  database : String
  warmUps : Nat
  /-- The number of queries that were to be analysed. -/
  total : Nat
  results : List QueryResult
  abort : Option Abort
  tables : List TableReport
  aliases : Aliases
  seconds : Float

namespace TableReport

/-- The size of what a table takes up; empty if it cannot be told. -/
def size (setting : Setting) (what : Storage) (table : String) : Step String := do
  match ← Step.ask setting (.size what table) with
  | .ok text => return text
  | .error _ => return ""

def ofTable (setting : Setting) (options : BatchOptions) (table : TableSchema) :
    Step TableReport := do
  let usage := (← get).usage
  let tableSize ← if options.sizes then size setting .table table.name else pure ""
  let indexSize ← if options.sizes then size setting .indexes table.name else pure ""
  return ⟨table, table.advice usage, tableSize, indexSize,
    if options.debug then some (usage.report table.name) else none⟩

def json (table : TableReport) : Json :=
  .record ([
    ("name", .text table.schema.name),
    ("table_size", .text table.tableSize),
    ("index_size", .text table.indexSize),
    ("schema", table.schema.report),
    ("recommendations", table.advice.report)]
    ++ (table.usage.map fun usage => ("usage", usage)).toList)

end TableReport

namespace Report

def tablesOf (setting : Setting) (options : BatchOptions) :
    List TableSchema → Step (List TableReport)
  | [] => return []
  | table :: rest => do
    let report ← TableReport.ofTable setting options table
    return report :: (← tablesOf setting options rest)

def ofResults (setting : Setting) (options : BatchOptions) (total : Nat)
    (results : List QueryResult) (abort : Option Abort) : Step Report := do
  let session ← get
  let tables ← tablesOf setting options session.catalog.sortedTables
  return {
    now := setting.now
    database := setting.database.name.getD ""
    warmUps := options.warmUps
    total
    results
    abort
    tables
    aliases := session.aliases
    seconds := 0.0 }

def supported (report : Report) : List QueryResult :=
  report.results.filter (·.isSupported)

def analysedCount (report : Report) : Nat := report.supported.length

def unsupportedCount (report : Report) : Nat :=
  (report.results.filter (!·.isSupported)).length

def indexes (report : Report) : List IndexAdvice :=
  report.tables.flatMap (·.advice.indexes)

/-- The tables with updated columns that an index holds, and those columns. -/
def riskColumns (report : Report) : Entries (List String) :=
  (report.tables.map fun table => (table.schema.name, table.advice.riskColumns)).filter
    fun table => !table.2.isEmpty

/-- The number of updated columns that an index holds. -/
def riskCount (report : Report) : Nat :=
  (report.riskColumns.map (·.2.length)).foldl (· + ·) 0

def json (report : Report) : Json :=
  .record [
    ("timestamp", .text report.now.text),
    ("database", .text report.database),
    ("plan_count", .int report.warmUps),
    ("total_queries", .int report.total),
    ("analysed_queries", .int report.analysedCount),
    ("unsupported_queries", .int report.unsupportedCount),
    ("completed", .bool report.abort.isNone),
    ("failed_query_id", Json.ofText? (report.abort.bind (·.queryId))),
    ("error", Json.ofText? (report.abort.map (·.message))),
    ("query_results", .list (report.results.map QueryResult.report)),
    ("timings", .list (report.supported.map QueryResult.timingReport)),
    ("tables", .list (report.tables.map TableReport.json)),
    ("index_suggestions", .int report.indexes.length),
    ("hot_risk_columns",
      .record (report.riskColumns.map fun table => (table.1, Json.ofTexts table.2))),
    ("aliases", .record (report.aliases.map fun byname => (byname.1, .text byname.2))),
    ("analysis_duration_seconds", .float report.seconds)]

end Report

/-- The report of a run: a complete one of the queries that were to be analysed, and an
    incomplete one of the size of the whole corpus. -/
def Run.report (run : Run) (setting : Setting) (options : BatchOptions)
    (corpus : Entries String) (seconds : Float) : Step Report := do
  match run.failure with
  | none =>
    let report ← Report.ofResults setting options run.results.length run.results none
    return { report with seconds }
  | some (id, failure) =>
    Report.ofResults setting options corpus.length run.results (some ⟨id, failure.message⟩)

end IndexAdvisor
