import IndexAdvisor.Batch.Report
import IndexAdvisor.Number.Fixed

/-! # Summaries

A report as text for a reader.
-/

namespace IndexAdvisor.Report

open Number (writeFixed)

/-- A line across the page. -/
def doubleRule : String := String.ofList (List.replicate 60 '=')

/-- A line under a heading. -/
def rule : String := String.ofList (List.replicate 40 '-')

def timeText : Option Float → String
  | none => "-"
  | some time => writeFixed 3 time

/-- A section with its heading; none without lines. -/
def sectionLines (heading : String) (lines : List String) : List String :=
  if lines.isEmpty then [] else ["", heading, rule] ++ lines

def timingLine (result : QueryResult) : String :=
  s!"{result.id}: planning {timeText result.planningTime}, "
    ++ s!"execution {timeText result.executionTime}"

def keyLine (key : KeyAdvice) : String :=
  "  Primary key: (" ++ ", ".intercalate key.columns ++ s!") matches existing: {key.matchesWord}"

def indexLine (index : IndexAdvice) : String :=
  s!"  IDX{index.rank}: {index.statement}"
    ++ (if index.hotSafe then "" else "  [blocks HOT updates]")

def tableLines (table : TableReport) : List String :=
  let lines := table.advice.key.toList.map keyLine ++ table.advice.indexes.map indexLine
  if lines.isEmpty then []
  else s!"{table.schema.name} ({table.tableSize}, indexes {table.indexSize})" :: lines

def abortLine (abort : Abort) : String :=
  "Aborted at " ++ abort.queryId.getD "None" ++ s!": {abort.message}"

/-- The line of a table with updated columns that an index holds. -/
def riskLine (table : String × List String) : String :=
  s!"{table.1}: " ++ ", ".intercalate table.2

def summary (report : Report) : String :=
  "\n".intercalate (
    [doubleRule, "QUERY ANALYSIS REPORT", doubleRule,
      s!"Timestamp: {report.now.text}",
      s!"Database: {report.database}",
      s!"Duration: {writeFixed 2 report.seconds} seconds",
      "", "QUERY STATISTICS", rule,
      s!"Total queries: {report.total}",
      s!"Analysed: {report.analysedCount}",
      s!"Unsupported: {report.unsupportedCount}",
      s!"Warm-up runs per query: {report.warmUps}"]
    ++ report.abort.toList.map abortLine
    ++ sectionLines "TIMINGS (ms)" (report.supported.map timingLine)
    ++ ["", "SUGGESTIONS", rule, s!"Index suggestions: {report.indexes.length}"]
    ++ report.tables.flatMap tableLines
    ++ sectionLines "HOT UPDATE RISKS" (report.riskColumns.map riskLine)
    ++ [doubleRule])

end IndexAdvisor.Report
