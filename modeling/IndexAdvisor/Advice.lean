import IndexAdvisor.Advice.Hot
import IndexAdvisor.Advice.Index
import IndexAdvisor.Advice.Key
import IndexAdvisor.Catalog.Introspection

/-! # Advice

What the usage of a table calls for: a primary key and indexes, if any column is filtered or
joined on, and the classification of its columns.
-/

namespace IndexAdvisor

structure TableAdvice where
  table : String
  key : Option KeyAdvice
  indexes : List IndexAdvice
  hotColumns : Entries HotStatus
  /-- The indexes that stand in the way of updates in place. -/
  blocking : List String
  deriving DecidableEq, Repr, Inhabited

def hotReport (columns : Entries HotStatus) : Json :=
  .record (columns.map fun column => (column.1, .text column.2.name))

namespace TableAdvice

def report (advice : TableAdvice) : Json :=
  .record [
    ("table", .text advice.table),
    ("primary_key", (advice.key.map KeyAdvice.report).getD .null),
    ("indexes", .list (advice.indexes.map IndexAdvice.report)),
    ("hot_columns", hotReport advice.hotColumns),
    ("hot_blocking_indexes", Json.ofTexts advice.blocking)]

def riskColumns (advice : TableAdvice) : List String :=
  (advice.hotColumns.filter fun column => column.2 = .risk).map (·.1)

end TableAdvice

def TableSchema.advice (table : TableSchema) (usage : Tracker) : TableAdvice :=
  let used := usage.hasKeyUsage table.name
  { table := table.name
    key := if used then table.keyAdvice? usage else none
    indexes := if used then table.indexAdvice usage else []
    hotColumns := table.hotColumns usage
    blocking := table.blockingIndexes usage }

/-- The advice on every known table, in the order of their names. -/
def Session.advice (session : Session) : List TableAdvice :=
  session.catalog.sortedTables.map (·.advice session.usage)

end IndexAdvisor
