import IndexAdvisor.Catalog.Table
import IndexAdvisor.Usage.Tracker

/-! # Updates in place

A row can be updated in place as long as no index holds an updated column. Columns are classified
by that, and the indexes that stand in the way are named.
-/

namespace IndexAdvisor

/-- What a column means for updates in place. -/
inductive HotStatus where
  /-- The column is updated, and an index holds it. -/
  | risk
  /-- The column is updated, and no index holds it. -/
  | updated
  | plain
  deriving DecidableEq, Repr, Inhabited

def HotStatus.name : HotStatus → String
  | .risk => "hot_risk"
  | .updated => "mutate_only"
  | .plain => "plain"

namespace TableSchema

def hotStatus (table : TableSchema) (updated : List String) (column : String) : HotStatus :=
  if updated.contains column then
    if table.indexedColumns.contains column then .risk else .updated
  else .plain

def hotColumns (table : TableSchema) (usage : Tracker) : Entries HotStatus :=
  table.columns.names.map fun column =>
    (column, table.hotStatus (usage.updates table.name) column)

/-- The indexes that hold an updated column. -/
def blockingIndexes (table : TableSchema) (usage : Tracker) : List String :=
  (table.indexes.filter fun index =>
    index.2.any (usage.updates table.name).contains).map (·.1)

end TableSchema

end IndexAdvisor
