import IndexAdvisor.Catalog.Table
import IndexAdvisor.Usage.Tracker

/-! # Advice on primary keys

The columns that queries filter and join on, and never update, make up the key that the queries
imply.
-/

namespace IndexAdvisor

/-- An implied primary key, beside the one that is there. -/
structure KeyAdvice where
  table : String
  columns : List String
  existing : List String
  deriving DecidableEq, Repr, Inhabited

namespace KeyAdvice

def matchesExisting (advice : KeyAdvice) : Bool :=
  advice.columns.all advice.existing.contains && advice.existing.all advice.columns.contains

def matchesWord (advice : KeyAdvice) : String :=
  if advice.matchesExisting then "Yes" else "No"

def report (advice : KeyAdvice) : Json :=
  .record [("table", .text advice.table), ("columns", Json.ofTexts advice.columns),
    ("existing_columns", Json.ofTexts advice.existing),
    ("matches_existing", .text advice.matchesWord)]

end KeyAdvice

namespace TableSchema

/-- The columns of a table that queries filter or join on and do not update. -/
def keyColumns (table : TableSchema) (usage : Tracker) : List String :=
  let used := (usage.joins table.name ++ usage.filters table.name).flatMap (·.2)
  let updated := usage.updates table.name
  Text.sortedDistinct (used.filter fun column => !updated.contains column)

/-- The primary key that the usage implies; none without key columns. -/
def keyAdvice? (table : TableSchema) (usage : Tracker) : Option KeyAdvice :=
  let columns := table.keyColumns usage
  if columns.isEmpty then none else some ⟨table.name, columns, table.primaryKey⟩

end TableSchema

end IndexAdvisor
