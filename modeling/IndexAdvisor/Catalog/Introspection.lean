import IndexAdvisor.Session

/-! # Introspection

The structure of a table and one of its rows are asked of the database once; later they are
known. A table whose questions fail stays unknown.
-/

namespace IndexAdvisor

open Sql (SqlType)
open Text (lowercase)

namespace Step

/-- What a fault means while a table is introspected. -/
def introspectionFailure (table : String) (fault : Fault) : Failure :=
  match fault.kind with
  | .schema => .schema (.reported fault.detail)
  | .connection | .runtime => .schema (.introspection table fault)
  | _ => .fault fault

/-- What a fault means while a table is sampled. -/
def samplingFailure (table : String) (fault : Fault) : Failure :=
  if fault.kind.endsQuestion then .schema (.sampling table fault) else .fault fault

def metadata (setting : Setting) (what : Metadata) (table : String) : Step (List Value) :=
  demand setting (.metadata what table setting.schema) (introspectionFailure table)

/-- The structure of a table with a lower-case name, asked of the database. -/
def readTable (setting : Setting) (table : String) : Step TableSchema := do
  let columnRows ← metadata setting .columns table
  if columnRows.isEmpty then throw (.schema (.missing table setting.schema))
  let columns ← require (readColumns columnRows) .row
  let indexes ← require (readIndexes (← metadata setting .indexes table)) .row
  let primaryKey := (← metadata setting .primaryKey table).map Value.asName
  let exportedKeys ← require (readForeignKeys (← metadata setting .exportedKeys table)) .row
  let importedKeys ← require (readForeignKeys (← metadata setting .importedKeys table)) .row
  return ⟨table, columns, primaryKey, indexes, exportedKeys, importedKeys⟩

/-- The structure of a table, in any letter case. -/
def introspect (setting : Setting) (table : String) : Step TableSchema := do
  let name := lowercase table
  match (← get).catalog.tables.find? name with
  | some known => return known
  | none =>
    let found ← readTable setting name
    modify fun session =>
      { session with
        catalog := { session.catalog with tables := session.catalog.tables.put name found } }
    return found

/-- A sampled row. A null stands for the default of its column's type. -/
def sampleOf (now : DateTime) (table : TableSchema) (row : List (String × Value)) :
    Entries Value :=
  Entries.ofPairs (row.map fun (name, value) =>
    let column := lowercase name
    match value, table.columnType? column with
    | .null, some type => (column, type.defaultValue now)
    | value, _ => (column, value))

/-- One row of a table, in any letter case; empty for a table without rows. -/
def sampleRow (setting : Setting) (table : String) : Step (Entries Value) := do
  let name := lowercase table
  match (← get).catalog.samples.find? name with
  | some known => return known
  | none =>
    let described ← introspect setting name
    let row ← demand setting (.sampleRow name setting.schema) (samplingFailure name)
    let sample := sampleOf setting.now described row
    modify fun session =>
      { session with
        catalog := { session.catalog with samples := session.catalog.samples.put name sample } }
    return sample

end Step

end IndexAdvisor
