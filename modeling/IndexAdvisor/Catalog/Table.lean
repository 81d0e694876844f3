import IndexAdvisor.Entries
import IndexAdvisor.Json
import IndexAdvisor.Sql.Type

/-! # Table schemas

The structure of one table: columns with their types, keys and indexes, all names in lower case.
-/

namespace IndexAdvisor

open Sql (SqlType)
open Text (lowercase)

/-- One pair of columns of a foreign key. -/
structure ForeignKey where
  name : String
  /-- The table that has the key, and its column. -/
  table : String
  column : String
  /-- The table that the key refers to, and its column. -/
  parentTable : String
  parentColumn : String
  deriving DecidableEq, Repr, Inhabited

def ForeignKey.report (key : ForeignKey) : Json :=
  .record [("name", .text key.name), ("fk_table", .text key.table),
    ("fk_column", .text key.column), ("pk_table", .text key.parentTable),
    ("pk_column", .text key.parentColumn)]

structure TableSchema where
  name : String
  columns : Entries SqlType
  primaryKey : List String
  indexes : Entries (List String)
  exportedKeys : List ForeignKey
  importedKeys : List ForeignKey
  deriving Repr

namespace TableSchema

def hasForeignKeys (table : TableSchema) : Bool :=
  !table.exportedKeys.isEmpty || !table.importedKeys.isEmpty

/-- The type of a column, in any letter case. -/
def columnType? (table : TableSchema) (column : String) : Option SqlType :=
  table.columns.find? (lowercase column)

/-- The columns of all indexes, each once, in the order of the indexes. -/
def indexedColumns (table : TableSchema) : List String :=
  table.indexes.values.flatten.eraseDups

def report (table : TableSchema) : Json :=
  .record [
    ("name", .text table.name),
    ("columns", .record (table.columns.map fun column => (column.1, .text column.2.name))),
    ("primary_key", Json.ofTexts table.primaryKey),
    ("indexes", .record (table.indexes.map fun index => (index.1, Json.ofTexts index.2))),
    ("exported_keys", .list (table.exportedKeys.map ForeignKey.report)),
    ("imported_keys", .list (table.importedKeys.map ForeignKey.report))]

end TableSchema

end IndexAdvisor
