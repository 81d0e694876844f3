import IndexAdvisor.Catalog.Table

/-! # Rows of metadata

The rows in which a database describes a table. A row has to have as many fields as what it
describes; its fields are read as lower-case texts.
-/

namespace IndexAdvisor

open Sql (SqlType)
open Text (lowercase)

inductive RowError where
  | tooMany (expected : Nat)
  | tooFew (expected found : Nat)
  /-- A value of the given kind stands for a row. -/
  | noRow (kind : String)
  /-- A value of the given kind stands for a list. -/
  | noList (kind : String)
  deriving DecidableEq, Repr

def RowError.message : RowError → String
  | .tooMany expected => s!"too many values to unpack (expected {expected})"
  | .tooFew expected found =>
    s!"not enough values to unpack (expected {expected}, got {found})"
  | .noRow kind => s!"cannot unpack non-iterable {kind} object"
  | .noList kind => s!"'{kind}' object is not iterable"

def Value.rowFields (v : Value) : Except RowError (List Value) :=
  match v.elements? with
  | some vs => .ok vs
  | none => .error (.noRow v.kindName)

def Value.members (v : Value) : Except RowError (List Value) :=
  match v.elements? with
  | some vs => .ok vs
  | none => .error (.noList v.kindName)

/-- The error of a row with another number of fields than expected. -/
def RowError.ofCount (expected : Nat) (fields : List Value) : RowError :=
  if expected < fields.length then .tooMany expected else .tooFew expected fields.length

def Value.asName (v : Value) : String := lowercase v.plainText

def readColumns (rows : List Value) : Except RowError (Entries SqlType) :=
  rows.foldlM (fun columns row => do
    match ← row.rowFields with
    | [name, type] => return columns.put name.asName (SqlType.ofPostgres type.plainText)
    | fields => throw (.ofCount 2 fields)) []

/-- Reads the indexes of a table with their columns, each column once. -/
def readIndexes (rows : List Value) : Except RowError (Entries (List String)) :=
  rows.foldlM (fun indexes row => do
    match ← row.rowFields with
    | [name, columns] =>
      return indexes.put name.asName ((← columns.members).map Value.asName).eraseDups
    | fields => throw (.ofCount 2 fields)) []

def readForeignKey (row : Value) : Except RowError ForeignKey := do
  match ← row.rowFields with
  | [name, table, column, parentTable, parentColumn] =>
    return ⟨name.asName, table.asName, column.asName, parentTable.asName, parentColumn.asName⟩
  | fields => throw (.ofCount 5 fields)

def readForeignKeys (rows : List Value) : Except RowError (List ForeignKey) :=
  rows.mapM readForeignKey

end IndexAdvisor
