/-! # Usage records

What a statement tells about the columns of its tables: which are compared, assigned, looked up in
a list or joined on, and which column each placeholder stands beside.
-/

namespace IndexAdvisor

/-- The statements that are analysed. -/
inductive StatementKind
  | select
  | update
  | delete
  | insert
  deriving DecidableEq, Repr, Inhabited

def StatementKind.name : StatementKind → String
  | .select => "select"
  | .update => "update"
  | .delete => "delete"
  | .insert => "insert"

def StatementKind.ofName? (name : String) : Option StatementKind :=
  [StatementKind.select, .update, .delete, .insert].find? (·.name = name)

/-- Where in a statement a placeholder was found. -/
inductive Clause
  | select
  | on
  | where
  | set
  | limit
  | offset
  | other
  deriving DecidableEq, Repr, Inhabited

def Clause.name : Clause → String
  | .select => "select"
  | .on => "on"
  | .where => "where"
  | .set => "set"
  | .limit => "limit"
  | .offset => "offset"
  | .other => "other"

/-- A column as a statement names it, in lower case. -/
structure ColumnName where
  qualifier : Option String
  name : String
  deriving DecidableEq, Repr, Inhabited

/-- A table and the other name a statement gives it. -/
structure AliasBinding where
  byname : String
  table : String
  deriving DecidableEq, Repr, Inhabited

/-- What a statement does with a column. -/
inductive Use
  /-- The column is part of a `WHERE` condition. -/
  | condition
  /-- The column is assigned, or is part of a condition and assigned elsewhere. -/
  | assignment
  /-- The column is looked up in a list. -/
  | membership
  /-- The column is part of a join condition. -/
  | join
  deriving DecidableEq, Repr, Inhabited

/-- A use of a column, with the table that was at hand. -/
structure UsageRecord where
  use : Use
  column : ColumnName
  table : Option String
  deriving DecidableEq, Repr, Inhabited

/-- A placeholder with the column it stands beside, if there is one. -/
structure ParameterSite where
  number : Nat
  column : Option ColumnName
  table : Option String
  clause : Clause
  deriving DecidableEq, Repr, Inhabited

/-- What was found in a statement, each list in the order it was found. -/
structure StatementUsage where
  kind : StatementKind
  tables : List String
  /-- The changed table; nothing for one that is named like a common table expression. -/
  targets : List (Option String)
  aliases : List AliasBinding
  records : List UsageRecord
  parameters : List ParameterSite
  hasLimit : Bool
  deriving DecidableEq, Repr, Inhabited

end IndexAdvisor
