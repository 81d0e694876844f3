import IndexAdvisor.Database.Fault
import IndexAdvisor.Value

/-! # Questions to a database

All that an analysis asks of a database. An answer may depend on what was asked before.
-/

namespace IndexAdvisor

/-- What a database knows about the structure of a table. -/
inductive Metadata where
  | columns
  | indexes
  | primaryKey
  /-- The foreign keys of other tables that refer to the table. -/
  | exportedKeys
  /-- The foreign keys of the table. -/
  | importedKeys
  deriving DecidableEq, Repr

inductive Storage where
  | table
  | indexes
  deriving DecidableEq, Repr

/-- A question to a database. -/
inductive Question where
  | metadata (what : Metadata) (table schema : String)
  /-- Any one row of a table. -/
  | sampleRow (table schema : String)
  /-- Executes a statement and undoes its effect; its rows are wanted only with `fetch`. -/
  | execute (statement : String) (fetch : Bool)
  | size (what : Storage) (table : String)
  | alive
  /-- Brings the statistics of the planner up to date. -/
  | analyze
  | close
  deriving DecidableEq, Repr

abbrev Question.Answer : Question → Type
  | .metadata .. => List Value
  | .sampleRow .. => List (String × Value)
  | .execute .. => List String
  | .size .. => String
  | .alive => Bool
  | .analyze | .close => Unit

/-- A database, as an analysis meets it. -/
structure Database where
  /-- The schema that holds the tables, if one is set. -/
  schema : Option String
  name : Option String
  /-- The answer to a question after the questions asked before, the latest first. -/
  answer : (asked : List Question) → (question : Question) → Except Fault question.Answer

end IndexAdvisor
