import IndexAdvisor.Catalog.Table
import IndexAdvisor.Database.Question
import IndexAdvisor.Failure
import IndexAdvisor.Note
import IndexAdvisor.Usage.Alias
import IndexAdvisor.Usage.Tracker

/-! # Sessions

The state of one analysis: what was asked of the database, what is known of its tables, and how
the queries so far use them. A failing step leaves the state as it was at its failure.
-/

namespace IndexAdvisor

/-- Where an analysis takes place. -/
structure Setting where
  database : Database
  schema : String
  now : DateTime

/-- A text, unless it is absent or empty. -/
def nonEmpty? (text : Option String) : Option String :=
  text.filter (!·.isEmpty)

/-- The setting of a database, with a schema that comes before the database's own. -/
def Setting.ofDatabase (database : Database) (schema : Option String) (now : DateTime) :
    Setting :=
  ⟨database, ((nonEmpty? schema).or (nonEmpty? database.schema)).getD "public", now⟩

/-- What is known of the tables, each by its name in lower case. -/
structure Catalog where
  tables : Entries TableSchema
  /-- One row of each sampled table, without nulls where a type has a default. -/
  samples : Entries (Entries Value)

namespace Catalog

def empty : Catalog := ⟨[], []⟩

/-- The known structure of a table, in any letter case. -/
def find? (catalog : Catalog) (table : String) : Option TableSchema :=
  catalog.tables.find? (Text.lowercase table)

def has (catalog : Catalog) (table : String) : Bool := (catalog.find? table).isSome

/-- The names of the known tables, in ascending order. -/
def tableNames (catalog : Catalog) : List String :=
  Text.sorted catalog.tables.names

/-- The known tables, in the order of their names. -/
def sortedTables (catalog : Catalog) : List TableSchema :=
  catalog.tableNames.filterMap catalog.tables.find?

end Catalog

structure Session where
  /-- All questions asked so far, the latest first. -/
  asked : List Question
  catalog : Catalog
  usage : Tracker
  aliases : Aliases
  /-- All notes so far, the latest first. -/
  notes : List Note

/-- The state before anything is analysed. -/
def Session.start : Session := ⟨[], .empty, .empty, [], []⟩

abbrev Step := ExceptT Failure (StateM Session)

namespace Step

def ask (setting : Setting) (question : Question) : Step (Except Fault question.Answer) := do
  let session ← get
  set { session with asked := question :: session.asked }
  return setting.database.answer session.asked question

/-- A question whose fault ends the step. -/
def demand (setting : Setting) (question : Question) (failure : Fault → Failure) :
    Step question.Answer := do
  match ← ask setting question with
  | .ok answer => return answer
  | .error fault => throw (failure fault)

/-- A result whose error ends the step. -/
def require {α ε} (result : Except ε α) (failure : ε → Failure) : Step α :=
  match result with
  | .ok a => return a
  | .error e => throw (failure e)

def leave (note : Note) : Step Unit :=
  modify fun session => { session with notes := note :: session.notes }

end Step

end IndexAdvisor
