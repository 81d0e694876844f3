import IndexAdvisor.Json
import IndexAdvisor.Text.Sorted
import IndexAdvisor.Usage.Record

/-! # Usage of tables

What the queries of an analysis were seen to do with the columns of each table. Every fact is
kept once, the latest first; what is read off does not depend on the order of the queries.
-/

namespace IndexAdvisor

open Text

/-- A fact list with one more fact, unless it is known. -/
def note {α} [BEq α] (fact : α) (facts : List α) : List α :=
  if facts.contains fact then facts else fact :: facts

structure ColumnUse where
  table : String
  query : String
  column : String
  deriving DecidableEq, Repr, Inhabited

structure ColumnUpdate where
  table : String
  column : String
  deriving DecidableEq, Repr, Inhabited

/-- A query of a kind that touches a table; a target may have no table. -/
structure TableTouch where
  kind : StatementKind
  table : Option String
  query : String
  deriving DecidableEq, Repr, Inhabited

structure Tracker where
  /-- The columns used in join conditions. -/
  joined : List ColumnUse
  /-- The columns used in `WHERE` conditions. -/
  filtered : List ColumnUse
  updated : List ColumnUpdate
  touched : List TableTouch
  deriving DecidableEq, Repr, Inhabited

namespace Tracker

def empty : Tracker := ⟨[], [], [], []⟩

/-! ## Recording -/

def recordJoin (tracker : Tracker) (table query column : String) : Tracker :=
  { tracker with joined := note ⟨table, query, column⟩ tracker.joined }

def recordFilter (tracker : Tracker) (table query column : String) : Tracker :=
  { tracker with filtered := note ⟨table, query, column⟩ tracker.filtered }

def recordUpdate (tracker : Tracker) (table column : String) : Tracker :=
  { tracker with updated := note ⟨table, column⟩ tracker.updated }

def recordTouch (tracker : Tracker) (kind : StatementKind) (table : Option String)
    (query : String) : Tracker :=
  { tracker with touched := note ⟨kind, table, query⟩ tracker.touched }

/-! ## Reading -/

/-- The uses of a table by query, in the order of the query ids; of each query the columns in the
    order of the facts. -/
def byQuery (table : String) (uses : List ColumnUse) : List (String × List String) :=
  let uses := uses.filter (·.table = table)
  (sortedDistinct (uses.map (·.query))).map fun query =>
    (query, (uses.filter (·.query = query)).map (·.column))

/-- The columns that each query uses in join conditions, in ascending order. -/
def joins (tracker : Tracker) (table : String) : List (String × List String) :=
  (byQuery table tracker.joined).map fun use => (use.1, sorted use.2)

/-- The columns that each query uses in `WHERE` conditions, the latest first. -/
def filters (tracker : Tracker) (table : String) : List (String × List String) :=
  byQuery table tracker.filtered

/-- The updated columns of a table, in ascending order. -/
def updates (tracker : Tracker) (table : String) : List String :=
  sorted ((tracker.updated.filter (·.table = table)).map (·.column))

/-- The queries of a kind that touch a table, in ascending order. -/
def queries (tracker : Tracker) (kind : StatementKind) (table : Option String) : List String :=
  sorted ((tracker.touched.filter fun t => t.kind = kind ∧ t.table = table).map (·.query))

/-- Whether a table has any column in a join or `WHERE` condition. -/
def hasKeyUsage (tracker : Tracker) (table : String) : Bool :=
  tracker.joined.any (·.table = table) || tracker.filtered.any (·.table = table)

/-- The named tables with any usage, in ascending order. -/
def namedTables (tracker : Tracker) : List String :=
  sortedDistinct (tracker.joined.map (·.table) ++ tracker.filtered.map (·.table)
    ++ tracker.updated.map (·.table) ++ tracker.touched.filterMap (·.table))

/-- The tables with any usage. A target without a table cannot be put in order with others. -/
def tables? (tracker : Tracker) : Option (List (Option String)) :=
  if tracker.touched.all (·.table.isSome) then some (tracker.namedTables.map some)
  else if tracker.namedTables.isEmpty then some [none]
  else none

def columnsReport (uses : List (String × List String)) : Json :=
  .record (uses.map fun use => (use.1, Json.ofTexts use.2))

def report (tracker : Tracker) (table : String) : Json :=
  .record [
    ("selects", Json.ofTexts (tracker.queries .select (some table))),
    ("inserts", Json.ofTexts (tracker.queries .insert (some table))),
    ("updates", Json.ofTexts (tracker.queries .update (some table))),
    ("deletes", Json.ofTexts (tracker.queries .delete (some table))),
    ("on", columnsReport (tracker.joins table)),
    ("where", columnsReport (tracker.filters table)),
    ("set", Json.ofTexts (tracker.updates table))]

end Tracker

end IndexAdvisor
