import IndexAdvisor.Catalog.Table
import IndexAdvisor.Usage.Tracker

/-! # Advice on indexes

Candidates are the columns that a query filters on together, each column that a query joins on,
and each column of a foreign key. Wider candidates come first. An updated column is kept only
where it leads, and an index that is there already is not advised.
-/

namespace IndexAdvisor

structure IndexAdvice where
  table : String
  columns : List String
  rank : Nat
  /-- Whether the index leaves updates in place possible. -/
  hotSafe : Bool
  deriving DecidableEq, Repr, Inhabited

namespace IndexAdvice

def name (advice : IndexAdvice) : String :=
  s!"idx_{advice.table}_" ++ "_".intercalate advice.columns

def statement (advice : IndexAdvice) : String :=
  s!"CREATE INDEX {advice.name} ON {advice.table} (" ++ ", ".intercalate advice.columns ++ ");"

def reason (advice : IndexAdvice) : String :=
  (if 1 < advice.columns.length then "Columns used together in WHERE"
    else "Column used as lookup key")
    ++ (if advice.hotSafe then "" else "; column is updated, index prevents HOT updates")

def report (advice : IndexAdvice) : Json :=
  .record [("rank", .int advice.rank), ("name", .text advice.name),
    ("table", .text advice.table), ("columns", Json.ofTexts advice.columns),
    ("hot_safe", .bool advice.hotSafe), ("reason", .text advice.reason),
    ("ddl", .text advice.statement)]

end IndexAdvice

/-- The columns without the updated ones, except that the first is always kept. -/
def trimUpdated (columns updated : List String) : List String :=
  match columns with
  | [] => []
  | first :: rest => first :: rest.filter fun column => !updated.contains column

/-- Whether columns are several that are all updated. -/
def isOnlyUpdated (columns updated : List String) : Bool :=
  decide (1 < columns.length) && columns.all updated.contains

namespace TableSchema

/-- The distinct candidates, in the order in which they are found. -/
def candidates (table : TableSchema) (usage : Tracker) : List (List String) :=
  let filtered := (usage.filters table.name).map (·.2)
  let joined := (usage.joins table.name).flatMap fun use => use.2.map fun column => [column]
  let keys := table.importedKeys.map fun key => [key.column]
  ((filtered ++ joined ++ keys).filter (!·.isEmpty)).eraseDups

/-- The candidates, wider ones first. -/
def rankedCandidates (table : TableSchema) (usage : Tracker) : List (List String) :=
  (table.candidates usage).mergeSort fun a b => b.length ≤ a.length

def advisedColumns (table : TableSchema) (usage : Tracker) : List (List String) :=
  let updated := usage.updates table.name
  let kept := (table.rankedCandidates usage).filter fun columns =>
    !isOnlyUpdated columns updated
  ((kept.map (trimUpdated · updated)).filter fun columns =>
    !table.indexes.values.contains columns).eraseDups

def indexOn (table : TableSchema) (updated : List String) (columns : List String) (rank : Nat) :
    IndexAdvice :=
  let single := columns.length = 1 ∧ columns.all updated.contains
  ⟨table.name, columns, rank, !single⟩

/-- The advised indexes, in the order of their ranks. -/
def indexAdvice (table : TableSchema) (usage : Tracker) : List IndexAdvice :=
  (table.advisedColumns usage).zipIdx.map fun (columns, place) =>
    table.indexOn (usage.updates table.name) columns (place + 1)

end TableSchema

end IndexAdvisor
