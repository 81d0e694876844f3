import IndexAdvisor.Batch.Result
import IndexAdvisor.Config

/-! # Runs

The queries of a corpus are analysed one after the other in the order of their ids. The first
failure ends the run; the results before it are kept.
-/

namespace IndexAdvisor

structure Run where
  results : List QueryResult
  /-- The query whose analysis failed, and why. -/
  failure : Option (String × Failure)

namespace Run

/-- The queries of a corpus in the order in which they are analysed. -/
def queriesOf (corpus : Entries String) : List (String × String) :=
  let ids := Text.sorted (corpus.names.filter Config.isQueryId)
  ids.filterMap fun id => (corpus.find? id).map fun query => (id, query)

/-- Analyses queries in turn up to the first failure. -/
def ofQueries (setting : Setting) (options : BatchOptions) :
    List (String × String) → Session → Run × Session
  | [], session => (⟨[], none⟩, session)
  | (id, query) :: rest, session =>
    match (Step.analyse setting options id query).run.run session with
    | (.error failure, session) =>
      let note : Note := .failed id query failure.message
      (⟨[], some (id, failure)⟩, { session with notes := note :: session.notes })
    | (.ok result, session) =>
      let (run, session) := ofQueries setting options rest session
      ({ run with results := result :: run.results }, session)

def ofCorpus (setting : Setting) (options : BatchOptions) (corpus : Entries String)
    (session : Session) : Run × Session :=
  ofQueries setting options (queriesOf corpus) session

def isComplete (run : Run) : Bool := run.failure.isNone

/-- How many of all queries were analysed, after each. -/
def progress (run : Run) (total : Nat) : List (Nat × Nat) :=
  (List.range run.results.length).map fun n => (n + 1, total)

/-- The replay scripts of the results, in the order in which they were made. -/
def scripts (run : Run) : List Replay.Script :=
  run.results.filterMap (·.script?)

end Run

end IndexAdvisor
