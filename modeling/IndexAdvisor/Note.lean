import IndexAdvisor.Log

/-! # Notes

What an analysis tells besides its results, and the records that this leaves in the log.
-/

namespace IndexAdvisor

/-- What an analysis tells besides its results. -/
inductive Note where
  /-- A timing line of a plan could not be read. -/
  | unreadableTiming (line : String)
  /-- A query cannot be analysed. -/
  | skipped (query reason : String)
  /-- The analysis of a query failed. -/
  | failed (query sql message : String)
  deriving DecidableEq, Repr

/-- The channel of the part of the program that leaves the note. -/
def Note.channel : Note → String
  | .unreadableTiming _ => Log.rootChannel ++ ".plan_executor"
  | .skipped .. | .failed .. => Log.rootChannel ++ ".batch_analyser"

def Note.records (note : Note) : List Log.Record :=
  match note with
  | .unreadableTiming line =>
    [⟨note.channel, Log.warning, s!"Unreadable timing line: {line}"⟩]
  | .skipped query reason => [⟨note.channel, Log.warning, s!"Skipping {query}: {reason}"⟩]
  | .failed query sql message =>
    [⟨note.channel, Log.error, s!"Analysis of {query} failed: {message}"⟩,
      ⟨note.channel, Log.error, s!"Original query: {sql}"⟩]

end IndexAdvisor
