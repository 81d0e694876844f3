import IndexAdvisor.Catalog.Introspection
import IndexAdvisor.Plan

/-! # Inspection

The plan of a statement, after warm-up runs. A statement is executed for its plan only if none of
its tables takes part in a foreign key.
-/

namespace IndexAdvisor

inductive Explain where
  /-- The statement is executed and measured. -/
  | analyze
  /-- The statement is only planned. -/
  | verbose
  deriving DecidableEq, Repr, Inhabited

def Explain.words : Explain → String
  | .analyze => "EXPLAIN (ANALYZE, VERBOSE, BUFFERS ON)"
  | .verbose => "EXPLAIN (VERBOSE)"

namespace Step

/-- How a plan over tables is asked for. -/
def explainFor (setting : Setting) : List String → Step Explain
  | [] => return .analyze
  | table :: rest => do
    if (← introspect setting table).hasForeignKeys then return .verbose
    else explainFor setting rest

/-- Executes a statement a number of times without looking at its rows. -/
def warmUp (setting : Setting) (statement : String) : Nat → Step Unit
  | 0 => return
  | runs + 1 => do
    let _ ← demand setting (.execute statement false) .fault
    warmUp setting statement runs

/-- Leaves a note on each timing line that could not be read. -/
def leaveUnreadable : List String → Step Unit
  | [] => return
  | line :: rest => do
    leave (.unreadableTiming line)
    leaveUnreadable rest

/-- The plan of a statement over tables, after warm-up runs. -/
def inspect (setting : Setting) (warmUps : Nat) (sql : String) (tables : List String) :
    Step Plan := do
  let explain ← explainFor setting tables
  let statement := s!"{explain.words} {sql}"
  warmUp setting statement warmUps
  let lines ← demand setting (.execute statement true) .fault
  let plan := Plan.ofLines lines (explain = .analyze)
  leaveUnreadable plan.unreadable
  return plan

end Step

end IndexAdvisor
