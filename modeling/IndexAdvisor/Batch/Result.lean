import IndexAdvisor.Binding
import IndexAdvisor.Inspection
import IndexAdvisor.Replay

/-! # Results of queries

What the analysis of one query gives: the statement that was executed, its plan and timings, and
the script that replays it. An unsupported statement has a reason in their place.
-/

namespace IndexAdvisor

open Sql (SqlType)

structure BatchOptions where
  /-- The number of runs before the measured one. -/
  warmUps : Nat
  /-- The folder of the replay scripts, if such are made. -/
  replay : Option Path
  /-- Whether reports show the usage of each table. -/
  debug : Bool
  /-- Whether reports show the sizes of each table. -/
  sizes : Bool
  deriving DecidableEq, Repr, Inhabited

/-- What was found out about an executed statement. -/
structure Profile where
  sql : String
  parameters : List (SqlType × String)
  plan : Plan
  script : Option Replay.Script

structure QueryResult where
  id : String
  kind : StatementKind
  query : String
  tables : List String
  /-- The profile of a supported statement, or why it is not supported. -/
  outcome : Except String Profile

namespace QueryResult

def profile? (result : QueryResult) : Option Profile :=
  match result.outcome with
  | .ok profile => some profile
  | .error _ => none

def isSupported (result : QueryResult) : Bool := result.profile?.isSome

def reason? (result : QueryResult) : Option String :=
  match result.outcome with
  | .ok _ => none
  | .error reason => some reason

/-- The milliseconds of planning, if the plan reports them. -/
def planningTime (result : QueryResult) : Option Float :=
  result.profile?.bind (·.plan.planningTime)

/-- The milliseconds of execution, if the plan reports them. -/
def executionTime (result : QueryResult) : Option Float :=
  result.profile?.bind (·.plan.executionTime)

def parameterTypes (result : QueryResult) : List SqlType :=
  ((result.profile?.map (·.parameters)).getD []).map (·.1)

def parameterValues (result : QueryResult) : List String :=
  ((result.profile?.map (·.parameters)).getD []).map (·.2)

def planText (result : QueryResult) : String :=
  (result.profile?.map (·.plan.text)).getD ""

def script? (result : QueryResult) : Option Replay.Script :=
  result.profile?.bind (·.script)

def report (result : QueryResult) : Json :=
  .record [
    ("query_id", .text result.id),
    ("statement_kind", .text result.kind.name),
    ("query", .text result.query),
    ("rewritten_query", Json.ofText? (result.profile?.map (·.sql))),
    ("tables", Json.ofTexts result.tables),
    ("plan", .text result.planText),
    ("analyzed", .bool (result.profile?.any (·.plan.analyzed))),
    ("planning_time_ms", Json.ofFloat? result.planningTime),
    ("execution_time_ms", Json.ofFloat? result.executionTime),
    ("parameter_types", .list (result.parameterTypes.map fun t => .int t.code)),
    ("parameter_values", Json.ofTexts result.parameterValues),
    ("unsupported_reason", Json.ofText? result.reason?),
    ("replay_script", Json.ofText? (result.script?.map (·.name)))]

def timingReport (result : QueryResult) : Json :=
  .record [
    ("query_id", .text result.id),
    ("planning_time_ms", Json.ofFloat? result.planningTime),
    ("execution_time_ms", Json.ofFloat? result.executionTime)]

end QueryResult

namespace Step

/-- The replay script of a bound statement, if scripts are made. -/
def scriptOf (options : BatchOptions) (id query : String) (bound : BoundStatement) :
    Step (Option Replay.Script) :=
  match options.replay with
  | none => return none
  | some folder =>
    let types := bound.parameters.map (·.1.code)
    require (Replay.script? folder id query types (bound.parameters.map (·.2))) .replay

/-- Analyses one query: binds it, inspects its plan and makes its replay script. -/
def analyse (setting : Setting) (options : BatchOptions) (id query : String) :
    Step QueryResult := do
  let parsed ← require (Parsed.read query) .statement
  let ⟨kind, tables, binding⟩ ← bind setting id parsed
  match binding with
  | .unsupported reason =>
    leave (.skipped id reason)
    return ⟨id, kind, query, tables, .error reason⟩
  | .bound bound =>
    let plan ← inspect setting options.warmUps bound.sql tables
    let script ← scriptOf options id query bound
    return ⟨id, kind, query, tables, .ok ⟨bound.sql, bound.parameters, plan, script⟩⟩

end Step

end IndexAdvisor
