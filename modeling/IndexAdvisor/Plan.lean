import IndexAdvisor.Text.Lowercase
import IndexAdvisor.Number.Reading

/-! # Plans

The output of `EXPLAIN`, line by line, with the two timings that the database reports at its
end. A later timing line overrides an earlier one, also when it cannot be read.
-/

namespace IndexAdvisor

open Text Number

inductive Timing where
  | planning
  | execution
  deriving Repr, DecidableEq

/-- How the line of a timing starts, in small letters. -/
def Timing.label : Timing → String
  | .planning => "planning time:"
  | .execution => "execution time:"

/-- The timing that a trimmed line reports. -/
def Timing.ofLine? (line : String) : Option Timing :=
  let lowered := (lowercase line).toList
  if Timing.planning.label.toList.isPrefixOf lowered then some .planning
  else if Timing.execution.label.toList.isPrefixOf lowered then some .execution
  else none

/-- The milliseconds of a trimmed timing line: the first word after its label. -/
def Timing.milliseconds? (timing : Timing) (line : String) : Option Float :=
  let rest := trim (String.ofList (line.toList.drop timing.label.length))
  readFloat? (String.ofList (rest.toList.takeWhile (· ≠ ' ')))

structure Plan where
  lines : List String
  /-- Milliseconds, where the plan reports them. -/
  planningTime : Option Float
  executionTime : Option Float
  /-- Whether the statement was executed, and not only planned. -/
  analyzed : Bool
  /-- The timing lines that could not be read. -/
  unreadable : List String

namespace Plan

def empty (analyzed : Bool) : Plan :=
  { lines := [], planningTime := none, executionTime := none, analyzed, unreadable := [] }

def setTiming (plan : Plan) (timing : Timing) (time : Option Float) : Plan :=
  match timing with
  | .planning => { plan with planningTime := time }
  | .execution => { plan with executionTime := time }

def addLine (plan : Plan) (line : String) : Plan :=
  let plan := { plan with lines := plan.lines ++ [line] }
  let trimmed := trim line
  match Timing.ofLine? trimmed with
  | none => plan
  | some timing =>
    let time := timing.milliseconds? trimmed
    let plan := plan.setTiming timing time
    if time.isNone then { plan with unreadable := plan.unreadable ++ [trimmed] } else plan

/-- The plan that `EXPLAIN` answered. -/
def ofLines (lines : List String) (analyzed : Bool) : Plan :=
  lines.foldl addLine (empty analyzed)

def text (plan : Plan) : String :=
  "\n".intercalate plan.lines

end Plan

end IndexAdvisor
