import IndexAdvisor.Catalog.Row
import IndexAdvisor.Database.Fault
import IndexAdvisor.Replay
import IndexAdvisor.Sql.Literal
import IndexAdvisor.Statement

/-! # Failures

All that ends the analysis of a statement, by its cause.
-/

namespace IndexAdvisor

/-- Why a table's structure is not known. -/
inductive SchemaError where
  | missing (table schema : String)
  | introspection (table : String) (fault : Fault)
  | sampling (table : String) (fault : Fault)
  /-- The database itself reported an error of a schema. -/
  | reported (detail : String)
  deriving DecidableEq, Repr

def SchemaError.message : SchemaError → String
  | .missing table schema => s!"Table '{table}' not found in schema '{schema}'"
  | .introspection table fault => s!"Failed to introspect table '{table}': {fault.message}"
  | .sampling table fault => s!"Failed to sample table '{table}': {fault.message}"
  | .reported detail => detail

inductive BindingError where
  /-- It stands beside no column. -/
  | noColumn (number : Nat)
  | unknownColumn (column : String) (number : Nat) (tables : List String)
  | substitution (cause : Sql.SubstitutionError)
  | literal (cause : Sql.BytesError)

def BindingError.message : BindingError → String
  | .noColumn number => s!"Cannot determine the column for parameter ${number}"
  | .unknownColumn column number tables =>
    let place := if tables.isEmpty then "any table" else ", ".intercalate tables
    s!"Column '{column}' for parameter ${number} not found in {place}"
  | .substitution cause => cause.message
  | .literal cause => cause.message

/-- What ends the analysis of a statement. -/
inductive Failure where
  | statement (cause : StatementError)
  | assignment (cause : Outline.AssignmentError)
  | schema (cause : SchemaError)
  | row (cause : RowError)
  | binding (cause : BindingError)
  /-- The changed table has the name of a common table expression. -/
  | nameless
  /-- A part of the statement has no printed form. -/
  | unprintable
  /-- A number of warm-up runs is below zero. -/
  | warmUps
  /-- The statement has no replay script. -/
  | replay (cause : Replay.ScriptError)
  /-- A fault that nothing is made of. -/
  | fault (cause : Fault)

def Failure.message : Failure → String
  | .statement cause => cause.message
  | .assignment .shortRow => "tuple index out of range"
  | .assignment .emptyRow => "'NoneType' object is not subscriptable"
  | .schema cause => cause.message
  | .row cause => cause.message
  | .binding cause => cause.message
  | .nameless => "'NoneType' object has no attribute 'lower'"
  | .unprintable => "'ColumnRef' object has no attribute 'val'"
  | .warmUps => "plan_count cannot be negative"
  | .replay cause => cause.message
  | .fault cause => cause.message

/-- Whether the failure is one that a user is told about. For all others nothing is foreseen. -/
def Failure.isForeseen : Failure → Bool
  | .statement (.number _) | .statement .encoding => false
  | .statement _ | .schema _ => true
  | .binding (.literal _) | .binding (.substitution (.number _)) => false
  | .binding _ => true
  | .fault cause => cause.kind.endsQuestion
  | .assignment _ | .row _ | .nameless | .unprintable | .warmUps | .replay _ => false

/-- Whether the failure is an outage of the database rather than a flaw of the statement. -/
def Failure.isOutage : Failure → Bool
  | .fault cause => cause.kind = .connection || cause.kind = .runtime
  | _ => false

end IndexAdvisor
