import IndexAdvisor.Number.Whole

/-! # Faults

What goes wrong outside the analysis: at the database, at its driver, and at the service that
takes the metrics.
-/

namespace IndexAdvisor

inductive FaultKind where
  /-- The connection is lost or cannot be made. -/
  | connection
  /-- A statement fails. -/
  | runtime
  | value
  | key
  | schema
  /-- The driver reports a failed operation. -/
  | operational
  /-- The driver reports a wrong statement. -/
  | programming
  /-- The metrics service refuses a request. -/
  | client
  /-- The metrics service cannot be reached. -/
  | service
  deriving DecidableEq, Repr, Inhabited

/-- Whether the driver of the database reports faults of the kind. -/
def FaultKind.isDriver : FaultKind → Bool
  | .operational | .programming => true
  | _ => false

/-- Whether faults of the kind end a question about a table as an error of its schema. -/
def FaultKind.endsQuestion : FaultKind → Bool
  | .connection | .runtime | .schema => true
  | _ => false

/-- A fault with what was said about it. -/
structure Fault where
  kind : FaultKind
  detail : String
  deriving DecidableEq, Repr, Inhabited

def Fault.message (fault : Fault) : String :=
  match fault.kind with
  | .key => Number.quoted fault.detail
  | .client =>
    "An error occurred (X) when calling the PutMetricData operation: " ++ fault.detail
  | .service => "An unspecified error occurred"
  | _ => fault.detail

end IndexAdvisor
