import IndexAdvisor.Config
import IndexAdvisor.Log
import IndexAdvisor.Metrics.Measurement

/-! # Publishing metrics

Metrics are sent to a service as data points, in batches of a limited size. Nothing is sent
outside production and staging. A refused batch ends the sending.
-/

namespace IndexAdvisor

/-- A metric to be published. Without a unit or a time stamp it gets those of all such metrics. -/
structure Metric where
  name : Value
  value : Value
  unit : Option Value
  timestamp : Option Value
  dimensions : List (String × Value)
  deriving Inhabited

structure MetricPoint where
  name : Value
  value : Value
  unit : Value
  timestamp : Value
  dimensions : List (String × Value)
  deriving Inhabited

def Metric.point (metric : Metric) (now : DateTime) : MetricPoint where
  name := metric.name
  value := metric.value
  unit := metric.unit.getD (.text "None")
  timestamp := metric.timestamp.getD (.dateTime now)
  dimensions := metric.dimensions

inductive PublishError where
  /-- A metric lacks a part. -/
  | missing (part : String)
  /-- What is given describes no metrics. -/
  | noMetrics
  /-- The dimensions of a metric have no names. -/
  | nameless
  | fault (fault : Fault)
  deriving DecidableEq, Repr

/-- The named values of dimensions, if there are any. -/
def dimensionsOf (described : Value) : Except PublishError (List (String × Value)) :=
  match described with
  | .record fields => .ok fields
  | v => if v.isTruthy then .error .nameless else .ok []

def Metric.ofValue : Value → Except PublishError Metric
  | .record fields => do
    let part (name : String) : Except PublishError Value :=
      match fields.lookup name with
      | some v => .ok v
      | none => .error (.missing name)
    return {
      name := ← part "MetricName"
      value := ← part "Value"
      unit := fields.lookup "Unit"
      timestamp := fields.lookup "Timestamp"
      dimensions := ← dimensionsOf ((fields.lookup "Dimensions").getD .null) }
  | _ => .error .noMetrics

def Metric.ofValues (described : Value) : Except PublishError (List Metric) :=
  match described.elements? with
  | some documents => documents.mapM Metric.ofValue
  | none => .error .noMetrics

namespace Metrics

/-! ## Batches -/

def batchSize : Nat := 20

/-- Data points in batches, all but the last one full. -/
def batches : List MetricPoint → List (List MetricPoint)
  | [] => []
  | point :: rest =>
    (point :: rest.take (batchSize - 1)) :: batches (rest.drop (batchSize - 1))
termination_by points => points.length
decreasing_by
  simp only [List.length_drop, List.length_cons]
  omega

/-- How the service takes a batch, given all batches it was sent, the latest first. -/
abbrev Service := List (List MetricPoint) → Option Fault

/-- What was sent and told so far, the latest first. -/
structure Sending where
  sent : List (List MetricPoint)
  records : List Log.Record

/-- Whether the service reports faults of a kind. -/
def isServiceFault (fault : Fault) : Bool :=
  match fault.kind with
  | .client | .service => true
  | _ => false

def channel : String := Log.rootChannel ++ ".cloudwatch_metrics"

/-- Sends batches up to the first that is not taken; tells whether all were taken. -/
def send (service : Service) :
    List (List MetricPoint) → Sending → Except Fault Bool × Sending
  | [], sending => (.ok true, sending)
  | batch :: rest, sending =>
    let sending := { sending with sent := batch :: sending.sent }
    match service sending.sent with
    | none => send service rest sending
    | some fault =>
      if isServiceFault fault then
        let record : Log.Record :=
          ⟨channel, Log.error, s!"Error publishing metrics: {fault.message}"⟩
        (.ok false, { sending with records := record :: sending.records })
      else (.error fault, sending)

/-! ## Publishers -/

structure Publisher where
  namespaceName : String
  region : String
  enabled : Bool
  deriving DecidableEq, Repr, Inhabited

/-- A setting that was given and is not empty, or else a variable of the environment. -/
def settingOr (given : Option String) (environment : Environment) (fallback default : String) :
    String :=
  (given.filter (!·.isEmpty)).getD ((environment.find? fallback).getD default)

def publishingEnvironments : List String := ["production", "staging"]

/-- The publisher that settings ask for, whether or not the service can be reached. -/
def Publisher.wanted (name region : Option String) (enabled : Bool)
    (environment : Environment) : Publisher where
  namespaceName := settingOr name environment "CLOUDWATCH_NAMESPACE" "QueryAnalyser"
  region := settingOr region environment "AWS_REGION" "us-east-1"
  enabled := enabled && (environment.find? "ENVIRONMENT").any publishingEnvironments.contains

/-- The publisher after an attempt to reach the service. It is given up if the service reports a
    fault. -/
def Publisher.connect (publisher : Publisher) (fault : Option Fault) :
    Except Fault (Publisher × List Log.Record) :=
  match fault with
  | none => .ok (publisher, [])
  | some fault =>
    if !publisher.enabled then .ok (publisher, [])
    else if isServiceFault fault then
      .ok ({ publisher with enabled := false },
        [⟨channel, Log.warning, s!"Failed to initialize CloudWatch client: {fault.message}"⟩])
    else .error fault

/-- Publishes metrics; tells whether there were any and all were taken. -/
def Publisher.put (publisher : Publisher) (service : Service) (now : DateTime)
    (metrics : List Metric) (sending : Sending) : Except PublishError Bool × Sending :=
  if !publisher.enabled || metrics.isEmpty then (.ok false, sending)
  else
    let (answer, sending) := send service (batches (metrics.map (·.point now))) sending
    (answer.mapError .fault, sending)

/-- Publishes the metrics that documents describe. Whoever publishes nothing does not read them. -/
def Publisher.putDescribed (publisher : Publisher) (service : Service) (now : DateTime)
    (described : Value) (sending : Sending) : Except PublishError Bool × Sending :=
  if !publisher.enabled || !described.isTruthy then (.ok false, sending)
  else
    match Metric.ofValues described with
    | .error e => (.error e, sending)
    | .ok metrics => publisher.put service now metrics sending

end Metrics

/-! ## Metrics of measurements -/

def Metric.of (name : String) (value : Value) (unit : String)
    (dimensions : List (String × Value)) : Metric :=
  ⟨.text name, value, some (.text unit), none, dimensions⟩

/-- The metrics of a query's timings; a missing timing has none. -/
def Metric.ofTimings (id kind planning execution : Value) : List Metric :=
  let dimensions : List (String × Value) := [("QueryID", id), ("StatementKind", kind)]
  let timing (name : String) (time : Value) : List Metric :=
    if time.isNull then [] else [.of name time "Milliseconds" dimensions]
  timing "QueryPlanningTime" planning ++ timing "QueryExecutionTime" execution

def Metric.ofTotals (total analysed unsupported seconds indexes riskColumns : Value) :
    List Metric :=
  [.of "BatchAnalysisQueries" total "Count" [],
    .of "BatchAnalysisAnalysed" analysed "Count" [],
    .of "BatchAnalysisUnsupported" unsupported "Count" [],
    .of "BatchAnalysisDuration" seconds "Seconds" [],
    .of "IndexSuggestions" indexes "Count" [],
    .of "HotRiskColumns" riskColumns "Count" []]

def QueryMeasurement.metrics (m : QueryMeasurement) : List Metric :=
  let time (amount : Option Amount) : Value := (amount.map Amount.value).getD .null
  Metric.ofTimings (.text m.id) (.text m.kind) (time m.planning) (time m.execution)

def RunMeasurement.metrics (m : RunMeasurement) : List Metric :=
  Metric.ofTotals m.total.value m.analysed.value m.unsupported.value m.seconds.value m.indexes.value
    m.riskColumns.value

end IndexAdvisor
