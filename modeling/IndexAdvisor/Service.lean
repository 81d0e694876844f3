import IndexAdvisor.Batch.Report
import IndexAdvisor.Service.Intake
import IndexAdvisor.Service.Key
import IndexAdvisor.Service.Route

/-! # The service

Requests are answered one after the other. Each has a session of its own; what they share is the
database. A request is checked in this order: its route, that its body is JSON, its key, that the
database answers, and the fields of its body. Only a request that passes is acted on.
-/

namespace IndexAdvisor

structure Service where
  environment : Environment
  /-- The database, if the service could connect to it. -/
  database : Option Database
  now : DateTime
  /-- What the clock shows, in seconds, by the number of readings before. -/
  clock : Nat → Float

namespace Service

structure State where
  /-- All questions asked of the database so far, the latest first. -/
  asked : List Question
  /-- How often the clock was read. -/
  readings : Nat
  deriving Inhabited

def State.start : State := ⟨[], 0⟩

abbrev Serving := StateM State

def version : String := "1.0.0"

/-- Starts the service. Without a connection it runs on, unless nothing was foreseen for the
    fault. -/
def start (environment : Environment) (connected : Except Fault Database) (now : DateTime)
    (clock : Nat → Float) : Except Fault Service :=
  match connected with
  | .ok database => .ok ⟨environment, some database, now, clock⟩
  | .error fault =>
    match fault.kind with
    | .value | .connection => .ok ⟨environment, none, now, clock⟩
    | _ => .error fault

/-! ## The database -/

/-- Makes a step in a session of its own. -/
def inSession {α} (step : Step α) : Serving (Except Failure α) := do
  let state ← get
  let (result, session) := step.run.run { Session.start with asked := state.asked }
  set { state with asked := session.asked }
  return result

def readClock (service : Service) : Serving Float := do
  let state ← get
  set { state with readings := state.readings + 1 }
  return service.clock state.readings

def settingOf (service : Service) (database : Database) : Setting :=
  .ofDatabase database none service.now

def ask (service : Service) (database : Database) (question : Question) :
    Serving (Except Failure question.Answer) :=
  inSession (Step.demand (service.settingOf database) question .fault)

def livingDatabase? (service : Service) : Serving (Except Failure (Option Database)) := do
  match service.database with
  | none => return .ok none
  | some database =>
    return (← service.ask database .alive).map fun alive => if alive then some database else none

/-! ## Answers -/

def success (j : Json) : Response := .ofJson 200 j

def healthAnswer (connected : Bool) : Response :=
  success (.record [("status", .text (if connected then "healthy" else "degraded")),
    ("database_connected", .bool connected), ("version", .text version)])

def resultJson (plans : Bool) (result : QueryResult) : Json :=
  .record [
    ("query_id", .text result.id),
    ("statement_kind", .text result.kind.name),
    ("query", .text result.query),
    ("rewritten_query", Json.ofText? (result.profile?.map (·.sql))),
    ("tables", Json.ofTexts result.tables),
    ("plan", if plans then .text result.planText else .null),
    ("planning_time_ms", Json.ofFloat? result.planningTime),
    ("execution_time_ms", Json.ofFloat? result.executionTime),
    ("parameter_types", .list (result.parameterTypes.map fun t => .int t.code)),
    ("parameter_values", Json.ofTexts result.parameterValues),
    ("unsupported_reason", Json.ofText? result.reason?)]

def keyJson (key : KeyAdvice) : Json :=
  .record [("columns", Json.ofTexts key.columns), ("existing_columns", Json.ofTexts key.existing),
    ("matches_existing", .text key.matchesWord)]

def indexJson (index : IndexAdvice) : Json :=
  .record [("rank", .int index.rank), ("name", .text index.name),
    ("columns", Json.ofTexts index.columns), ("hot_safe", .bool index.hotSafe),
    ("reason", .text index.reason), ("ddl", .text index.statement)]

def adviceJson (advice : TableAdvice) : Json :=
  .record [
    ("table", .text advice.table),
    ("primary_key", (advice.key.map keyJson).getD .null),
    ("indexes", .list (advice.indexes.map indexJson)),
    ("hot_columns", hotReport advice.hotColumns),
    ("hot_blocking_indexes", Json.ofTexts advice.blocking)]

def reportJson (plans : Bool) (report : Report) : Json :=
  .record [
    ("timestamp", .text report.now.text),
    ("total_queries", .int report.total),
    ("analysed_queries", .int report.analysedCount),
    ("unsupported_queries", .int report.unsupportedCount),
    ("index_suggestions", .int report.indexes.length),
    ("analysis_duration_seconds", .float report.seconds),
    ("queries", .list (report.results.map (resultJson plans))),
    ("tables", .list (report.tables.map (adviceJson ·.advice)))]

/-- The answer to a failed analysis, with the query it ended at. -/
def failureAnswer (id : Option String) (failure : Failure) : Response :=
  if failure.isOutage then .detail 500 s!"Analysis failed: {failure.message}"
  else if failure.isForeseen then
    .detail 400 ((id.map (· ++ ": ")).getD "" ++ failure.message)
  else .crash

/-! ## Requests -/

def health (service : Service) : Serving Response := do
  match ← service.livingDatabase? with
  | .ok database => return healthAnswer database.isSome
  | .error _ => return .crash

/-- Analyses queries and answers with the report. -/
def analyseWith (service : Service) (database : Database) (order : Order) : Serving Response := do
  let setting := service.settingOf database
  let options : BatchOptions := ⟨order.warmUps, none, false, true⟩
  let refreshed ← if order.refresh then service.ask database .analyze else pure (.ok ())
  match refreshed with
  | .error failure => return failureAnswer none failure
  | .ok () =>
    let started ← service.readClock
    let (run, session) :=
      Run.ofCorpus setting options order.queries { Session.start with asked := (← get).asked }
    match run.failure with
    | some (id, failure) =>
      modify fun state => { state with asked := session.asked }
      return failureAnswer (some id) failure
    | none =>
      let seconds := (← service.readClock) - started
      let (report, session) := (run.report setting options order.queries seconds).run.run session
      modify fun state => { state with asked := session.asked }
      match report with
      | .ok report => return success (reportJson order.plans report)
      | .error _ => return .crash

/-- The structure of a table, with the sizes of what it takes up. -/
def tableJson (setting : Setting) (name : String) : Step Json := do
  let table ← Step.introspect setting name
  let tableSize ← TableReport.size setting .table table.name
  let indexSize ← TableReport.size setting .indexes table.name
  return .record (table.report.fields
    ++ [("table_size", .text tableSize), ("index_size", .text indexSize)])

def tableWith (service : Service) (database : Database) (name : String) : Serving Response := do
  match ← inSession (tableJson (service.settingOf database) name) with
  | .ok j => return success j
  | .error (.schema cause) => return .detail 404 cause.message
  | .error _ => return .crash

/-- Acts on a request that holds a key, if one is needed, and for which the database answers. -/
def guarded (service : Service) (request : Request) (act : Database → Serving Response) :
    Serving Response := do
  match denial? service.environment request with
  | some response => return response
  | none =>
    match ← service.livingDatabase? with
    | .ok (some database) => act database
    | .ok none => return .detail 503 "Database connection not available"
    | .error _ => return .crash

def analyse (service : Service) (request : Request) : Serving Response := do
  match readBody request with
  | .error response => return response
  | .ok body =>
    service.guarded request fun database =>
      match Order.ofBody body with
      | .error complaints => return .refused complaints
      | .ok order => service.analyseWith database order

/-- Answers a request, with all that the answer holds. -/
def respondInFull (service : Service) (request : Request) : Serving Response := do
  match routeOf? request.path with
  | none => return .detail 404 "Not Found"
  | some route =>
    if request.method ≠ route.method then return .detail 405 "Method Not Allowed"
    else
      match route with
      | .health => service.health
      | .analyse => service.analyse request
      | .table name => service.guarded request fun database => service.tableWith database name

/-- Answers a request; who asks for the head of an answer is sent nothing else. -/
def respond (service : Service) (request : Request) : Serving Response := do
  let response ← service.respondInFull request
  return if request.method = "HEAD" then response.bare else response

def respondAll (service : Service) : List Request → Serving (List Response)
  | [] => return []
  | request :: rest => do
    let response ← service.respond request
    return response :: (← service.respondAll rest)

/-- Ends the service; the database is closed. -/
def stop (service : Service) : Serving Unit := do
  if let some database := service.database then
    let _ ← service.ask database .close

end Service

end IndexAdvisor
