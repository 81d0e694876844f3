import IndexAdvisor.Config
import IndexAdvisor.Database.Question
import IndexAdvisor.Number.Decimal

/-! # Connections

One connection to a database, kept open over all questions and opened again when it is found
closed. Statements commit at once, except those that are executed only for their rows: they run
in a transaction of their own that is always rolled back.
-/

namespace IndexAdvisor

open Text

/-! ## Settings -/

structure ConnectionSettings where
  host : String
  port : Int
  database : Option String
  user : Option String
  password : Option String
  /-- A connection text that comes before all else. -/
  dsn : Option String
  schema : String
  deriving DecidableEq, Repr, Inhabited

inductive ConnectionError where
  | fault (fault : Fault)
  /-- The environment names a port that is no number. -/
  | port (cause : Number.WholeError)
  /-- Database, user or password are missing. -/
  | credentials
  /-- A row that was to hold a value is empty. -/
  | emptyRow
  /-- A result that was to name its columns does not. -/
  | unnamedColumns

def ConnectionError.message : ConnectionError → String
  | .fault cause => cause.message
  | .port cause => cause.message
  | .credentials =>
    "Database credentials not provided. Set DB_NAME, DB_USER, and DB_PASSWORD"
  | .emptyRow => "list index out of range"
  | .unnamedColumns => "'NoneType' object is not iterable"

/-- What may be said about a connection; the environment stands in for the rest. -/
structure ConnectionRequest where
  host : Option String
  port : Option Int
  database : Option String
  user : Option String
  password : Option String
  dsn : Option String
  schema : String
  deriving Inhabited

/-- What a configuration says about a connection. -/
def ConnectionRequest.ofConfig (config : ConnectionConfig) : ConnectionRequest where
  host := some config.host
  port := some config.port
  database := config.database
  user := config.user
  password := config.password
  dsn := config.url
  schema := config.schema

/-- The settings of a connection. Without a connection text, database, user and password have to
    be known. -/
def ConnectionRequest.settings (request : ConnectionRequest) (environment : Environment) :
    Except ConnectionError ConnectionSettings := do
  let given (value : Option String) (fallback : String) : Option String :=
    (value.filter (!·.isEmpty)).or (environment.find? fallback)
  let port ← match request.port.filter (· ≠ 0) with
    | some port => pure port
    | none =>
      (Number.readWhole ((environment.find? "DB_PORT").getD "5432")).mapError .port
  let settings : ConnectionSettings :=
    { host := (given request.host "DB_HOST").getD "localhost"
      port
      database := given request.database "DB_NAME"
      user := given request.user "DB_USER"
      password := given request.password "DB_PASSWORD"
      dsn := given request.dsn "DB_URL"
      schema := request.schema }
  let known (value : Option String) : Bool := value.any (!·.isEmpty)
  if known settings.dsn
      || (known settings.database && known settings.user && known settings.password) then
    return settings
  else throw .credentials

/-! ## Drivers -/

inductive ConnectTarget where
  | text (dsn : String)
  | parts (host : String) (port : Int) (database user password : Option String)
  deriving DecidableEq, Repr

def ConnectionSettings.target (settings : ConnectionSettings) : ConnectTarget :=
  match settings.dsn.filter (!·.isEmpty) with
  | some dsn => .text dsn
  | none =>
    .parts settings.host settings.port settings.database settings.user settings.password

/-- What is asked of a driver. -/
inductive DriverEvent where
  | connect (target : ConnectTarget)
  /-- Whether statements commit at once is set. -/
  | autocommit (on : Bool)
  | execute (statement : String) (parameters : Option (List String))
  | rollback
  | close
  deriving DecidableEq, Repr

structure ResultSet where
  /-- The names of its columns, if it gives rows at all. -/
  columns : Option (List String)
  rows : Except Fault (List (List Value))

/-- A driver, by its answers to what was asked of it, the latest first. -/
structure Driver where
  connect : List DriverEvent → Option Fault
  cursor : List DriverEvent → Option Fault
  execute : List DriverEvent → Except Fault ResultSet
  rollback : List DriverEvent → Option Fault

structure Link where
  autocommit : Bool
  closed : Bool
  deriving DecidableEq, Repr, Inhabited

/-- The state of a connection: what is held, and all that was asked of the driver, the latest
    first. -/
structure Connection where
  link : Option Link
  events : List DriverEvent
  deriving Inhabited

structure Access where
  settings : ConnectionSettings
  driver : Driver

abbrev Call := ExceptT ConnectionError (StateM Connection)

namespace Call

/-- Notes what was asked of the driver. -/
def note (event : DriverEvent) : Call Unit :=
  modify fun connection => { connection with events := event :: connection.events }

def check (fault : Option Fault) : Call Unit :=
  match fault with
  | none => return
  | some fault => throw (.fault fault)

def setAutocommit (on : Bool) : Call Unit := do
  note (.autocommit on)
  modify fun connection =>
    { connection with link := connection.link.map fun link => { link with autocommit := on } }

/-- The result of a call, whether or not it fails. -/
def outcome {α} (call : Call α) : Call (Except ConnectionError α) :=
  ExceptT.lift call.run

/-- A call in which faults of the driver are worded anew, with a new kind. -/
def rewording {α} (kind : FaultKind) (words : String) (call : Call α) : Call α := do
  match ← outcome call with
  | .ok a => return a
  | .error (.fault fault) =>
    if fault.kind.isDriver then throw (.fault ⟨kind, words ++ fault.message⟩)
    else throw (.fault fault)
  | .error e => throw e

def connect (access : Access) : Call Unit :=
  rewording .connection "Failed to connect to database: " do
    note (.connect access.settings.target)
    check (access.driver.connect (← get).events)
    modify fun connection => { connection with link := some ⟨false, false⟩ }
    setAutocommit true

def isOpen : Call Bool := return (← get).link.any (!·.closed)

def connected {α} (access : Access) (call : Call α) : Call α := do
  unless ← isOpen do connect access
  rewording .connection "Database connection failed: " call

def execute (access : Access) (statement : String) (parameters : Option (List String)) :
    Call ResultSet := do
  check (access.driver.cursor (← get).events)
  note (.execute statement parameters)
  match access.driver.execute (← get).events with
  | .ok result => return result
  | .error fault => throw (.fault fault)

def rowsOf (result : ResultSet) : Call (List (List Value)) :=
  match result.rows with
  | .ok rows => return rows
  | .error fault => throw (.fault fault)

def fetch (access : Access) (statement : String) (parameters : List String) :
    Call (List (List Value)) :=
  connected access do rowsOf (← execute access statement (some parameters))

/-! ## Statements that are undone -/

def lineOf (row : List Value) : String :=
  ",".intercalate (row.map Value.plainText)

/-- The lines of a statement's rows, if they are wanted and there are any. -/
def linesOf (access : Access) (statement : String) (wanted : Bool) : Call (List String) := do
  let result ← execute access statement none
  if !wanted || result.columns.isNone then return []
  else return (← rowsOf result).map lineOf

/-- Executes a statement in a transaction that is rolled back whatever happens. Afterwards
    statements commit as they did before. A failing rollback counts more than a failing
    statement. -/
def executeUndone (access : Access) (statement : String) (wanted : Bool) : Call (List String) :=
  connected access do
    let before := (← get).link.any (·.autocommit)
    setAutocommit false
    let result ← outcome
      (rewording .runtime "Failed to execute statement: " (linesOf access statement wanted))
    note .rollback
    let failure := access.driver.rollback (← get).events
    setAutocommit before
    check failure
    match result with
    | .ok lines => return lines
    | .error e => throw e

/-! ## Questions -/

def quoteName (name : String) : String :=
  "\"" ++ name.replace "\"" "\"\"" ++ "\""

def columnsStatement : String :=
  "SELECT column_name::text, udt_name::text FROM information_schema.columns "
    ++ "WHERE table_schema = %s AND table_name = %s ORDER BY ordinal_position"

def indexesStatement : String :=
  "SELECT i.relname::text AS index_name, array_agg(a.attname::text ORDER BY k.ord) AS columns "
    ++ "FROM pg_index ix JOIN pg_class t ON t.oid = ix.indrelid "
    ++ "JOIN pg_class i ON i.oid = ix.indexrelid JOIN pg_namespace n ON n.oid = t.relnamespace "
    ++ "JOIN unnest(ix.indkey::int2[]) WITH ORDINALITY AS k(attnum, ord) ON TRUE "
    ++ "JOIN pg_attribute a ON a.attrelid = t.oid AND a.attnum = k.attnum "
    ++ "WHERE n.nspname = %s AND t.relname = %s GROUP BY i.relname ORDER BY i.relname"

def primaryKeyStatement : String :=
  "SELECT a.attname::text FROM pg_index ix JOIN pg_class t ON t.oid = ix.indrelid "
    ++ "JOIN pg_namespace n ON n.oid = t.relnamespace "
    ++ "JOIN unnest(ix.indkey::int2[]) WITH ORDINALITY AS k(attnum, ord) ON TRUE "
    ++ "JOIN pg_attribute a ON a.attrelid = t.oid AND a.attnum = k.attnum "
    ++ "WHERE ix.indisprimary AND n.nspname = %s AND t.relname = %s ORDER BY k.ord"

/-- The statement for the foreign keys of a table, which is on the named side of them. -/
def foreignKeysStatement (side : String) : String :=
  "SELECT c.conname::text, ft.relname::text, fa.attname::text, pt.relname::text, "
    ++ "pa.attname::text FROM pg_constraint c JOIN pg_class ft ON ft.oid = c.conrelid "
    ++ "JOIN pg_class pt ON pt.oid = c.confrelid "
    ++ s!"JOIN pg_namespace n ON n.oid = {side}.relnamespace "
    ++ "JOIN unnest(c.conkey, c.confkey) AS k(fk_attnum, pk_attnum) ON TRUE "
    ++ "JOIN pg_attribute fa ON fa.attrelid = c.conrelid AND fa.attnum = k.fk_attnum "
    ++ "JOIN pg_attribute pa ON pa.attrelid = c.confrelid AND pa.attnum = k.pk_attnum "
    ++ s!"WHERE c.contype = 'f' AND n.nspname = %s AND {side}.relname = %s "
    ++ "ORDER BY c.conname, ft.relname"

def metadataStatement : Metadata → String
  | .columns => columnsStatement
  | .indexes => indexesStatement
  | .primaryKey => primaryKeyStatement
  | .exportedKeys => foreignKeysStatement "pt"
  | .importedKeys => foreignKeysStatement "ft"

/-- The schema that is asked about: a given one, or else that of the settings. -/
def schemaOf (access : Access) (schema : Option String) : String :=
  (schema.filter (!·.isEmpty)).getD access.settings.schema

def firstFields : List (List Value) → Call (List Value)
  | [] => return []
  | [] :: _ => throw .emptyRow
  | (v :: _) :: rest => do return v :: (← firstFields rest)

/-- Metadata of a table: rows, or for a primary key the names of its columns. -/
def metadata (access : Access) (what : Metadata) (table : String) (schema : Option String) :
    Call (List Value) := do
  let rows ← fetch access (metadataStatement what) [schemaOf access schema, table]
  match what with
  | .primaryKey => firstFields rows
  | _ => return rows.map .list

/-- Any one row of a table by the names of its columns; empty if there is none. -/
def sampleRow (access : Access) (table : String) (schema : Option String) :
    Call (Entries Value) :=
  connected access do
    let source := quoteName (schemaOf access schema) ++ "." ++ quoteName table
    let result ← execute access s!"SELECT * FROM {source} LIMIT 1" none
    match ← rowsOf result with
    | [] => return []
    | row :: _ =>
      match result.columns with
      | none => throw .unnamedColumns
      | some names => return Entries.ofPairs (names.zip row)

/-- The function that tells the size of what a table takes up. -/
def sizeFunction : Storage → String
  | .table => "pg_table_size"
  | .indexes => "pg_indexes_size"

/-- The size of what a table takes up; an empty text if it cannot be told. -/
def size (access : Access) (what : Storage) (table : String) : Call Value := do
  let name := bareName access.settings.schema ++ "." ++ bareName table
  let statement := s!"SELECT pg_size_pretty({sizeFunction what}(%s::regclass))"
  match ← outcome (fetch access statement [name]) with
  | .ok [] => return .text ""
  | .ok ([] :: _) => throw .emptyRow
  | .ok ((v :: _) :: _) => return v
  | .error (.fault fault) =>
    if fault.kind = .connection || fault.kind.isDriver then return .text ""
    else throw (.fault fault)
  | .error e => throw e
where
  /-- A name in double quotes, as it is. -/
  bareName (name : String) : String := "\"" ++ name ++ "\""

/-- Brings the statistics of the planner up to date. -/
def analyze (access : Access) : Call Unit :=
  connected access do
    let _ ← execute access "ANALYZE" none

def isOne : Value → Bool
  | .bool b => b
  | .int n => n = 1
  | .float x => x == 1.0
  | .decimal (.finite false coefficient exponent) =>
    decide (exponent ≤ 0 ∧ coefficient = Nat.pow 10 (-exponent).toNat)
  | _ => false

def alive (access : Access) : Call Bool := do
  let answer ← outcome (connected access do rowsOf (← execute access "SELECT 1" none))
  match answer with
  | .ok ((v :: _) :: _) => return isOne v
  | _ => return false

/-- Closes the connection, if it is open. -/
def close : Call Unit := do
  if ← isOpen then
    note .close
    modify fun connection =>
      { connection with link := connection.link.map fun link => { link with closed := true } }

end Call

end IndexAdvisor
