import IndexAdvisor.Batch.Summary
import IndexAdvisor.Command.Help
import IndexAdvisor.Log

/-! # Analysing from the command line

The command reads a property file, connects to its database, analyses its queries and prints the
report. The report and the replay scripts are left in a folder. Whatever ends the command early,
what was printed and written before stays.
-/

namespace IndexAdvisor.Command

/-- What a command meets around it. -/
structure Surroundings where
  environment : Environment
  connect : ConnectionConfig → Except Fault Database
  now : DateTime
  /-- How long the analysis takes. -/
  seconds : Float

/-- What nothing was foreseen for. -/
inductive Crash where
  | level (cause : Log.LevelError)
  | folder (cause : Folder.Error)
  | fault (cause : Fault)
  | failure (cause : Failure)

def Crash.message : Crash → String
  | .level cause => cause.message
  | .folder .occupied => "File exists"
  | .folder .noFolder => "Not a directory"
  | .folder .folder => "Is a directory"
  | .folder .tooLong => "File name too long"
  | .folder .cutName => "embedded null byte"
  | .fault cause => cause.message
  | .failure cause => cause.message

inductive Ending where
  | exit (code : Nat)
  | crash (cause : Crash)

structure Terminal where
  printed : String
  folder : Folder
  session : Session

/-- A part of a command, which may end it. -/
abbrev Shell := ExceptT Ending (StateM Terminal)

namespace Shell

def print (text : String) : Shell Unit :=
  modify fun terminal => { terminal with printed := terminal.printed ++ text }

def printLine (line : String) : Shell Unit := print (line ++ "\n")

def exit {α} (code : Nat) : Shell α := throw (.exit code)

/-- Ends the command after a line about an error. -/
def fail {α} (message : String) : Shell α := do
  printLine s!"ERROR: {message}"
  exit 1

/-- A result whose error crashes the command. -/
def orCrash {α ε} (result : Except ε α) (crash : ε → Crash) : Shell α :=
  match result with
  | .ok a => return a
  | .error e => throw (.crash (crash e))

def onFolder (change : Folder → Except Folder.Error Folder) : Shell Unit := do
  let folder ← orCrash (change (← get).folder) .folder
  modify fun terminal => { terminal with folder }

def step {α} (step : Step α) : Shell (Except Failure α) := do
  let (result, session) := step.run.run (← get).session
  modify fun terminal => { terminal with session }
  return result

def ask (setting : Setting) (question : Question) : Shell (Except Fault question.Answer) := do
  match ← step (Step.ask setting question) with
  | .ok answer => return answer
  | .error failure => throw (.crash (.failure failure))

end Shell

namespace Analyse

open Shell

/-! ## Options -/

def flags : List Flag :=
  [helpFlag,
    ⟨"config", ["-c", "--config"], .text,
      "Properties file with connection settings and query.* entries "
        ++ s!"(default: {Config.defaultFile})"⟩,
    ⟨"output", ["--output-dir"], .text,
      "Directory for report.json and replay scripts (default: report)"⟩,
    ⟨"format", ["--format"], .choice ["summary", "json", "both"],
      "Console output format (default: summary)"⟩,
    ⟨"warmUps", ["--plan-count"], .integer,
      "Warm-up executions per query (overrides plan_count)"⟩,
    ⟨"debug", ["--debug"], .switch, "Include raw column usage per table in the report"⟩,
    ⟨"noReplay", ["--no-replay"], .switch, "Do not write .cli replay scripts"⟩,
    ⟨"skipAnalyze", ["--skip-analyze"], .switch, "Do not run ANALYZE before inspecting plans"⟩,
    ⟨"showStatements", ["--show-ddl"], .switch,
      "Show CREATE INDEX statements for all suggestions"⟩,
    ⟨"logLevel", ["--log-level"], .text, "Log level (default: WARNING)"⟩,
    ⟨"logFile", ["--log-file"], .text, "Also write the log to this file"⟩]

def about : String :=
  "Query Analyser - Profile a query corpus and suggest primary keys and indexes"

structure Options where
  config : String
  output : String
  printsSummary : Bool
  printsJson : Bool
  /-- The number of warm-up runs, in place of the configured one. -/
  warmUps : Option Int
  debug : Bool
  replay : Bool
  analyze : Bool
  showsStatements : Bool
  logLevel : String
  logFile : Option String
  deriving Repr, Inhabited

def Options.ofGiven (values : Entries Given) : Options :=
  let format := (text? values "format").getD "summary"
  { config := (text? values "config").getD Config.defaultFile
    output := (text? values "output").getD "report"
    printsSummary := format ≠ "json"
    printsJson := format ≠ "summary"
    warmUps := integer? values "warmUps"
    debug := isOn values "debug"
    replay := !isOn values "noReplay"
    analyze := !isOn values "skipAnalyze"
    showsStatements := isOn values "showStatements"
    logLevel := (text? values "logLevel").getD "WARNING"
    logFile := nonEmpty? (text? values "logFile") }

/-- The paths that the command may look at or write to, as they are given. -/
def Options.paths (options : Options) : List String :=
  [options.config, options.output] ++ options.logFile.toList

/-! ## Preparation -/

/-- Sets up the log; a log file is made together with its folder. -/
def startLog (options : Options) : Shell Int := do
  let level ← orCrash (Log.levelOf options.logLevel) .level
  if let some file := options.logFile then
    let path := Path.ofText file
    onFolder (·.make path.parent)
    onFolder (·.append path "")
  return level

/-- The settings of the run, of which the options override some. -/
def configure (surroundings : Surroundings) (options : Options) : Shell Config := do
  match Config.load (← get).folder (some options.config) surroundings.environment with
  | .error .longPath => throw (.crash (.folder .tooLong))
  | .error e => fail e.message
  | .ok config =>
    let config := { config with debug := config.debug || options.debug }
    match options.warmUps with
    | none => return config
    | some warmUps =>
      if warmUps < 0 then fail "--plan-count cannot be negative"
      else return { config with warmUps := warmUps.toNat }

/-- Whether a fault shows that no connection can be made. -/
def isRefusal (fault : Fault) : Bool :=
  fault.kind = .value || fault.kind = .connection

/-- An answer whose fault refuses the connection. -/
def orRefuse {α} (answer : Except Fault α) : Shell α :=
  match answer with
  | .ok a => return a
  | .error fault => if isRefusal fault then fail fault.message else throw (.crash (.fault fault))

def connect (surroundings : Surroundings) (config : Config) : Shell Setting := do
  printLine s!"Connecting to {config.connection.describe}..."
  let database ← orRefuse (surroundings.connect config.connection)
  let setting := Setting.ofDatabase database none surroundings.now
  if ← orRefuse (← ask setting .alive) then
    printLine "Connected successfully"
    return setting
  else fail "Failed to connect to database"

/-! ## Analysis -/

def barWidth : Nat := 40

def bar (done total : Nat) : String :=
  let filled := barWidth * done / total
  String.ofList (List.replicate filled '=' ++ List.replicate (barWidth - filled) '-')

/-- The line about progress, which replaces the one before. -/
def progressText (progress : Nat × Nat) : String :=
  s!"\r[{bar progress.1 progress.2}] {progress.1}/{progress.2} queries analysed"

def writeScripts (output : Path) : List Replay.Script → Shell Unit
  | [] => return
  | script :: rest => do
    onFolder (·.write (output.child script.name) script.content)
    writeScripts output rest

/-- Analyses the queries of a corpus; a failure that is not foreseen crashes the command. -/
def analyseAll (setting : Setting) (options : BatchOptions) (corpus : Entries String)
    (output : Path) : Shell Run := do
  printLine s!"\nAnalysing {corpus.length} queries ({options.warmUps} warm-up runs each)..."
  printLine ""
  let (run, session) := Run.ofCorpus setting options corpus (← get).session
  modify fun terminal => { terminal with session }
  writeScripts output run.scripts
  print (String.join ((run.progress (Run.queriesOf corpus).length).map progressText))
  if let some (_, failure) := run.failure then
    unless failure.isForeseen do throw (.crash (.failure failure))
  return run

/-- Brings the statistics of the planner up to date, and gives the fault that is foreseen. -/
def refresh (setting : Setting) : Shell (Option Fault) := do
  printLine "Running ANALYZE..."
  match ← ask setting .analyze with
  | .ok () => return none
  | .error fault =>
    if (Failure.fault fault).isForeseen then return some fault
    else throw (.crash (.fault fault))

/-- How the analysis ended early, if it did. -/
def abortOf (run : Run) (fault : Option Fault) : Option Abort :=
  match fault, run.failure with
  | some fault, _ => some ⟨none, fault.message⟩
  | none, some (id, failure) => some ⟨some id, failure.message⟩
  | none, none => none

/-! ## Output -/

def printHeading (heading : String) : Shell Unit := do
  printLine s!"\n{Report.doubleRule}"
  printLine heading
  printLine Report.doubleRule

def printReport (options : Options) (report : Report) : Shell Unit := do
  if options.printsSummary then printLine report.summary
  if options.printsJson then
    printHeading "JSON REPORT"
    printLine report.json.writeIndented
  if options.showsStatements && !report.indexes.isEmpty then
    printHeading "CREATE INDEX STATEMENTS"
    print (String.join (report.indexes.map fun index => index.statement ++ "\n"))
    printLine ""

def writeReport (output : Path) (report : Report) : Shell Unit := do
  let path := output.child "report.json"
  onFolder (·.write path report.json.writeIndented)
  printLine s!"\nReport saved to {path.text}"

/-! ## The command -/

/-- Analyses the queries and leaves the report; tells the exit code. -/
def profile (surroundings : Surroundings) (options : Options) (config : Config)
    (setting : Setting) : Shell Nat := do
  let output := Path.ofText options.output
  onFolder (·.make output)
  let scripts := if options.replay then some output else none
  let batch : BatchOptions := ⟨config.warmUps, scripts, config.debug, true⟩
  let fault ← if options.analyze then refresh setting else pure none
  let run ← if fault.isNone then analyseAll setting batch config.queries output
    else pure ⟨[], none⟩
  printLine "\n"
  let abort := abortOf run fault
  if let some abort := abort then
    let place := abort.queryId.getD "None"
    printLine s!"ERROR: analysis aborted at {place}: {abort.message}"
  let report ← step (Report.ofResults setting batch config.queries.length run.results abort)
  let report ← orCrash report .failure
  let report := if abort.isNone then { report with seconds := surroundings.seconds } else report
  printReport options report
  writeReport output report
  orCrash (← ask setting .close) .fault
  return if abort.isNone then 0 else 1

def command (surroundings : Surroundings) (options : Options) : Shell Nat := do
  let config ← configure surroundings options
  if config.queries.isEmpty then
    printLine s!"\nNo {Config.queryStart}* entries found in {options.config}"
    return 0
  profile surroundings options config (← connect surroundings config)

/-- Writes what was noted to the log file. -/
def finishLog (surroundings : Surroundings) (options : Options) (level : Int) : Shell Unit := do
  let stamp := String.ofList ((surroundings.now.textWith " ").toList.take 19)
  let records := (← get).session.notes.reverse.flatMap (·.records)
  if let some file := options.logFile then
    onFolder (·.append (Path.ofText file) (Log.text stamp (Log.inFile level records)))

def run (program : String) (surroundings : Surroundings) (words : List String)
    (folder : Folder) : Ending × Terminal :=
  let start : Terminal := ⟨"", folder, .start⟩
  match readArguments flags words with
  | .error .misuse => (.exit 2, start)
  | .error .help => (.exit 0, { start with printed := helpText program about flags })
  | .ok values =>
    let options := Options.ofGiven values
    match (startLog options).run.run start with
    | (.error ending, terminal) => (ending, terminal)
    | (.ok level, terminal) =>
      let (result, terminal) := (command surroundings options).run.run terminal
      let ending := match result with
        | .ok code => .exit code
        | .error ending => ending
      (ending, ((finishLog surroundings options level).run.run terminal).2)

end Analyse

end IndexAdvisor.Command
