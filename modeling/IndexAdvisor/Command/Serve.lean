import IndexAdvisor.Command.Help

/-! # Serving from the command line

The command tells where the service is found, sets up the log and hands over to a web server.
-/

namespace IndexAdvisor.Command.Serve

def flags : List Flag :=
  [helpFlag,
    ⟨"host", ["--host"], .text, "Host to bind to (default: 0.0.0.0)"⟩,
    ⟨"port", ["--port"], .integer, "Port to bind to (default: 8000)"⟩,
    ⟨"reload", ["--reload"], .switch, "Enable auto-reload for development"⟩,
    ⟨"logLevel", ["--log-level"], .text, "Analyser log level (default: INFO)"⟩]

def about : String := "Run the PostgreSQL Query Analyser API"

def application : String := "query_analyser.api.main:app"

structure Options where
  host : String
  port : Int
  /-- Whether the service starts anew when its program changes. -/
  reload : Bool
  logLevel : String
  deriving DecidableEq, Repr, Inhabited

def Options.ofGiven (values : Entries Given) : Options :=
  { host := (text? values "host").getD "0.0.0.0"
    port := (integer? values "port").getD 8000
    reload := isOn values "reload"
    logLevel := (text? values "logLevel").getD "INFO" }

def banner (options : Options) : String :=
  let reload := if options.reload then "True" else "False"
  "Starting PostgreSQL Query Analyser API\n"
    ++ s!"  Host: {options.host}\n"
    ++ s!"  Port: {options.port}\n"
    ++ s!"  Reload: {reload}\n"
    ++ "\n"
    ++ s!"API documentation available at: http://{options.host}:{options.port}/docs\n"
    ++ "\n"

/-- How the command ends: it hands over to a server, or it exits. -/
inductive Ending where
  | serve (options : Options)
  | exit (code : Nat)
  deriving DecidableEq, Repr

/-- Runs the command on the words of its line; gives what it prints first. -/
def run (program : String) (words : List String) : Ending × String :=
  match readArguments flags words with
  | .error .misuse => (.exit 2, "")
  | .error .help => (.exit 0, helpText program about flags)
  | .ok values =>
    let options := Options.ofGiven values
    (.serve options, banner options)

end IndexAdvisor.Command.Serve
