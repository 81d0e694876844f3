import IndexAdvisor.Number.Whole
import IndexAdvisor.Text.Uppercase

/-! # Log

The log of the program: what is worth a record, on which channel and how urgent. The console gets
the records from a set level on; a file, if there is one, those from the lowest named level on.
-/

namespace IndexAdvisor.Log

structure Record where
  /-- The part of the program that left the record. -/
  channel : String
  /-- How urgent the record is; the more, the higher. -/
  level : Int
  text : String
  deriving DecidableEq, Repr, Inhabited

def debug : Int := 10

def info : Int := 20

def warning : Int := 30

def error : Int := 40

def critical : Int := 50

/-! ## Levels by name -/

def levelName (level : Int) : String :=
  if level = critical then "CRITICAL"
  else if level = error then "ERROR"
  else if level = warning then "WARNING"
  else if level = info then "INFO"
  else if level = debug then "DEBUG"
  else if level = 0 then "NOTSET"
  else "Level " ++ toString level

/-- What a word stands for where a level is set. -/
inductive Setting where
  | level (n : Int)
  /-- A layout of records, which is no level. -/
  | layout (text : String)
  /-- All layouts of records. -/
  | layouts
  deriving DecidableEq, Repr

/-- The words that stand for something where a level is set. -/
def settings : List (String × Setting) :=
  [("DEBUG", .level debug), ("INFO", .level info), ("WARNING", .level warning),
    ("WARN", .level warning), ("ERROR", .level error), ("CRITICAL", .level critical),
    ("FATAL", .level critical), ("NOTSET", .level 0),
    ("BASIC_FORMAT", .layout "%(levelname)s:%(name)s:%(message)s"), ("_STYLES", .layouts)]

inductive LevelError where
  | unknown (text : String)
  /-- What was given has no order with levels. -/
  | incomparable
  deriving DecidableEq, Repr

def LevelError.message : LevelError → String
  | .unknown text => "Unknown level: " ++ Number.quoted text
  | .incomparable => "Level not an integer or a valid string"

/-- The level of a word, in any letter case; plain information for an unknown one. -/
def levelOf (word : String) : Except LevelError Int :=
  match settings.lookup (Text.uppercase word) with
  | some (.level n) => .ok n
  | some (.layout text) => .error (.unknown text)
  | some .layouts => .error .incomparable
  | none => .ok info

/-! ## Channels -/

def rootChannel : String := "query_analyser"

/-- Whether a channel is a part of the program's. -/
def isOwn (channel : String) : Bool :=
  channel = rootChannel || (rootChannel ++ ".").toList.isPrefixOf channel.toList

/-- The least level that is logged, given the set one; zero sets none. -/
def threshold (level : Int) : Int :=
  if level = 0 then warning else level

def isLogged (level : Int) (record : Record) : Bool :=
  isOwn record.channel && decide (0 < record.level ∧ threshold level ≤ record.level)

def onConsole (level : Int) (records : List Record) : List Record :=
  records.filter fun record => isLogged level record && decide (level ≤ record.level)

def inFile (level : Int) (records : List Record) : List Record :=
  records.filter fun record => isLogged level record && decide (debug ≤ record.level)

/-! ## Text -/

/-- A record as text, with the instant it was left. -/
def Record.line (record : Record) (stamp : String) : String :=
  s!"{stamp} - {record.channel} - {levelName record.level} - {record.text}"

def text (stamp : String) (records : List Record) : String :=
  String.join (records.map fun record => record.line stamp ++ "\n")

end IndexAdvisor.Log
