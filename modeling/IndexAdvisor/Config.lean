import IndexAdvisor.Config.Properties
import IndexAdvisor.Number.Whole
import IndexAdvisor.Path
import IndexAdvisor.Text.Lowercase
import IndexAdvisor.Text.Sorted

/-! # Configuration

The settings of a run: the connection, the number of warm-up runs, and the queries. They come
from a property file; variables of the environment fill in for missing settings of the
connection.
-/

namespace IndexAdvisor

open Text (trim isBlankText lowercase)

abbrev Environment := Entries String

structure ConnectionConfig where
  host : String
  port : Int
  database : Option String
  user : Option String
  password : Option String
  /-- A connection text that comes before all else. -/
  url : Option String
  schema : String
  deriving DecidableEq, Repr, Inhabited

/-- What follows the last `@` of a text. -/
def afterLastAt (s : String) : String :=
  String.ofList (s.toList.reverse.takeWhile (· ≠ '@')).reverse

/-- The target of a connection, without user and password. -/
def ConnectionConfig.describe (config : ConnectionConfig) : String :=
  match config.url.filter (!·.isEmpty) with
  | some url => afterLastAt url
  | none => s!"{config.host}:{config.port}/" ++ config.database.getD "None"

structure Config where
  connection : ConnectionConfig
  warmUps : Nat
  debug : Bool
  queries : Entries String
  deriving Repr, Inhabited

inductive ConfigError where
  | missingFile (path : String)
  | notInteger (key value : String)
  | undefined (key : String)
  | negativeWarmUps
  /-- The path of the property file has too long a name. -/
  | longPath
  deriving DecidableEq, Repr

def ConfigError.message : ConfigError → String
  | .missingFile path => s!"Configuration file not found: {path}"
  | .notInteger key value => s!"Property '{key}' must be an integer, got '{value}'"
  | .undefined key => s!"{key} not defined"
  | .negativeWarmUps => "plan_count cannot be negative"
  | .longPath => "File name too long"

namespace Config

/-- The file that is read unless another is named. -/
def defaultFile : String := "queryanalyzer.properties"

/-- The number of warm-up runs unless one is set. -/
def defaultWarmUps : Nat := 5

def queryStart : String := "query."

def isQueryId (name : String) : Bool :=
  queryStart.toList.isPrefixOf name.toList

/-- The queries among properties, without the blanks around them. -/
def queriesOf (properties : Entries (Option String)) : Entries String :=
  properties.filterMap fun (name, value) =>
    (value.filter fun text => isQueryId name && !isBlankText text).map fun text =>
      (name, trim text)

/-- A whole number, unless the setting is absent or blank. -/
def readInteger (key : String) (value : Option String) (default : Int) :
    Except ConfigError Int :=
  match value.filter (!isBlankText ·) with
  | none => .ok default
  | some text => (Number.readWhole text).mapError fun _ => .notInteger key text

def trueTexts : List String := ["true", "yes", "1", "on"]

def readFlag (value : Option String) : Bool :=
  value.any fun text => trueTexts.contains (lowercase (trim text))

/-- A property that is not empty, or else a variable of the environment. -/
def setting (properties : Entries (Option String)) (environment : Environment)
    (key fallback : String) : Option String :=
  match (properties.find? key).join with
  | some value => if value.isEmpty then environment.find? fallback else some value
  | none => environment.find? fallback

def demand (key : String) (value : Option String) : Except ConfigError Unit :=
  if value.any (!·.isEmpty) then .ok () else .error (.undefined key)

/-- The settings of the connection. Without a connection text, database, user and password have to
    be defined. -/
def connectionOf (properties : Entries (Option String)) (environment : Environment) :
    Except ConfigError ConnectionConfig := do
  let setting := setting properties environment
  let port ← readInteger "port" (setting "port" "DB_PORT") 5432
  let connection : ConnectionConfig :=
    { host := (setting "host" "DB_HOST").getD "localhost"
      port
      database := setting "database" "DB_NAME"
      user := setting "user" "DB_USER"
      password := setting "password" "DB_PASSWORD"
      url := setting "url" "DB_URL"
      schema := (setting "schema" "DB_SCHEMA").getD "public" }
  unless connection.url.any (!·.isEmpty) do
    demand "database" connection.database
    demand "user" connection.user
    demand "password" connection.password
  return connection

/-- The settings that properties define. -/
def ofProperties (properties : Entries (Option String)) (environment : Environment) :
    Except ConfigError Config := do
  let connection ← connectionOf properties environment
  let warmUps ← readInteger "plan_count" (properties.find? "plan_count").join defaultWarmUps
  if warmUps < 0 then throw .negativeWarmUps
  return ⟨connection, warmUps.toNat, readFlag (properties.find? "debug").join,
    queriesOf properties⟩

/-- The settings of a property file in a folder. Without a named file the default one is read, if
    it is there. -/
def load (folder : Folder) (path : Option String) (environment : Environment) :
    Except ConfigError Config :=
  let named := Path.ofText ((path.filter (!·.isEmpty)).getD defaultFile)
  match folder.find? named with
  | some (.file text) => ofProperties (Properties.read text) environment
  | some .folder => ofProperties [] environment
  | none =>
    if folder.isTooLong named then .error .longPath
    else if path.isSome then .error (.missingFile named.text)
    else ofProperties [] environment

def queryIds (config : Config) : List String :=
  Text.sorted config.queries.names

end Config

end IndexAdvisor
