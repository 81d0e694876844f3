import IndexAdvisor.Database.Connection
import IndexAdvisor.Proofs.Command.Stages

/-! # Environments of complete property files

A property file that defines host, port, database, user, password and schema leaves none of these to
the environment. Left to it is the connection text: if the file has none, that of the environment
stands in for it as for any other setting, and comes before all else.
-/

namespace IndexAdvisor

namespace Config

variable {properties : Entries (Option String)}

/-- A property that is not empty. -/
def property? (properties : Entries (Option String)) (key : String) : Option String :=
  nonEmpty? (properties.find? key).join

theorem setting_eq (properties : Entries (Option String)) (environment : Environment)
    (key fallback : String) : setting properties environment key fallback
      = (property? properties key).or (environment.find? fallback) := by
  unfold setting property? nonEmpty?
  cases (properties.find? key).join with
  | none => rfl
  | some value => cases empty : value.isEmpty <;> simp [Option.filter, empty]

/-- The connection text of the properties, or else of the environment. -/
def urlOf (properties : Entries (Option String)) (environment : Environment) : Option String :=
  (property? properties "url").or (environment.find? "DB_URL")

theorem nonEmpty?_of_property {key value : String} (defined : property? properties key = some value) :
    nonEmpty? (some value) = some value := by
  obtain ⟨-, filled⟩ := Option.filter_eq_some_iff.mp defined
  simp [nonEmpty?, filled]

/-! ## Definitions -/

/-- The settings of a connection, as a property file tells them. -/
structure Definition where
  host : String
  port : String
  database : String
  user : String
  password : String
  schema : String

/-- The properties define all these settings, none of them empty. -/
structure Definition.In (d : Definition) (properties : Entries (Option String)) : Prop where
  host : property? properties "host" = some d.host
  port : property? properties "port" = some d.port
  database : property? properties "database" = some d.database
  user : property? properties "user" = some d.user
  password : property? properties "password" = some d.password
  schema : property? properties "schema" = some d.schema

namespace Definition

variable {d : Definition}

/-- The settings with a port and a connection text. -/
def connection (d : Definition) (port : Int) (url : Option String) : ConnectionConfig :=
  ⟨d.host, port, some d.database, some d.user, some d.password, url, d.schema⟩

/-- What a connection is made to. -/
def target (d : Definition) (port : Int) : Option String → ConnectTarget
  | some url => .text url
  | none => .parts d.host port (some d.database) (some d.user) (some d.password)

theorem connectionOf_eq (defined : d.In properties) (environment : Environment) :
    connectionOf properties environment = (readInteger "port" (some d.port) 5432).map
      fun port => d.connection port (urlOf properties environment) := by
  have demanded {key value : String} (defined : property? properties key = some value) :
      demand key (some value) = .ok () := by
    obtain ⟨-, filled⟩ := Option.filter_eq_some_iff.mp defined
    simp [demand, filled]
  simp only [connectionOf, setting_eq, defined.host, defined.port, defined.database, defined.user,
    defined.password, defined.schema, Option.some_or]
  cases readInteger "port" (some d.port) 5432 with
  | error e => rfl
  | ok port =>
      simp only [Bind.bind, Except.bind]
      split
      · rfl
      · rw [demanded defined.database, demanded defined.user, demanded defined.password]
        rfl

/-- The environment changes nothing of the settings but the connection text. -/
theorem ofProperties_eq (defined : d.In properties) (environment : Environment) :
    ofProperties properties environment = (ofProperties properties []).map fun config =>
      { config with connection := d.connection config.connection.port (urlOf properties environment) } := by
  simp only [ofProperties, connectionOf_eq defined]
  cases readInteger "port" (some d.port) 5432 with
  | error e => rfl
  | ok port =>
      simp only [Except.map, Bind.bind, Except.bind]
      cases readInteger "plan_count" (properties.find? "plan_count").join defaultWarmUps with
      | error e => rfl
      | ok warmUps =>
          dsimp only
          split <;> rfl

theorem port_of_ofProperties {environment : Environment} {config : Config} (defined : d.In properties)
    (given : ofProperties properties environment = .ok config) :
    readInteger "port" (some d.port) 5432 = .ok config.connection.port := by
  simp only [ofProperties, connectionOf_eq defined] at given
  cases read : readInteger "port" (some d.port) 5432 with
  | error e =>
      rw [read] at given
      cases given
  | ok port =>
      simp only [read, Except.map, Bind.bind, Except.bind] at given
      split at given
      · cases given
      split at given
      · cases given
      · cases given
        rfl

/-- With a port other than zero nothing but the connection text is left to the environment. -/
theorem settings_eq (defined : d.In properties) {port : Int} (nonzero : port ≠ 0) (url : Option String)
    (environment : Environment) :
    (ConnectionRequest.ofConfig (d.connection port url)).settings environment
      = .ok ⟨d.host, port, some d.database, some d.user, some d.password,
          (nonEmpty? url).or (environment.find? "DB_URL"), d.schema⟩ := by
  have filled {key value : String} (defined : property? properties key = some value) :
      value.isEmpty = false := by
    obtain ⟨-, filled⟩ := Option.filter_eq_some_iff.mp defined
    simpa using filled
  simp [ConnectionRequest.settings, ConnectionRequest.ofConfig, connection, Option.filter,
    filled defined.host, filled defined.database, filled defined.user, filled defined.password, nonzero,
    nonEmpty?, Bind.bind, Except.bind, Pure.pure, Except.pure]

end Definition

/-! ## Connections -/

/-- What a connection is made to with the settings of a property file, and the schema of its tables. -/
def connecting (folder : Folder) (path : Option String) (environment : Environment) :
    Except (ConfigError ⊕ ConnectionError) (ConnectTarget × String) := do
  let config ← (load folder path environment).mapError .inl
  let settings ← ((ConnectionRequest.ofConfig config.connection).settings environment).mapError .inr
  return (settings.target, settings.schema)

section Connecting

variable {folder : Folder} {path : Option String} {text : String} {d : Definition}
  (file : folder.find? (Path.ofText ((path.filter (!·.isEmpty)).getD defaultFile)) = some (.file text))
  (defined : d.In (Properties.read text)) (nonzero : readInteger "port" (some d.port) 5432 ≠ .ok 0)

include file defined nonzero

theorem connecting_eq (environment : Environment) :
    connecting folder path environment = ((load folder path []).mapError .inl).map fun config =>
      (d.target config.connection.port ((property? (Properties.read text) "url").or
        (nonEmpty? (environment.find? "DB_URL"))), d.schema) := by
  unfold connecting
  rw [load_of_find file, load_of_find file, Definition.ofProperties_eq defined environment]
  cases given : ofProperties (Properties.read text) [] with
  | error e => rfl
  | ok config =>
      have port := Definition.port_of_ofProperties defined given
      have nonzero : config.connection.port ≠ 0 := by
        intro zero
        rw [zero] at port
        exact nonzero port
      simp only [Except.map, Except.mapError, Bind.bind, Except.bind, Definition.settings_eq defined nonzero,
        ConnectionSettings.target, Pure.pure, Except.pure]
      unfold urlOf
      cases own : property? (Properties.read text) "url" with
      | some url =>
          have filled := nonEmpty?_of_property own
          simp only [Option.some_or, filled]
          rw [nonEmpty?] at filled
          rw [filled, Definition.target]
      | none =>
          simp only [Option.none_or]
          cases environment.find? "DB_URL" with
          | none => rfl
          | some url => cases empty : url.isEmpty <;> simp [nonEmpty?, Definition.target, Option.filter, empty]

/-- In any two environments a connection is made alike, or fails alike, unless the file has no connection
    text and the environments have different ones. Of all that the environment tells, only its
    connection text is ever used. -/
theorem connecting_eq_iff (environment environment' : Environment) :
    (connecting folder path environment = connecting folder path environment' ↔
      (∃ e, connecting folder path environment = .error e) ∨
        (property? (Properties.read text) "url").isSome ∨
        nonEmpty? (environment.find? "DB_URL") = nonEmpty? (environment'.find? "DB_URL")) ∧
    ∀ target schema, connecting folder path environment = .ok (target, schema) →
      schema = d.schema ∧ ∃ port, readInteger "port" (some d.port) 5432 = .ok port ∧
        target = d.target port ((property? (Properties.read text) "url").or
          (nonEmpty? (environment.find? "DB_URL"))) := by
  have eq := connecting_eq file defined nonzero
  rw [eq environment, eq environment']
  cases given : load folder path [] with
  | error e => exact ⟨iff_of_true rfl (.inl ⟨_, rfl⟩), nofun⟩
  | ok config =>
      constructor
      · cases property? (Properties.read text) "url" with
        | some url => exact iff_of_true rfl (.inr (.inl rfl))
        | none =>
            simp only [Except.mapError, Except.map, Option.none_or, Except.ok.injEq, Prod.mk.injEq, and_true,
              reduceCtorEq, exists_false, Option.isSome_none, Bool.false_eq_true, false_or]
            cases nonEmpty? (environment.find? "DB_URL") <;>
              cases nonEmpty? (environment'.find? "DB_URL") <;> simp [Definition.target]
      · intro target schema made
        obtain ⟨rfl, rfl⟩ := Prod.mk.inj (Except.ok.inj made)
        rw [load_of_find file] at given
        exact ⟨rfl, _, Definition.port_of_ofProperties defined given, rfl⟩

end Connecting

/-! ## A file without a connection text -/

def bankText : String :=
  "host=db\nport=5432\ndatabase=bank\nuser=me\npassword=secret\nschema=public\n"

def bankFolder : Folder := ⟨[(defaultFile, bankText)], []⟩

def bank : Definition := ⟨"db", "5432", "bank", "me", "secret", "public"⟩

theorem bank_defined : bank.In (Properties.read bankText) := by
  constructor <;> decide +kernel

theorem find?_bankFolder :
    bankFolder.find? (Path.ofText (((none : Option String).filter (!·.isEmpty)).getD defaultFile))
      = some (.file bankText) :=
  (Folder.find?_eq_file_iff place?_defaultFile).mpr (by decide)

theorem connecting_eq_iff_bank :
    connecting bankFolder none [("DB_HOST", "elsewhere"), ("DB_PORT", "1"), ("DB_USER", "root")]
      = connecting bankFolder none [] :=
  (connecting_eq_iff find?_bankFolder bank_defined (by decide +kernel) _ _).1.mpr
    (.inr (.inr rfl))

def zeroText : String :=
  "host=db\nport=0\ndatabase=bank\nuser=me\npassword=secret\nschema=public\n"

def zeroFolder : Folder := ⟨[(defaultFile, zeroText)], []⟩

/-- The connection text of the environment comes before all that the file defines. Also a port that is
    zero is none. -/
theorem environment_first :
    bank.In (Properties.read bankText) ∧
      (connecting bankFolder none []).toOption
        = some (.parts "db" 5432 (some "bank") (some "me") (some "secret"), "public") ∧
      (connecting bankFolder none [("DB_URL", "postgresql://elsewhere/bank")]).toOption
        = some (.text "postgresql://elsewhere/bank", "public") ∧
      Definition.In { bank with port := "0" } (Properties.read zeroText) ∧
      (connecting zeroFolder none [("DB_PORT", "1")]).toOption
        = some (.parts "db" 1 (some "bank") (some "me") (some "secret"), "public") := by
  have load := load_of_find find?_bankFolder
  have found : zeroFolder.find?
      (Path.ofText (((none : Option String).filter (!·.isEmpty)).getD defaultFile)) = some (.file zeroText) :=
    (Folder.find?_eq_file_iff place?_defaultFile).mpr (by decide)
  refine ⟨bank_defined, ?_, ?_, ?_, ?_⟩
  · rw [connecting, load]
    decide +kernel
  · rw [connecting, load]
    decide +kernel
  · constructor <;> decide +kernel
  · rw [connecting, load_of_find found]
    decide +kernel

end Config

end IndexAdvisor
