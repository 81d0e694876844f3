import IndexAdvisor.Proofs.Command.Place
import IndexAdvisor.Proofs.Command.Stages

/-! # The password of a connection

What the command prints, writes and returns is the same for all passwords, but for the one line that
names the target of the connection. This line shows what stands behind the last `@` of a connection text,
and so a password that stands there.
-/

namespace IndexAdvisor

namespace Command

namespace Analyse

open Shell

section Settled

variable (options : Options) (place : PasswordPlace)

/-- Whether the settings are fit for use does not depend on the password. -/
theorem configured_cases (loaded : Except ConfigError Config) :
    (∃ e line, ∀ password, Stops (configured options (loaded.map (·.give password place))) (.error e) line) ∨
      ∃ config : Config, ∀ password,
        configured options (loaded.map (·.give password place)) = pure (config.give password place) := by
  cases loaded with
  | error e =>
      left
      cases e with
      | longPath => exact ⟨_, _, fun _ => stops_throw _⟩
      | missingFile path => exact ⟨_, _, fun _ => stops_fail _⟩
      | notInteger key value => exact ⟨_, _, fun _ => stops_fail _⟩
      | undefined key => exact ⟨_, _, fun _ => stops_fail _⟩
      | negativeWarmUps => exact ⟨_, _, fun _ => stops_fail _⟩
  | ok config =>
      cases given : options.warmUps with
      | none =>
          right
          refine ⟨{ config with debug := config.debug || options.debug }, fun password => ?_⟩
          simp only [Except.map, configured, given]
          rfl
      | some warmUps =>
          by_cases negative : warmUps < 0
          · left
            refine ⟨.exit 1, "ERROR: " ++ "--plan-count cannot be negative" ++ "\n", fun password => ?_⟩
            simp only [Except.map, configured, given, if_pos negative]
            exact stops_fail _
          · right
            refine ⟨{ config with debug := config.debug || options.debug, warmUps := warmUps.toNat },
              fun password => ?_⟩
            simp only [Except.map, configured, given, if_neg negative]
            rfl

def targetLine (config : Config) : String := s!"Connecting to {config.connection.describe}..." ++ "\n"

/-- What follows this line. -/
def greeted (now : DateTime) (answer : Except Fault Database) : Shell Setting := do
  let database ← orRefuse answer
  let setting := Setting.ofDatabase database none now
  if ← orRefuse (← ask setting .alive) then
    printLine "Connected successfully"
    return setting
  else fail "Failed to connect to database"

theorem agrees_greeted (now : DateTime) (answer : Except Fault Database) : Agrees (greeted now answer) := by
  refine agrees_bind (agrees_orRefuse _) fun database => agrees_bind (agrees_ask _ _) fun alive => ?_
  refine agrees_bind (agrees_orRefuse _) fun alive => ?_
  split
  · exact agrees_bind (agrees_printLine _) fun _ => agrees_pure _
  · exact agrees_fail _

/-- Without queries the command stops; with some, what it does after the line about the target is the same
    for all passwords that the connector treats alike. -/
theorem commanded_cases (surroundings : Surroundings) (config : Config) :
    (∃ line, ∀ password, Stops (commanded surroundings options (config.give password place)) (.ok 0) line) ∨
      ∀ password t, (commanded surroundings options (config.give password place)).run.run t
        = (greeted surroundings.now (surroundings.connect (place.give password config.connection)) >>=
            profile surroundings options config).run.run
              { t with printed := t.printed ++ targetLine (config.give password place) } := by
  cases empty : config.queries.isEmpty with
  | true =>
      left
      refine ⟨s!"\nNo {Config.queryStart}* entries found in {options.config}" ++ "\n", fun password => ?_⟩
      have same : commanded surroundings options (config.give password place) = do
          printLine s!"\nNo {Config.queryStart}* entries found in {options.config}"
          return 0 := if_pos empty
      rw [same]
      constructor
      · intro t
        rfl
      · change ¬"Connecting to ".toList <+:
          ("\nNo " ++ Config.queryStart ++ "* entries found in " ++ options.config ++ "\n").toList
        rw [String.append_assoc, String.append_assoc, String.append_assoc]
        exact silent_of_start rfl (by decide)
  | false =>
      right
      intro password t
      have same : commanded surroundings options (config.give password place)
          = connect surroundings (config.give password place) >>=
            profile surroundings options (config.give password place) := if_neg (Bool.eq_false_iff.mp empty)
      rw [same]
      rfl

end Settled

/-! ## Runs with two passwords -/

def withFile (folder : Folder) (place : List String) (text : String) : Folder :=
  { folder with files := folder.files.put (Folder.placeText place) text }

theorem beside_withFile (folder : Folder) (place : List String) (text text' : String) :
    Folder.Beside (Folder.placeText place) text text' (withFile folder place text)
      (withFile folder place text') := by
  have same : List.Forall₂ (Folder.FileBeside (Folder.placeText place) text text') folder.files
      folder.files := List.forall₂_same.mpr fun file _ => .same file
  have begun := @Folder.FileBeside.begun (Folder.placeText place) text text' ""
  rw [String.append_empty, String.append_empty] at begun
  exact ⟨rfl, Folder.besides_put same begun⟩

section Runs

variable {surroundings : Surroundings} {options : Options} {place : PasswordPlace} {p q : String}
  {properties : Entries (Option String)} {text text' : String} {file : List String}

/-- With two passwords that the connector treats alike, the command stops with the same line, or does the
    same after the lines about the target. -/
theorem command_cases (loaded : Except ConfigError Config) {t t' : Terminal}
    (load : Config.load t.folder (some options.config) surroundings.environment
      = loaded.map (·.give p place))
    (load' : Config.load t'.folder (some options.config) surroundings.environment
      = loaded.map (·.give q place))
    (alike : ∀ connection,
      surroundings.connect (place.give p connection) = surroundings.connect (place.give q connection)) :
    (∃ ending line, ¬"Connecting to ".toList <+: line.toList ∧
      (command surroundings options).run.run t = (ending, { t with printed := t.printed ++ line }) ∧
      (command surroundings options).run.run t' = (ending, { t' with printed := t'.printed ++ line })) ∨
    ∃ (config : Config) (rest : Shell Nat), Agrees rest ∧
      (command surroundings options).run.run t
        = rest.run.run { t with printed := t.printed ++ targetLine (config.give p place) } ∧
      (command surroundings options).run.run t'
        = rest.run.run { t' with printed := t'.printed ++ targetLine (config.give q place) } := by
  rw [run_command, run_command, load, load']
  rcases configured_cases options place loaded with ⟨e, line, stops⟩ | ⟨config, settled⟩
  · left
    exact ⟨.error e, line, (stops p).silent, ((stops p).bind _).run t, ((stops q).bind _).run t'⟩
  · rw [settled, settled, pure_bind, pure_bind]
    rcases commanded_cases options place surroundings config with ⟨line, stops⟩ | goes
    · left
      exact ⟨.ok 0, line, (stops p).silent, (stops p).run t, (stops q).run t'⟩
    · right
      refine ⟨config, _, ?_, goes p t, ?_⟩
      · exact agrees_bind (agrees_greeted _ _) fun setting => agrees_profile _ _ _ _
      · rw [goes q t', alike]

/-- Two runs end in the same way with the same written, and print the same but for lines about the
    target. -/
structure RunBeside (place : PasswordPlace) (p q name text text' : String) (ends ends' : Ending × Terminal) :
    Prop where
  ending : ends.1 = ends'.1
  session : ends.2.session = ends'.2.session
  folder : Folder.Beside name text text' ends.2.folder ends'.2.folder
  printed : (ends.2.printed = ends'.2.printed ∧ ¬"Connecting to ".toList <+: ends.2.printed.toList) ∨
    ∃ (config : Config) (rest : String), ends.2.printed = targetLine (config.give p place) ++ rest ∧
      ends'.2.printed = targetLine (config.give q place) ++ rest

theorem runLogged_beside {name : String} (loaded : Except ConfigError Config) (level : Int) {t t' : Terminal}
    (beside : t.Beside name text text' "" "" t') (quiet : t.printed = "") (quiet' : t'.printed = "")
    (load : Config.load t.folder (some options.config) surroundings.environment
      = loaded.map (·.give p place))
    (load' : Config.load t'.folder (some options.config) surroundings.environment
      = loaded.map (·.give q place))
    (alike : ∀ connection,
      surroundings.connect (place.give p connection) = surroundings.connect (place.give q connection)) :
    RunBeside place p q name text text' (runLogged surroundings options level t)
      (runLogged surroundings options level t') := by
  have logged := agrees_finishLog surroundings options level
  rcases command_cases loaded load load' alike with
    ⟨ending, line, silent, ran, ran'⟩ | ⟨config, rest, agrees, ran, ran'⟩
  · have after : Terminal.Beside name text text' "" "" { t with printed := t.printed ++ line }
        { t' with printed := t'.printed ++ line } :=
      ⟨beside.session, beside.folder, line, by rw [quiet], by rw [quiet']⟩
    have ended := (logged _ _ _ _ _ _ _ after).2
    have kept (t : Terminal) (quiet : t.printed = "") :
        ((finishLog surroundings options level).run.run { t with printed := t.printed ++ line }).2.printed
          = line :=
      keeps_printed_finishLog line surroundings options level _ (by simp [quiet])
    unfold runLogged
    rw [ran, ran']
    refine ⟨rfl, ended.session, ended.folder, .inl ⟨(kept t quiet).trans (kept t' quiet').symm, ?_⟩⟩
    rw [kept t quiet]
    exact silent
  · have before : Terminal.Beside name text text' (targetLine (config.give p place))
        (targetLine (config.give q place)) { t with printed := t.printed ++ targetLine (config.give p place) }
        { t' with printed := t'.printed ++ targetLine (config.give q place) } :=
      ⟨beside.session, beside.folder, "", by simp [quiet], by simp [quiet']⟩
    obtain ⟨same, between⟩ := agrees _ _ _ _ _ _ _ before
    have ended := (logged _ _ _ _ _ _ _ between).2
    unfold runLogged
    rw [ran, ran']
    refine ⟨?_, ended.session, ended.folder, .inr ⟨config, ended.printed⟩⟩
    dsimp only
    rw [same]

/-- The log starts without a word, and leaves the property file as it is. -/
theorem started (options : Options) (folder : Folder) (file : List String) (text : String) :
    let t := ((startLog options).run.run ⟨"", withFile folder file text, .start⟩).2
    t.printed = "" ∧ t.folder.files.find? (Folder.placeText file) = some text := by
  have kept : Keeps (fun t => t.printed = "" ∧ t.folder.files.find? (Folder.placeText file) = some text)
      (startLog options) := by
    refine keeps_startLog ?_ ?_ options
    · intro t folder path holds made
      rw [Folder.files_of_make made]
      exact holds
    · intro t folder path holds added
      exact ⟨holds.1, Folder.find?_of_append_empty holds.2 added⟩
  refine kept _ ⟨rfl, ?_⟩
  change Entries.find? (folder.files.put (Folder.placeText file) text) _ = _
  rw [Entries.find?_put, if_pos rfl]

/-- Runs with two passwords that the connector treats alike go on in the same way. -/
theorem runWith_beside (folder : Folder) (given : p ≠ "") (given' : q ≠ "")
    (read : Properties.read text = properties.put place.key (some (place.value p)))
    (read' : Properties.read text' = properties.put place.key (some (place.value q)))
    (inside : options.configPath.place? = some file)
    (alike : ∀ connection,
      surroundings.connect (place.give p connection) = surroundings.connect (place.give q connection)) :
    RunBeside place p q (Folder.placeText file) text text'
      (runWith surroundings options ⟨"", withFile folder file text, .start⟩)
      (runWith surroundings options ⟨"", withFile folder file text', .start⟩) := by
  have start : Terminal.Beside (Folder.placeText file) text text' "" ""
      ⟨"", withFile folder file text, .start⟩ ⟨"", withFile folder file text', .start⟩ :=
    ⟨rfl, beside_withFile folder file text text', "", rfl, rfl⟩
  obtain ⟨same, between⟩ := agrees_startLog options _ _ _ _ _ _ _ start
  obtain ⟨quiet, held⟩ := started options folder file text
  obtain ⟨quiet', held'⟩ := started options folder file text'
  unfold runWith
  rcases run : (startLog options).run.run ⟨"", withFile folder file text, .start⟩ with ⟨e | level, t⟩ <;>
    rcases run' : (startLog options).run.run ⟨"", withFile folder file text', .start⟩ with
      ⟨e' | level', t'⟩ <;>
    rw [run] at same between quiet held <;> rw [run'] at same between quiet' held' <;> cases same
  · refine ⟨rfl, between.session, between.folder, .inl ⟨quiet.trans quiet'.symm, ?_⟩⟩
    rw [show t.printed = "" from quiet]
    decide
  · -- any password will do for the settings that both runs have in common
    let loaded := Config.ofProperties (properties.put place.key (some (place.value "*")))
      surroundings.environment
    refine runLogged_beside loaded level between quiet quiet' ?_ ?_ alike
    · rw [load_of_file inside held, read]
      exact Config.ofProperties_put place given (by decide)
    · rw [load_of_file inside held', read']
      exact Config.ofProperties_put place given' (by decide)

end Runs

theorem usageLines_cons (program : String) (flags : List Flag) :
    ∃ rest lines, usageLines program flags = ("usage: " ++ rest) :: lines := by
  unfold usageLines
  dsimp only
  split
  · exact ⟨program ++ " ", [], by rw [← String.append_assoc]⟩
  · next first lines _ =>
      refine ⟨program ++ " " ++ first, indented ("usage: " ++ program ++ " ").length lines, ?_⟩
      rw [← String.append_assoc, ← String.append_assoc]

theorem silent_help (program about : String) (flags : List Flag) :
    ¬"Connecting to ".toList <+: (helpText program about flags).toList := by
  obtain ⟨rest, lines, starts⟩ := usageLines_cons program flags
  unfold helpText
  rw [starts]
  simp only [List.cons_append, List.map_cons, String.join_cons, String.append_assoc]
  exact silent_of_start rfl (by decide)

theorem run_of_no_arguments (program : String) (surroundings : Surroundings) {words : List String}
    {why : Stop} (failed : readArguments flags words = .error why) :
    ∃ ending line, ¬"Connecting to ".toList <+: line.toList ∧ ∀ folder,
      run program surroundings words folder = (ending, ⟨line, folder, .start⟩) := by
  cases why with
  | misuse =>
      refine ⟨.exit 2, "", by decide, fun folder => ?_⟩
      rw [run, failed]
  | help =>
      refine ⟨.exit 0, helpText program about flags, silent_help _ _ _, fun folder => ?_⟩
      rw [run, failed]

theorem prefix_targetLine (config : Config) (rest : String) :
    "Connecting to ".toList <+: (targetLine config ++ rest).toList := by
  change "Connecting to ".toList <+:
    ("Connecting to " ++ config.connection.describe ++ "..." ++ "\n" ++ rest).toList
  simp only [String.append_assoc]
  rw [String.toList_append]
  exact List.prefix_append _ _

theorem targetLine_inj {config other : Config} :
    targetLine config = targetLine other ↔ config.connection.describe = other.connection.describe := by
  change "Connecting to " ++ config.connection.describe ++ "..." ++ "\n"
    = "Connecting to " ++ other.connection.describe ++ "..." ++ "\n" ↔ _
  rw [String.append_left_inj, String.append_left_inj, String.append_right_inj]

/-- Two runs whose properties differ in the password only, with a connector that treats both alike, end in
    the same way and write the same. They print the same exactly if they do not come to connect, or the
    password is a property of its own, or an `@` stands behind it in the connection text; without one, the
    text is shown from its last `@` on, if it has any. -/
theorem password_unseen_iff (program : String) {surroundings : Surroundings} {words : List String}
    (folder : Folder) (place : PasswordPlace) {p q : String} (given : p ≠ "") (given' : q ≠ "")
    {properties : Entries (Option String)} {text text' : String} {file : List String}
    (read : Properties.read text = properties.put place.key (some (place.value p)))
    (read' : Properties.read text' = properties.put place.key (some (place.value q)))
    (inside : ∀ values, readArguments flags words = .ok values →
      (Options.ofGiven values).configPath.place? = some file)
    (alike : ∀ connection,
      surroundings.connect (place.give p connection) = surroundings.connect (place.give q connection)) :
    let ends := run program surroundings words (withFile folder file text)
    let ends' := run program surroundings words (withFile folder file text')
    ends.1 = ends'.1 ∧ ends.2.session = ends'.2.session ∧
      Folder.Beside (Folder.placeText file) text text' ends.2.folder ends'.2.folder ∧
      (ends.2.printed = ends'.2.printed ↔
        ¬"Connecting to ".toList <+: ends.2.printed.toList ∨ place.Hides p q) ∧
      ∀ connection : ConnectionConfig,
        (place.give p connection).describe = (place.give q connection).describe ↔ place.Hides p q := by
  intro ends ends'
  have beside : RunBeside place p q (Folder.placeText file) text text' ends ends' := by
    cases arguments : readArguments flags words with
    | ok values =>
        have first : ends = _ := run_of_arguments arguments
        have second : ends' = _ := run_of_arguments arguments
        rw [first, second]
        exact runWith_beside folder given given' read read' (inside values arguments) alike
    | error why =>
        obtain ⟨ending, line, silent, runs⟩ := run_of_no_arguments program surroundings arguments
        have first : ends = _ := runs _
        have second : ends' = _ := runs _
        rw [first, second]
        exact ⟨rfl, rfl, beside_withFile folder file text text', .inl ⟨rfl, silent⟩⟩
  refine ⟨beside.ending, beside.session, beside.folder, ?_, fun connection => ?_⟩
  · rcases beside.printed with ⟨same, silent⟩ | ⟨config, rest, shown, shown'⟩
    · exact iff_of_true same (.inl silent)
    · have connects : "Connecting to ".toList <+: ends.2.printed.toList := by
        rw [shown]
        exact prefix_targetLine _ _
      rw [or_iff_right (not_not_intro connects), shown, shown', String.append_left_inj, targetLine_inj]
      exact PasswordPlace.describe_eq_iff given given' config.connection
  · exact PasswordPlace.describe_eq_iff given given' connection

/-! ## Two connection texts -/

/-- A connector that nothing can be reached by. -/
def unreachable : Surroundings :=
  ⟨[], fun _ => .error ⟨.connection, "refused"⟩, ⟨⟨2024, 1, 1⟩, ⟨0, 0, 0, 0, none⟩⟩, 0⟩

/-- A property file with a query and a connection text. -/
def urlFile (url : String) : String := "query.select.001=SELECT 1\nurl=" ++ url

def plainProperties : Entries (Option String) := [("query.select.001", some "SELECT 1")]

def defaultPlace : List String := ["queryanalyzer.properties"]

def plainOptions : Options := Options.ofGiven []

theorem arguments_nil : readArguments flags [] = .ok [] := by
  decide

theorem inside_plain : plainOptions.configPath.place? = some defaultPlace := Config.place?_defaultFile

theorem inside_default : ∀ values, readArguments flags [] = .ok values →
    (Options.ofGiven values).configPath.place? = some defaultPlace := by
  intro values given
  cases arguments_nil.symm.trans given
  exact inside_plain

/-- Without words the command reads the settings from the default file, and keeps no log. -/
theorem printed_plain (surroundings : Surroundings) (folder : Folder) (text : String) :
    let start : Terminal := ⟨"", withFile folder defaultPlace text, .start⟩
    (run "analyse" surroundings [] start.folder).2.printed
      = ((configured plainOptions (Config.ofProperties (Properties.read text) surroundings.environment) >>=
          commanded surroundings plainOptions).run.run start).2.printed := by
  intro start
  have held : (withFile folder defaultPlace text).files.find? (Folder.placeText defaultPlace) = some text :=
    (started plainOptions folder defaultPlace text).2
  have ran : (startLog plainOptions).run.run ⟨"", withFile folder defaultPlace text, .start⟩
      = (.ok 30, ⟨"", withFile folder defaultPlace text, .start⟩) := by
    have level : Log.levelOf plainOptions.logLevel = .ok 30 := by decide +kernel
    rw [startLog, level]
    rfl
  have unlogged (t : Terminal) : ((finishLog surroundings plainOptions 30).run.run t).2 = t := rfl
  rw [run_of_arguments arguments_nil]
  unfold runWith
  rw [show (startLog (Options.ofGiven [])).run.run _ = _ from ran]
  dsimp only
  rw [runLogged, show Options.ofGiven [] = plainOptions from rfl, unlogged, run_command,
    load_of_file inside_plain held]

/-- What is printed with a property file that has a query and this connection text. -/
def printedWith (url : String) : String :=
  (run "analyse" unreachable [] (withFile default defaultPlace (urlFile url))).2.printed

theorem password_unseen_address :
    printedWith "postgresql://u:secret@db:5432/bank" = printedWith "postgresql://u:hidden@db:5432/bank" := by
  let place : PasswordPlace := .url "postgresql://u:" "@db:5432/bank"
  have alike (connection : ConnectionConfig) :
      unreachable.connect (place.give "secret" connection)
        = unreachable.connect (place.give "hidden" connection) := rfl
  have read : Properties.read (urlFile "postgresql://u:secret@db:5432/bank")
      = plainProperties.put place.key (some (place.value "secret")) := by decide +kernel
  have read' : Properties.read (urlFile "postgresql://u:hidden@db:5432/bank")
      = plainProperties.put place.key (some (place.value "hidden")) := by decide +kernel
  obtain ⟨-, -, -, same, -⟩ := password_unseen_iff "analyse" default place (by decide) (by decide) read read'
    inside_default alike
  exact same.mpr (.inr (.inl (by decide)))

/-- A text of keywords and values is shown as it is. -/
theorem keyword_password_printed :
    printedWith "host=localhost password=secret dbname=bank"
        = "Connecting to host=localhost password=secret dbname=bank...\nERROR: refused\n" ∧
      printedWith "host=localhost password=secret dbname=bank"
        ≠ printedWith "host=localhost password=hidden dbname=bank" := by
  have shown (url : String) : printedWith url = _ := printed_plain unreachable default (urlFile url)
  simp only [shown]
  constructor <;> decide +kernel

end Analyse

end Command

end IndexAdvisor
