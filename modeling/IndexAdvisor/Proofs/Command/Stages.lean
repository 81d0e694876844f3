import IndexAdvisor.Proofs.Command.Beside

/-! # Stages of the command

The command starts its log, reads its settings, connects and profiles, and writes its notes to the log. The
log changes no other file and prints nothing, and what stops before the connection ends with one line.
-/

namespace IndexAdvisor

/-! ## Files that the log leaves alone -/

namespace Folder

variable {f g : Folder}

theorem files_of_make {path : Path} (made : f.make path = .ok g) : g.files = f.files := by
  unfold make at made
  split at made
  · rw [← Except.ok.inj made]
  · split at made
    · cases made
    · split at made
      · cases made
      · dsimp only at made
        revert made
        cases check _ path with
        | error e =>
            intro made
            cases made
        | ok _ =>
            intro made
            rw [← Except.ok.inj made]

/-- A file that goes on with nothing is the same file, and no other is changed. -/
theorem find?_of_append_empty {path : Path} {name content : String}
    (held : f.files.find? name = some content) (written : f.append path "" = .ok g) :
    g.files.find? name = some content := by
  have content_kept {more : String} (same : ∀ place, path.place? = some place → name = placeText place →
      more = content) (written : f.write path more = .ok g) : g.files.find? name = some content := by
    rcases of_write written with ⟨-, rfl⟩ | ⟨place, inside, rfl⟩
    · exact held
    · rw [Entries.find?_put]
      split
      · next own => rw [same place inside own]
      · exact held
  unfold append at written
  split at written
  · next before found =>
      refine content_kept ?_ written
      rintro place inside rfl
      rw [(find?_eq_file_iff inside).mpr held] at found
      cases found
      rw [String.append_empty]
  · next other =>
      refine content_kept ?_ written
      rintro place inside rfl
      exact absurd ((find?_eq_file_iff inside).mpr held) (other content)

end Folder

namespace Config

theorem load_of_find {folder : Folder} {path : Option String} {text : String}
    (file : folder.find? (Path.ofText ((path.filter (!·.isEmpty)).getD defaultFile)) = some (.file text))
    (environment : Environment) : load folder path environment = ofProperties (Properties.read text) environment := by
  unfold load
  dsimp only
  rw [file]

theorem place?_defaultFile : (Path.ofText defaultFile).place? = some [defaultFile] := by
  have parts : defaultFile.splitOn "/" = [defaultFile] := by
    unfold defaultFile
    simp only [String.splitOn]
    repeat (unfold String.splitOnAux; simp +decide)
  rw [Path.ofText, parts]
  decide

end Config

namespace Command

namespace Shell

variable {α β : Type} {P : Terminal → Prop}

def Keeps (P : Terminal → Prop) (x : Shell α) : Prop := ∀ t, P t → P (x.run.run t).2

theorem keeps_pure (a : α) : Keeps P (pure a) := fun _ kept => kept

theorem keeps_orCrash {ε : Type} (result : Except ε α) (crash : ε → Crash) :
    Keeps P (orCrash result crash) := by
  cases result with
  | ok a => exact keeps_pure a
  | error e => exact fun _ kept => kept

theorem keeps_bind {x : Shell α} {f : α → Shell β} (first : Keeps P x) (second : ∀ a, Keeps P (f a)) :
    Keeps P (x >>= f) := by
  intro t kept
  have between := first t kept
  rw [run_bind]
  rcases run : x.run.run t with ⟨e | a, u⟩ <;> rw [run] at between
  · exact between
  · exact second a u between

theorem keeps_get {f : Terminal → Shell α} (next : ∀ t, Keeps P (f t)) : Keeps P (get >>= f) :=
  fun t kept => next t t kept

theorem keeps_onFolder {change : Folder → Except Folder.Error Folder}
    (kept : ∀ t folder, P t → change t.folder = .ok folder → P { t with folder }) :
    Keeps P (onFolder change) := by
  intro t holds
  rw [Analyse.run_onFolder]
  cases changed : change t.folder with
  | error e => exact holds
  | ok folder => exact kept t folder holds changed

end Shell

namespace Analyse

open Shell

theorem keeps_startLog {P : Terminal → Prop}
    (made : ∀ t folder path, P t → t.folder.make path = .ok folder → P { t with folder })
    (added : ∀ t folder path, P t → t.folder.append path "" = .ok folder → P { t with folder })
    (options : Options) : Keeps P (startLog options) := by
  refine keeps_bind (keeps_orCrash _ _) fun level => ?_
  cases options.logFile with
  | none => exact keeps_pure _
  | some file =>
      refine keeps_bind (keeps_onFolder fun t folder => made t folder _) fun _ => ?_
      exact keeps_bind (keeps_onFolder fun t folder => added t folder _) fun _ => keeps_pure _

theorem keeps_printed_finishLog (printed : String) (surroundings : Surroundings) (options : Options)
    (level : Int) :
    Keeps (fun t => t.printed = printed) (finishLog surroundings options level) := by
  refine keeps_get fun t => ?_
  cases options.logFile with
  | none => exact keeps_pure _
  | some file => exact keeps_onFolder fun _ _ holds _ => holds

/-! ## Reading the settings -/

def Options.configPath (options : Options) : Path :=
  Path.ofText (((some options.config).filter (!·.isEmpty)).getD Config.defaultFile)

theorem load_of_file {options : Options} {folder : Folder} {place : List String} {text : String}
    (inside : options.configPath.place? = some place)
    (held : folder.files.find? (Folder.placeText place) = some text) (environment : Environment) :
    Config.load folder (some options.config) environment
      = Config.ofProperties (Properties.read text) environment :=
  Config.load_of_find ((Folder.find?_eq_file_iff inside).mpr held) environment

def configured (options : Options) (loaded : Except ConfigError Config) : Shell Config :=
  match loaded with
  | .error .longPath => throw (.crash (.folder .tooLong))
  | .error e => fail e.message
  | .ok config =>
    let config := { config with debug := config.debug || options.debug }
    match options.warmUps with
    | none => return config
    | some warmUps =>
      if warmUps < 0 then fail "--plan-count cannot be negative"
      else return { config with warmUps := warmUps.toNat }

def commanded (surroundings : Surroundings) (options : Options) (config : Config) : Shell Nat :=
  if config.queries.isEmpty then do
    printLine s!"\nNo {Config.queryStart}* entries found in {options.config}"
    return 0
  else connect surroundings config >>= profile surroundings options config

theorem run_command (surroundings : Surroundings) (options : Options) (t : Terminal) :
    (command surroundings options).run.run t
      = (configured options (Config.load t.folder (some options.config) surroundings.environment) >>=
          commanded surroundings options).run.run t := by
  rfl

/-- The part ends with a line that tells of no connection. -/
structure Stops {α : Type} (x : Shell α) (ending : Except Ending α) (line : String) : Prop where
  run : ∀ t, x.run.run t = (ending, { t with printed := t.printed ++ line })
  silent : ¬"Connecting to ".toList <+: line.toList

theorem silent_of_start {start rest : String} {c : Char} (first : start.toList.head? = some c)
    (other : c ≠ 'C') :
    ¬"Connecting to ".toList <+: (start ++ rest).toList := by
  rintro ⟨more, same⟩
  rw [String.toList_append] at same
  cases letters : start.toList with
  | nil => simp [letters] at first
  | cons d letters' =>
      rw [letters] at first same
      obtain rfl : d = c := Option.some.inj first
      exact other (List.cons.inj same).1.symm

theorem stops_throw {α : Type} (e : Ending) : Stops (throw e : Shell α) (.error e) "" := by
  constructor
  · intro t
    rw [String.append_empty]
    rfl
  · decide

theorem stops_fail {α : Type} (message : String) :
    Stops (fail message : Shell α) (.error (.exit 1)) ("ERROR: " ++ message ++ "\n") := by
  constructor
  · intro t
    rfl
  · rw [String.append_assoc]
    exact silent_of_start rfl (by decide)

theorem Stops.bind {α β : Type} {x : Shell α} {e : Ending} {line : String} (stops : Stops x (.error e) line)
    (f : α → Shell β) : Stops (x >>= f) (.error e) line := by
  constructor
  · intro t
    rw [run_bind, stops.run]
  · exact stops.silent

/-! ## The whole command -/

/-- The command with its options, and then the notes for the log. -/
def runLogged (surroundings : Surroundings) (options : Options) (level : Int) (t : Terminal) :
    Ending × Terminal :=
  let ended := (command surroundings options).run.run t
  (match ended.1 with
    | .ok code => .exit code
    | .error ending => ending,
    ((finishLog surroundings options level).run.run ended.2).2)

/-- The command with its options, from the start of the log on. -/
def runWith (surroundings : Surroundings) (options : Options) (start : Terminal) : Ending × Terminal :=
  match (startLog options).run.run start with
  | (.error ending, t) => (ending, t)
  | (.ok level, t) => runLogged surroundings options level t

theorem run_of_arguments {program : String} {surroundings : Surroundings} {words : List String}
    {folder : Folder} {values : Entries Given} (given : readArguments flags words = .ok values) :
    run program surroundings words folder
      = runWith surroundings (Options.ofGiven values) ⟨"", folder, .start⟩ := by
  unfold run runWith
  rw [given]
  dsimp only
  rcases (startLog (Options.ofGiven values)).run.run ⟨"", folder, .start⟩ with ⟨ending | level, t⟩
  · rfl
  · rfl

end Analyse

end Command

end IndexAdvisor
