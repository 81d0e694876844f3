import IndexAdvisor.Command.Analyse
import IndexAdvisor.Proofs.Replay.Kept
import Mathlib

/-! # Commands beside each other

Two folders stand beside each other if they differ only in one file, whose contents begin by two texts
and go on in the same way. Whatever the command does in both leaves them so, with the same outcome. What
it prints may differ only in what was printed before.
-/

namespace IndexAdvisor

namespace Folder

variable {name text text' : String} {f f' : Folder}

/-- The same file twice, or the file of the name with what follows the two texts. -/
inductive FileBeside (name text text' : String) : String × String → String × String → Prop
  | same (file : String × String) : FileBeside name text text' file file
  | begun (more : String) : FileBeside name text text' (name, text ++ more) (name, text' ++ more)

theorem FileBeside.name_eq {file file' : String × String} (beside : FileBeside name text text' file file') :
    file.1 = file'.1 := by
  cases beside <;> rfl

/-- A file that is written on at the end. -/
theorem FileBeside.append {other content content' : String}
    (beside : FileBeside name text text' (other, content) (other, content')) (more : String) :
    FileBeside name text text' (other, content ++ more) (other, content' ++ more) := by
  cases beside with
  | same => exact .same _
  | begun before =>
      rw [String.append_assoc, String.append_assoc]
      exact .begun _

structure Beside (name text text' : String) (f f' : Folder) : Prop where
  folders : f.folders = f'.folders
  files : List.Forall₂ (FileBeside name text text') f.files f'.files

theorem find?_of_besides {files files' : Entries String}
    (besides : List.Forall₂ (FileBeside name text text') files files') (other : String) :
    Option.Rel (fun content content' => FileBeside name text text' (other, content) (other, content'))
      (files.find? other) (files'.find? other) := by
  induction besides with
  | nil => exact .none
  | @cons file file' rest rest' first later ih =>
      obtain ⟨key, content⟩ := file
      obtain ⟨key', content'⟩ := file'
      obtain rfl : key = key' := first.name_eq
      by_cases same : other = key
      · subst same
        simpa [Entries.find?] using Option.Rel.some first
      · have unequal : (other == key) = false := beq_false_of_ne same
        simpa [Entries.find?, List.lookup_cons, unequal] using ih

theorem besides_put {files files' : Entries String}
    (besides : List.Forall₂ (FileBeside name text text') files files') {other content content' : String}
    (beside : FileBeside name text text' (other, content) (other, content')) :
    List.Forall₂ (FileBeside name text text') (files.put other content) (files'.put other content') := by
  induction besides with
  | nil => exact .cons beside .nil
  | @cons file file' rest rest' first later ih =>
      obtain ⟨key, c⟩ := file
      obtain ⟨key', c'⟩ := file'
      obtain rfl : key = key' := first.name_eq
      unfold Entries.put
      split
      · exact .cons beside later
      · exact .cons first ih

namespace Beside

variable (beside : Beside name text text' f f')

include beside

theorem has_eq (other : String) : f.files.has other = f'.files.has other := by
  have found := find?_of_besides beside.files other
  unfold Entries.has
  revert found
  generalize f.files.find? other = content
  generalize f'.files.find? other = content'
  intro found
  cases found <;> rfl

theorem find?_cases (path : Path) :
    (f.find? path = none ∧ f'.find? path = none) ∨
      (f.find? path = some .folder ∧ f'.find? path = some .folder) ∨
      ∃ place content content', path.place? = some place ∧ f.find? path = some (.file content) ∧
        f'.find? path = some (.file content') ∧
        FileBeside name text text' (placeText place, content) (placeText place, content') := by
  unfold Folder.find?
  cases inside : path.place? with
  | none =>
      dsimp only
      split
      · exact .inr (.inl ⟨rfl, rfl⟩)
      · exact .inl ⟨rfl, rfl⟩
  | some place =>
      have found := find?_of_besides beside.files (placeText place)
      rcases first : f.files.find? (placeText place) with _ | content <;>
        rcases second : f'.files.find? (placeText place) with _ | content' <;>
        rw [first, second] at found
      · simp only [first, second, ← beside.folders]
        split
        · exact .inr (.inl ⟨rfl, rfl⟩)
        · exact .inl ⟨rfl, rfl⟩
      · cases found
      · cases found
      · cases found with
        | some own =>
            simp only [first, second]
            exact .inr (.inr ⟨place, content, content', rfl, rfl, rfl, own⟩)

theorem find?_folder_iff (path : Path) : f.find? path = some .folder ↔ f'.find? path = some .folder := by
  rcases beside.find?_cases path with ⟨first, second⟩ | ⟨first, second⟩ | ⟨_, _, _, -, first, second, -⟩ <;>
    simp [first, second]

theorem check_eq (path : Path) : f.check path = f'.check path := by
  have long : f.isTooLong path = f'.isTooLong path := by
    unfold isTooLong
    simp only [beside.find?_folder_iff]
  rw [Folder.check, Folder.check, long]

theorem isBlocked_eq (place : List String) : f.isBlocked place = f'.isBlocked place := by
  unfold isBlocked
  simp only [beside.has_eq]

end Beside

/-- Two attempts to change folders fail in the same way, or leave folders beside each other. -/
inductive BesideChange (name text text' : String) : Except Error Folder → Except Error Folder → Prop
  | error (e : Error) : BesideChange name text text' (.error e) (.error e)
  | ok {g g' : Folder} (beside : Beside name text text' g g') : BesideChange name text text' (.ok g) (.ok g')

theorem Beside.make (beside : Beside name text text' f f') (path : Path) :
    BesideChange name text text' (f.make path) (f'.make path) := by
  unfold Folder.make
  cases path.place? with
  | none => exact .ok beside
  | some place =>
      simp only [beside.has_eq, beside.isBlocked_eq, beside.folders]
      split
      · exact .error _
      · split
        · exact .error _
        · have made : Beside name text text'
              { f with folders := (f'.folders ++ (above place ++ [place]).map placeText).eraseDups }
              { f' with folders := (f'.folders ++ (above place ++ [place]).map placeText).eraseDups } :=
            ⟨rfl, beside.files⟩
          rw [made.check_eq]
          cases Folder.check _ path with
          | error e => exact .error e
          | ok _ => exact .ok made

theorem Beside.write (beside : Beside name text text' f f') (path : Path) {content content' : String}
    (own : ∀ place, path.place? = some place →
      FileBeside name text text' (placeText place, content) (placeText place, content')) :
    BesideChange name text text' (f.write path content) (f'.write path content') := by
  have put (place : List String) (inside : path.place? = some place) : BesideChange name text text'
      (if f.isBlocked place then .error .noFolder
        else .ok { f with files := f.files.put (placeText place) content })
      (if f'.isBlocked place then .error .noFolder
        else .ok { f' with files := f'.files.put (placeText place) content' }) := by
    rw [beside.isBlocked_eq]
    split
    · exact .error _
    · exact .ok ⟨beside.folders, besides_put beside.files (own place inside)⟩
  unfold Folder.write
  rw [beside.check_eq]
  cases f'.check path with
  | error e => exact .error e
  | ok _ =>
      rcases beside.find?_cases path with
        ⟨first, second⟩ | ⟨first, second⟩ | ⟨place, c, c', inside, first, second, -⟩
      · rw [first, second]
        cases inside : path.place? with
        | none => exact .ok beside
        | some place => exact put place inside
      · rw [first, second]
        exact .error _
      · rw [first, second, inside]
        exact put place inside

theorem Beside.append (beside : Beside name text text' f f') (path : Path) (content : String) :
    BesideChange name text text' (f.append path content) (f'.append path content) := by
  unfold Folder.append
  rcases beside.find?_cases path with
    ⟨first, second⟩ | ⟨first, second⟩ | ⟨place, c, c', inside, first, second, own⟩
  · rw [first, second]
    exact beside.write path fun place inside => .same _
  · rw [first, second]
    exact beside.write path fun place inside => .same _
  · rw [first, second]
    refine beside.write path fun other same => ?_
    obtain rfl : place = other := Option.some.inj (inside.symm.trans same)
    exact own.append content

end Folder

namespace Command

/-- Two terminals after the same doings, with two beginnings of what was printed. -/
structure Terminal.Beside (name text text' lead lead' : String) (t t' : Terminal) : Prop where
  session : t.session = t'.session
  folder : Folder.Beside name text text' t.folder t'.folder
  printed : ∃ rest, t.printed = lead ++ rest ∧ t'.printed = lead' ++ rest

namespace Shell

variable {α β : Type}

theorem run_bind (x : Shell α) (f : α → Shell β) (t : Terminal) :
    (x >>= f).run.run t = match x.run.run t with
      | (.ok a, u) => (f a).run.run u
      | (.error e, u) => (.error e, u) := by
  simp only [ExceptT.run_bind, StateT.run_bind]
  rcases x.run.run t with ⟨e | a, u⟩ <;> rfl

/-! ## Parts of commands that agree -/

/-- On terminals beside each other the part has one outcome, and leaves them beside each other. -/
def Agrees (x : Shell α) : Prop :=
  ∀ name text text' lead lead' t t', t.Beside name text text' lead lead' t' →
    (x.run.run t).1 = (x.run.run t').1 ∧
      (x.run.run t).2.Beside name text text' lead lead' (x.run.run t').2

theorem agrees_pure (a : α) : Agrees (pure a) := fun _ _ _ _ _ _ _ beside => ⟨rfl, beside⟩

theorem agrees_throw (e : Ending) : Agrees (throw e : Shell α) := fun _ _ _ _ _ _ _ beside => ⟨rfl, beside⟩

theorem agrees_bind {x : Shell α} {f : α → Shell β} (first : Agrees x) (second : ∀ a, Agrees (f a)) :
    Agrees (x >>= f) := by
  intro name text text' lead lead' t t' beside
  obtain ⟨same, between⟩ := first _ _ _ _ _ t t' beside
  rw [run_bind, run_bind]
  rcases run : x.run.run t with ⟨e | a, u⟩ <;> rcases run' : x.run.run t' with ⟨e' | a', u'⟩ <;>
    rw [run, run'] at same between <;> cases same
  · exact ⟨rfl, between⟩
  · exact second _ _ _ _ _ _ u u' between

/-- A part may go on from a terminal if it only looks at the session. -/
theorem agrees_get {f : Terminal → Shell α} (same : ∀ t t', t.session = t'.session → f t = f t')
    (next : ∀ t, Agrees (f t)) : Agrees (get >>= f) := by
  intro name text text' lead lead' t t' beside
  have got (t : Terminal) : (get >>= f).run.run t = (f t).run.run t := rfl
  rw [got, got, same t t' beside.session]
  exact next t' _ _ _ _ _ t t' beside

theorem agrees_print (text : String) : Agrees (print text) := by
  intro _ _ _ lead lead' t t' beside
  obtain ⟨rest, first, second⟩ := beside.printed
  refine ⟨rfl, beside.session, beside.folder, rest ++ text, ?_, ?_⟩
  · rw [← String.append_assoc, ← first]
    rfl
  · rw [← String.append_assoc, ← second]
    rfl

theorem agrees_printLine (line : String) : Agrees (printLine line) := agrees_print _

theorem agrees_fail (message : String) : Agrees (fail message : Shell α) :=
  agrees_bind (agrees_printLine _) fun _ => agrees_throw _

theorem agrees_orCrash {ε : Type} (result : Except ε α) (crash : ε → Crash) :
    Agrees (orCrash result crash) := by
  cases result with
  | ok a => exact agrees_pure a
  | error e => exact agrees_throw _

theorem agrees_learn (session : Session) :
    Agrees (modify fun t : Terminal => { t with session }) :=
  fun _ _ _ _ _ _ _ beside => ⟨rfl, rfl, beside.folder, beside.printed⟩

theorem agrees_onFolder {change : Folder → Except Folder.Error Folder}
    (kept : ∀ name text text' f f', Folder.Beside name text text' f f' →
      Folder.BesideChange name text text' (change f) (change f')) : Agrees (onFolder change) := by
  intro name text text' lead lead' t t' beside
  rw [Analyse.run_onFolder, Analyse.run_onFolder]
  have changed := kept _ _ _ _ _ beside.folder
  revert changed
  generalize change t.folder = first
  generalize change t'.folder = second
  intro changed
  cases changed with
  | error e => exact ⟨rfl, beside⟩
  | ok changed => exact ⟨rfl, beside.session, changed, beside.printed⟩

theorem agrees_make (path : Path) : Agrees (onFolder (·.make path)) :=
  agrees_onFolder fun _ _ _ _ _ beside => beside.make path

theorem agrees_write (path : Path) (content : String) : Agrees (onFolder (·.write path content)) :=
  agrees_onFolder fun _ _ _ _ _ beside => beside.write path fun _ _ => .same _

theorem agrees_append (path : Path) (content : String) : Agrees (onFolder (·.append path content)) :=
  agrees_onFolder fun _ _ _ _ _ beside => beside.append path content

theorem agrees_step (x : Step α) : Agrees (step x) := by
  refine agrees_get ?_ fun t => agrees_bind (agrees_learn _) fun _ => agrees_pure _
  intro t t' same
  simp only [same]

theorem agrees_ask (setting : Setting) (question : Question) : Agrees (ask setting question) := by
  refine agrees_bind (agrees_step _) fun result => ?_
  cases result with
  | ok answer => exact agrees_pure _
  | error failure => exact agrees_throw _

end Shell

/-! ## The analysis -/

namespace Analyse

open Shell

theorem agrees_startLog (options : Options) : Agrees (startLog options) := by
  refine agrees_bind (agrees_orCrash _ _) fun level => ?_
  cases options.logFile with
  | none => exact agrees_pure _
  | some file =>
      exact agrees_bind (agrees_make _) fun _ => agrees_bind (agrees_append _ _) fun _ => agrees_pure _

theorem agrees_orRefuse {α : Type} (answer : Except Fault α) : Agrees (orRefuse answer) := by
  cases answer with
  | ok a => exact agrees_pure a
  | error fault =>
      unfold orRefuse
      dsimp only
      split
      · exact agrees_fail _
      · exact agrees_throw _

theorem agrees_writeScripts (output : Path) (scripts : List Replay.Script) :
    Agrees (writeScripts output scripts) := by
  induction scripts with
  | nil => exact agrees_pure _
  | cons script rest ih => exact agrees_bind (agrees_write _ _) fun _ => ih

theorem agrees_analyseAll (setting : Setting) (options : BatchOptions) (corpus : Entries String)
    (output : Path) : Agrees (analyseAll setting options corpus output) := by
  refine agrees_bind (agrees_printLine _) fun _ => agrees_bind (agrees_printLine _) fun _ => ?_
  refine agrees_get (fun t t' same => by simp only [same]) fun t => ?_
  refine agrees_bind (agrees_learn _) fun _ => agrees_bind (agrees_writeScripts _ _) fun _ => ?_
  refine agrees_bind (agrees_print _) fun _ => ?_
  dsimp only
  split
  · split
    · exact agrees_pure _
    · exact agrees_bind (agrees_throw _) fun _ => agrees_pure _
  · exact agrees_pure _

theorem agrees_refresh (setting : Setting) : Agrees (refresh setting) := by
  refine agrees_bind (agrees_printLine _) fun _ => agrees_bind (agrees_ask _ _) fun answer => ?_
  cases answer with
  | ok _ => exact agrees_pure _
  | error fault =>
      dsimp only
      split
      · exact agrees_pure _
      · exact agrees_throw _

theorem agrees_printHeading (heading : String) : Agrees (printHeading heading) :=
  agrees_bind (agrees_printLine _) fun _ => agrees_bind (agrees_printLine _) fun _ => agrees_printLine _

theorem agrees_printReport (options : Options) (report : Report) : Agrees (printReport options report) := by
  have statements : Agrees (if options.showsStatements && !report.indexes.isEmpty then do
      printHeading "CREATE INDEX STATEMENTS"
      print (String.join (report.indexes.map fun index => index.statement ++ "\n"))
      printLine ""
    else pure ()) := by
    split
    · refine agrees_bind (agrees_printHeading _) fun _ => ?_
      exact agrees_bind (agrees_print _) fun _ => agrees_printLine _
    · exact agrees_pure _
  have json : Agrees (if options.printsJson then
      printHeading "JSON REPORT" >>= fun _ => printLine report.json.writeIndented >>= fun _ =>
        if options.showsStatements && !report.indexes.isEmpty then do
          printHeading "CREATE INDEX STATEMENTS"
          print (String.join (report.indexes.map fun index => index.statement ++ "\n"))
          printLine ""
        else pure ()
    else if options.showsStatements && !report.indexes.isEmpty then do
      printHeading "CREATE INDEX STATEMENTS"
      print (String.join (report.indexes.map fun index => index.statement ++ "\n"))
      printLine ""
    else pure ()) := by
    split
    · exact agrees_bind (agrees_printHeading _) fun _ => agrees_bind (agrees_printLine _) fun _ => statements
    · exact statements
  unfold printReport
  dsimp only
  split
  · exact agrees_bind (agrees_printLine _) fun _ => json
  · exact json

theorem agrees_writeReport (output : Path) (report : Report) : Agrees (writeReport output report) :=
  agrees_bind (agrees_write _ _) fun _ => agrees_printLine _

/-- The report of a run is made, printed and written. -/
def reportRun (surroundings : Surroundings) (options : Options) (config : Config) (setting : Setting)
    (batch : BatchOptions) (run : Run) (abort : Option Abort) : Shell Nat := do
  let report ← step (Report.ofResults setting batch config.queries.length run.results abort)
  let report ← orCrash report .failure
  let report := if abort.isNone then { report with seconds := surroundings.seconds } else report
  printReport options report
  writeReport (Path.ofText options.output) report
  orCrash (← ask setting .close) .fault
  return if abort.isNone then 0 else 1

/-- What follows the analysis. -/
def conclude (surroundings : Surroundings) (options : Options) (config : Config) (setting : Setting)
    (batch : BatchOptions) (fault : Option Fault) (run : Run) : Shell Nat := do
  printLine "\n"
  if let some abort := abortOf run fault then
    let place := abort.queryId.getD "None"
    printLine s!"ERROR: analysis aborted at {place}: {abort.message}"
  reportRun surroundings options config setting batch run (abortOf run fault)

section Profile

variable (surroundings : Surroundings) (options : Options) (config : Config) (setting : Setting)

theorem agrees_reportRun (batch : BatchOptions) (run : Run) (abort : Option Abort) :
    Agrees (reportRun surroundings options config setting batch run abort) := by
  refine agrees_bind (agrees_step _) fun report => agrees_bind (agrees_orCrash _ _) fun report => ?_
  refine agrees_bind (agrees_printReport _ _) fun _ => agrees_bind (agrees_writeReport _ _) fun _ => ?_
  exact agrees_bind (agrees_ask _ _) fun closed => agrees_bind (agrees_orCrash _ _) fun _ => agrees_pure _

theorem agrees_conclude (batch : BatchOptions) (fault : Option Fault) (run : Run) :
    Agrees (conclude surroundings options config setting batch fault run) := by
  refine agrees_bind (agrees_printLine _) fun _ => ?_
  dsimp only
  split
  · exact agrees_bind (agrees_printLine _) fun _ => agrees_reportRun _ _ _ _ _ _ _
  · exact agrees_reportRun _ _ _ _ _ _ _

theorem agrees_profile : Agrees (profile surroundings options config setting) := by
  have analysed (batch : BatchOptions) (fault : Option Fault) : Agrees (if fault.isNone then
      analyseAll setting batch config.queries (Path.ofText options.output) >>=
        conclude surroundings options config setting batch fault
    else pure ⟨[], none⟩ >>= conclude surroundings options config setting batch fault) := by
    split
    · exact agrees_bind (agrees_analyseAll _ _ _ _) fun run => agrees_conclude _ _ _ _ _ _ _
    · exact agrees_bind (agrees_pure _) fun run => agrees_conclude _ _ _ _ _ _ _
  refine agrees_bind (agrees_make _) fun _ => ?_
  dsimp only
  split
  · exact agrees_bind (agrees_refresh _) fun fault => analysed _ fault
  · exact agrees_bind (agrees_pure _) fun fault => analysed _ fault

theorem agrees_finishLog (level : Int) :
    Agrees (finishLog surroundings options level) := by
  refine agrees_get (fun t t' same => by simp only [same]) fun t => ?_
  cases options.logFile with
  | none => exact agrees_pure _
  | some file => exact agrees_append _ _

end Profile

end Analyse

end Command

end IndexAdvisor
