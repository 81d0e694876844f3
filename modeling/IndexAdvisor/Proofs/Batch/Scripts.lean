import IndexAdvisor.Proofs.Replay.Kept
import IndexAdvisor.Proofs.Sql.Leftover

/-! # Scripts of a run

Each query whose id has a number gets a script, and the scripts of a run go to one folder.
-/

namespace IndexAdvisor

open Number Replay
open Sql (bind_ok)

/-! ## Scripts of queries -/

namespace Replay

def fileName (n : Nat) : String := toString n ++ ".cli"

theorem fileName_inj {n m : Nat} : fileName n = fileName m ↔ n = m := by
  rw [fileName, fileName, String.append_left_inj]
  exact Nat.repr_inj

theorem fileName_ne (n : Nat) : fileName n ≠ ".." := by
  intro same
  have lengths := congrArg String.length same
  rw [fileName, String.length_append] at lengths
  have suffix : ".cli".length = 4 := by decide
  have dots : "..".length = 2 := by decide
  omega

/-- A script of a query: its file has the number of the id, and its text begins by the id. -/
structure Belongs (id : String) (script : Script) : Prop where
  numbered : ∃ kind, Numbered kind id
  name : script.name = fileName (scriptNumber id)
  content : ∃ query types values, script.content = fileText (scriptLines id query types values)

theorem mapError_ok {ε δ α : Type} {x : Except ε α} {f : ε → δ} {a : α} :
    x.mapError f = .ok a ↔ x = .ok a := by
  cases x <;> simp [Except.mapError]

theorem writeWhole_ok {n : Int} {text : String} (written : writeWhole n = .ok text) :
    text = toString n := by
  unfold writeWhole at written
  split at written
  · exact (Except.ok.inj written).symm
  · exact nomatch written

theorem belongs_of_script? {folder : Path} {id query : String} {types : List Int} {values : List String}
    {script : Script} (made : script? folder id query types values = .ok (some script)) :
    Belongs id script := by
  obtain ⟨number, read, rest⟩ := bind_ok.mp made
  cases number with
  | none => exact nomatch rest
  | some n =>
      obtain ⟨numbered, rfl⟩ := number?_eq_some_iff.mp (mapError_ok.mp read)
      obtain ⟨name, written, rest⟩ := bind_ok.mp rest
      obtain rfl := writeWhole_ok (mapError_ok.mp written)
      dsimp only at rest
      split at rest
      · exact nomatch rest
      · obtain rfl := Option.some.inj (Except.ok.inj rest)
        exact ⟨numbered, rfl, query, types, values, rfl⟩

/-- The id goes on in digits, but its number is not read or its file has too long a name. -/
def Unscripted (id : String) : Prop :=
  ∃ kind, Named kind id ∧
    (¬Numbered kind id ∨ Path.longestName < (fileName (scriptNumber id)).utf8ByteSize)

theorem length_le_utf8ByteSize (text : String) : text.length ≤ text.utf8ByteSize := by
  rw [← String.ofList_toList (s := text), String.length_ofList, String.utf8ByteSize_ofList]
  induction text.toList with
  | nil => exact Nat.zero_le _
  | cons c cs ih => exact Nat.add_le_add ih c.utf8Size_pos

theorem lt_length_toString {n digits : Nat} (given : 0 < digits) (large : ¬n < Nat.pow 10 digits) :
    digits < (toString n).length :=
  Nat.lt_of_not_le (mt (Nat.length_repr_le_iff given).mp large)

/-- The name of a file has more bytes than its number has digits. -/
theorem long_of_writeWhole {n : Nat} {cause : WholeError} (failed : writeWhole n = .error cause) :
    Path.longestName < (fileName n).utf8ByteSize := by
  unfold writeWhole at failed
  split at failed
  · exact nomatch failed
  · next large =>
      have digits := lt_length_toString (by decide) large
      have bytes := length_le_utf8ByteSize (fileName n)
      rw [fileName, String.length_append] at bytes
      have limits : Path.longestName < maxDigits := by decide
      exact (limits.trans digits).trans_le ((Nat.le_add_right _ _).trans bytes)

theorem script?_of_numbered {folder : Path} {id query : String} {types : List Int} {values : List String}
    {kind : Kind} (numbered : Numbered kind id) : script? folder id query types values =
      match writeWhole (scriptNumber id) with
      | .error cause => .error (.number cause)
      | .ok text =>
        if Path.longestName < (text ++ ".cli").utf8ByteSize then .error (.longName (folder.child (text ++ ".cli")))
        else .ok (some ⟨text ++ ".cli", fileText (scriptLines id query types values)⟩) := by
  have number : number? id = .ok (some (scriptNumber id)) := number?_eq_some_iff.mpr ⟨⟨kind, numbered⟩, rfl⟩
  rw [script?, number]
  simp only [Except.mapError, Bind.bind, Except.bind]
  cases writeWhole (scriptNumber id) with
  | error cause => rfl
  | ok text =>
      dsimp only
      split <;> rfl

theorem script?_error_iff {folder : Path} {id query : String} {types : List Int} {values : List String} :
    (∃ cause, script? folder id query types values = .error cause) ↔ Unscripted id := by
  rcases number?_cases id with plain | ⟨kind, named⟩
  · have made : script? folder id query types values = .ok none := by
      rw [script?, plain]
      rfl
    rw [made]
    refine iff_of_false nofun ?_
    rintro ⟨kind, named, -⟩
    rw [number?_named named] at plain
    dsimp only at plain
    split at plain
    · split at plain <;> exact nomatch plain
    · exact nomatch plain
  by_cases numbered : Numbered kind id
  · have long : Unscripted id ↔ Path.longestName < (fileName (scriptNumber id)).utf8ByteSize := by
      refine ⟨?_, fun exceeds => ⟨kind, named, .inr exceeds⟩⟩
      rintro ⟨other, same, why⟩
      obtain rfl : kind = other := Option.some.inj (named.found.symm.trans same.found)
      exact why.resolve_left (not_not_intro numbered)
    rw [long, script?_of_numbered numbered]
    cases written : writeWhole (scriptNumber id) with
    | error cause => exact iff_of_true ⟨_, rfl⟩ (long_of_writeWhole written)
    | ok text =>
        obtain rfl := writeWhole_ok written
        change (∃ cause, ite (Path.longestName < (fileName (scriptNumber id)).utf8ByteSize) _ _ = _) ↔ _
        split
        · next exceeds => exact iff_of_true ⟨_, rfl⟩ exceeds
        · next fits => exact iff_of_false nofun fits
  · refine iff_of_true ?_ ⟨kind, named, .inl numbered⟩
    rw [script?, number?_named named]
    dsimp only
    split
    · next decimal =>
        split
        · exact ⟨_, rfl⟩
        · next short => exact absurd ⟨named, decimal, Nat.le_of_not_lt short⟩ numbered
    · exact ⟨_, rfl⟩

/-- The id goes on in digits behind what its kind starts with, so it is on one line. -/
theorem newline_not_mem {kind : Kind} {id : String} (named : Named kind id) : '\n' ∉ id.toList := by
  obtain ⟨listed, starts⟩ := kindOf?_eq_some_iff.mp named.found
  have parts : id.toList = kind.start.toList ++ digitsOf kind id := by
    rw [digitsOf, ← String.length_toList]
    exact (List.prefix_iff_eq_append.mp starts).symm
  have line : ∀ kind ∈ kinds, '\n' ∉ kind.start.toList := by decide
  rw [parts, List.mem_append, not_or]
  exact ⟨line kind listed, fun mem => Text.ne_of_digitSign (named.signs _ mem) (by decide) rfl⟩

theorem line_inj {first second rest rest' : List Char} (line : '\n' ∉ first) (line' : '\n' ∉ second)
    (same : first ++ '\n' :: rest = second ++ '\n' :: rest') : first = second := by
  induction first generalizing second with
  | nil =>
      cases second with
      | nil => rfl
      | cons c second => simp_all
  | cons c first ih =>
      cases second with
      | nil => simp_all
      | cons d second =>
          simp only [List.mem_cons, not_or] at line line'
          injection same with head tail
          rw [head, ih line.2 line'.2 tail]

theorem toList_fileText (id query : String) (types : List Int) (values : List String) :
    ∃ rest, (fileText (scriptLines id query types values)).toList
      = "#\n# ".toList ++ (id.toList ++ '\n' :: rest) := by
  obtain ⟨lines, parts⟩ : ∃ lines, scriptLines id query types values = "#" :: ("# " ++ id) :: lines :=
    ⟨_, rfl⟩
  refine ⟨(fileText lines).toList, ?_⟩
  rw [parts, fileText, fileText, List.map_cons, List.map_cons, String.join_cons, String.join_cons]
  simp

/-- A text is the script of one query only. -/
theorem Belongs.id_eq {id other : String} {first second : Script} (own : Belongs id first)
    (others : Belongs other second) (same : first.content = second.content) : id = other := by
  obtain ⟨⟨kind, numbered⟩, -, query, types, values, content⟩ := own
  obtain ⟨⟨kind', numbered'⟩, -, query', types', values', content'⟩ := others
  obtain ⟨rest, text⟩ := toList_fileText id query types values
  obtain ⟨rest', text'⟩ := toList_fileText other query' types' values'
  have whole : id.toList ++ '\n' :: rest = other.toList ++ '\n' :: rest' := by
    rw [content, content'] at same
    rw [same, text'] at text
    exact (List.append_cancel_left text).symm
  exact String.toList_inj.mp
    (line_inj (newline_not_mem numbered.toNamed) (newline_not_mem numbered'.toNamed) whole)

end Replay

/-! ## Scripts of runs -/

namespace Step

variable {setting : Setting} {options : BatchOptions} {id query : String} {s t : Session}

theorem belongs_of_analyse {result : QueryResult} {script : Script}
    (given : Gives (analyse setting options id query) s result t) (own : result.script? = some script) :
    result.id = id ∧ Belongs id script := by
  obtain ⟨parsed, bound, u, -, -, rest⟩ := gives_analyse given
  refine ⟨(Prod.mk.inj (yields_analyseBound bound u _ _ rest).1).1, ?_⟩
  unfold analyseBound at rest
  cases binding : bound.binding with
  | unsupported reason =>
      simp only [binding] at rest
      obtain ⟨_, v, -, ends⟩ := gives_bind.mp rest
      obtain ⟨⟨⟩, -⟩ := Prod.mk.inj ends
      exact nomatch own
  | bound statement =>
      simp only [binding] at rest
      obtain ⟨plan, v, -, rest⟩ := gives_bind.mp rest
      obtain ⟨made, w, scripted, ends⟩ := gives_bind.mp rest
      obtain ⟨⟨⟩, -⟩ := Prod.mk.inj ends
      obtain rfl : made = some script := own
      unfold scriptOf at scripted
      cases folder : options.replay with
      | none =>
          simp only [folder] at scripted
          exact nomatch scripted
      | some folder =>
          simp only [folder] at scripted
          exact belongs_of_script? (gives_require.mp scripted).1

end Step

namespace Run

variable {setting : Setting} {options : BatchOptions} {corpus : Entries String} {s : Session}

theorem belongs_of_mem {queries : List (String × String)} {result : QueryResult} {script : Script}
    (mem : result ∈ (ofQueries setting options queries s).1.results)
    (own : result.script? = some script) : Belongs result.id script := by
  induction queries generalizing s with
  | nil => exact nomatch mem
  | cons first rest ih =>
      obtain ⟨id, query⟩ := first
      rcases run : (Step.analyse setting options id query).outcome s with ⟨e | made, t⟩
      · rw [ofQueries_error run] at mem
        exact nomatch mem
      · rw [ofQueries_ok run] at mem
        rcases List.mem_cons.mp mem with rfl | later
        · obtain ⟨rfl, belongs⟩ := Step.belongs_of_analyse run own
          exact belongs
        · exact ih later

/-- The results of a complete run are in the order of their ids. -/
theorem ascending_results (distinct : corpus.names.Nodup)
    (complete : (ofCorpus setting options corpus s).1.failure = none) :
    (ofCorpus setting options corpus s).1.results.Pairwise (·.id < ·.id) := by
  have ids := ascending_queriesOf distinct
  rw [← queries_of_complete complete, List.map_map, List.pairwise_map] at ids
  exact ids

theorem belongs_of_script {script : Script} (mem : script ∈ (ofCorpus setting options corpus s).1.scripts) :
    ∃ result ∈ (ofCorpus setting options corpus s).1.results, result.script? = some script ∧
      Belongs result.id script := by
  obtain ⟨result, listed, own⟩ := List.mem_filterMap.mp mem
  exact ⟨result, listed, own, belongs_of_mem listed own⟩

/-- The script of a query is what was written last to its file exactly if no later query has a script
    of the same number. -/
theorem lastOf_scripts_iff (distinct : corpus.names.Nodup)
    (complete : (ofCorpus setting options corpus s).1.failure = none) {result : QueryResult}
    (mem : result ∈ (ofCorpus setting options corpus s).1.results) {script : Script}
    (own : result.script? = some script) :
    let run := (ofCorpus setting options corpus s).1
    Command.Analyse.lastOf run.scripts script.name = some script.content ↔
      ∀ other ∈ run.results, result.id < other.id → other.script?.isSome →
        scriptNumber other.id ≠ scriptNumber result.id := by
  intro run
  have ascending : run.results.Pairwise (·.id < ·.id) := ascending_results distinct complete
  have belongs {other : QueryResult} (listed : other ∈ run.results) {its : Script}
      (given : other.script? = some its) : Belongs other.id its := belongs_of_mem listed given
  obtain ⟨before, after, split⟩ := List.append_of_mem (show result ∈ run.results from mem)
  rw [split, List.pairwise_append, List.pairwise_cons] at ascending
  obtain ⟨-, ⟨greater, -⟩, between⟩ := ascending
  have of_after {other : QueryResult} (after : other ∈ after) : other ∈ run.results := by
    rw [split]
    exact List.mem_append_right before (List.mem_cons_of_mem result after)
  have after_of {other : QueryResult} (listed : other ∈ run.results) (later : result.id < other.id) :
      other ∈ after := by
    rw [split, List.mem_append, List.mem_cons] at listed
    rcases listed with earlier | rfl | listed
    · exact absurd later (lt_asymm (between other earlier result List.mem_cons_self))
    · exact absurd later (lt_irrefl _)
    · exact listed
  -- the script is written in its turn, so only those of the results after it can take its place
  have last : Command.Analyse.lastOf run.scripts script.name
      = (Command.Analyse.lastOf (after.filterMap (·.script?)) script.name).or (some script.content) := by
    rw [scripts, split, List.filterMap_append, List.filterMap_cons_some own,
      Command.Analyse.lastOf_append, Command.Analyse.lastOf_cons, if_pos rfl, Option.or_assoc]
    rfl
  rw [last]
  have name := (belongs mem own).name
  cases found : Command.Analyse.lastOf (after.filterMap (·.script?)) script.name with
  | none =>
      refine iff_of_true rfl fun other listed later scripted same => ?_
      obtain ⟨its, given⟩ := Option.isSome_iff_exists.mp scripted
      have listed' := List.mem_filterMap.mpr ⟨other, after_of listed later, given⟩
      refine Command.Analyse.lastOf_eq_none_iff.mp found its listed' ?_
      rw [(belongs listed given).name, name, same]
  | some content =>
      obtain ⟨its, listed, named, rfl⟩ := Command.Analyse.of_lastOf found
      obtain ⟨other, later, given⟩ := List.mem_filterMap.mp listed
      have others := belongs (of_after later) given
      refine iff_of_false (fun same => ?_) fun differ => ?_
      · have ids := (belongs mem own).id_eq others (Option.some.inj same).symm
        exact absurd (greater other later) (ids ▸ lt_irrefl _)
      · refine differ other (of_after later) (greater other later) (Option.isSome_of_eq_some given) ?_
        rw [others.name, name] at named
        exact fileName_inj.mp named

/-- When the scripts of a complete run are written to a folder, a query's file holds its own script
    exactly if no later query has a script of the same number. -/
theorem script_kept_iff (distinct : corpus.names.Nodup)
    (complete : (ofCorpus setting options corpus s).1.failure = none) {output : Path}
    (inside : output.place?.isSome) {before after : Command.Terminal}
    (written : (Command.Analyse.writeScripts output (ofCorpus setting options corpus s).1.scripts).run.run
      before = (.ok (), after)) {result : QueryResult}
    (mem : result ∈ (ofCorpus setting options corpus s).1.results) {script : Script}
    (own : result.script? = some script) :
    after.folder.find? (output.child script.name) = some (.file script.content) ↔
      ∀ other ∈ (ofCorpus setting options corpus s).1.results, result.id < other.id →
        other.script?.isSome → scriptNumber other.id ≠ scriptNumber result.id := by
  obtain ⟨place, inside⟩ := Option.isSome_iff_exists.mp inside
  have plain : ∀ script ∈ (ofCorpus setting options corpus s).1.scripts, script.name ≠ ".." := by
    intro script listed
    obtain ⟨result, -, -, belongs⟩ := belongs_of_script listed
    rw [belongs.name]
    exact fileName_ne _
  have listed : script ∈ (ofCorpus setting options corpus s).1.scripts :=
    List.mem_filterMap.mpr ⟨result, mem, own⟩
  have kept := lastOf_scripts_iff distinct complete mem own
  dsimp only at kept
  rw [Folder.find?_eq_file_iff (Path.place?_child inside (plain script listed)),
    Command.Analyse.files_of_writeScripts inside plain written, ← kept]
  cases found : Command.Analyse.lastOf (ofCorpus setting options corpus s).1.scripts script.name with
  | none => exact absurd rfl (Command.Analyse.lastOf_eq_none_iff.mp found script listed)
  | some content => rfl

/-! ## Two queries -/

def replayFolder : Path := ⟨"", ["replay"]⟩

def replayOptions : BatchOptions := ⟨0, some replayFolder, false, false⟩

/-- A query that deletes and one that selects, of different numbers. -/
def apartCorpus : Entries String :=
  [("query.delete.200", "DELETE FROM users WHERE id = 1"), ("query.select.200", "SELECT id FROM users")]

/-- Two such queries of the same number. -/
def collidingCorpus : Entries String :=
  [("query.delete.200", "DELETE FROM users WHERE id = 1"), ("query.select.100", "SELECT id FROM users")]

/-- The script of the first query of both. -/
def deleteScript : Script :=
  ⟨"300.cli", fileText (scriptLines "query.delete.200" "DELETE FROM users WHERE id = 1" [] [])⟩

/-- A pair of scripts in a new folder; the second may replace the first. -/
theorem writeScripts_pair (first second : Script) {folder after : Folder}
    (written : Folder.write default (replayFolder.child first.name) first.content = .ok folder)
    (written' : folder.write (replayFolder.child second.name) second.content = .ok after) :
    (Command.Analyse.writeScripts replayFolder [first, second]).run.run ⟨"", default, .start⟩
      = (.ok (), ⟨"", after, .start⟩) := by
  rw [Command.Analyse.run_writeScripts_cons, written]
  dsimp only
  rw [Command.Analyse.run_writeScripts_cons, written']
  rfl

theorem write_delete : Folder.write default (replayFolder.child deleteScript.name) deleteScript.content
    = .ok ⟨[("replay/300.cli", deleteScript.content)], []⟩ := by
  rw [Folder.write, Folder.check_eq]
  rfl

theorem write_apart (content text : String) :
    Folder.write ⟨[("replay/300.cli", content)], []⟩ (replayFolder.child "400.cli") text
      = .ok ⟨[("replay/300.cli", content), ("replay/400.cli", text)], []⟩ := by
  rw [Folder.write, Folder.check_eq]
  rfl

theorem write_colliding (content text : String) :
    Folder.write ⟨[("replay/300.cli", content)], []⟩ (replayFolder.child "300.cli") text
      = .ok ⟨[("replay/300.cli", text)], []⟩ := by
  rw [Folder.write, Folder.check_eq]
  rfl

theorem script_kept_iff_apart :
    ∃ after, (Command.Analyse.writeScripts replayFolder
        (ofCorpus .shop replayOptions apartCorpus .start).1.scripts).run.run ⟨"", default, .start⟩
          = (.ok (), after) ∧
      ∀ result ∈ (ofCorpus .shop replayOptions apartCorpus .start).1.results,
        ∀ script, result.script? = some script →
          after.folder.find? (replayFolder.child script.name) = some (.file script.content) := by
  have queries : queriesOf apartCorpus = apartCorpus :=
    queriesOf_pair (by decide +kernel) (by decide +kernel) (by decide +kernel)
  have run := ofCorpus_eq_ofQueries .shop replayOptions queries .start
  let select : Script := ⟨"400.cli", fileText (scriptLines "query.select.200" "SELECT id FROM users" [] [])⟩
  obtain ⟨complete, scripts⟩ : (ofCorpus .shop replayOptions apartCorpus .start).1.failure = none ∧
      (ofCorpus .shop replayOptions apartCorpus .start).1.scripts = [deleteScript, select] := by
    rw [run, ← Option.isNone_iff_eq_none]
    decide +kernel
  have written := writeScripts_pair deleteScript select write_delete (write_apart _ _)
  rw [← scripts] at written
  refine ⟨_, written, fun result mem script own => ?_⟩
  refine (script_kept_iff (by decide) complete (by decide) written mem own).mpr ?_
  intro other listed later _
  have known : ∀ result ∈ (ofCorpus .shop replayOptions apartCorpus .start).1.results,
      result.id = "query.delete.200" ∨ result.id = "query.select.200" := by
    intro result mem
    have query := List.mem_map_of_mem (f := fun result : QueryResult => (result.id, result.query)) mem
    rw [ofCorpus, queries_of_complete complete, queries] at query
    simp only [apartCorpus, List.mem_cons, Prod.mk.injEq, List.not_mem_nil, or_false] at query
    exact query.imp And.left And.left
  rcases known result mem with same | same <;> rcases known other listed with same' | same' <;>
    rw [same, same'] at later ⊢
  · exact absurd later (lt_irrefl _)
  · decide +kernel
  · decide +kernel
  · exact absurd later (lt_irrefl _)

/-- The script of the query that selects replaces that of the query that deletes. -/
theorem script_replaced :
    number? "query.delete.200" = .ok (some 300) ∧ number? "query.select.100" = .ok (some 300) ∧
      (ofCorpus .shop replayOptions collidingCorpus .start).1.failure = none ∧
      ∃ after, (Command.Analyse.writeScripts replayFolder
          (ofCorpus .shop replayOptions collidingCorpus .start).1.scripts).run.run ⟨"", default, .start⟩
            = (.ok (), after) ∧
        ∃ result ∈ (ofCorpus .shop replayOptions collidingCorpus .start).1.results,
          ∃ script, result.script? = some script ∧
            after.folder.find? (replayFolder.child script.name) ≠ some (.file script.content) := by
  have queries : queriesOf collidingCorpus = collidingCorpus :=
    queriesOf_pair (by decide +kernel) (by decide +kernel) (by decide +kernel)
  have run := ofCorpus_eq_ofQueries .shop replayOptions queries .start
  let select : Script := ⟨"300.cli", fileText (scriptLines "query.select.100" "SELECT id FROM users" [] [])⟩
  obtain ⟨complete, scripts⟩ : (ofCorpus .shop replayOptions collidingCorpus .start).1.failure = none ∧
      (ofCorpus .shop replayOptions collidingCorpus .start).1.scripts = [deleteScript, select] := by
    rw [run, ← Option.isNone_iff_eq_none]
    decide +kernel
  have written := writeScripts_pair deleteScript select write_delete (write_colliding _ _)
  rw [← scripts] at written
  obtain ⟨result, mem, own, -⟩ := belongs_of_script (scripts ▸ List.mem_cons_self)
  refine ⟨by decide +kernel, by decide +kernel, complete, _, written, result, mem, _, own, ?_⟩
  decide +kernel

end Run

end IndexAdvisor
