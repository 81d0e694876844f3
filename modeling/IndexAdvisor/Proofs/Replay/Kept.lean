import IndexAdvisor.Command.Analyse
import IndexAdvisor.Proofs.Batch.Turns
import IndexAdvisor.Proofs.Replay.Number
import IndexAdvisor.Proofs.Sql.Scan

/-! # Scripts that are kept

The scripts of a run are written one after the other, each to the file of its number. A script that is
written to the file of another replaces it, so a file keeps the script of its query exactly as long as
no later query has the same number. The numbers of ids of different kinds, and of ids with different
leading zeros, can be the same.
-/

namespace IndexAdvisor

/-! ## Files in one folder -/

namespace Path

theorem walk_down {rooted : Bool} {name : String} (down : name ≠ "..") (place rest : List String) :
    walk rooted place (name :: rest) = walk rooted (name :: place) rest := by
  conv_lhs => unfold walk
  split
  · next same => exact nomatch same
  · next same => exact absurd (List.cons.inj same).1 down
  · next same => exact absurd (List.cons.inj same).1 down
  · next same =>
      obtain ⟨rfl, rfl⟩ := List.cons.inj same
      rfl

theorem walk_concat {rooted : Bool} {name : String} (down : name ≠ "..") (place names : List String) :
    walk rooted place (names ++ [name]) = (walk rooted place names).map (name :: ·) := by
  fun_induction walk rooted place names with
  | case1 place => rw [List.nil_append, walk_down down, walk]; rfl
  | case2 first place rest ih => simpa [walk] using ih
  | case3 rest rooted ih => simpa [walk, rooted] using ih
  | case4 rest rooted => simp [walk, rooted]
  | case5 place other rest above first ih =>
      have below : other ≠ ".." := by
        rintro rfl
        cases place with
        | nil => exact first rfl rfl
        | cons head place => exact above head place rfl rfl
      rw [List.cons_append, walk_down below, ih]

theorem place?_child {path : Path} {place : List String} (inside : path.place? = some place)
    {name : String} (down : name ≠ "..") : (path.child name).place? = some (place ++ [name]) := by
  rw [place?] at inside ⊢
  by_cases root : path.root.isEmpty
  · rw [if_pos root] at inside
    obtain ⟨names, walked, rfl⟩ := Option.map_eq_some_iff.mp inside
    simp [child, root, walk_concat down, walked]
  · rw [if_neg root] at inside
    obtain ⟨names, walked, rfl⟩ := Option.map_eq_some_iff.mp inside
    simp [child, root, walk_concat down, walked]

end Path

namespace Folder

/-- Names in one folder are told apart by the texts of their places. -/
theorem placeText_concat_inj {place : List String} {name other : String} :
    placeText (place ++ [name]) = placeText (place ++ [other]) ↔ name = other := by
  cases place with
  | nil => simp [placeText]
  | cons first place =>
      have parts (name : String) : placeText (first :: place ++ [name])
          = placeText (first :: place) ++ "/" ++ name :=
        String.intercalate_append_of_ne_nil (List.cons_ne_nil _ _) (List.cons_ne_nil _ _)
      rw [parts, parts, String.append_right_inj]

theorem check_eq (folder : Folder) (path : Path) :
    folder.check path = if Char.ofNat 0 ∈ path.text.toList then .error .cutName
      else if folder.isTooLong path then .error .tooLong else .ok () := by
  simp [check, String.contains_char_eq]

/-- What is written above the working folder is lost, and any other file is put in its place. -/
theorem of_write {folder after : Folder} {path : Path} {content : String}
    (written : folder.write path content = .ok after) :
    (path.place? = none ∧ after = folder) ∨ ∃ place, path.place? = some place ∧
      after = { folder with files := folder.files.put (placeText place) content } := by
  have put {place : List String} (inside : path.place? = some place)
      (written : (if folder.isBlocked place then .error .noFolder
        else .ok { folder with files := folder.files.put (placeText place) content } : Except Error Folder)
          = .ok after) : ∃ place, path.place? = some place ∧
      after = { folder with files := folder.files.put (placeText place) content } := by
    split at written
    · exact nomatch written
    · exact ⟨place, inside, (Except.ok.inj written).symm⟩
  rw [write] at written
  cases checked : folder.check path with
  | error e =>
      rw [checked] at written
      exact nomatch written
  | ok _ =>
      rw [checked] at written
      cases inside : path.place? with
      | none =>
          rw [inside] at written
          rcases found : folder.find? path with _ | ⟨before | _⟩ <;> rw [found] at written
          · exact .inl ⟨rfl, (Except.ok.inj written).symm⟩
          · exact .inl ⟨rfl, (Except.ok.inj written).symm⟩
          · exact nomatch written
      | some place =>
          rw [← inside]
          rw [inside] at written
          rcases found : folder.find? path with _ | ⟨before | _⟩ <;> rw [found] at written
          · exact .inr (put inside written)
          · exact .inr (put inside written)
          · exact nomatch written

theorem files_of_write {folder after : Folder} {path : Path} {content : String} {place : List String}
    (inside : path.place? = some place) (written : folder.write path content = .ok after) :
    after.files = folder.files.put (placeText place) content := by
  rcases of_write written with ⟨outside, -⟩ | ⟨other, inside', rfl⟩
  · exact nomatch inside.symm.trans outside
  · rw [Option.some.inj (inside.symm.trans inside')]

theorem find?_eq_file_iff {folder : Folder} {path : Path} {place : List String} {content : String}
    (inside : path.place? = some place) :
    folder.find? path = some (.file content) ↔ folder.files.find? (placeText place) = some content := by
  simp only [find?, inside]
  cases folder.files.find? (placeText place) with
  | none =>
      simp only [reduceCtorEq, iff_false]
      split <;> exact nofun
  | some other => simp

end Folder

/-! ## Scripts in one folder -/

namespace Command.Analyse

open Replay

/-- The content that is written last to the file of a name. -/
def lastOf (scripts : List Script) (name : String) : Option String :=
  (scripts.reverse.find? (·.name = name)).map (·.content)

theorem lastOf_append (first second : List Script) (name : String) :
    lastOf (first ++ second) name = (lastOf second name).or (lastOf first name) := by
  rw [lastOf, lastOf, lastOf, List.reverse_append, List.find?_append, Option.map_or]

theorem lastOf_cons (script : Script) (rest : List Script) (name : String) :
    lastOf (script :: rest) name
      = (lastOf rest name).or (if script.name = name then some script.content else none) := by
  have single : lastOf [script] name = if script.name = name then some script.content else none := by
    by_cases same : script.name = name <;> simp [lastOf, same]
  rw [← single, ← lastOf_append, List.singleton_append]

theorem of_lastOf {scripts : List Script} {name content : String}
    (last : lastOf scripts name = some content) :
    ∃ script ∈ scripts, script.name = name ∧ script.content = content := by
  obtain ⟨script, found, same⟩ := Option.map_eq_some_iff.mp last
  refine ⟨script, List.mem_reverse.mp (List.mem_of_find?_eq_some found), ?_, same⟩
  simpa using List.find?_some found

theorem lastOf_eq_none_iff {scripts : List Script} {name : String} :
    lastOf scripts name = none ↔ ∀ script ∈ scripts, script.name ≠ name := by
  simp [lastOf]

theorem run_onFolder (change : Folder → Except Folder.Error Folder) (before : Terminal) :
    (Shell.onFolder change).run.run before
      = match change before.folder with
        | .error e => (.error (.crash (.folder e)), before)
        | .ok folder => (.ok (), { before with folder }) := by
  have unfolded : (Shell.onFolder change).run.run before
      = ((Shell.orCrash (change before.folder) Crash.folder >>= fun folder =>
          modify fun terminal => { terminal with folder } : Shell Unit)).run.run before := rfl
  rw [unfolded]
  cases change before.folder <;> rfl

theorem run_writeScripts_cons (output : Path) (script : Script) (rest : List Script) (before : Terminal) :
    (writeScripts output (script :: rest)).run.run before
      = match before.folder.write (output.child script.name) script.content with
        | .error e => (.error (.crash (.folder e)), before)
        | .ok folder => (writeScripts output rest).run.run { before with folder } := by
  rw [writeScripts, ExceptT.run_bind, StateT.run_bind, run_onFolder]
  cases before.folder.write (output.child script.name) script.content <;> rfl

/-- Scripts that are written to a folder replace what was written to the same file before. -/
theorem files_of_writeScripts {output : Path} {place : List String} (inside : output.place? = some place)
    {scripts : List Script} (plain : ∀ script ∈ scripts, script.name ≠ "..") {before after : Terminal}
    (written : (writeScripts output scripts).run.run before = (.ok (), after)) (name : String) :
    after.folder.files.find? (Folder.placeText (place ++ [name]))
      = (lastOf scripts name).or (before.folder.files.find? (Folder.placeText (place ++ [name]))) := by
  induction scripts generalizing before with
  | nil =>
      obtain ⟨-, rfl⟩ := Prod.mk.inj written
      rfl
  | cons script rest ih =>
      obtain ⟨here, later⟩ := List.forall_mem_cons.mp plain
      rw [run_writeScripts_cons] at written
      cases saved : before.folder.write (output.child script.name) script.content with
      | error e =>
          rw [saved] at written
          exact nomatch (Prod.mk.inj written).1
      | ok folder =>
          simp only [saved] at written
          -- of two scripts with one name the later one is found, in the folder as in the list
          have files := Folder.files_of_write (Path.place?_child inside here) saved
          rw [ih later written, files, Entries.find?_put, lastOf_cons, Option.or_assoc]
          simp only [Folder.placeText_concat_inj, eq_comm]
          split <;> rfl

end Command.Analyse

end IndexAdvisor
