import IndexAdvisor.Proofs.Batch.Scripts
import IndexAdvisor.Proofs.Scope.Tables

/-! # How scripts close

The transaction of a script is committed or rolled back as the id of its query says. The statement of
the query has no part in this, so a change under the id of a selection is committed.
-/

namespace IndexAdvisor

namespace Replay

/-- The last thing a script does is to run a command. -/
def Script.ClosesWith (script : Script) (command : String) : Prop :=
  ∃ before, script.content = fileText (before ++ ["P", command, "", ""])

theorem toList_closing (before : List String) (command : String) :
    ∃ start, (fileText (before ++ ["P", command, "", ""])).toList
      = start ++ '\n' :: (command.toList ++ ['\n', '\n', '\n']) := by
  refine ⟨(fileText before).toList ++ ['P'], ?_⟩
  simp [fileText]

theorem Script.ClosesWith.unique {script : Script} {first second : String}
    (closes : script.ClosesWith first) (line : '\n' ∉ first.toList)
    (closes' : script.ClosesWith second) (line' : '\n' ∉ second.toList) : first = second := by
  obtain ⟨before, content⟩ := closes
  obtain ⟨before', content'⟩ := closes'
  obtain ⟨start, text⟩ := toList_closing before first
  obtain ⟨start', text'⟩ := toList_closing before' second
  rw [← content] at text
  rw [← content'] at text'
  -- Read from the end, the command is what comes before the next new line.
  have reversed := congrArg List.reverse (text.symm.trans text')
  simp at reversed
  have same := line_inj (by simpa using line) (by simpa using line') reversed
  exact String.toList_inj.mp (List.reverse_injective same)

theorem closing_line : ∀ kind ∈ kinds, '\n' ∉ kind.closing.toList := by decide

/-- A script closes with the command of the kind of its id, and with no other. -/
theorem closesWith_iff {id : String} {script : Script} (own : Belongs id script) {command : String}
    (line : '\n' ∉ command.toList) :
    script.ClosesWith command ↔ ∃ kind ∈ kinds, kind.start.toList <+: id.toList ∧ kind.closing = command := by
  obtain ⟨⟨kind, numbered⟩, -, query, types, values, content⟩ := own
  obtain ⟨listed, starts⟩ := kindOf?_eq_some_iff.mp numbered.found
  have closes : script.ClosesWith kind.closing := by
    rw [scriptLines, numbered.found] at content
    exact ⟨_, content⟩
  constructor
  · intro closes'
    exact ⟨kind, listed, starts, closes.unique (closing_line kind listed) closes' line⟩
  · rintro ⟨other, listed', starts', rfl⟩
    have found := kindOf?_eq_some_iff.mpr ⟨listed', starts'⟩
    obtain rfl : kind = other := Option.some.inj (numbered.found.symm.trans found)
    exact closes

end Replay

/-! ## Closing and the statement -/

namespace Step

variable {setting : Setting} {options : BatchOptions} {id query : String} {s t : Session}

theorem kind_of_analyse {result : QueryResult}
    (given : Gives (analyse setting options id query) s result t) :
    ∃ parsed, Parsed.read query = .ok parsed ∧ kindOf parsed.statement = .ok result.kind := by
  obtain ⟨parsed, bound, u, read, binding, rest⟩ := gives_analyse given
  obtain ⟨o, outlined, facts⟩ := bound_of_bind binding
  have tells := tells_of_analyseBound (known_of_bind binding) rest
  refine ⟨parsed, read, ?_⟩
  rw [tells.kind, facts.kind]
  exact Outline.kind_of_statement ((Parsed.outline_of_read read).trans (congrArg some outlined))

/-- Whatever statement the query has, its script is committed if the id is one of a selection, and rolled
    back if it is one of a change. -/
theorem closing_of_analyse {result : QueryResult} {script : Replay.Script}
    (given : Gives (analyse setting options id query) s result t) (own : result.script? = some script) :
    (∃ parsed, Parsed.read query = .ok parsed ∧ kindOf parsed.statement = .ok result.kind) ∧
    (script.ClosesWith "COMMIT" ↔ "query.select.".toList <+: id.toList) ∧
    (script.ClosesWith "ROLLBACK" ↔
      "query.update.".toList <+: id.toList ∨ "query.delete.".toList <+: id.toList) ∧
    ∃! command, '\n' ∉ command.toList ∧ script.ClosesWith command := by
  obtain ⟨rfl, belongs⟩ := belongs_of_analyse given own
  refine ⟨kind_of_analyse given, ?_, ?_, ?_⟩
  · rw [Replay.closesWith_iff belongs (by decide)]
    simp [Replay.kinds]
  · rw [Replay.closesWith_iff belongs (by decide)]
    simp [Replay.kinds]
  · obtain ⟨kind, numbered⟩ := belongs.numbered
    obtain ⟨listed, starts⟩ := Replay.kindOf?_eq_some_iff.mp numbered.found
    have line : '\n' ∉ kind.closing.toList := Replay.closing_line kind listed
    have closes := (Replay.closesWith_iff belongs line).mpr ⟨kind, listed, starts, rfl⟩
    refine ⟨kind.closing, ⟨line, closes⟩, ?_⟩
    rintro other ⟨line', closes'⟩
    exact closes'.unique line' closes line

theorem exists_gives_of_any {α : Type} {x : Step α} {s : Session} {check : α → Bool}
    (holds : (x.outcome s).1.toOption.any check) : ∃ a t, Gives x s a t ∧ check a := by
  rcases run : x.outcome s with ⟨e | a, t⟩
  · simp [run, Except.toOption] at holds
  · exact ⟨a, t, run, by simpa [run, Except.toOption] using holds⟩

/-- A change is analysed under an id. -/
def scriptedUpdate (id : String) : Step QueryResult :=
  analyse .shop Run.replayOptions id "UPDATE users SET id = 2 WHERE id = 1"

theorem gives_scriptedUpdate (id : String) (runs : ((scriptedUpdate id).outcome .start).1.toOption.any
      fun result => result.kind == .update && result.script?.isSome) :
    ∃ result t script, Gives (scriptedUpdate id) .start result t ∧ result.kind = .update ∧
      result.script? = some script := by
  obtain ⟨result, t, given, holds⟩ := exists_gives_of_any runs
  simp only [Bool.and_eq_true, beq_iff_eq, Option.isSome_iff_exists] at holds
  obtain ⟨kind, script, own⟩ := holds
  exact ⟨result, t, script, given, kind, own⟩

theorem closing_of_analyse_update :
    ∃ result t script, Gives (scriptedUpdate "query.update.001") .start result t ∧
      result.kind = .update ∧ result.script? = some script ∧ script.ClosesWith "ROLLBACK" ∧
      ¬script.ClosesWith "COMMIT" := by
  obtain ⟨result, t, script, given, kind, own⟩ := gives_scriptedUpdate "query.update.001" (by decide +kernel)
  obtain ⟨-, commits, rolls, -⟩ := closing_of_analyse given own
  exact ⟨result, t, script, given, kind, own, rolls.mpr (by decide), mt commits.mp (by decide)⟩

theorem selected_update_committed :
    ∃ result t script, Gives (scriptedUpdate "query.select.001") .start result t ∧
      result.kind = .update ∧ result.script? = some script ∧ script.ClosesWith "COMMIT" ∧
      ¬script.ClosesWith "ROLLBACK" := by
  obtain ⟨result, t, script, given, kind, own⟩ := gives_scriptedUpdate "query.select.001" (by decide +kernel)
  obtain ⟨-, belongs⟩ := belongs_of_analyse given own
  refine ⟨result, t, script, given, kind, own, ?_, ?_⟩
  · exact (Replay.closesWith_iff belongs (by decide)).mpr (by decide)
  · intro rolls
    have other := (Replay.closesWith_iff belongs (by decide)).mp rolls
    revert other
    decide

end Step

end IndexAdvisor
