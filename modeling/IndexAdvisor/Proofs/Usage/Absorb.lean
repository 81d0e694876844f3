import IndexAdvisor.Usage.Tracker

/-! # Usage beside earlier usage

What a statement records does not depend on what is recorded already: recording after earlier
usage comes to the same as recording alone and putting the new facts to the earlier ones.
-/

namespace IndexAdvisor

section Facts

variable {α : Type} [BEq α] [LawfulBEq α]

theorem mem_note {fact other : α} {facts : List α} :
    other ∈ note fact facts ↔ other = fact ∨ other ∈ facts := by
  unfold note
  by_cases known : fact ∈ facts
  · simp only [List.contains_iff_mem.mpr known, if_true]
    exact ⟨.inr, fun either => either.elim (fun same => same ▸ known) id⟩
  · simp [known]

theorem mem_foldr_note {fact : α} {before new : List α} :
    fact ∈ new.foldr note before ↔ fact ∈ new ∨ fact ∈ before := by
  induction new with
  | nil => simp
  | cons first rest ih => rw [List.foldr_cons, mem_note, ih, List.mem_cons, or_assoc]

theorem note_of_mem {fact : α} {facts : List α} (known : fact ∈ facts) : note fact facts = facts := by
  rw [note, if_pos (List.contains_iff_mem.mpr known)]

theorem note_foldr (fact : α) (before new : List α) :
    note fact (new.foldr note before) = (note fact new).foldr note before := by
  by_cases known : fact ∈ new
  · rw [note_of_mem known, note_of_mem (mem_foldr_note.mpr (.inl known))]
  · have added : note fact new = fact :: new := by simp [note, known]
    rw [added, List.foldr_cons]

end Facts

namespace Tracker

/-- Earlier usage with all facts of a later one. -/
def absorb (before new : Tracker) : Tracker where
  joined := new.joined.foldr note before.joined
  filtered := new.filtered.foldr note before.filtered
  updated := new.updated.foldr note before.updated
  touched := new.touched.foldr note before.touched

variable (before new : Tracker)

theorem absorb_recordJoin (table query column : String) :
    (before.absorb new).recordJoin table query column
      = before.absorb (new.recordJoin table query column) := by
  simp only [recordJoin, absorb, note_foldr]

theorem absorb_recordFilter (table query column : String) :
    (before.absorb new).recordFilter table query column
      = before.absorb (new.recordFilter table query column) := by
  simp only [recordFilter, absorb, note_foldr]

theorem absorb_recordUpdate (table column : String) :
    (before.absorb new).recordUpdate table column
      = before.absorb (new.recordUpdate table column) := by
  simp only [recordUpdate, absorb, note_foldr]

theorem absorb_recordTouch (kind : StatementKind) (table : Option String) (query : String) :
    (before.absorb new).recordTouch kind table query
      = before.absorb (new.recordTouch kind table query) := by
  simp only [recordTouch, absorb, note_foldr]

end Tracker

end IndexAdvisor
