import IndexAdvisor.Proofs.Text.Ordered
import IndexAdvisor.Proofs.Usage.Absorb
import Mathlib.Data.List.Induction

/-! # Sequences of recordings

Usage is collected by recordings, one after the other. Each list of facts is what its own kind of
recordings notes, and a fact that is noted again changes nothing. So the facts of two sequences that
are permutations of each other are the same, though not their order; only the order in which the
columns of one query are filtered can be read off.
-/

namespace IndexAdvisor

/-! ## Noted facts -/

section Noted

variable {α : Type} [BEq α]

/-- The distinct facts of a sequence, the latest first; a fact keeps the place where it came first. -/
def noted (facts : List α) : List α := facts.foldl (fun known fact => note fact known) []

theorem noted_concat (facts : List α) (fact : α) : noted (facts ++ [fact]) = note fact (noted facts) :=
  List.foldl_append

variable [LawfulBEq α]

theorem noted_eq (facts : List α) : noted facts = facts.eraseDups.reverse := by
  induction facts using List.reverseRecOn with
  | nil => rfl
  | append_singleton facts last ih =>
      have known : facts.eraseDups.contains last = facts.contains last := by
        rw [Bool.eq_iff_iff, List.contains_iff_mem, List.contains_iff_mem, List.mem_eraseDups]
      rw [noted_concat, ih, Text.eraseDups_concat, note, List.contains_reverse, known]
      split
      · rfl
      · rw [List.reverse_append, List.reverse_singleton, List.singleton_append]

theorem mem_noted {fact : α} {facts : List α} : fact ∈ noted facts ↔ fact ∈ facts := by
  rw [noted_eq, List.mem_reverse, List.mem_eraseDups]

theorem nodup_noted (facts : List α) : (noted facts).Nodup := by
  rw [noted_eq, List.nodup_reverse]
  exact Text.nodup_eraseDups facts

/-- Facts of a kind are noted as if there were no others. -/
theorem filter_noted (p : α → Bool) (facts : List α) : (noted facts).filter p = noted (facts.filter p) := by
  rw [noted_eq, noted_eq, List.filter_reverse, Text.filter_eraseDups]

theorem noted_perm {facts others : List α} (perm : facts.Perm others) :
    (noted facts).Perm (noted others) := by
  rw [List.perm_ext_iff_of_nodup (nodup_noted facts) (nodup_noted others)]
  intro fact
  rw [mem_noted, mem_noted, perm.mem_iff]

end Noted

/-! ## Recordings -/

namespace Tracker

inductive Event
  | join (use : ColumnUse)
  | filter (use : ColumnUse)
  | update (change : ColumnUpdate)
  | touch (contact : TableTouch)
  deriving DecidableEq, Repr

namespace Event

def join? : Event → Option ColumnUse
  | .join use => some use
  | _ => none

def filter? : Event → Option ColumnUse
  | .filter use => some use
  | _ => none

def update? : Event → Option ColumnUpdate
  | .update change => some change
  | _ => none

def touch? : Event → Option TableTouch
  | .touch contact => some contact
  | _ => none

/-- A column of the table is filtered by the query. -/
def filters (table query : String) (e : Event) : Bool :=
  e.filter?.any fun use => use.table = table ∧ use.query = query

end Event

/-- Usage with one more recording. -/
def record (tracker : Tracker) : Event → Tracker
  | .join use => tracker.recordJoin use.table use.query use.column
  | .filter use => tracker.recordFilter use.table use.query use.column
  | .update change => tracker.recordUpdate change.table change.column
  | .touch contact => tracker.recordTouch contact.kind contact.table contact.query

/-- The usage that a sequence of recordings collects. -/
def ofEvents (events : List Event) : Tracker := events.foldl record .empty

theorem ofEvents_eq (events : List Event) : ofEvents events =
    { joined := noted (events.filterMap Event.join?)
      filtered := noted (events.filterMap Event.filter?)
      updated := noted (events.filterMap Event.update?)
      touched := noted (events.filterMap Event.touch?) } := by
  induction events using List.reverseRecOn with
  | nil => rfl
  | append_singleton events e ih =>
      have step : ofEvents (events ++ [e]) = (ofEvents events).record e := List.foldl_append
      rw [step, ih]
      simp only [List.filterMap_append, List.filterMap_cons, List.filterMap_nil]
      cases e <;> simp [record, recordJoin, recordFilter, recordUpdate, recordTouch, Event.join?,
        Event.filter?, Event.update?, Event.touch?, noted_concat]

/-! ## Usage that tells the same -/

/-- The facts are the same, and the columns that a query filters come in the same order. -/
structure Alike (u v : Tracker) : Prop where
  joined : u.joined.Perm v.joined
  filtered : ∀ table query, (u.filtered.filter fun use => use.table = table ∧ use.query = query)
    = v.filtered.filter fun use => use.table = table ∧ use.query = query
  updated : u.updated.Perm v.updated
  touched : u.touched.Perm v.touched

/-- Only the order in which a query filters columns matters among recordings. -/
theorem alike_ofEvents {first second : List Event} (perm : first.Perm second)
    (order : ∀ table query, first.filter (·.filters table query) = second.filter (·.filters table query)) :
    (ofEvents first).Alike (ofEvents second) := by
  rw [ofEvents_eq, ofEvents_eq]
  refine ⟨noted_perm (perm.filterMap _), fun table query => ?_, noted_perm (perm.filterMap _),
    noted_perm (perm.filterMap _)⟩
  have own (events : List Event) :
      ((events.filterMap Event.filter?).filter fun use => use.table = table ∧ use.query = query)
        = (events.filter (·.filters table query)).filterMap Event.filter? := by
    rw [List.filter_filterMap, List.filterMap_filter]
    refine List.filterMap_congr fun e _ => ?_
    cases e <;> simp [Event.filters, Event.filter?, Option.filter]
  rw [filter_noted, filter_noted, own, own, order]

end Tracker

end IndexAdvisor
