import IndexAdvisor.Proofs.Usage.Events
import IndexAdvisor.Proofs.Usage.Frame

/-! # What is read of recorded usage

Usage is kept as facts, and what is read of it is told by the recordings alone: the columns that a query
filters, each once and the first one last; those that it joins on and those that are updated, in ascending
order; the queries and the tables. A recording that was made before changes nothing.
-/

namespace IndexAdvisor

open Text

/-- What tells the facts of a kind apart is read of them in ascending order. -/
theorem sorted_noted {α : Type} [BEq α] [LawfulBEq α] {f : α → String} {p : α → Bool} (facts : List α)
    (apart : ∀ a b, p a → p b → f a = f b → a = b) :
    sorted (((noted facts).filter p).map f) = sortedDistinct ((facts.filter p).map f) := by
  have kinds : ∀ a ∈ facts.filter p, ∀ b ∈ facts.filter p, f a = f b → a = b := by
    intro a memA b memB same
    exact apart a b (List.mem_filter.mp memA).2 (List.mem_filter.mp memB).2 same
  rw [filter_noted, noted_eq, List.map_reverse, map_eraseDups kinds]
  exact sorted_perm (List.reverse_perm _)

namespace Tracker

/-! ## Known facts -/

/-- The table that a recording is about; a target may have no table. -/
def Event.table : Event → Option String
  | .join use | .filter use => some use.table
  | .update change => some change.table
  | .touch contact => contact.table

def Knows (u : Tracker) : Event → Prop
  | .join use => use ∈ u.joined
  | .filter use => use ∈ u.filtered
  | .update change => change ∈ u.updated
  | .touch contact => contact ∈ u.touched

theorem knows_ofEvents {events : List Event} {e : Event} : (ofEvents events).Knows e ↔ e ∈ events := by
  have only {α : Type} {kind? : Event → Option α} {fact : α}
      (own : ∀ other, kind? other = some fact ↔ other = e) : fact ∈ events.filterMap kind? ↔ e ∈ events := by
    simp [List.mem_filterMap, own]
  rw [ofEvents_eq]
  cases e with
  | join use => exact mem_noted.trans (only fun other => by cases other <;> simp [Event.join?])
  | filter use => exact mem_noted.trans (only fun other => by cases other <;> simp [Event.filter?])
  | update change => exact mem_noted.trans (only fun other => by cases other <;> simp [Event.update?])
  | touch contact => exact mem_noted.trans (only fun other => by cases other <;> simp [Event.touch?])

theorem record_of_knows {u : Tracker} {e : Event} (known : u.Knows e) : u.record e = u := by
  cases e with
  | join use => rw [record, recordJoin, note_of_mem known]
  | filter use => rw [record, recordFilter, note_of_mem known]
  | update change => rw [record, recordUpdate, note_of_mem known]
  | touch contact => rw [record, recordTouch, note_of_mem known]

theorem hasKeyUsage_iff {u : Tracker} {table : String} : u.hasKeyUsage table ↔
    ∃ use, use.table = table ∧ (u.Knows (.join use) ∨ u.Knows (.filter use)) := by
  rw [hasKeyUsage, Bool.or_eq_true, List.any_eq_true, List.any_eq_true]
  simp only [decide_eq_true_eq, Knows, and_or_left, exists_or, and_comm]

/-! ## Columns by query -/

section Columns

variable (table query : String) (uses : List ColumnUse)

theorem inj_column : ∀ a ∈ (uses.filter (·.table = table)).filter (·.query = query),
    ∀ b ∈ (uses.filter (·.table = table)).filter (·.query = query), a.column = b.column → a = b := by
  intro a memA b memB same
  simp only [List.mem_filter, decide_eq_true_eq] at memA memB
  cases a
  cases b
  simp_all

theorem columnsOf_noted :
    columnsOf table query (noted uses) = (columnsOf table query uses).eraseDups.reverse := by
  rw [columnsOf, filter_noted, filter_noted, noted_eq, List.map_reverse,
    map_eraseDups (inj_column table query uses), columnsOf]

theorem lookup_noted : ((byQuery table (noted uses)).lookup query).getD []
    = (columnsOf table query uses).eraseDups.reverse := by
  rw [lookup_byQuery, ← columnsOf_noted]
  split
  · next none => rw [none, Option.getD_none]
  · rfl

theorem queries_noted : (byQuery table (noted uses)).map (·.1)
    = sortedDistinct ((uses.filter (·.table = table)).map (·.query)) := by
  rw [byQuery, List.map_map, filter_noted]
  refine (List.map_id _).trans (sortedDistinct_congr fun query => ?_)
  simp only [List.mem_map, mem_noted]

end Columns

/-! ## Tables -/

section Tables

variable {events : List Event}

theorem namedTables_ofEvents (events : List Event) :
    (ofEvents events).namedTables = sortedDistinct (events.filterMap Event.table) := by
  refine sortedDistinct_congr fun table => ?_
  simp only [List.mem_append, List.mem_map, List.mem_filterMap]
  constructor
  · rintro (((⟨use, mem, rfl⟩ | ⟨use, mem, rfl⟩) | ⟨change, mem, rfl⟩) | ⟨contact, mem, about⟩)
    · exact ⟨.join use, knows_ofEvents.mp mem, rfl⟩
    · exact ⟨.filter use, knows_ofEvents.mp mem, rfl⟩
    · exact ⟨.update change, knows_ofEvents.mp mem, rfl⟩
    · exact ⟨.touch contact, knows_ofEvents.mp mem, about⟩
  · rintro ⟨e, mem, about⟩
    have known := knows_ofEvents.mpr mem
    cases e with
    | join use => exact .inl (.inl (.inl ⟨use, known, Option.some.inj about⟩))
    | filter use => exact .inl (.inl (.inr ⟨use, known, Option.some.inj about⟩))
    | update change => exact .inl (.inr ⟨change, known, Option.some.inj about⟩)
    | touch contact => exact .inr ⟨contact, known, about⟩

/-- Only a query that touches a target may be recorded without a table. -/
theorem all_touched_ofEvents (events : List Event) :
    (ofEvents events).touched.all (·.table.isSome) = true ↔ ∀ e ∈ events, e.table.isSome := by
  rw [List.all_eq_true]
  constructor
  · intro named e mem
    cases e with
    | touch contact => exact named contact (knows_ofEvents.mpr mem)
    | _ => rfl
  · intro named contact mem
    exact named (.touch contact) (knows_ofEvents.mp mem)

theorem tables_ofEvents (named : ∀ e ∈ events, e.table.isSome) :
    (ofEvents events).tables? = some ((sortedDistinct (events.filterMap Event.table)).map some) := by
  rw [tables?, if_pos ((all_touched_ofEvents events).mpr named), namedTables_ofEvents]

theorem tables_of_nameless {e : Event} (mem : e ∈ events) (nameless : e.table = none) :
    (ofEvents events).tables? = if events.filterMap Event.table = [] then some [none] else none := by
  have unnamed : ¬(ofEvents events).touched.all (·.table.isSome) = true := by
    intro all
    have named := (all_touched_ofEvents events).mp all e mem
    simp [nameless] at named
  have none : (ofEvents events).namedTables.isEmpty = true ↔ events.filterMap Event.table = [] := by
    rw [namedTables_ofEvents, List.isEmpty_iff, List.eq_nil_iff_forall_not_mem, List.eq_nil_iff_forall_not_mem]
    simp only [sortedDistinct, mem_sorted, List.mem_eraseDups]
  rw [tables?, if_neg unnamed]
  simp only [none]

end Tables

/-! ## All readings -/

/-- What is read of the usage is what the recordings tell. -/
structure Reads (u : Tracker) (events : List Event) : Prop where
  filtering : ∀ table, (u.filters table).map (·.1)
    = sortedDistinct (((events.filterMap Event.filter?).filter (·.table = table)).map (·.query))
  /-- The columns that a query filters, each once, are read from the last to the first. -/
  filters : ∀ table query, ((u.filters table).lookup query).getD []
    = (columnsOf table query (events.filterMap Event.filter?)).eraseDups.reverse
  joining : ∀ table, (u.joins table).map (·.1)
    = sortedDistinct (((events.filterMap Event.join?).filter (·.table = table)).map (·.query))
  joins : ∀ table query, ((u.joins table).lookup query).getD []
    = sortedDistinct (columnsOf table query (events.filterMap Event.join?))
  updates : ∀ table, u.updates table
    = sortedDistinct (((events.filterMap Event.update?).filter (·.table = table)).map (·.column))
  queries : ∀ kind table, u.queries kind table = sortedDistinct
    (((events.filterMap Event.touch?).filter fun t => t.kind = kind ∧ t.table = table).map (·.query))
  tables : (∀ e ∈ events, e.table.isSome) →
    u.tables? = some ((sortedDistinct (events.filterMap Event.table)).map some)
  /-- No order is known between a table and what has no name. -/
  nameless : ∀ e ∈ events, e.table = none →
    u.tables? = if events.filterMap Event.table = [] then some [none] else none
  used : ∀ table, u.hasKeyUsage table ↔
    ∃ use : ColumnUse, use.table = table ∧ (.join use ∈ events ∨ .filter use ∈ events)
  again : ∀ e ∈ events, u.record e = u

theorem reads_ofEvents (events : List Event) : (ofEvents events).Reads events where
  filtering := by
    intro table
    rw [ofEvents_eq]
    exact queries_noted table _
  filters := by
    intro table query
    rw [ofEvents_eq]
    exact lookup_noted table query _
  joining := by
    intro table
    rw [ofEvents_eq, joins, List.map_map]
    exact queries_noted table _
  joins := by
    intro table query
    have nothing : sorted [] = [] := List.mergeSort_nil
    rw [ofEvents_eq, lookup_joins, ← nothing, Option.getD_map, lookup_noted]
    exact sorted_perm (List.reverse_perm _)
  updates := by
    intro table
    rw [ofEvents_eq]
    refine sorted_noted _ ?_
    rintro ⟨_, column⟩ ⟨_, _⟩ own own' rfl
    simp_all
  queries := by
    intro kind table
    rw [ofEvents_eq]
    refine sorted_noted _ ?_
    rintro ⟨_, _, query⟩ ⟨_, _, _⟩ own own' rfl
    simp_all
  tables := tables_ofEvents
  nameless := fun _ mem nameless => tables_of_nameless mem nameless
  used := by
    intro table
    simp only [hasKeyUsage_iff, knows_ofEvents]
  again := fun _ mem => record_of_knows (knows_ofEvents.mpr mem)

/-- The state is filtered once more after the balance, and keeps its place behind it. -/
theorem reads_ofEvents_accounts :
    let state : Event := .filter ⟨"accounts", "query.select.001", "state"⟩
    let balance : Event := .filter ⟨"accounts", "query.select.001", "balance"⟩
    let select : Event := .touch ⟨.select, some "accounts", "query.select.001"⟩
    let usage := ofEvents [state, balance, state, select]
    ((usage.filters "accounts").lookup "query.select.001").getD [] = ["balance", "state"] ∧
      usage.tables? = some [some "accounts"] ∧ usage.record state = usage := by
  intro state balance select usage
  have reads : usage.Reads [state, balance, state, select] := reads_ofEvents _
  have named : ∀ e ∈ [state, balance, state, select], e.table.isSome := by
    simp [state, balance, select, Event.table]
  refine ⟨(reads.filters _ _).trans (by decide), (reads.tables named).trans ?_, reads.again _ (by simp)⟩
  simp [state, balance, select, Event.table, sortedDistinct, sorted, List.eraseDups_cons]

end Tracker

end IndexAdvisor
