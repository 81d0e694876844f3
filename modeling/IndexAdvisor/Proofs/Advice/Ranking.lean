import IndexAdvisor.Proofs.Advice.Names

/-! # The ranking of advised indexes

Wider candidates go before narrower ones, and of one width the one found earlier goes first. Several
candidates may be trimmed to the same columns: the first of them decides the place of the index. A
candidate of several columns that are all updated counts for nothing.
-/

namespace IndexAdvisor

/-! ## First items of a value -/

/-- Of the items that a function takes to a value, the one that goes before all others. -/
structure Leads {α β : Type} (before : α → α → Prop) (f : α → β) (items : List α) (first : α)
    (value : β) : Prop where
  mem : first ∈ items
  value_eq : f first = value
  least : ∀ other ∈ items, f other = value → other = first ∨ before first other

namespace Leads

variable {α β : Type} {before : α → α → Prop} {f : α → β} {items others : List α} {first : α} {value : β}

theorem congr (leads : Leads before f items first value) (same : ∀ item, item ∈ items ↔ item ∈ others) :
    Leads before f others first value :=
  ⟨(same first).mp leads.mem, leads.value_eq, fun other mem => leads.least other ((same other).mpr mem)⟩

/-- Items of other values may be left out. -/
theorem of_filter (keep : β → Bool) (leads : Leads before f (items.filter fun item => keep (f item)) first value) :
    Leads before f items first value := by
  have kept : keep value := by
    rw [← leads.value_eq]
    exact (List.mem_filter.mp leads.mem).2
  constructor
  · exact List.mem_of_mem_filter leads.mem
  · exact leads.value_eq
  · intro other mem same
    exact leads.least other (List.mem_filter.mpr ⟨mem, by rwa [same]⟩) same

theorem head {item : α} (order : (item :: items).Pairwise before) :
    Leads before f (item :: items) item (f item) := by
  constructor
  · exact List.mem_cons_self
  · rfl
  · intro other mem _
    cases List.mem_cons.mp mem with
    | inl here => exact .inl here
    | inr later => exact .inr (List.rel_of_pairwise_cons order later)

theorem cons {item : α} (leads : Leads before f items first value) (apart : f item ≠ value) :
    Leads before f (item :: items) first value := by
  constructor
  · exact List.mem_cons_of_mem _ leads.mem
  · exact leads.value_eq
  · intro other mem same
    cases List.mem_cons.mp mem with
    | inl here =>
        subst here
        exact absurd same apart
    | inr later => exact leads.least other later same

/-- The values of items in order, each once, come from a part of the items that is in the same order. -/
theorem of_eraseDups [BEq β] [LawfulBEq β] (f : α → β) {items : List α} (order : items.Pairwise before) :
    ∃ leaders, leaders.Sublist items ∧ List.Forall₂ (Leads before f items) leaders (items.map f).eraseDups := by
  match items with
  | [] => exact ⟨[], .slnil, .nil⟩
  | item :: rest =>
      -- the first value is taken out of the rest, and what is left is led by a part of the rest
      let apart : List α := rest.filter fun other => !f other == f item
      obtain ⟨leaders, part, lead⟩ := of_eraseDups f (order.of_cons.filter _ : apart.Pairwise before)
      have values : ((item :: rest).map f).eraseDups = f item :: (apart.map f).eraseDups := by
        rw [List.map_cons, List.eraseDups_cons, List.filter_map]
        rfl
      have lift {first : α} {value : β} (leads : Leads before f apart first value) :
          Leads before f (item :: rest) first value := by
        have other : f item ≠ value := by
          intro same
          have kept := (List.mem_filter.mp leads.mem).2
          simp [leads.value_eq, same] at kept
        exact (leads.of_filter fun value => !value == f item).cons other
      refine ⟨item :: leaders, (part.trans List.filter_sublist).cons_cons item, ?_⟩
      rw [values]
      exact .cons (head order) (lead.imp fun _ _ => lift)
termination_by items.length
decreasing_by
  have fewer := List.length_filter_le (fun other => !f other == f item) rest
  simp only [List.length_cons]
  omega

end Leads

/-! ## The order of candidates -/

/-- Wider candidates go before narrower ones; of one width the order is that of the pool. -/
def Precedes (pool : List (List String)) (a b : List String) : Prop :=
  b.length < a.length ∨ a.length = b.length ∧ pool.idxOf a < pool.idxOf b

namespace TableSchema

variable {table : TableSchema} {usage : Tracker}

/-- The candidates that count. -/
def counted (table : TableSchema) (usage : Tracker) : List (List String) :=
  (table.candidates usage).filter fun columns => !isOnlyUpdated columns (usage.updates table.name)

theorem nodup_candidates (table : TableSchema) (usage : Tracker) : (table.candidates usage).Nodup :=
  Text.nodup_eraseDups _

/-- The sort is stable, so it keeps the order of the pool within one width. -/
theorem pairwise_rankedCandidates (table : TableSchema) (usage : Tracker) :
    (table.rankedCandidates usage).Pairwise (Precedes (table.candidates usage)) := by
  let pool := table.candidates usage
  let wider (a b : List String) : Bool := decide (b.length ≤ a.length)
  have distinct : pool.Nodup := table.nodup_candidates usage
  -- a stable sort is one of the candidates with their places, which are those in the pool
  have place {pair : List String × Nat} (mem : pair ∈ pool.zipIdx.mergeSort (List.zipIdxLE wider)) :
      pool.idxOf pair.1 = pair.2 := by
    obtain ⟨inside, found⟩ := List.mem_zipIdx' (List.mem_mergeSort.mp mem)
    rw [found]
    exact distinct.idxOf_getElem pair.2 inside
  have sorted : (pool.zipIdx.mergeSort (List.zipIdxLE wider)).Pairwise
      fun a b => List.zipIdxLE wider a b = true := by
    refine List.pairwise_mergeSort ?_ ?_ _
    · intro a b c first second
      simp only [List.zipIdxLE, wider] at first second ⊢
      grind
    · intro a b
      simp only [List.zipIdxLE, wider]
      grind
  have apart : (table.rankedCandidates usage).Nodup :=
    ((List.mergeSort_perm _ _).nodup_iff).mpr distinct
  have weak : (table.rankedCandidates usage).Pairwise fun a b =>
      b.length < a.length ∨ a.length = b.length ∧ pool.idxOf a ≤ pool.idxOf b := by
    rw [rankedCandidates, ← List.mergeSort_zipIdx, List.pairwise_map]
    refine sorted.imp_of_mem ?_
    intro a b memA memB first
    rw [place memA, place memB]
    simp only [List.zipIdxLE, wider] at first
    grind
  refine (weak.and apart).imp_of_mem ?_
  intro a b memA memB ⟨first, differ⟩
  refine first.imp_right ?_
  rintro ⟨width, earlier⟩
  refine ⟨width, lt_of_le_of_ne earlier ?_⟩
  intro same
  exact differ ((List.idxOf_inj (List.mem_mergeSort.mp memA)).mp same)

/-- The candidates are what queries filter on together, what they join on, and foreign keys. -/
theorem mem_candidates {candidate : List String} : candidate ∈ table.candidates usage ↔
    candidate ≠ [] ∧ ((∃ query, (query, candidate) ∈ usage.filters table.name) ∨
      (∃ use ∈ usage.joins table.name, ∃ column ∈ use.2, [column] = candidate) ∨
      ∃ key ∈ table.importedKeys, [key.column] = candidate) := by
  rw [candidates, List.mem_eraseDups, List.mem_filter]
  simp [and_comm]

theorem mem_advisedColumns {columns : List String} : columns ∈ table.advisedColumns usage ↔
    columns ∉ table.indexes.values ∧
      ∃ candidate ∈ table.counted usage, trimUpdated candidate (usage.updates table.name) = columns := by
  rw [advisedColumns, List.mem_eraseDups, List.mem_filter]
  simp [counted, rankedCandidates, List.mem_mergeSort, and_comm]

theorem leaders_advisedColumns (table : TableSchema) (usage : Tracker) :
    ∃ leaders, leaders.Pairwise (Precedes (table.candidates usage)) ∧
      List.Forall₂ (Leads (Precedes (table.candidates usage)) (trimUpdated · (usage.updates table.name))
        (table.counted usage)) leaders (table.advisedColumns usage) := by
  let updated := usage.updates table.name
  let ranked := (table.rankedCandidates usage).filter fun columns => !isOnlyUpdated columns updated
  let fresh (columns : List String) : Bool := !table.indexes.values.contains columns
  let made := ranked.filter fun candidate => fresh (trimUpdated candidate updated)
  have order : ranked.Pairwise (Precedes (table.candidates usage)) :=
    (table.pairwise_rankedCandidates usage).filter _
  have columns : table.advisedColumns usage = (made.map (trimUpdated · updated)).eraseDups := by
    rw [advisedColumns, List.filter_map]
    rfl
  obtain ⟨leaders, part, lead⟩ := Leads.of_eraseDups (trimUpdated · updated) (order.filter _ : made.Pairwise _)
  refine ⟨leaders, (order.filter _).sublist part, ?_⟩
  rw [columns]
  refine lead.imp ?_
  intro first value leads
  refine (leads.of_filter fresh).congr ?_
  intro candidate
  simp [ranked, counted, updated, rankedCandidates, List.mem_mergeSort]

/-- An advised index has a rank, from one on, by its place. -/
theorem ranks_indexAdvice (table : TableSchema) (usage : Tracker) :
    (table.indexAdvice usage).map (·.rank) = List.range' 1 (table.indexAdvice usage).length := by
  rw [indexAdvice, List.map_map, List.length_map, List.length_zipIdx]
  have ranks : ((table.advisedColumns usage).zipIdx.map (·.2)).map (· + 1)
      = List.range' 1 (table.advisedColumns usage).length := by
    simp only [List.zipIdx_map_snd, Nat.add_comm _ 1]
    exact List.map_add_range' ..
  rw [← ranks, List.map_map]
  rfl

/-- Every advised index has columns of its own, which no index has yet, and the ranks count from one on.
    The columns are all that a candidate of the pool is trimmed to, and they come in the order of the
    first candidates that are trimmed to them. -/
theorem indexAdvice_ranked (table : TableSchema) (usage : Tracker) :
    let advised := (table.indexAdvice usage).map (·.columns)
    let pool := table.candidates usage
    let updated := usage.updates table.name
    advised.Nodup ∧
    (table.indexAdvice usage).map (·.rank) = List.range' 1 (table.indexAdvice usage).length ∧
    (∀ columns, columns ∈ advised ↔ columns ∉ table.indexes.values ∧
      ∃ candidate ∈ table.counted usage, trimUpdated candidate updated = columns) ∧
    (∃ leaders, leaders.Pairwise (Precedes pool) ∧
      List.Forall₂ (Leads (Precedes pool) (trimUpdated · updated) (table.counted usage)) leaders advised) ∧
    pool.Nodup ∧
    ∀ candidate, candidate ∈ pool ↔ candidate ≠ [] ∧ ((∃ query, (query, candidate) ∈ usage.filters table.name) ∨
      (∃ use ∈ usage.joins table.name, ∃ column ∈ use.2, [column] = candidate) ∨
      ∃ key ∈ table.importedKeys, [key.column] = candidate) := by
  intro advised pool updated
  have columns : advised = table.advisedColumns usage := table.columns_indexAdvice usage
  rw [columns]
  exact ⟨Text.nodup_eraseDups _, table.ranks_indexAdvice usage, fun _ => mem_advisedColumns,
    table.leaders_advisedColumns usage, table.nodup_candidates usage, fun _ => mem_candidates⟩

end TableSchema

end IndexAdvisor
