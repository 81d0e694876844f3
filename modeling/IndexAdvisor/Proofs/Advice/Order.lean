import IndexAdvisor.Advice
import IndexAdvisor.Proofs.Usage.Events

/-! # Advice in any order

Advice is made from what is read off the usage: the columns that queries join on, filter and update.
Queries and columns are put in order there, but for the filtered columns of a query, which come in
the order of their recordings. So the same recordings in another order lead to the same advice, as
long as each query filters the columns of a table in the same order.
-/

namespace IndexAdvisor

open Text

namespace Tracker

variable {u v : Tracker} {table query : String}

/-- The columns of a table by query are put in order where the facts are the same. -/
theorem byQuery_sorted {uses others : List ColumnUse} (perm : uses.Perm others) :
    ((byQuery table uses).map fun use => (use.1, sorted use.2))
      = (byQuery table others).map fun use => (use.1, sorted use.2) := by
  have own := perm.filter (·.table = table)
  have queries : sortedDistinct ((uses.filter (·.table = table)).map (·.query))
      = sortedDistinct ((others.filter (·.table = table)).map (·.query)) :=
    sortedDistinct_congr fun text => (own.map _).mem_iff
  have columns (query : String) :
      sorted (((uses.filter (·.table = table)).filter (·.query = query)).map (·.column))
        = sorted (((others.filter (·.table = table)).filter (·.query = query)).map (·.column)) :=
    sorted_perm ((own.filter _).map _)
  simp only [byQuery, List.map_map, Function.comp_def, queries, columns]

theorem byQuery_congr {uses others : List ColumnUse}
    (same : ∀ query, (uses.filter fun use => use.table = table ∧ use.query = query)
      = others.filter fun use => use.table = table ∧ use.query = query) :
    byQuery table uses = byQuery table others := by
  have own (uses : List ColumnUse) (query : String) :
      (uses.filter (·.table = table)).filter (·.query = query)
        = uses.filter fun use => use.table = table ∧ use.query = query := by
    rw [List.filter_filter]
    simp only [Bool.decide_and, Bool.and_comm]
  have known (uses : List ColumnUse) (query : String) :
      query ∈ (uses.filter (·.table = table)).map (·.query)
        ↔ (uses.filter fun use => use.table = table ∧ use.query = query) ≠ [] := by
    rw [← own, List.mem_map, Ne, List.filter_eq_nil_iff]
    simp [and_assoc]
  have queries : sortedDistinct ((uses.filter (·.table = table)).map (·.query))
      = sortedDistinct ((others.filter (·.table = table)).map (·.query)) :=
    sortedDistinct_congr fun query => by rw [known, known, same]
  simp only [byQuery, queries, own, same]

namespace Alike

variable (alike : u.Alike v)

include alike

theorem joins_eq : u.joins table = v.joins table := byQuery_sorted alike.joined

theorem filters_eq : u.filters table = v.filters table := byQuery_congr (alike.filtered table)

theorem updates_eq : u.updates table = v.updates table :=
  sorted_perm ((alike.updated.filter _).map _)

theorem mem_filtered {use : ColumnUse} : use ∈ u.filtered ↔ use ∈ v.filtered := by
  have own (u : Tracker) : use ∈ u.filtered ↔
      use ∈ u.filtered.filter fun other => other.table = use.table ∧ other.query = use.query := by
    simp
  rw [own u, own v, alike.filtered]

theorem hasKeyUsage_eq : u.hasKeyUsage table = v.hasKeyUsage table := by
  have filtered : u.filtered.any (·.table = table) = v.filtered.any (·.table = table) := by
    rw [Bool.eq_iff_iff, List.any_eq_true, List.any_eq_true]
    exact exists_congr fun use => and_congr_left' alike.mem_filtered
  rw [hasKeyUsage, hasKeyUsage, alike.joined.any_eq, filtered]

end Alike

end Tracker

/-- Usage that tells the same leads to the same advice. -/
theorem TableSchema.advice_congr (table : TableSchema) {u v : Tracker} (alike : u.Alike v) :
    table.advice u = table.advice v := by
  have columns : table.keyColumns u = table.keyColumns v := by
    rw [keyColumns, keyColumns, alike.joins_eq, alike.filters_eq, alike.updates_eq]
  have key : table.keyAdvice? u = table.keyAdvice? v := by
    rw [keyAdvice?, keyAdvice?, columns]
  have indexes : table.indexAdvice u = table.indexAdvice v := by
    simp only [indexAdvice, advisedColumns, rankedCandidates, candidates, alike.joins_eq,
      alike.filters_eq, alike.updates_eq]
  simp only [advice, key, indexes, hotColumns, blockingIndexes, alike.hasKeyUsage_eq, alike.updates_eq]

/-- The advice does not depend on the order of the recordings, as long as each query filters the
    columns of a table in the same order. -/
theorem Session.advice_order {first second : List Tracker.Event} (perm : first.Perm second)
    (order : ∀ table query, first.filter (·.filters table query) = second.filter (·.filters table query))
    (session : Session) :
    { session with usage := .ofEvents first : Session }.advice
      = { session with usage := .ofEvents second : Session }.advice := by
  have alike := Tracker.alike_ofEvents perm order
  exact List.map_congr_left fun table _ => table.advice_congr alike

/-- Orders whose user and state are looked up. -/
def Session.orders : Session :=
  let schema : TableSchema :=
    ⟨"orders", [("id", .integer), ("user_id", .integer), ("state", .integer)], ["id"], [], [], []⟩
  { start with catalog := ⟨[("orders", schema)], []⟩ }

theorem Session.advice_order_orders :
    let filters : List Tracker.Event := [.filter ⟨"orders", "query.select.001", "user_id"⟩,
      .filter ⟨"orders", "query.select.001", "state"⟩]
    let join : Tracker.Event := .join ⟨"orders", "query.select.002", "user_id"⟩
    (filters ++ [join]).Perm (join :: filters) ∧
      { orders with usage := .ofEvents (filters ++ [join]) : Session }.advice
        = { orders with usage := .ofEvents (join :: filters) : Session }.advice := by
  intro filters join
  have perm : (filters ++ [join]).Perm (join :: filters) := List.perm_append_singleton join filters
  exact ⟨perm, advice_order perm (fun table query => by simp [filters, join, Tracker.Event.filters,
    Tracker.Event.filter?, List.filter_cons]) orders⟩

end IndexAdvisor
