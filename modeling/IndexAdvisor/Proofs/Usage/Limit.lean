import IndexAdvisor.Proofs.Scope.Tables

/-! # The limit of a statement

Only at its top does a statement have a limit that is noted: whatever the walk meets inside it, be it
a query with a limit of its own, leaves the note as it was.
-/

namespace IndexAdvisor

namespace Walk

open Outline

variable (assigned : List String)

theorem hasLimit_meetColumn (listed : Bool) (clause : Clause) (c : ColumnName) (w : Walk) :
    (w.meetColumn assigned listed clause c).hasLimit = w.hasLimit := by
  unfold meetColumn
  split <;> rfl

theorem hasLimit_meetParameter (clause : Clause) (number : Nat) (w : Walk) :
    (w.meetParameter clause number).hasLimit = w.hasLimit := rfl

theorem hasLimit_leaving (w v : Walk) : (w.leaving v).hasLimit = v.hasLimit := rfl

theorem hasLimit_withoutColumn (w : Walk) : w.withoutColumn.hasLimit = w.hasLimit := rfl

theorem hasLimit_addTable (t : Table) (w : Walk) : (w.addTable t).2.hasLimit = w.hasLimit := by
  unfold addTable
  split <;> rfl

theorem hasLimit_source_table (t : Table) (w : Walk) :
    (source assigned (.table t) w).hasLimit = w.hasLimit := by
  have kept := hasLimit_addTable t w
  rw [source]
  split <;> next named =>
    rw [named] at kept
    exact kept

-- a query inside is walked through as one that is not at the top, so its limit is not noted
mutual
theorem hasLimit_term (clause : Clause) (t : Term) (w : Walk) :
    (term assigned clause t w).hasLimit = w.hasLimit := by
  cases t with
  | column c => rw [term, hasLimit_meetColumn]
  | parameter n => rw [term, hasLimit_meetParameter]
  | membership c items => rw [term, hasLimit_terms, hasLimit_meetColumn]
  | comparison right operands => rw [term, hasLimit_terms]
  | group parts => rw [term, hasLimit_terms]
  | query q => rw [term, hasLimit_leaving, hasLimit_inner]
termination_by sizeOf t

theorem hasLimit_terms (clause : Clause) (ts : List Term) (w : Walk) :
    (terms assigned clause ts w).hasLimit = w.hasLimit := by
  cases ts with
  | nil => rw [terms]
  | cons t ts => rw [terms, hasLimit_terms, hasLimit_term]
termination_by sizeOf ts

theorem hasLimit_option (clause : Clause) (t : Option Term) (w : Walk) :
    (option assigned clause t w).hasLimit = w.hasLimit := by
  cases t with
  | none => rw [option]
  | some t => rw [option, hasLimit_term]
termination_by sizeOf t

theorem hasLimit_apart (clause : Clause) (t : Option Term) (w : Walk) :
    (apart assigned clause t w).hasLimit = w.hasLimit := by
  cases t with
  | none => rw [apart]
  | some t => rw [apart, hasLimit_term, hasLimit_withoutColumn]
termination_by sizeOf t

theorem hasLimit_inner (q : Select) (w : Walk) :
    (select assigned false q w).hasLimit = w.hasLimit := by
  obtain ⟨recursive, ctes, body, order, offset, limit⟩ := q
  rw [select, if_neg Bool.false_ne_true, hasLimit_apart, hasLimit_apart, hasLimit_terms, hasLimit_body,
    hasLimit_withTables]
termination_by sizeOf q

theorem hasLimit_body (body : Body) (w : Walk) :
    (bodyOf assigned body w).hasLimit = w.hasLimit := by
  cases body with
  | pair left right =>
      rw [bodyOf, hasLimit_leaving, hasLimit_inner, hasLimit_leaving, hasLimit_inner]
  | rows rows => rw [bodyOf, hasLimit_terms]
  | plain items targets condition group having =>
      rw [bodyOf, hasLimit_option, hasLimit_terms, hasLimit_option, hasLimit_terms, hasLimit_sources]
termination_by sizeOf body

theorem hasLimit_source (s : Source) (w : Walk) : (source assigned s w).hasLimit = w.hasLimit := by
  cases s with
  | table t => exact hasLimit_source_table assigned t w
  | join left right condition => rw [source, hasLimit_option, hasLimit_source, hasLimit_source]
  | query q => rw [source, hasLimit_leaving, hasLimit_inner]
  | other => rw [source]
termination_by sizeOf s

theorem hasLimit_sources (ss : List Source) (w : Walk) :
    (sources assigned ss w).hasLimit = w.hasLimit := by
  cases ss with
  | nil => rw [sources]
  | cons s ss => rw [sources, hasLimit_sources, hasLimit_source]
termination_by sizeOf ss

theorem hasLimit_withTables (ctes : List Cte) (w : Walk) :
    (withTables assigned ctes w).hasLimit = w.hasLimit := by
  cases ctes with
  | nil => rw [withTables]
  | cons cte rest =>
      obtain ⟨name, query⟩ := cte
      cases query with
      | none => rw [withTables, hasLimit_withTables]
      | some q => rw [withTables, hasLimit_withTables, hasLimit_leaving, hasLimit_inner]
termination_by sizeOf ctes
end

/-- At the top of a statement the limit is noted. -/
theorem hasLimit_top (recursive : Bool) (ctes : List Cte) (body : Body) (order : List Term)
    (offset limit : Option Term) (w : Walk) :
    (select assigned true (.mk recursive ctes body order offset limit) w).hasLimit
      = (w.hasLimit || limit.isSome) := by
  rw [select, if_pos rfl]
  simp only [hasLimit_apart, hasLimit_terms, hasLimit_body, hasLimit_withTables]

end Walk

/-- The limit of a query that is a statement. -/
def Sql.Statement.limit? : Sql.Statement → Option Sql.Expr
  | .query (.mk _ _ _ _ limit _ _ _) => limit
  | .insert .. | .update .. | .delete .. | .other .. => none

/-- A selection with a noted limit is a query that has one. -/
theorem Outline.limited_iff {statement : Sql.Statement} {o : Outline}
    (given : Outline.ofStatement? statement = some (.ok o)) :
    o.usage.kind = .select ∧ o.usage.hasLimit ↔ statement.limit?.isSome := by
  have kind : kindOf statement = .ok o.usage.kind := Outline.kind_of_statement given
  cases statement with
  | query q =>
      obtain ⟨recursive, ctes, body, order, limit, ties, offset, locks⟩ := q
      cases given
      simp only [Outline.usage, Outline.kind, Walk.outline, queryOutline, Walk.hasLimit_top,
        Sql.Statement.limit?]
      cases limit <;> simp [optionTerms, Walk.start]
  | insert | update | delete =>
      cases named : o.usage.kind <;> simp_all [kindOf, Sql.Statement.limit?]
  | other name text => cases given

end IndexAdvisor
