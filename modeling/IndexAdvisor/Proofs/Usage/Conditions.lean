import IndexAdvisor.Proofs.Scope.Tables

/-! # Conditions and their parameters

In a condition of comparisons, lists and ranges each parameter stands beside the column of its own
comparison, on whichever side of the column it is written and whatever was compared before: every
comparison meets its column first, or has it looked up ahead where it comes last.
-/

namespace IndexAdvisor

open Outline
open Sql (Expr)
open Text (lowercase)

namespace Sql

/-! ## Conditions -/

/-- A column of a condition: its name, behind the names that qualify it. -/
structure ColumnPath where
  qualifiers : List String
  name : String

def ColumnPath.expr (c : ColumnPath) : Expr := .column (c.qualifiers ++ [c.name]) false

/-- The column by its last qualifier and its name, in lower case. -/
def ColumnPath.column (c : ColumnPath) : ColumnName :=
  ⟨c.qualifiers.getLast?.map lowercase, lowercase c.name⟩

/-- What compares two operands. -/
inductive Relation
  | operator (operator : Operator)
  | distinct (negated : Bool)
  | like (negated : Bool)
  | ilike (negated : Bool)

/-- The comparison as an expression. -/
def Relation.expr (left right : Expr) : Relation → Expr
  | operator o => .binary o left right
  | distinct negated => .distinctFrom negated left right
  | like negated => .pattern .like negated left right none
  | ilike negated => .pattern .ilike negated left right none

inductive Comparison
  /-- The column, and then the parameter. -/
  | right (column : ColumnPath) (relation : Relation) (number : Nat)
  /-- The parameter, and then the column. -/
  | left (number : Nat) (relation : Relation) (column : ColumnPath)
  | list (column : ColumnPath) (negated : Bool) (numbers : List Nat)
  | range (column : ColumnPath) (symmetric negated : Bool) (low high : Nat)

namespace Comparison

def expr : Comparison → Expr
  | right c relation n => relation.expr c.expr (.parameter n)
  | left n relation c => relation.expr (.parameter n) c.expr
  | list c negated ns => .inList negated c.expr (ns.map .parameter)
  | range c symmetric negated low high =>
    .between symmetric negated c.expr (.parameter low) (.parameter high)

def column : Comparison → ColumnName
  | right c _ _ | left _ _ c | list c _ _ | range c _ _ _ _ => c.column

/-- The parameters, in the order in which they are written. -/
def numbers : Comparison → List Nat
  | right _ _ n | left n _ _ => [n]
  | list _ _ ns => ns
  | range _ _ _ low high => [low, high]

/-- How the column is used. -/
def use : Comparison → Use
  | list .. => .membership
  | _ => .condition

/-- Where the parameters stand. -/
def clause : Comparison → Clause
  | list .. => .other
  | _ => .where

/-- The use of the column, with the table at hand. -/
def record (table : Option String) (c : Comparison) : UsageRecord := ⟨c.use, c.column, table⟩

/-- The parameters beside the column, with the table at hand. -/
def sites (table : Option String) (c : Comparison) : List ParameterSite :=
  c.numbers.map fun n => ⟨n, some c.column, table, c.clause⟩

end Comparison

/-- Comparisons joined by `AND`, `OR` and `NOT`. -/
inductive Condition
  | comparison (c : Comparison)
  | chain (connective : Connective) (items : List Condition)
  | negation (c : Condition)

namespace Condition

mutual

def expr : Condition → Expr
  | comparison c => c.expr
  | chain connective items => .chain connective (exprs items)
  | negation c => .negation c.expr

def exprs : List Condition → List Expr
  | [] => []
  | c :: cs => c.expr :: exprs cs

end

mutual

/-- The comparisons of the condition, from left to right. -/
def comparisons : Condition → List Comparison
  | comparison c => [c]
  | chain _ items => allComparisons items
  | negation c => c.comparisons

def allComparisons : List Condition → List Comparison
  | [] => []
  | c :: cs => c.comparisons ++ allComparisons cs

end

/-- The statement `SELECT * FROM table WHERE condition`. -/
def statement (c : Condition) (table : TableName) (byname : Option Alias) : Statement :=
  .query (.mk false [] (.select false [] [.mk (.column [] true) none] none [.table false table byname]
    (some c.expr) false [] none []) [] none false none [])

end Condition

end Sql

/-! ## The walk through a condition -/

namespace Walk

open Sql (ColumnPath Relation Comparison Condition)

def compared (w : Walk) (c : Comparison) : Walk :=
  { w with
    column := some c.column
    records := w.records ++ [c.record w.table]
    parameters := w.parameters ++ c.sites w.table }

variable {w : Walk} {clause : Clause}

theorem columnOf?_expr (c : ColumnPath) : columnOf? c.expr = some c.column := by
  rcases c with ⟨qualifiers, name⟩
  induction qualifiers using List.reverseRecOn <;>
    simp [ColumnPath.expr, ColumnPath.column, columnOf?, columnOfPath?]

theorem exprTerm_column (c : ColumnPath) : exprTerm c.expr = .column c.column := by
  have found := columnOf?_expr c
  rw [ColumnPath.expr] at found ⊢
  rw [exprTerm, found]

theorem exprTerm_relation (relation : Relation) (l r : Expr) :
    exprTerm (relation.expr l r) = operation (some l) r [exprTerm l, exprTerm r] := by
  cases relation <;> simp [Relation.expr, exprTerm]

theorem terms_parameters (ns : List Nat) (w : Walk) :
    terms [] clause (ns.map .parameter) w =
      { w with parameters := w.parameters ++ ns.map fun n => ⟨n, w.column, w.table, clause⟩ } := by
  induction ns generalizing w with
  | nil => simp [terms]
  | cons n ns ih => simp [terms, term, meetParameter, ih]

theorem exprTerms_parameters (ns : List Nat) :
    exprTerms (ns.map .parameter) = ns.map .parameter := by
  induction ns with
  | nil => simp [exprTerms]
  | cons n ns ih => simp [exprTerms, exprTerm, ih]

theorem term_comparison (c : Comparison) (w : Walk) : term [] .where (exprTerm c.expr) w = w.compared c := by
  cases c with
  | right c relation n =>
      have plain : operation (some c.expr) (.parameter n) [exprTerm c.expr, exprTerm (.parameter n)]
          = .group [exprTerm c.expr, exprTerm (.parameter n)] := by
        simp [operation, columnOf?]
      rw [Comparison.expr, exprTerm_relation, plain, exprTerm_column]
      simp [exprTerm, term, terms, meetColumn, useIn, meetParameter, record, compared, Comparison.record,
        Comparison.sites, Comparison.use, Comparison.column, Comparison.numbers, Comparison.clause]
  | left n relation c =>
      have ahead : operation (some (.parameter n)) c.expr [exprTerm (.parameter n), exprTerm c.expr]
          = .comparison c.column [exprTerm (.parameter n), exprTerm c.expr] := by
        simp [operation, columnOf?_expr, isColumn]
      rw [Comparison.expr, exprTerm_relation, ahead, exprTerm_column]
      simp [exprTerm, term, terms, meetColumn, useIn, meetParameter, record, compared, Comparison.record,
        Comparison.sites, Comparison.use, Comparison.column, Comparison.numbers, Comparison.clause]
  | list c negated ns =>
      rw [Comparison.expr, exprTerm, lookup, columnOf?_expr, exprTerms_parameters]
      simp [term, terms_parameters, meetColumn, useIn, record, compared, Comparison.record,
        Comparison.sites, Comparison.use, Comparison.column, Comparison.numbers, Comparison.clause]
  | range c symmetric negated low high =>
      rw [Comparison.expr, exprTerm, exprTerm_column]
      simp [exprTerm, term, terms, meetColumn, useIn, meetParameter, record, compared, Comparison.record,
        Comparison.sites, Comparison.use, Comparison.column, Comparison.numbers, Comparison.clause]

-- connectives leave nothing behind, so the walk through a condition is one through its comparisons
mutual
theorem term_condition (c : Condition) (w : Walk) :
    term [] .where (exprTerm c.expr) w = c.comparisons.foldl compared w := by
  cases c with
  | comparison c => simpa [Condition.expr, Condition.comparisons] using term_comparison c w
  | chain connective items =>
      rw [Condition.expr, exprTerm, term, terms_conditions, Condition.comparisons]
  | negation c =>
      rw [Condition.expr, exprTerm, term, terms, terms, term_condition, Condition.comparisons]
termination_by sizeOf c

theorem terms_conditions (cs : List Condition) (w : Walk) :
    terms [] .where (exprTerms (Condition.exprs cs)) w = (Condition.allComparisons cs).foldl compared w := by
  cases cs with
  | nil => simp [Condition.exprs, exprTerms, terms, Condition.allComparisons]
  | cons c cs =>
      rw [Condition.exprs, exprTerms, terms, term_condition, terms_conditions, Condition.allComparisons,
        List.foldl_append]
termination_by sizeOf cs
end

/-- Each comparison is recorded, and its parameters are, with the table at hand from the start on. -/
theorem foldl_compared (cs : List Comparison) (w : Walk) :
    (cs.foldl compared w).table = w.table ∧
      (cs.foldl compared w).records = w.records ++ cs.map (·.record w.table) ∧
      (cs.foldl compared w).parameters = w.parameters ++ cs.flatMap (·.sites w.table) := by
  induction cs generalizing w with
  | nil => simp
  | cons c cs ih =>
      obtain ⟨table, records, parameters⟩ := ih (w.compared c)
      rw [List.foldl_cons, table, records, parameters]
      simp [compared]

/-- The query of a condition, by what the walk sees of it. -/
def conditionQuery (table : Table) (condition : Term) : Select :=
  .mk false [] (.plain [.table table] [.group []] (some condition) [] none) [] none none

theorem ofStatement?_statement (c : Condition) (name : Sql.TableName) (byname : Option Sql.Alias) :
    ofStatement? (c.statement name byname)
      = some (.ok (.select (conditionQuery (tableOf name (byname.map (·.name))) (exprTerm c.expr)))) := rfl

/-- The table of `FROM` is at hand where the condition begins, and nothing has been met. -/
theorem outline_conditionQuery (table : Table) (condition : Term) :
    outline (.select (conditionQuery table condition)) start
      = term [] .where condition { (start.addTable table).2 with table := some table.name } := by
  have source : sources [] [.table table] start = { (start.addTable table).2 with table := some table.name } := by
    simp [sources, source, addTable, start]
  have body : bodyOf [] (.plain [.table table] [.group []] (some condition) [] none) start
      = term [] .where condition { (start.addTable table).2 with table := some table.name } := by
    rw [bodyOf, source]
    simp only [terms, term, option]
  simp only [outline, conditionQuery, select, withTables, terms, apart, body, Option.isSome_none, Bool.or_false,
    if_true]

end Walk

/-! ## Statements -/

open Walk
open Sql (Condition)

/-- Whatever the condition of `SELECT * FROM table WHERE condition`, its parameters are met from left to
    right, each beside the column of its own comparison, and the comparisons are recorded in their order. -/
theorem condition_reported {text : String} {parsed : Parsed} {condition : Condition} {table : Sql.TableName}
    {byname : Option Sql.Alias} (read : Parsed.read text = .ok parsed)
    (form : parsed.statement = condition.statement table byname) :
    ∃ o, parsed.outline = .ok o ∧
      o.usage.parameters = condition.comparisons.flatMap (·.sites (some (lowercase table.name))) ∧
      o.usage.records = condition.comparisons.map (·.record (some (lowercase table.name))) := by
  let source := tableOf table (byname.map (·.name))
  let before : Walk := { (start.addTable source).2 with table := some source.name }
  have walked : outline (.select (conditionQuery source (exprTerm condition.expr))) start
      = condition.comparisons.foldl compared before := by
    rw [outline_conditionQuery, term_condition]
  obtain ⟨-, records, parameters⟩ := foldl_compared condition.comparisons before
  have outlined := Parsed.outline_of_read read
  rw [form, ofStatement?_statement] at outlined
  refine ⟨_, (Option.some.inj outlined).symm, ?_, ?_⟩
  · exact (congrArg Walk.parameters walked).trans parameters
  · exact (congrArg Walk.records walked).trans records

/-- The users of two names, but for one user and those of an age in a range. -/
def Sql.Condition.guests : Condition :=
  .chain .and [
    .negation (.chain .or [.comparison (.left 1 (.operator ⟨[], "="⟩) ⟨[], "id"⟩),
      .comparison (.range ⟨[], "age"⟩ false false 2 3)]),
    .comparison (.list ⟨["users"], "name"⟩ false [4, 5])]

/-- The statement of that condition. -/
def Sql.Statement.asksGuests : Sql.Statement → Bool
  | .query (.mk false [] (.select false [] [.mk (.column [] true) none] none [.table false ⟨none, none, "users"⟩ none]
      (some (.chain .and [
        .negation (.chain .or [.binary ⟨[], "="⟩ (.parameter 1) (.column ["id"] false),
          .between false false (.column ["age"] false) (.parameter 2) (.parameter 3)]),
        .inList false (.column ["users", "name"] false) [.parameter 4, .parameter 5]]))
      false [] none []) [] none false none []) => true
  | _ => false

theorem Sql.Statement.eq_of_asksGuests {s : Sql.Statement} (asks : s.asksGuests) :
    s = Sql.Condition.guests.statement ⟨none, none, "users"⟩ none := by
  unfold asksGuests at asks
  split at asks
  · rfl
  · exact nomatch asks

theorem condition_reported_guests :
    ∃ parsed o, Parsed.read "SELECT * FROM users WHERE NOT (? = id OR age BETWEEN ? AND ?) AND users.name IN (?, ?)"
        = .ok parsed ∧
      parsed.statement = Sql.Condition.guests.statement ⟨none, none, "users"⟩ none ∧ parsed.outline = .ok o ∧
      o.usage.parameters.map (fun site => (site.number, site.column)) =
        [(1, some ⟨none, "id"⟩), (2, some ⟨none, "age"⟩), (3, some ⟨none, "age"⟩),
          (4, some ⟨some "users", "name"⟩), (5, some ⟨some "users", "name"⟩)] ∧
      o.usage.records.map (·.column.name) = ["id", "age", "name"] := by
  have runs : (Parsed.read
      "SELECT * FROM users WHERE NOT (? = id OR age BETWEEN ? AND ?) AND users.name IN (?, ?)").toOption.any
      (·.statement.asksGuests) := by
    decide +kernel
  obtain ⟨parsed, read, asks⟩ := Parsed.exists_of_any runs
  have form := Sql.Statement.eq_of_asksGuests asks
  obtain ⟨o, outlined, parameters, records⟩ := condition_reported read form
  refine ⟨parsed, o, read, form, outlined, ?_, ?_⟩
  · rw [parameters]
    decide +kernel
  · rw [records]
    decide +kernel

end IndexAdvisor
