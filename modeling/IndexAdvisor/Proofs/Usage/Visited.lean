import IndexAdvisor.Proofs.Usage.Limit
import IndexAdvisor.Proofs.Usage.Occurrences
import IndexAdvisor.Proofs.Usage.Points

/-! # What the usage walk makes of its visits

The steps of the usage walk come to what the walk makes of an outline as a whole: each node that is
visited is left behind with what its outline gives, whatever is still ahead, and a statement ends
with the usage that is reported. So all that holds at the points of a walk holds of what is reported.
-/

namespace IndexAdvisor.Walk

open Outline
open Sql (Node Expr)
open Sql.Node (ofOption)
open Text (lowercase)

/-! ## Nodes -/

/-- What the walk makes of a node in a clause, by the outline of the node. -/
def visited (assigned : List String) (clause : Clause) (w : Walk) : Node → Walk
  | .expr e => term assigned clause (exprTerm e) w
  | .part p => terms assigned clause (partTerms [p]) w
  | .branch b => terms assigned clause (whenTerms [b]) w
  | .sort k => terms assigned clause (sortTerms [k]) w
  | .target t => terms assigned clause (targetTerms [t]) w
  | .group k => terms assigned clause (groupTerms [k]) w
  | .returning r => terms assigned clause (returningTerms r) w
  | .source s => source assigned (sourceOutline s) w
  | .query q => w.leaving (select assigned false (queryOutline q) w)
  | .body b => bodyOf assigned (bodyOutline b) w
  | .cte c => withTables assigned (cteOutlines [c]) w
  | .changed name byname => (w.addTarget (tableOf name byname)).2
  | _ => w

section Folds

variable (assigned : List String) (clause : Clause)

theorem foldl_visited {α : Type} {node : α → Node} {f : List α → List Term} (empty : f [] = [])
    (more : ∀ a as, f (a :: as) = f [a] ++ f as)
    (each : ∀ a w, visited assigned clause w (node a) = terms assigned clause (f [a]) w)
    (items : List α) (w : Walk) :
    (items.map node).foldl (visited assigned clause) w = terms assigned clause (f items) w := by
  induction items generalizing w with
  | nil =>
      rw [empty]
      rfl
  | cons a as ih => rw [List.map_cons, List.foldl_cons, ih, each, more a as, terms_append]

theorem foldl_exprs (items : List Expr) (w : Walk) :
    (items.map Node.expr).foldl (visited assigned clause) w = terms assigned clause (exprTerms items) w :=
  foldl_visited assigned clause rfl (fun _ _ => rfl) (fun _ _ => rfl) items w

theorem foldl_branches (items : List Sql.When) (w : Walk) :
    (items.map Node.branch).foldl (visited assigned clause) w = terms assigned clause (whenTerms items) w :=
  foldl_visited assigned clause rfl (fun ⟨_, _⟩ _ => rfl) (fun _ _ => rfl) items w

theorem foldl_sorts (items : List Sql.SortKey) (w : Walk) :
    (items.map Node.sort).foldl (visited assigned clause) w = terms assigned clause (sortTerms items) w :=
  foldl_visited assigned clause rfl (fun ⟨_, _, _⟩ _ => rfl) (fun _ _ => rfl) items w

theorem foldl_targets (items : List Sql.Target) (w : Walk) :
    (items.map Node.target).foldl (visited assigned clause) w = terms assigned clause (targetTerms items) w :=
  foldl_visited assigned clause rfl (fun ⟨_, _⟩ _ => rfl) (fun _ _ => rfl) items w

theorem groupTerms_cons (k : Sql.GroupKey) (ks : List Sql.GroupKey) :
    groupTerms (k :: ks) = groupTerms [k] ++ groupTerms ks := by
  cases k <;> rfl

theorem foldl_groups (items : List Sql.GroupKey) (w : Walk) :
    (items.map Node.group).foldl (visited assigned clause) w = terms assigned clause (groupTerms items) w :=
  foldl_visited assigned clause rfl groupTerms_cons (fun _ _ => rfl) items w

theorem partTerms_cons (p : Sql.Part) (ps : List Sql.Part) : partTerms (p :: ps) = partTerms [p] ++ partTerms ps := by
  cases p with
  | operand direct e => cases direct <;> rfl
  | list items | group items => simp [partTerms]
  | _ => rfl

theorem foldl_parts (items : List Sql.Part) (w : Walk) :
    (items.map Node.part).foldl (visited assigned clause) w = terms assigned clause (partTerms items) w :=
  foldl_visited assigned clause rfl partTerms_cons (fun _ _ => rfl) items w

theorem foldl_optional (e : Option Expr) (w : Walk) :
    (ofOption e).foldl (visited assigned clause) w = terms assigned clause (optionTerms e) w := by
  cases e <;> rfl

theorem foldl_rows (rows : List (List Expr)) (w : Walk) :
    (rows.flatten.map Node.expr).foldl (visited assigned clause) w = terms assigned clause (rowTerms rows) w := by
  induction rows generalizing w with
  | nil => rfl
  | cons row rows ih =>
      rw [List.flatten_cons, List.map_append, List.foldl_append, ih, foldl_exprs]
      rfl

theorem foldl_sources (items : List Sql.FromItem) (w : Walk) :
    (items.map Node.source).foldl (visited assigned clause) w = sources assigned (sourceOutlines items) w := by
  induction items generalizing w with
  | nil => rfl
  | cons s ss ih => exact ih _

theorem foldl_ctes (items : List Sql.Cte) (w : Walk) :
    (items.map Node.cte).foldl (visited assigned clause) w = withTables assigned (cteOutlines items) w := by
  induction items generalizing w with
  | nil => rfl
  | cons c rest ih =>
      obtain ⟨name, columns, materialized, s, walk⟩ := c
      rw [List.map_cons, List.foldl_cons, ih]
      cases s <;> rfl

/-- An operation meets the column on its right first, if there is none on its left. -/
theorem term_operation (left : Option Expr) (right : Expr) (operands : List Term) (w : Walk) :
    term assigned clause (operation left right operands) w
      = terms assigned clause operands
          { w with column := (if left.any isColumn then none else columnOf? right).or w.column } := by
  unfold operation
  cases columnOf? right <;> cases left with
    | none => rfl
    | some l => cases beside : isColumn l <;> simp [beside, term]

/-- An expression that is no lookup is what its parts are, after the column that comes up. -/
theorem foldl_exprRead {e : Expr} (other : ∀ negated left items, e ≠ .inList negated left items) (w : Walk) :
    (Node.exprRead e).foldl (visited assigned clause) (Visit.atExpr assigned clause w e)
      = term assigned clause (exprTerm e) w := by
  cases e with
  | inList negated left items => exact absurd rfl (other negated left items)
  | column names star =>
      rw [exprTerm, Visit.atExpr]
      cases columnOf? (.column names star) <;> rfl
  | prefixed o r => exact (term_operation assigned clause none r [exprTerm r] w).symm
  | binary o l r | quantified o q l r | distinctFrom n l r | nullIf l r =>
      exact (term_operation assigned clause (some l) r [exprTerm l, exprTerm r] w).symm
  | pattern form negated l r escape =>
      cases escape with
      | some e => cases form <;> rfl
      | none =>
          cases form with
          | similar => rfl
          | like | ilike => exact (term_operation assigned clause (some l) r [exprTerm l, exprTerm r] w).symm
  | chain _ items | row _ items | array items | coalesce items | extreme _ items | grouping items =>
      exact foldl_exprs assigned clause items w
  | call name form arguments order filter window =>
      simp only [Node.exprRead, List.foldl_append, foldl_exprs, foldl_optional, foldl_sorts, exprTerm, term,
        terms_append]
      rfl
  | case subject whens otherwise =>
      simp only [Node.exprRead, List.foldl_append, foldl_branches, foldl_optional, exprTerm, term, terms_append]
      rfl
  | form parts => exact foldl_parts assigned clause parts w
  | _ => rfl

end Folds

/-! ## Runs -/

/-- The walk gets from one state to another by visits, whatever is ahead behind them. -/
def Passes (assigned : List String) (visits : List Visit) (w v : Walk) : Prop :=
  ∀ rest, Point.Reaches ⟨assigned, w, visits ++ rest⟩ ⟨assigned, v, rest⟩

namespace Passes

variable {assigned : List String} {visits others : List Visit} {u v w : Walk}

theorem refl (assigned : List String) (w : Walk) : Passes assigned [] w w := fun _ => .refl

theorem append (first : Passes assigned visits w v) (second : Passes assigned others v u) :
    Passes assigned (visits ++ others) w u := by
  intro rest
  rw [List.append_assoc]
  exact (first _).trans (second rest)

theorem cons {visit : Visit} (first : Passes assigned [visit] w v) (second : Passes assigned visits v u) :
    Passes assigned (visit :: visits) w u :=
  first.append second

/-- A visit is made by a step to what it changes, and by the visits it opens. -/
theorem step {visit : Visit}
    (next : ∀ rest, Point.next? ⟨assigned, w, visit :: rest⟩ = some ⟨assigned, v, visits ++ rest⟩)
    (opened : Passes assigned visits v u) : Passes assigned [visit] w u :=
  fun rest => .head (next rest) (opened rest)

theorem hold (column : Option ColumnName) : Passes assigned [.hold column] w { w with column := column } :=
  .step (fun _ => rfl) (.refl _ _)

theorem turn (table : Option String) : Passes assigned [.turn table] w { w with table := table } :=
  .step (fun _ => rfl) (.refl _ _)

theorem limit (given : Bool) : Passes assigned [.limit given] w { w with hasLimit := w.hasLimit || given } :=
  .step (fun _ => rfl) (.refl _ _)

theorem assign (table : Option String) (name : String) :
    Passes assigned [.assign table name] w (w.assigning table name) :=
  .step (fun _ => rfl) (.refl _ _)

end Passes

/-- Nodes are passed one after the other. -/
theorem passes_inClause {assigned : List String} {clause : Clause} {nodes : List Node}
    (each : ∀ n ∈ nodes, ∀ w, Passes assigned [.node clause n] w (visited assigned clause w n)) (w : Walk) :
    Passes assigned (Visit.inClause clause nodes) w (nodes.foldl (visited assigned clause) w) := by
  induction nodes generalizing w with
  | nil => exact .refl assigned w
  | cons n nodes ih =>
      obtain ⟨first, rest⟩ := List.forall_mem_cons.mp each
      exact (first w).cons (ih rest _)

section Below

variable {assigned : List String} {bound : Nat}
  (smaller : ∀ n : Node, n.size < bound → ∀ clause w,
    Passes assigned [.node clause n] w (visited assigned clause w n))

include smaller

theorem passes_below (clause : Clause) {nodes : List Node} (below : Node.Below bound nodes) (w : Walk) :
    Passes assigned (Visit.inClause clause nodes) w (nodes.foldl (visited assigned clause) w) :=
  passes_inClause (fun n mem => smaller n (below n mem) clause) w

theorem passes_option (clause : Clause) {e : Option Expr} (within : sizeOf e ≤ bound) (w : Walk) :
    Passes assigned (Visit.inClause clause (ofOption e)) w (option assigned clause (optionTerms e).head? w) := by
  have passed := passes_below smaller clause (Node.below_ofOption within) w
  cases e <;> exact passed

theorem passes_apart (clause : Clause) {e : Option Expr} (within : sizeOf e ≤ bound) (w : Walk) :
    Passes assigned (Visit.apart clause e) w (apart assigned clause (optionTerms e).head? w) := by
  cases e with
  | none => exact .refl assigned w
  | some e => exact (Passes.hold none).cons (passes_option smaller clause (e := some e) within _)

theorem passes_query (top : Bool) {q : Sql.Query} (within : sizeOf q ≤ bound) (w : Walk) :
    Passes assigned [.query top q] w (select assigned top (queryOutline q) w) := by
  obtain ⟨recursive, ctes, b, order, limit, ties, offset, locks⟩ := q
  simp only [Sql.Query.mk.sizeOf_spec] at within
  have clauses : Node.Below bound (ctes.map .cte ++ .body b :: order.map .sort) := by
    simp only [Node.below_append, Node.below_cons, Node.size]
    exact ⟨Node.below_map (fun _ => rfl) (by omega), by omega, Node.below_sorts (by omega)⟩
  have body := passes_below smaller .other clauses w
  rw [List.foldl_append, foldl_ctes, List.foldl_cons, foldl_sorts] at body
  have before := body.append (passes_apart smaller .offset (e := offset) (by omega) _)
  refine .step (fun _ => rfl) (before.append ?_)
  cases top with
  | true =>
      have given : (optionTerms limit).head?.isSome = limit.isSome := by cases limit <;> rfl
      rw [queryOutline, select, if_pos rfl, given]
      exact Passes.limit limit.isSome
  | false => exact passes_apart smaller .limit (by omega) _

end Below

theorem passes_expr {assigned : List String} (e : Expr)
    (smaller : ∀ n : Node, n.size < sizeOf e → ∀ clause w,
      Passes assigned [.node clause n] w (visited assigned clause w n)) (clause : Clause) (w : Walk) :
    Passes assigned (Visit.ofExpr clause e) (Visit.atExpr assigned clause w e)
      (term assigned clause (exprTerm e) w) := by
  have read := Node.below_exprRead e
  by_cases lookup : ∃ negated left items, e = .inList negated left items
  · obtain ⟨negated, left, items, rfl⟩ := lookup
    rw [exprTerm, Outline.lookup, Visit.ofExpr, Visit.atExpr]
    cases columnOf? left with
    | none =>
        have passed := passes_below smaller clause read w
        rw [Node.exprRead, List.foldl_cons, foldl_exprs] at passed
        exact passed
    | some c =>
        let met := w.meetColumn assigned true clause c
        have passed := passes_below smaller .other (Node.below_cons.mp read).2 met
        rw [foldl_exprs] at passed
        exact passed
  · have other (negated : Bool) (left : Expr) (items : List Expr) : e ≠ .inList negated left items :=
      fun same => lookup ⟨negated, left, items, same⟩
    have parts : Visit.ofExpr clause e = Visit.inClause clause (Node.exprRead e) := by
      cases e with
      | inList negated left items => exact absurd rfl (other negated left items)
      | _ => rfl
    rw [parts, ← foldl_exprRead assigned clause other w]
    exact passes_below smaller clause read _

/-- What is read at a part of a form tells what the part does. -/
theorem foldl_partRead (assigned : List String) (clause : Clause) (p : Sql.Part) (w : Walk) :
    (Node.partRead p).foldl (visited assigned clause) w = terms assigned clause (partTerms [p]) w := by
  cases p with
  | operand direct e => cases direct <;> rfl
  | list items | group items =>
      rw [Node.partRead, foldl_parts, partTerms, partTerms, List.append_nil]
  | _ => rfl

/-- A node is left behind with what its outline gives. The induction is on the size of the node, as
    the nodes that are visited below it are smaller. -/
theorem passes_node (assigned : List String) (n : Node) (clause : Clause) (w : Walk) :
    Passes assigned [.node clause n] w (visited assigned clause w n) := by
  have smaller (m : Node) (less : m.size < n.size) (clause : Clause) (w : Walk) :
      Passes assigned [.node clause m] w (visited assigned clause w m) := passes_node assigned m clause w
  have all (clause : Clause) (nodes : List Node) (below : Node.Below n.size nodes) (w : Walk) :
      Passes assigned (Visit.inClause clause nodes) w (nodes.foldl (visited assigned clause) w) :=
    passes_below smaller clause below w
  refine .step (fun _ => rfl) ?_
  cases n with
  | expr e => exact passes_expr e smaller clause w
  | part p =>
      have passed := all clause _ (Node.below_partRead p) w
      rw [foldl_partRead, ← Sql.nodes_seeing [] (Node.partRead p)] at passed
      exact passed
  | returning r =>
      obtain ⟨names, targets⟩ := r
      have passed := all clause _ (Node.below_returningRead (.mk names targets)) w
      rw [Node.returningRead, foldl_targets, ← Sql.nodes_seeing [] (targets.map .target)] at passed
      exact passed
  | branch m | sort m | target m =>
      obtain ⟨_, _⟩ := m
      exact all clause _ (Node.below_read _) w
  | group k =>
      have passed := all clause _ (Node.below_read (.group k)) w
      cases k <;> exact passed
  | source s =>
      cases s with
      | table only name byname =>
          rw [visited, sourceOutline, source_table]
          exact .refl assigned _
      | query lateral q byname => exact all .other [.query q] (by simp +arith [Node.size]) w
      | join kind natural left right condition =>
          have items := all .other [.source left, .source right] (by simp +arith [Node.size]) w
          exact items.append (passes_option smaller .on (by simp +arith [Node.size]) _)
      | functions | sample | form => exact .refl assigned w
  | body b =>
      cases b with
      | select distinct on targets into items condition groupDistinct keys having windows =>
          have read := all .other (items.map .source) (by simp +arith [Node.size, Node.below_sources]) w
          have shown := all .select (targets.map .target)
            (by simp +arith [Node.size, Node.below_targets])
          have grouped := all .other (keys.map .group) (by simp +arith [Node.size, Node.below_groups])
          simp only [foldl_sources, foldl_targets, foldl_groups] at read shown grouped
          exact (((read.append (shown _)).append (passes_option smaller .where (by simp +arith [Node.size]) _)).append
            (grouped _)).append (passes_option smaller .other (by simp +arith [Node.size]) _)
      | values rows =>
          have passed := all .other _ (Node.below_bodyRead (.values rows)) w
          rw [Node.bodyRead, foldl_rows] at passed
          exact passed
      | defaults => exact .refl assigned w
      | combined operator all left right =>
          exact all .other [.query left, .query right] (by simp +arith [Node.size]) w
  | query q =>
      exact (passes_query smaller false (Nat.le_refl _) w).cons ((Passes.turn w.table).cons (.hold w.column))
  | cte c =>
      obtain ⟨name, columns, materialized, s, walk⟩ := c
      let known : Walk := { w with cteNames := w.cteNames ++ [lowercase name] }
      cases s with
      | query q => exact all clause [.query q] (by simp +arith [Node.size]) known
      | _ => exact .refl assigned known
  | _ => exact .refl assigned _
termination_by n.size

/-! ## Statements -/

section Statements

variable (assigned : List String)

theorem passes_nodes (clause : Clause) (nodes : List Node) (w : Walk) :
    Passes assigned (Visit.inClause clause nodes) w (nodes.foldl (visited assigned clause) w) :=
  passes_inClause (fun n _ => passes_node assigned n clause) w

theorem passes_condition (clause : Clause) (e : Option Expr) (w : Walk) :
    Passes assigned (Visit.inClause clause (ofOption e)) w (option assigned clause (optionTerms e).head? w) :=
  passes_option (fun n _ => passes_node assigned n) clause (Nat.le_refl _) w

theorem passes_sources (items : List Sql.FromItem) (w : Walk) :
    Passes assigned (Visit.inClause .other (items.map .source)) w (sources assigned (sourceOutlines items) w) :=
  foldl_sources assigned .other items w ▸ passes_nodes assigned .other (items.map .source) w

theorem passes_ctes (ctes : List Sql.Cte) (w : Walk) :
    Passes assigned (Visit.inClause .other (ctes.map .cte)) w (withTables assigned (cteOutlines ctes) w) :=
  foldl_ctes assigned .other ctes w ▸ passes_nodes assigned .other (ctes.map .cte) w

theorem passes_assigned (table : Option String) (target : Sql.Destination) (e : Expr) (w : Walk) :
    Passes assigned [.assign table (assignedColumn target), .node .set (.expr e)] w
      (assignments assigned table [(assignedColumn target, .value (exprTerm e))] w) :=
  (Passes.assign table (assignedColumn target)).cons (passes_node assigned (.expr e) .set _)

theorem passes_row (table : Option String) {targets : List Sql.Destination} {items : List Expr}
    (long : targets.length ≤ items.length) (w : Walk) :
    Passes assigned (Visit.ofRow table targets items) w
      (assignments assigned table ((targets.zip items).map fun (t, item) =>
        (assignedColumn t, .value (exprTerm item))) w) := by
  induction targets generalizing items w with
  | nil => exact .refl assigned w
  | cons target targets ih =>
      cases items with
      | nil => simp at long
      | cons item items =>
          exact (passes_assigned assigned table target item w).append (ih (by simpa using long) _)

theorem passes_told (table : Option String) (targets : List Sql.Destination) (w : Walk) :
    Passes assigned (targets.map fun t => .assign table (assignedColumn t)) w
      (assignments assigned table (targets.map fun t => (assignedColumn t, .told)) w) := by
  induction targets generalizing w with
  | nil => exact .refl assigned w
  | cons target targets ih => exact (Passes.assign table (assignedColumn target)).cons (ih _)

theorem passes_rowAssignments (table : Option String) {targets : List Sql.Destination} {value : Expr}
    {found : List (String × Assigned)} (given : rowAssignments targets value = .ok found) (w : Walk) :
    Passes assigned (Visit.ofAssignment table (.row targets value)) w (assignments assigned table found w) := by
  rcases rowAssignments_cases given with
    ⟨explicit, items, rfl, enough, rfl⟩ | ⟨whole, ⟨rfl, rfl⟩ | ⟨target, targets, rfl, rfl⟩⟩
  · exact passes_row assigned table enough w
  · have nothing : Visit.ofAssignment table (.row [] value) = [] := by
      cases value with
      | row explicit items => exact absurd rfl (whole explicit items)
      | _ => rfl
    exact nothing ▸ .refl assigned w
  · have first : Visit.ofAssignment table (.row (target :: targets) value)
        = [.assign table (assignedColumn target), .node .set (.expr value)]
          ++ targets.map fun t => .assign table (assignedColumn t) := by
      cases value with
      | row explicit items => exact absurd rfl (whole explicit items)
      | _ => rfl
    exact first ▸ (passes_assigned assigned table target value w).append
      (passes_told assigned table targets _)

theorem passes_assignments (table : Option String) {as : List Sql.Assignment} {found : List (String × Assigned)}
    (given : Outline.assignments as = .ok found) (w : Walk) :
    Passes assigned (as.flatMap (Visit.ofAssignment table)) w (assignments assigned table found w) := by
  induction as generalizing found w with
  | nil =>
      obtain rfl := Except.ok.inj given
      exact .refl assigned w
  | cons a rest ih =>
      obtain ⟨first, others, one, later, rfl⟩ := assignments_cons given
      rw [List.flatMap_cons, assignments_append]
      refine Passes.append ?_ (ih later _)
      cases a with
      | single target value =>
          obtain rfl := Except.ok.inj one
          exact passes_assigned assigned table target value w
      | row targets value =>
          rw [assignments_row] at one
          exact passes_rowAssignments assigned table one w

theorem columns_rowAssignments {targets : List Sql.Destination} {value : Expr} {found : List (String × Assigned)}
    (given : rowAssignments targets value = .ok found) : found.map (·.1) = targets.map assignedColumn := by
  rcases rowAssignments_cases given with
    ⟨explicit, items, rfl, enough, rfl⟩ | ⟨whole, ⟨rfl, rfl⟩ | ⟨target, targets, rfl, rfl⟩⟩
  · have own := congrArg (List.map assignedColumn) (List.map_fst_zip enough)
    rw [List.map_map] at own
    rw [List.map_map]
    exact own
  · rfl
  · simp

theorem columns_assignments {as : List Sql.Assignment} {found : List (String × Assigned)}
    (given : Outline.assignments as = .ok found) : found.map (·.1) = as.flatMap Visit.columnsOf := by
  induction as generalizing found with
  | nil =>
      obtain rfl := Except.ok.inj given
      rfl
  | cons a rest ih =>
      obtain ⟨first, others, one, later, rfl⟩ := assignments_cons given
      have own : first.map (·.1) = Visit.columnsOf a := by
        cases a with
        | single target value =>
            obtain rfl := Except.ok.inj one
            rfl
        | row targets value =>
            rw [assignments_row] at one
            exact columns_rowAssignments one
      rw [List.map_append, own, ih later, List.flatMap_cons]

/-- A changing statement comes to its table with its common table expressions known. -/
theorem reaches_changes (ctes : List Sql.Cte) (table : Sql.TableName) (byname : Option String)
    (s : Sql.Statement) :
    Point.Reaches ⟨[], start, Visit.inClause .other (ctes.map .cte ++ [.changed table byname]) ++ [.changes s]⟩
      ⟨[], ((withTables [] (cteOutlines ctes) start).addTarget (tableOf table byname)).2, [.changes s]⟩ := by
  have passed := passes_nodes [] .other (ctes.map .cte ++ [.changed table byname]) start
  rw [List.foldl_append, foldl_ctes] at passed
  exact passed [.changes s]

/-- The walk of a statement that has an outline ends with what the walk makes of the outline. -/
theorem reaches_outline {s : Sql.Statement} {o : Outline} (given : ofStatement? s = some (.ok o)) :
    (Point.begin s).Reaches ⟨o.assigned, outline o start, []⟩ := by
  cases s with
  | query q =>
      obtain rfl := Except.ok.inj (Option.some.inj given)
      exact passes_query (fun n _ => passes_node [] n) true (Nat.le_refl _) start []
  | insert recursive ctes table byname columns overriding rows onConflict back =>
      obtain rfl := Except.ok.inj (Option.some.inj given)
      refine (reaches_changes ctes table byname _).trans (.head rfl ?_)
      let targeted := (withTables [] (cteOutlines ctes) start).addTarget (tableOf table byname)
      have passed := passes_nodes [] .other (Node.rowsRead rows) targeted.2
      obtain ⟨recursive', ctes', b, order, limit, ties, offset, locks⟩ := rows
      cases b <;> exact passed []
  | update recursive ctes only table byname as sources condition back =>
      obtain ⟨assigned, listed, rfl⟩ := update_of_statement given
      refine (reaches_changes ctes table byname _).trans (.head rfl ?_)
      let targeted := (withTables [] (cteOutlines ctes) start).addTarget (tableOf table byname)
      let columns := assigned.map (·.1)
      have set := passes_assignments columns targeted.1 listed targeted.2
      have read := set.append (passes_sources columns sources _)
      have resumed := read.append ((Passes.turn targeted.1).cons (.hold none))
      have filtered := resumed.append (passes_condition columns .where condition _)
      have known : Visit.assigned [] (.changes (.update recursive ctes only table byname as sources condition back))
          = columns := (columns_assignments listed).symm
      rw [known]
      exact (filtered.append (passes_node columns (.returning back) .other _)) []
  | delete recursive ctes only table byname sources condition back =>
      obtain rfl := Except.ok.inj (Option.some.inj given)
      refine (reaches_changes ctes table byname _).trans (.head rfl ?_)
      let targeted := (withTables [] (cteOutlines ctes) start).addTarget (tableOf table byname)
      have read := (passes_sources [] sources targeted.2).append (Passes.turn targeted.1)
      have filtered := read.append (passes_condition [] .where condition _)
      exact (filtered.append (passes_node [] (.returning back) .other _)) []
  | other kind parts => exact nomatch given

end Statements

/-! ## What a visit keeps -/

/-- The second walk has the table of the first to hand, and has found all that the first has and
    more, but no other target and no limit. -/
structure Keeps (w v : Walk) : Prop extends Grows w v where
  table : v.table = w.table
  targets : v.targets = w.targets
  hasLimit : v.hasLimit = w.hasLimit

-- only a nested query names tables inside an expression, and the table from before it is taken up again
mutual
theorem table_term (assigned : List String) (clause : Clause) (t : Term) (w : Walk) :
    (term assigned clause t w).table = w.table := by
  cases t with
  | column c =>
      rw [term, meetColumn]
      split <;> rfl
  | parameter number => rfl
  | membership c items =>
      rw [term, table_terms, meetColumn]
      split <;> rfl
  | comparison right operands => exact table_terms assigned clause operands _
  | group parts => exact table_terms assigned clause parts w
  | query q => rfl
termination_by sizeOf t

theorem table_terms (assigned : List String) (clause : Clause) (ts : List Term) (w : Walk) :
    (terms assigned clause ts w).table = w.table := by
  cases ts with
  | nil => rfl
  | cons t ts => exact (table_terms assigned clause ts _).trans (table_term assigned clause t w)
termination_by sizeOf ts
end

/-- Whether a node is an expression, or holds nothing but expressions. -/
def isExpression : Node → Bool
  | .expr _ | .part _ | .branch _ | .sort _ | .target _ | .group _ | .returning _ => true
  | _ => false

theorem visited_eq_terms {n : Node} (value : isExpression n) (assigned : List String) (clause : Clause)
    (w : Walk) : ∃ ts, visited assigned clause w n = terms assigned clause ts w := by
  cases n with
  | expr e => exact ⟨[exprTerm e], rfl⟩
  | part | branch | sort | target | group | returning => exact ⟨_, rfl⟩
  | _ => exact nomatch value

namespace Point

/-- The point behind the visit of a node, given what is ahead then. -/
def behind (p : Point) (clause : Clause) (n : Node) (rest : List Visit) : Point :=
  ⟨p.assigned, visited p.assigned clause p.walk n, rest⟩

theorem reaches_behind {p : Point} {clause : Clause} {n : Node} {rest : List Visit}
    (next : p.ahead = .node clause n :: rest) : p.Reaches (p.behind clause n rest) := by
  obtain ⟨assigned, w, ahead⟩ := p
  obtain rfl : ahead = .node clause n :: rest := next
  exact passes_node assigned n clause w rest

theorem keeps_expression {p : Point} {clause : Clause} {n : Node} {rest : List Visit}
    (next : p.ahead = .node clause n :: rest) (value : isExpression n) :
    p.walk.Keeps (p.behind clause n rest).walk := by
  obtain ⟨ts, same⟩ := visited_eq_terms value p.assigned clause p.walk
  refine { grows_of_reaches (reaches_behind next) with table := ?_, targets := ?_, hasLimit := ?_ }
  · exact (congrArg Walk.table same).trans (table_terms p.assigned clause ts p.walk)
  · exact (congrArg Walk.targets same).trans (terms_moves p.assigned clause ts p.walk).kept.1
  · exact (congrArg Walk.hasLimit same).trans (hasLimit_terms p.assigned clause ts p.walk)

theorem keeps_query {p : Point} {clause : Clause} {q : Sql.Query} {rest : List Visit}
    (next : p.ahead = .node clause (.query q) :: rest) :
    p.walk.Keeps (p.behind clause (.query q) rest).walk where
  toGrows := grows_of_reaches (reaches_behind next)
  table := rfl
  targets := (Moves.nested .stay (select_moves p.assigned false (queryOutline q) p.walk)).kept.1
  hasLimit := hasLimit_inner p.assigned (queryOutline q) p.walk

end Point

/-- At every point of the walk of any statement the tables found are told once each and in small
    letters, and all that is found is about them; so is the table at hand. Nothing that was found is
    lost or moved later. Behind an expression the table at hand is that from before it, and behind a
    nested query the column as well. Where the walk does not fail, it ends with the usage of the
    statement's outline. -/
theorem tidy_throughout (s : Sql.Statement) {p : Point} (reached : (Point.begin s).Reaches p) :
    p.walk.Tidy ∧ (∀ q, p.Reaches q → p.walk.Grows q.walk) ∧
      (∀ clause n rest, p.ahead = .node clause n :: rest → isExpression n →
        p.Reaches (p.behind clause n rest) ∧ p.walk.Keeps (p.behind clause n rest).walk) ∧
      (∀ clause q rest, p.ahead = .node clause (.query q) :: rest →
        p.Reaches (p.behind clause (.query q) rest) ∧ p.walk.Keeps (p.behind clause (.query q) rest).walk ∧
          (p.behind clause (.query q) rest).walk.column = p.walk.column) ∧
      ∀ o, ofStatement? s = some (.ok o) → (Point.begin s).Reaches ⟨o.assigned, outline o start, []⟩ := by
  refine ⟨(Point.tidy_of_reaches reached (Point.tidy_begin s)).walk, fun q later => Point.grows_of_reaches later,
    fun clause n rest next value => ?_, fun clause q rest next => ?_, fun o given => reaches_outline given⟩
  · exact ⟨Point.reaches_behind next, Point.keeps_expression next value⟩
  · exact ⟨Point.reaches_behind next, Point.keeps_query next, rfl⟩

/-- The orders of a customer are asked for in the condition on the customers. -/
def ordersQuery : Sql.Query :=
  .mk false [] (.select false [] [.mk (.column ["customer_id"] false) none] none
    [.table false ⟨none, none, "Orders"⟩ none]
    (some (.binary ⟨[], "="⟩ (.column ["status"] false) (.parameter 1))) false [] none []) [] none false none []

/-- `SELECT * FROM customers WHERE id IN (SELECT customer_id FROM "Orders" WHERE status = $1) AND email = $2` -/
def customersStatement : Sql.Statement :=
  .query (.mk false [] (.select false [] [.mk (.column [] true) none] none
    [.table false ⟨none, none, "customers"⟩ none]
    (some (.chain .and [.inQuery (.column ["id"] false) ordersQuery,
      .binary ⟨[], "="⟩ (.column ["email"] false) (.parameter 2)])) false [] none []) [] none false none [])

/-- The customers and their key are at hand again behind the query for the orders. -/
theorem tidy_throughout_customers :
    ∃ p rest, (Point.begin customersStatement).Reaches p ∧ p.ahead = .node .where (.query ordersQuery) :: rest ∧
      p.walk.Tidy ∧ p.walk.table = some "customers" ∧ p.walk.column = some ⟨none, "id"⟩ ∧
      p.Reaches (p.behind .where (.query ordersQuery) rest) ∧
      (p.behind .where (.query ordersQuery) rest).walk.table = some "customers" ∧
      (p.behind .where (.query ordersQuery) rest).walk.column = some ⟨none, "id"⟩ ∧
      (p.behind .where (.query ordersQuery) rest).walk.tables = ["customers", "orders"] := by
  have reached : ∃ p rest, (Point.begin customersStatement).Reaches p ∧
      p.ahead = .node .where (.query ordersQuery) :: rest ∧
      p.walk.table = some "customers" ∧ p.walk.column = some ⟨none, "id"⟩ ∧
      (p.behind .where (.query ordersQuery) rest).walk.tables = ["customers", "orders"] :=
    ⟨_, _, .head rfl <| .head rfl <| .head rfl <| .head rfl <| .head rfl <| .head rfl <| .head rfl <|
      .head rfl .refl, rfl, by decide +kernel, by decide +kernel, by decide +kernel⟩
  obtain ⟨p, rest, reached, next, table, column, tables⟩ := reached
  obtain ⟨tidy, -, -, nested, -⟩ := tidy_throughout customersStatement reached
  obtain ⟨left, keeps, back⟩ := nested .where ordersQuery rest next
  exact ⟨p, rest, reached, next, tidy, table, column, left, keeps.table.trans table, back.trans column, tables⟩

end IndexAdvisor.Walk
