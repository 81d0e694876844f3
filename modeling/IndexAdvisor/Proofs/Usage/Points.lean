import IndexAdvisor.Proofs.Scope.Reading
import IndexAdvisor.Proofs.Text.Small
import IndexAdvisor.Proofs.Usage.Moves
import Mathlib.Logic.Relation

/-! # Points of the usage walk

Here the usage walk goes through the tree of a statement step by step. A `Point` of it is what was
found so far with the visits that are still ahead, and a step makes the first of these. `Change` says
once what a step may do to what was found, so that a property of all points is proved change by
change: the tables found are told once and in small letters, all that is found is about them, and
nothing that was found is lost or moved.
-/

namespace IndexAdvisor.Walk

open Outline
open Sql (Node Expr)
open Sql.Node (ofOption)
open Text (lowercase)

/-! ## Visits -/

/-- Something the walk has still to do. -/
inductive Visit
  /-- Visits a node that stands in a clause; a query at a node is a nested one. -/
  | node (clause : Clause) (n : Node)
  /-- Visits the clauses of a query, which at the top is a whole statement. -/
  | query (top : Bool) (q : Sql.Query)
  /-- Visits what a statement does to the table that it changes, which is at hand. -/
  | changes (s : Sql.Statement)
  /-- Meets a column that is assigned, with its table. -/
  | assign (table : Option String) (name : String)
  /-- Takes a table to hand. -/
  | turn (table : Option String)
  /-- Takes up a column, or forgets the one met last. -/
  | hold (column : Option ColumnName)
  /-- Notes whether a whole statement has a limit. -/
  | limit (given : Bool)
  /-- Looks for an element that an assigned row does not have. The walk fails there. -/
  | missing

namespace Visit

def inClause (clause : Clause) (nodes : List Node) : List Visit := nodes.map (node clause)

/-! ### What a visit opens -/

/-- An expression that is visited beside no column. -/
def apart (clause : Clause) : Option Expr → List Visit
  | none => []
  | some e => [hold none, node clause (.expr e)]

/-- The visits below an expression. A column that is looked up is met already, and the items of the
    list are not in the clause. -/
def ofExpr (clause : Clause) : Expr → List Visit
  | .inList _ left items =>
    if (columnOf? left).isSome then inClause .other (items.map .expr)
    else inClause clause (.expr left :: items.map .expr)
  | e => inClause clause (Node.exprRead e)

def ofSource : Sql.FromItem → List Visit
  | .join _ _ left right condition _ _ _ =>
    inClause .other [.source left, .source right] ++ inClause .on (ofOption condition)
  | s => inClause .other (Node.sourceRead s)

def ofBody : Sql.QueryBody → List Visit
  | .select _ _ targets _ sources condition _ keys having _ =>
    inClause .other (sources.map .source) ++ inClause .select (targets.map .target)
      ++ inClause .where (ofOption condition) ++ inClause .other (keys.map .group)
      ++ inClause .other (ofOption having)
  | b => inClause .other (Node.bodyRead b)

/-- The visits below a node. After a nested query the table and the column are those from before it. -/
def ofNode (w : Walk) (clause : Clause) : Node → List Visit
  | .expr e => ofExpr clause e
  | .source s => ofSource s
  | .body b => ofBody b
  | .query q => [query false q, turn w.table, hold w.column]
  | .assignment _ | .statement _ => []
  | n => inClause clause (n.read.map (·.node))

def ofQuery (top : Bool) : Sql.Query → List Visit
  | .mk _ ctes b order limitCount _ offset _ =>
    inClause .other (ctes.map .cte ++ .body b :: order.map .sort) ++ apart .offset offset
      ++ if top then [limit limitCount.isSome] else apart .limit limitCount

/-- The columns of a row are assigned its elements, one each. -/
def ofRow (table : Option String) : List Sql.Destination → List Expr → List Visit
  | [], _ => []
  | target :: _, [] => [assign table (assignedColumn target), missing]
  | target :: targets, item :: items =>
    assign table (assignedColumn target) :: node .set (.expr item) :: ofRow table targets items

/-- The visits of an assignment in a table. A value that is no row is visited with the first column. -/
def ofAssignment (table : Option String) : Sql.Assignment → List Visit
  | .single target value => [assign table (assignedColumn target), node .set (.expr value)]
  | .row targets (.row _ items) => ofRow table targets items
  | .row [] _ => []
  | .row (target :: targets) value =>
    assign table (assignedColumn target) :: node .set (.expr value)
      :: targets.map fun t => assign table (assignedColumn t)

/-- What a statement does to its table, which it has to hand again for its condition. -/
def ofChanges (table : Option String) : Sql.Statement → List Visit
  | .insert _ _ _ _ _ _ rows _ _ => inClause .other (Node.rowsRead rows)
  | .update _ _ _ _ _ assignments sources condition back =>
    assignments.flatMap (ofAssignment table) ++ inClause .other (sources.map .source)
      ++ [turn table, hold none] ++ inClause .where (ofOption condition)
      ++ [node .other (.returning back)]
  | .delete _ _ _ _ _ sources condition back =>
    inClause .other (sources.map .source) ++ [turn table] ++ inClause .where (ofOption condition)
      ++ [node .other (.returning back)]
  | _ => []

def ofStatement (s : Sql.Statement) : List Visit :=
  match s with
  | .query q => [query true q]
  | .insert _ ctes table byname _ _ _ _ _ | .update _ ctes _ table byname _ _ _ _
  | .delete _ ctes _ table byname _ _ _ =>
    inClause .other (ctes.map .cte ++ [.changed table byname]) ++ [changes s]
  | .other .. => []

/-- The visits that a visit opens. -/
def opens (w : Walk) : Visit → List Visit
  | node clause n => ofNode w clause n
  | query top q => ofQuery top q
  | changes s => ofChanges w.table s
  | assign .. | turn _ | hold _ | limit _ | missing => []

/-! ### What a visit changes -/

def operands? : Expr → Option (Option Expr × Expr)
  | .prefixed _ right => some (none, right)
  | .binary _ left right | .quantified _ _ left right | .distinctFrom _ left right
  | .nullIf left right | .pattern .like _ left right none | .pattern .ilike _ left right none =>
    some (some left, right)
  | _ => none

/-- The column on the right of an operation, which is met first if there is none on the left. -/
def upcoming? (e : Expr) : Option ColumnName :=
  match operands? e with
  | some (left, right) => if left.any isColumn then none else columnOf? right
  | none => none

/-- The walk when it has come to an expression. -/
def atExpr (assigned : List String) (clause : Clause) (w : Walk) (e : Expr) : Walk :=
  match e with
  | .column .. => (columnOf? e).elim w fun c => w.meetColumn assigned false clause c
  | .parameter number => w.meetParameter clause number
  | .inList _ left _ => (columnOf? left).elim w fun c => w.meetColumn assigned true clause c
  | _ => { w with column := (upcoming? e).or w.column }

/-- The walk when it has come to a node. -/
def atNode (assigned : List String) (clause : Clause) (w : Walk) : Node → Walk
  | .expr e => atExpr assigned clause w e
  | .source (.table _ name byname) => w.meetTable (tableOf name (byname.map (·.name)))
  | .changed name byname => (w.addTarget (tableOf name byname)).2
  | .cte c => { w with cteNames := w.cteNames ++ [lowercase c.name] }
  | _ => w

/-- What a visit makes of what was found. -/
def change (assigned : List String) (w : Walk) : Visit → Walk
  | node clause n => atNode assigned clause w n
  | assign table name => w.assigning table name
  | turn table => { w with table := table }
  | hold column => { w with column := column }
  | limit given => { w with hasLimit := w.hasLimit || given }
  | query .. | changes _ | missing => w

/-- The columns that an assignment assigns. -/
def columnsOf : Sql.Assignment → List String
  | .single target _ => [assignedColumn target]
  | .row targets _ => targets.map assignedColumn

/-- The columns that are known to be assigned. An `UPDATE` tells them when its table is known. -/
def assigned (before : List String) : Visit → List String
  | changes (.update _ _ _ _ _ assignments _ _ _) => assignments.flatMap columnsOf
  | _ => before

/-- The table of an earlier point that a visit comes back to. -/
def table? : Visit → Option String
  | assign table _ | turn table => table
  | _ => none

end Visit

/-! ## Points -/

/-- A point of the walk. -/
structure Point where
  /-- The columns that are known to be assigned. -/
  assigned : List String
  walk : Walk
  /-- The visits ahead, the next first. -/
  ahead : List Visit

namespace Point

/-- Where the walk of a statement begins. -/
def begin (s : Sql.Statement) : Point := ⟨[], start, Visit.ofStatement s⟩

/-- The next point, if the walk neither ends nor fails. -/
def next? : Point → Option Point
  | ⟨_, _, []⟩ | ⟨_, _, .missing :: _⟩ => none
  | ⟨assigned, w, v :: rest⟩ => some ⟨v.assigned assigned, v.change assigned w, v.opens w ++ rest⟩

/-- The walk gets from the first point to the second. -/
def Reaches : Point → Point → Prop := Relation.ReflTransGen fun p q => p.next? = some q

theorem next?_eq_some {p q : Point} (step : p.next? = some q) :
    ∃ v rest, p.ahead = v :: rest ∧ q.walk = v.change p.assigned p.walk ∧
      q.ahead = v.opens p.walk ++ rest := by
  obtain ⟨assigned, w, ahead⟩ := p
  cases ahead with
  | nil => exact nomatch step
  | cons v rest =>
      cases v with
      | missing => exact nomatch step
      | _ =>
          obtain rfl := Option.some.inj step
          exact ⟨_, rest, rfl, rfl, rfl⟩

end Point

/-! ## Changes -/

/-- What a step may make of what was found, given the table that it comes back to. -/
inductive Change (table : Option String) (w : Walk) : Walk → Prop
  | column (assigned : List String) (inList : Bool) (clause : Clause) (c : ColumnName) :
      Change table w (w.meetColumn assigned inList clause c)
  | parameter (clause : Clause) (number : Nat) : Change table w (w.meetParameter clause number)
  | table (name : Sql.TableName) (byname : Option String) :
      Change table w (w.meetTable (tableOf name byname))
  | target (name : Sql.TableName) (byname : Option String) :
      Change table w (w.addTarget (tableOf name byname)).2
  | cte (name : String) : Change table w { w with cteNames := w.cteNames ++ [name] }
  | assign (name : String) : Change table w (w.assigning table name)
  | turn : Change table w { w with table := table }
  | hold (c : Option ColumnName) : Change table w { w with column := c }
  | limit (hasLimit : Bool) : Change table w { w with hasLimit }

theorem Change.same (table : Option String) (w : Walk) : Change table w w := .hold w.column

theorem Change.of_expr (table : Option String) (assigned : List String) (clause : Clause) (w : Walk)
    (e : Expr) : Change table w (Visit.atExpr assigned clause w e) := by
  have met (inList : Bool) (c : Option ColumnName) :
      Change table w (c.elim w fun c => w.meetColumn assigned inList clause c) := by
    cases c with
    | none => exact .same table w
    | some c => exact .column assigned inList clause c
  cases e with
  | column names star => exact met false _
  | inList negated left items => exact met true _
  | parameter number => exact .parameter clause number
  | _ => exact .hold _

theorem Change.of_visit (assigned : List String) (w : Walk) (v : Visit) :
    Change v.table? w (v.change assigned w) := by
  cases v with
  | node clause n =>
      cases n with
      | expr e => exact .of_expr none assigned clause w e
      | source s =>
          cases s with
          | table only name byname => exact .table name (byname.map (·.name))
          | _ => exact .same none w
      | changed name byname => exact .target name byname
      | cte c => exact .cte (lowercase c.name)
      | _ => exact .same none w
  | assign table name => exact .assign name
  | turn table => exact .turn
  | hold column => exact .hold column
  | limit given => exact .limit (w.hasLimit || given)
  | query | changes | missing => exact .same none w

/-! ## What was found is kept -/

/-- What the second walk has found begins with what the first has. -/
structure Grows (w v : Walk) : Prop where
  tables : w.tables <+: v.tables
  aliases : w.aliases <+: v.aliases
  records : w.records <+: v.records
  parameters : w.parameters <+: v.parameters

namespace Grows

variable {u v w : Walk}

theorem refl (w : Walk) : w.Grows w :=
  ⟨List.prefix_rfl, List.prefix_rfl, List.prefix_rfl, List.prefix_rfl⟩

theorem trans (first : u.Grows v) (second : v.Grows w) : u.Grows w :=
  ⟨first.tables.trans second.tables, first.aliases.trans second.aliases,
    first.records.trans second.records, first.parameters.trans second.parameters⟩

theorem addTable (w : Walk) (t : Table) : w.Grows (w.addTable t).2 := by
  unfold Walk.addTable
  split
  · exact refl w
  · refine ⟨?_, ?_, List.prefix_rfl, List.prefix_rfl⟩
    · dsimp only
      split
      · exact List.prefix_rfl
      · exact List.prefix_append ..
    · cases t.byname with
      | none => exact List.prefix_rfl
      | some byname =>
          dsimp only
          split
          · exact List.prefix_rfl
          · exact List.prefix_append ..

theorem meetTable (w : Walk) (t : Table) : w.Grows (w.meetTable t) := by
  unfold Walk.meetTable
  split
  · exact refl w
  · exact ⟨(addTable w t).tables, (addTable w t).aliases, (addTable w t).records, (addTable w t).parameters⟩

end Grows

theorem Change.grows {table : Option String} {w v : Walk} (change : Change table w v) : w.Grows v := by
  cases change with
  | column assigned inList clause c =>
      unfold meetColumn
      split
      · exact { Grows.refl w with records := List.prefix_append .. }
      · exact { Grows.refl w with }
  | parameter clause number => exact { Grows.refl w with parameters := List.prefix_append .. }
  | table name byname => exact .meetTable w _
  | target name byname => exact { Grows.addTable w (tableOf name byname) with }
  | assign name => exact { Grows.refl w with records := List.prefix_append .. }
  | cte | turn | hold | limit => exact { Grows.refl w with }

/-! ## What was found is in order -/

/-- The tables found are told once each and in small letters, and all that is found is about them. -/
structure Tidy (w : Walk) : Prop where
  sound : w.Sound
  once : w.tables.Nodup
  small : ∀ t ∈ w.tables, lowercase t = t

theorem tidy_start : start.Tidy := ⟨sound_start, List.nodup_nil, nofun⟩

theorem nodup_addTable {w : Walk} (once : w.tables.Nodup) (t : Table) : (w.addTable t).2.tables.Nodup := by
  unfold addTable
  split
  · exact once
  · dsimp only
    split
    · exact once
    · next new => simpa using once.concat (by simpa using new)

/-- A table of the tree is named in small letters. -/
theorem small_addTable {w : Walk} (small : ∀ t ∈ w.tables, lowercase t = t) (name : Sql.TableName)
    (byname : Option String) : ∀ t ∈ (w.addTable (tableOf name byname)).2.tables, lowercase t = t := by
  intro t mem
  rcases mem_tables_addTable.mp mem with known | ⟨-, rfl⟩
  · exact small t known
  · exact Text.lowercase_lowercase name.name

/-- Only a table that is named changes the tables found. -/
theorem Change.tables_eq {table : Option String} {w v : Walk} (change : Change table w v) :
    v.tables = w.tables ∨ ∃ name byname, v.tables = (w.addTable (tableOf name byname)).2.tables := by
  cases change with
  | column assigned inList clause c =>
      unfold meetColumn
      split <;> exact .inl rfl
  | table name byname =>
      unfold meetTable
      split
      · exact .inl rfl
      · exact .inr ⟨name, byname, rfl⟩
  | target name byname => exact .inr ⟨name, byname, rfl⟩
  | _ => exact .inl rfl

theorem Change.sound {table : Option String} {w v : Walk} (change : Change table w v) (sound : w.Sound)
    (known : ∀ t, table = some t → t ∈ w.tables) : v.Sound := by
  cases change with
  | column assigned inList clause c => exact (sound.extends_meetColumn assigned inList clause c).1
  | parameter clause number => exact (sound.extends_meetParameter clause number).1
  | table name byname => exact (sound.extends_meetTable _).1
  | target name byname => exact (sound.extends_addTarget _).1.1
  | assign name => exact { (sound.extends_record .assignment ⟨none, name⟩ known).1 with }
  | turn => exact (sound.extends_resume known).1
  | cte | hold | limit => exact { sound with }

theorem Change.tidy {table : Option String} {w v : Walk} (change : Change table w v) (tidy : w.Tidy)
    (known : ∀ t, table = some t → t ∈ w.tables) : v.Tidy := by
  have sound := change.sound tidy.sound known
  rcases change.tables_eq with same | ⟨name, byname, named⟩
  · exact ⟨sound, same ▸ tidy.once, same ▸ tidy.small⟩
  · exact ⟨sound, named ▸ nodup_addTable tidy.once _, named ▸ small_addTable tidy.small name byname⟩

/-! ## Tables to come back to -/

/-- The visits come back to no table but the given one. -/
def ComesBack (table : Option String) (visits : List Visit) : Prop :=
  ∀ v ∈ visits, v.table? = none ∨ v.table? = table

namespace ComesBack

variable {table : Option String}

theorem nil : ComesBack table [] := List.forall_mem_nil _

theorem append {visits others : List Visit} (first : ComesBack table visits)
    (second : ComesBack table others) : ComesBack table (visits ++ others) :=
  List.forall_mem_append.mpr ⟨first, second⟩

theorem inClause (clause : Clause) (nodes : List Node) : ComesBack table (Visit.inClause clause nodes) := by
  intro v mem
  obtain ⟨n, -, rfl⟩ := List.mem_map.mp mem
  exact .inl rfl

theorem apart (clause : Clause) (e : Option Expr) : ComesBack table (Visit.apart clause e) := by
  cases e <;> simp [ComesBack, Visit.apart, Visit.table?]

theorem ofRow (targets : List Sql.Destination) (items : List Expr) :
    ComesBack table (Visit.ofRow table targets items) := by
  induction targets generalizing items with
  | nil => exact nil
  | cons target targets ih =>
      cases items with
      | nil => simp [ComesBack, Visit.ofRow, Visit.table?]
      | cons item items =>
          exact List.forall_mem_cons.mpr ⟨.inr rfl, List.forall_mem_cons.mpr ⟨.inl rfl, ih items⟩⟩

theorem ofAssignment (a : Sql.Assignment) : ComesBack table (Visit.ofAssignment table a) := by
  fun_cases Visit.ofAssignment table a
  · simp [ComesBack, Visit.table?]
  · exact ofRow _ _
  · exact nil
  · simp [ComesBack, Visit.table?]

theorem ofNode (w : Walk) (clause : Clause) (n : Node) : ComesBack w.table (Visit.ofNode w clause n) := by
  fun_cases Visit.ofNode w clause n with
  | case1 e => fun_cases Visit.ofExpr clause e <;> exact inClause _ _
  | case2 s =>
      fun_cases Visit.ofSource s
      · exact (inClause _ _).append (inClause _ _)
      · exact inClause _ _
  | case3 b =>
      fun_cases Visit.ofBody b
      · exact ((((inClause _ _).append (inClause _ _)).append (inClause _ _)).append (inClause _ _)).append
          (inClause _ _)
      · exact inClause _ _
  | case4 q => simp [ComesBack, Visit.table?]
  | case5 | case6 => exact nil
  | case7 => exact inClause _ _

theorem ofQuery (top : Bool) (q : Sql.Query) : ComesBack table (Visit.ofQuery top q) := by
  obtain ⟨recursive, ctes, b, order, limit, ties, offset, locks⟩ := q
  refine ((inClause _ _).append (apart _ _)).append ?_
  split
  · simp [ComesBack, Visit.table?]
  · exact apart _ _

theorem ofChanges (s : Sql.Statement) : ComesBack table (Visit.ofChanges table s) := by
  have back (r : Sql.Returning) : ComesBack table [.node .other (.returning r)] := inClause .other [.returning r]
  cases s with
  | insert => exact inClause _ _
  | update r ctes only t byname assignments sources condition r' =>
      have assigned : ComesBack table (assignments.flatMap (Visit.ofAssignment table)) := by
        intro v mem
        obtain ⟨a, -, listed⟩ := List.mem_flatMap.mp mem
        exact ofAssignment a v listed
      have turned : ComesBack table [.turn table, .hold none] := by simp [ComesBack, Visit.table?]
      exact (((assigned.append (inClause _ _)).append turned).append (inClause _ _)).append (back _)
  | delete r ctes only t byname sources condition r' =>
      have turned : ComesBack table [.turn table] := by simp [ComesBack, Visit.table?]
      exact (((inClause _ _).append turned).append (inClause _ _)).append (back _)
  | query | other => exact nil

theorem opens (w : Walk) (v : Visit) : ComesBack w.table (v.opens w) := by
  cases v with
  | node clause n => exact ofNode w clause n
  | query top q => exact ofQuery top q
  | changes s => exact ofChanges s
  | _ => exact nil

theorem ofStatement (s : Sql.Statement) : ComesBack none (Visit.ofStatement s) := by
  have changing (s : Sql.Statement) : ComesBack none [.changes s] := by simp [ComesBack, Visit.table?]
  cases s with
  | query q => simp [ComesBack, Visit.ofStatement, Visit.table?]
  | insert | update | delete => exact (inClause _ _).append (changing _)
  | other => exact nil

end ComesBack

/-! ## Invariants of all points -/

namespace Point

/-- What was found is in order, and every table that the walk will come back to was found. -/
structure Tidy (p : Point) : Prop where
  walk : p.walk.Tidy
  ahead : ∀ v ∈ p.ahead, ∀ t, v.table? = some t → t ∈ p.walk.tables

theorem tidy_begin (s : Sql.Statement) : (begin s).Tidy where
  walk := tidy_start
  ahead v mem t here := by
    rcases ComesBack.ofStatement s v mem with none | none <;> exact nomatch none.symm.trans here

theorem grows_of_next {p q : Point} (step : p.next? = some q) : p.walk.Grows q.walk := by
  obtain ⟨v, rest, -, same, -⟩ := next?_eq_some step
  exact same ▸ (Change.of_visit p.assigned p.walk v).grows

theorem tidy_of_next {p q : Point} (step : p.next? = some q) (tidy : p.Tidy) : q.Tidy := by
  have grown := (grows_of_next step).tables.subset
  obtain ⟨v, rest, listed, walk, ahead⟩ := next?_eq_some step
  obtain ⟨known, later⟩ := List.forall_mem_cons.mp (listed ▸ tidy.ahead)
  refine ⟨walk ▸ (Change.of_visit p.assigned p.walk v).tidy tidy.walk known, fun u mem t here => grown ?_⟩
  rcases List.mem_append.mp (ahead ▸ mem) with opened | kept
  · rcases ComesBack.opens p.walk v u opened with none | back
    · exact nomatch none.symm.trans here
    · exact tidy.walk.sound.table t (back.symm.trans here)
  · exact later u kept t here

theorem grows_of_reaches {p q : Point} (reached : p.Reaches q) : p.walk.Grows q.walk := by
  induction reached with
  | refl => exact .refl p.walk
  | tail _ step ih => exact ih.trans (grows_of_next step)

theorem tidy_of_reaches {p q : Point} (reached : p.Reaches q) (tidy : p.Tidy) : q.Tidy := by
  induction reached with
  | refl => exact tidy
  | tail _ step ih => exact tidy_of_next step ih

end Point

end IndexAdvisor.Walk
