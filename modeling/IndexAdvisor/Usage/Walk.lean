import IndexAdvisor.Usage.Outline

/-! # The usage walk

The walk goes through an outline in reading order and writes down every use of a column. It keeps
the table that is at hand, which is the last one named by a `FROM` clause, and the column that was
met last, beside which a placeholder is taken to stand. A nested query leaves both as they were.
-/

namespace IndexAdvisor

/-- What was found so far, and what the walk has at hand. -/
structure Walk where
  tables : List String
  targets : List (Option String)
  aliases : List AliasBinding
  records : List UsageRecord
  parameters : List ParameterSite
  /-- The names of the common table expressions met so far. -/
  cteNames : List String
  /-- The table at hand. -/
  table : Option String
  /-- The column met last. -/
  column : Option ColumnName
  hasLimit : Bool
  deriving DecidableEq, Repr, Inhabited

namespace Walk

open Outline

def start : Walk := ⟨[], [], [], [], [], [], none, none, false⟩

/-! ## Single steps -/

/-- Names a table, unless a common table expression has its name; gives the table named. -/
def addTable (t : Table) (w : Walk) : Option String × Walk :=
  if w.cteNames.contains t.name then (none, w)
  else
    let tables := if w.tables.contains t.name then w.tables else w.tables ++ [t.name]
    let aliases := match t.byname with
      | some byname => if byname = "" then w.aliases else w.aliases ++ [⟨byname, t.name⟩]
      | none => w.aliases
    (some t.name, { w with tables := tables, aliases := aliases })

/-- Names the table that a statement changes. -/
def addTarget (t : Table) (w : Walk) : Option String × Walk :=
  let (table, w) := w.addTable t
  (table, { w with targets := w.targets ++ [table], table := table })

/-- Writes down a use of a column. -/
def record (use : Use) (column : ColumnName) (w : Walk) : Walk :=
  { w with records := w.records ++ [⟨use, column, w.table⟩] }

/-- The use that a clause makes of a column, if it is of interest; `assigned` are the columns an
    `UPDATE` assigns, and `inList` tells whether the column is looked up in a list. -/
def useIn (assigned : List String) (inList : Bool) (clause : Clause) (name : String) : Option Use :=
  match clause with
  | .on => some .join
  | .where | .set =>
    if assigned.contains name then some .assignment
    else if inList then some .membership
    else some .condition
  | _ => none

def meetColumn (assigned : List String) (inList : Bool) (clause : Clause) (column : ColumnName)
    (w : Walk) : Walk :=
  let w := { w with column := some column }
  match useIn assigned inList clause column.name with
  | some use => w.record use column
  | none => w

def meetParameter (clause : Clause) (number : Nat) (w : Walk) : Walk :=
  { w with parameters := w.parameters ++ [⟨number, w.column, w.table, clause⟩] }

def withoutColumn (w : Walk) : Walk := { w with column := none }

/-- The walk after a nested query, with the table and column from before it. -/
def leaving (before after : Walk) : Walk :=
  { after with table := before.table, column := before.column }

/-! ## Outlines -/

mutual

def term (assigned : List String) (clause : Clause) : Term → Walk → Walk
  | .column column, w => w.meetColumn assigned false clause column
  | .parameter number, w => w.meetParameter clause number
  | .membership column items, w =>
    terms assigned .other items (w.meetColumn assigned true clause column)
  | .comparison right operands, w => terms assigned clause operands { w with column := some right }
  | .group parts, w => terms assigned clause parts w
  | .query query, w => w.leaving (select assigned false query w)

def terms (assigned : List String) (clause : Clause) : List Term → Walk → Walk
  | [], w => w
  | t :: ts, w => terms assigned clause ts (term assigned clause t w)

def option (assigned : List String) (clause : Clause) : Option Term → Walk → Walk
  | none, w => w
  | some t, w => term assigned clause t w

/-- Walks through an offset or a limit, which stands beside no column. -/
def apart (assigned : List String) (clause : Clause) : Option Term → Walk → Walk
  | none, w => w
  | some t, w => term assigned clause t w.withoutColumn

/-- Walks through a query. At the top of a statement a limit is noted and not walked through. -/
def select (assigned : List String) (top : Bool) : Select → Walk → Walk
  | .mk _ ctes body order offset limit, w =>
    let w := withTables assigned ctes w
    let w := bodyOf assigned body w
    let w := terms assigned .other order w
    let w := apart assigned .offset offset w
    if top then { w with hasLimit := w.hasLimit || limit.isSome }
    else apart assigned .limit limit w

def bodyOf (assigned : List String) : Body → Walk → Walk
  | .pair left right, w =>
    let w := w.leaving (select assigned false left w)
    w.leaving (select assigned false right w)
  | .rows rows, w => terms assigned .other rows w
  | .plain items targets condition group having, w =>
    let w := sources assigned items w
    let w := terms assigned .select targets w
    let w := option assigned .where condition w
    let w := terms assigned .other group w
    option assigned .other having w

def source (assigned : List String) : Source → Walk → Walk
  | .table t, w =>
    match w.addTable t with
    | (some table, w) => { w with table := some table }
    | (none, w) => w
  | .join left right condition, w =>
    let w := source assigned left w
    let w := source assigned right w
    option assigned .on condition w
  | .query query, w => w.leaving (select assigned false query w)
  | .other, w => w

def sources (assigned : List String) : List Source → Walk → Walk
  | [], w => w
  | s :: ss, w => sources assigned ss (source assigned s w)

/-- Walks through common table expressions; each name is known from its own query on. -/
def withTables (assigned : List String) : List Cte → Walk → Walk
  | [], w => w
  | .mk name query :: rest, w =>
    let w := { w with cteNames := w.cteNames ++ [name] }
    let w := match query with
      | none => w
      | some q => w.leaving (select assigned false q w)
    withTables assigned rest w

end

/-! ## Statements -/

def assignments (assigned : List String) (table : Option String) :
    List (String × Assigned) → Walk → Walk
  | [], w => w
  | (name, value) :: rest, w =>
    let column : ColumnName := ⟨none, name⟩
    let records := w.records ++ [⟨.assignment, column, table⟩]
    let w := { w with records, column := some column }
    let w := match value with
      | .value t => term assigned .set t w
      | .told => w
    assignments assigned table rest w

def outline : Outline → Walk → Walk
  | .select query, w => select [] true query w
  | .update ctes target assigned items condition returning, w =>
    let w := withTables [] ctes w
    let (table, w) := w.addTarget target
    let columns := assigned.map (·.1)
    let w := assignments columns table assigned w
    let w := sources columns items w
    let w := { w with table := table, column := none }
    let w := option columns .where condition w
    terms columns .other returning w
  | .delete ctes target items condition returning, w =>
    let w := withTables [] ctes w
    let (table, w) := w.addTarget target
    let w := sources [] items w
    let w := { w with table := table }
    let w := option [] .where condition w
    terms [] .other returning w
  | .insert ctes target rows, w =>
    let w := withTables [] ctes w
    let (_, w) := w.addTarget target
    match rows with
    | none => w
    | some query => w.leaving (select [] false query w)

end Walk

def Outline.kind : Outline → StatementKind
  | .select _ => .select
  | .update .. => .update
  | .delete .. => .delete
  | .insert .. => .insert

/-- What a statement tells about the columns it uses. -/
def Outline.usage (o : Outline) : StatementUsage :=
  let w := Walk.outline o Walk.start
  ⟨o.kind, w.tables, w.targets, w.aliases, w.records, w.parameters, w.hasLimit⟩

end IndexAdvisor
