import IndexAdvisor.Catalog.Introspection

/-! # Binding

A statement is bound by putting literals in the place of its placeholders. Each literal is a
sampled value of the column its placeholder stands beside. Binding also records how the statement
uses the columns of its tables.
-/

namespace IndexAdvisor

open Sql (SqlType)

structure BoundStatement where
  query : String
  sql : String
  /-- The type and the literal of each placeholder in the order of their numbers, then those of
      an imposed limit. -/
  parameters : List (SqlType × String)
  deriving Repr, Inhabited

def BoundStatement.isChanged (bound : BoundStatement) : Bool := bound.sql ≠ bound.query

/-- What binding makes of a statement. -/
inductive Binding where
  | bound (statement : BoundStatement)
  | unsupported (reason : String)
  deriving Repr, Inhabited

/-- A bound statement with its kind and tables. -/
structure BindResult where
  kind : StatementKind
  tables : List String
  binding : Binding
  deriving Repr, Inhabited

/-! ## Owners of columns -/

def Catalog.hasColumn (catalog : Catalog) (table column : String) : Bool :=
  ((catalog.find? table).bind (·.columnType? column)).isSome

/-- The table a column belongs to: the one its qualifier stands for, if the statement reads it;
    else the table at hand or the first table of the statement that has the column; else the
    table at hand. -/
def columnOwner (session : Session) (tables : List String) (column : ColumnName)
    (context : Option String) : Option String :=
  let named := (column.qualifier.map session.aliases.resolve).filter tables.contains
  let having := (context.toList ++ tables).find? (session.catalog.hasColumn · column.name)
  (named.or having).or context

/-- The usage with one more record, if it belongs to a known table. -/
def recordUse (session : Session) (query : String) (tables : List String)
    (record : UsageRecord) : Tracker :=
  match (columnOwner session tables record.column record.table).filter session.catalog.has with
  | none => session.usage
  | some table =>
    match record.use with
    | .join => session.usage.recordJoin table query record.column.name
    | .assignment => session.usage.recordUpdate table record.column.name
    | .membership | .condition => session.usage.recordFilter table query record.column.name

namespace Step

def recordUses (query : String) (usage : StatementUsage) : Step Unit :=
  modify fun session =>
    usage.records.foldl (fun session record =>
      { session with usage := recordUse session query usage.tables record }) session

/-- Records the other names of a statement's tables. -/
def registerAliases (usage : StatementUsage) : Step Unit :=
  modify fun session =>
    { session with
      aliases := usage.aliases.foldl (fun aliases binding =>
        Aliases.register aliases binding.byname binding.table) session.aliases }

/-- Records which tables a statement touches: all that a query reads, or the changed one. -/
def registerTouches (query : String) (usage : StatementUsage) : Step Unit :=
  let touched := match usage.kind with
    | .select => usage.tables.map some
    | _ => usage.targets
  modify fun session =>
    { session with
      usage := touched.foldl (fun tracker table => tracker.recordTouch usage.kind table query)
        session.usage }

def sampleTargets (setting : Setting) : List (Option String) → Step Unit
  | [] => return
  | none :: _ => throw .nameless
  | some table :: rest => do
    let _ ← sampleRow setting table
    sampleTargets setting rest

/-! ## Literals -/

/-- The value a placeholder beside a column stands for, given the column's type. -/
def columnValue (setting : Setting) (table column : String) (type : SqlType) : Step Value := do
  let sample ← sampleRow setting table
  match sample.find? column with
  | none | some .null => return type.defaultValue setting.now
  | some value => return value

def literalOf (setting : Setting) (tables : List String) (site : ParameterSite) :
    Step (SqlType × String) := do
  match site.column with
  | none =>
    match site.clause with
    | .offset => return (.integer, "0")
    | .limit => return (.integer, "1")
    | _ => throw (.binding (.noColumn site.number))
  | some column =>
    let unknown : Failure := .binding (.unknownColumn column.name site.number tables)
    match columnOwner (← get) tables column site.table with
    | none => throw unknown
    | some table =>
      match (← introspect setting table).columnType? column.name with
      | none => throw unknown
      | some type =>
        let value ← columnValue setting table column.name type
        let literal ← require (Sql.renderLiteral value type) fun e => .binding (.literal e)
        return (type, literal)

/-- The literals of placeholders by number; of several with one number the first counts. -/
def literalsOf (setting : Setting) (tables : List String) :
    List ParameterSite → List (Nat × SqlType × String) → Step (List (Nat × SqlType × String))
  | [], known => return known
  | site :: rest, known => do
    if known.any (·.1 = site.number) then literalsOf setting tables rest known
    else
      let literal ← literalOf setting tables site
      literalsOf setting tables rest (known ++ [(site.number, literal)])

end Step

/-! ## Limits -/

/-- The statement with at most one row. -/
def Sql.Statement.limitedToOne : Sql.Statement → Sql.Statement
  | .query (.mk recursive ctes body order _ _ offset locks) =>
    .query (.mk recursive ctes body order (some (.constant (.integer 1))) false offset locks)
  | statement => statement

namespace Step

/-- Puts literals in the place of a statement's placeholders. A limit of a query becomes one. -/
def bindLiterals (setting : Setting) (parsed : Parsed) (usage : StatementUsage) :
    Step BoundStatement := do
  let sites := usage.parameters.mergeSort fun a b => a.number ≤ b.number
  let literals ← literalsOf setting usage.tables sites []
  let limited := usage.kind = .select ∧ usage.hasLimit
  let statement := if limited then parsed.statement.limitedToOne else parsed.statement
  let texts := literals.map fun (number, _, text) => (number, text)
  let some text := statement.text? | throw .unprintable
  let sql ← require (Sql.substitute text texts) fun e => .binding (.substitution e)
  let imposed : List (SqlType × String) := if limited then [(.integer, "1")] else []
  return ⟨parsed.query, sql, literals.map (·.2) ++ imposed⟩

def introspectAll (setting : Setting) : List String → Step Unit
  | [] => return
  | table :: rest => do
    let _ ← introspect setting table
    introspectAll setting rest

/-- Binds a statement whose tables and aliases are known. -/
def bindKnown (setting : Setting) (query : String) (parsed : Parsed) (usage : StatementUsage) :
    Step BindResult := do
  registerTouches query usage
  let unchanged : BindResult := ⟨usage.kind, usage.tables, .bound ⟨parsed.query, parsed.query, []⟩⟩
  match usage.kind with
  | .insert =>
    if parsed.hasPlaceholders then
      return { unchanged with
        binding := .unsupported "Literal substitution for INSERT statements is not supported" }
    else return unchanged
  | kind =>
    sampleTargets setting (if kind = .select then [] else usage.targets)
    recordUses query usage
    if parsed.hasPlaceholders then
      return { unchanged with binding := .bound (← bindLiterals setting parsed usage) }
    else return unchanged

/-- Binds a statement under the id of its query. -/
def bind (setting : Setting) (query : String) (parsed : Parsed) : Step BindResult := do
  let usage := (← require parsed.outline .assignment).usage
  introspectAll setting usage.tables
  registerAliases usage
  bindKnown setting query parsed usage

end Step

end IndexAdvisor
