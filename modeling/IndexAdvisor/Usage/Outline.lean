import IndexAdvisor.Sql.Tree
import IndexAdvisor.Text.Lowercase
import IndexAdvisor.Usage.Record

/-! # Outlines

An outline keeps of a statement what says how columns are used: the tables and queries it reads,
its conditions, and where its placeholders stand. All names are in lower case.
-/

namespace IndexAdvisor

namespace Outline

structure Table where
  name : String
  /-- Whether the name has a schema before it. -/
  qualified : Bool
  byname : Option String
  deriving DecidableEq, Repr, Inhabited

mutual

/-- What an expression tells. -/
inductive Term
  | column (column : ColumnName)
  | parameter (number : Nat)
  /-- A column looked up in a list. -/
  | membership (column : ColumnName) (items : List Term)
  /-- An operation whose right operand is a column, and its left operand is not. -/
  | comparison (right : ColumnName) (operands : List Term)
  /-- Any other expression, by its parts. -/
  | group (parts : List Term)
  | query (query : Select)

inductive Select
  | mk (recursive : Bool) (ctes : List Cte) (body : Body) (order : List Term)
      (offset limit : Option Term)

inductive Body
  | pair (left right : Select)
  | rows (rows : List Term)
  | plain (sources : List Source) (targets : List Term) (condition : Option Term)
      (group : List Term) (having : Option Term)

inductive Source
  | table (table : Table)
  | join (left right : Source) (condition : Option Term)
  | query (query : Select)
  /-- A function, which names no table. -/
  | other

/-- A common table expression; it has no query if its statement changes rows. -/
inductive Cte
  | mk (name : String) (query : Option Select)

end

/-- The value an assignment gives to one column. -/
inductive Assigned
  | value (term : Term)
  /-- The value was told with an earlier column of the same row. -/
  | told

end Outline

inductive Outline
  | select (query : Outline.Select)
  | update (ctes : List Outline.Cte) (target : Outline.Table)
      (assignments : List (String × Outline.Assigned)) (sources : List Outline.Source)
      (condition : Option Outline.Term) (returning : List Outline.Term)
  | delete (ctes : List Outline.Cte) (target : Outline.Table) (sources : List Outline.Source)
      (condition : Option Outline.Term) (returning : List Outline.Term)
  | insert (ctes : List Outline.Cte) (target : Outline.Table) (rows : Option Outline.Select)

namespace Outline

/-! ## Outlines of trees -/

open Sql (Expr)
open Text (lowercase)

/-- The column with a path of names: its last name and the one before it. -/
def columnOfPath? (names : List String) : Option ColumnName :=
  match names.reverse with
  | [] => none
  | [name] => some ⟨none, lowercase name⟩
  | name :: qualifier :: _ => some ⟨some (lowercase qualifier), lowercase name⟩

/-- The column an expression is; a star names none. -/
def columnOf? : Expr → Option ColumnName
  | .column names false => columnOfPath? names
  | _ => none

/-- Whether an expression is a column or a star. -/
def isColumn : Expr → Bool
  | .column .. => true
  | _ => false

def operation (left : Option Expr) (right : Expr) (operands : List Term) : Term :=
  let besides := match left with
    | some l => !isColumn l
    | none => true
  match columnOf? right, besides with
  | some column, true => .comparison column operands
  | _, _ => .group operands

def lookup (left : Expr) (leftTerm : Term) (items : List Term) : Term :=
  match columnOf? left with
  | some column => .membership column items
  | none => .group (leftTerm :: items)

def tableOf (name : Sql.TableName) (byname : Option String) : Table :=
  ⟨lowercase name.name, name.schema.isSome, byname.map lowercase⟩

mutual

def exprTerm : Expr → Term
  | .column names star =>
    match columnOf? (.column names star) with
    | some column => .column column
    | none => .group []
  | .parameter n => .parameter n
  | .constant _ | .keywordValue .. | .default | .cursorRow _ => .group []
  | .access base _ => .group [exprTerm base]
  | .prefixed _ e => operation none e [exprTerm e]
  | .binary _ l r | .quantified _ _ l r | .distinctFrom _ l r | .nullIf l r =>
    operation (some l) r [exprTerm l, exprTerm r]
  | .inList _ l items => lookup l (exprTerm l) (exprTerms items)
  | .pattern form _ l r escape =>
    match form, escape with
    | .similar, _ | _, some _ => .group (exprTerm l :: exprTerm r :: optionTerms escape)
    | _, none => operation (some l) r [exprTerm l, exprTerm r]
  | .between _ _ e low high => .group [exprTerm e, exprTerm low, exprTerm high]
  | .chain _ items => .group (exprTerms items)
  | .negation e | .nullTest _ e | .truthTest _ _ e | .documentTest e => .group [exprTerm e]
  | .cast e _ | .collate e _ | .named _ e => .group [exprTerm e]
  | .call _ _ arguments order filter _ =>
    .group (exprTerms arguments ++ optionTerms filter ++ sortTerms order)
  | .case subject whens otherwise =>
    .group (whenTerms whens ++ optionTerms subject ++ optionTerms otherwise)
  | .row _ items | .array items | .coalesce items | .extreme _ items | .grouping items =>
    .group (exprTerms items)
  | .subquery q | .existsQuery q | .arrayQuery q => .query (queryOutline q)
  | .inQuery e q | .quantifiedQuery _ _ e q => .group [exprTerm e, .query (queryOutline q)]
  | .form parts => .group (partTerms parts)

/-- The direct operands of a form; its other parts tell nothing. -/
def partTerms : List Sql.Part → List Term
  | [] => []
  | .operand true value :: rest => exprTerm value :: partTerms rest
  | .list items :: rest => partTerms items ++ partTerms rest
  | .group parts :: rest => partTerms parts ++ partTerms rest
  | _ :: rest => partTerms rest

def exprTerms : List Expr → List Term
  | [] => []
  | e :: es => exprTerm e :: exprTerms es

/-- The term of an expression that may be absent, as a list. -/
def optionTerms : Option Expr → List Term
  | none => []
  | some e => [exprTerm e]

def whenTerms : List Sql.When → List Term
  | [] => []
  | .mk condition result :: rest => exprTerm condition :: exprTerm result :: whenTerms rest

def sortTerms : List Sql.SortKey → List Term
  | [] => []
  | .mk key _ _ :: rest => exprTerm key :: sortTerms rest

def targetTerms : List Sql.Target → List Term
  | [] => []
  | .mk value _ :: rest => exprTerm value :: targetTerms rest

/-- Sets of grouping keys tell nothing. -/
def groupTerms : List Sql.GroupKey → List Term
  | [] => []
  | .key value :: rest => exprTerm value :: groupTerms rest
  | _ :: rest => groupTerms rest

def rowTerms : List (List Expr) → List Term
  | [] => []
  | row :: rows => .group (exprTerms row) :: rowTerms rows

def sourceOutline : Sql.FromItem → Source
  | .table _ name byname => .table (tableOf name (byname.map (·.name)))
  | .query _ query _ => .query (queryOutline query)
  | .functions .. | .sample .. | .form .. => .other
  | .join _ _ left right condition _ _ _ =>
    .join (sourceOutline left) (sourceOutline right) (optionTerms condition).head?

def sourceOutlines : List Sql.FromItem → List Source
  | [] => []
  | s :: ss => sourceOutline s :: sourceOutlines ss

def queryOutline : Sql.Query → Select
  | .mk recursive ctes body order limit _ offset _ =>
    .mk recursive (cteOutlines ctes) (bodyOutline body) (sortTerms order)
      (optionTerms offset).head? (optionTerms limit).head?

def bodyOutline : Sql.QueryBody → Body
  | .select _ _ targets _ sources condition _ group having _ =>
    .plain (sourceOutlines sources) (targetTerms targets) (optionTerms condition).head?
      (groupTerms group) (optionTerms having).head?
  | .values rows => .rows (rowTerms rows)
  | .defaults => .rows []
  | .combined _ _ left right => .pair (queryOutline left) (queryOutline right)

def cteOutlines : List Sql.Cte → List Cte
  | [] => []
  | .mk name _ _ (.query query) _ :: rest =>
    .mk (lowercase name) (some (queryOutline query)) :: cteOutlines rest
  | .mk name .. :: rest => .mk (lowercase name) none :: cteOutlines rest

end

/-! ## Outlines of statements -/

inductive AssignmentError
  /-- A row is assigned to more columns than it has elements. -/
  | shortRow
  /-- The assigned row has no elements. -/
  | emptyRow
  deriving DecidableEq, Repr, Inhabited

def assignedColumn : Sql.Destination → String
  | .mk column _ => lowercase column

/-- What a row assignment gives to each column: its own element of a row, or else the whole
    value with the first column. -/
def rowAssignments (targets : List Sql.Destination) (value : Expr) :
    Except AssignmentError (List (String × Assigned)) :=
  match value with
  | .row _ items =>
    if items.isEmpty then .error .emptyRow
    else if items.length < targets.length then .error .shortRow
    else .ok ((targets.zip items).map fun (t, item) => (assignedColumn t, .value (exprTerm item)))
  | _ =>
    match targets with
    | [] => .ok []
    | first :: rest =>
      .ok ((assignedColumn first, .value (exprTerm value))
        :: rest.map fun t => (assignedColumn t, .told))

def assignments : List Sql.Assignment → Except AssignmentError (List (String × Assigned))
  | [] => .ok []
  | .single target value :: rest => do
    return (assignedColumn target, .value (exprTerm value)) :: (← assignments rest)
  | .row targets value :: rest => do
    let found ← rowAssignments targets value
    return found ++ (← assignments rest)

/-- The columns that a statement gives back. -/
def returningTerms : Sql.Returning → List Term
  | .mk _ targets => targetTerms targets

/-- The outline of a statement; only the four kinds that are analysed have one. -/
def ofStatement? : Sql.Statement → Option (Except AssignmentError Outline)
  | .query query => some (.ok (.select (queryOutline query)))
  | .insert _ ctes table byname _ _ rows _ _ =>
    let source := match rows with
      | .mk _ _ .defaults .. => none
      | _ => some (queryOutline rows)
    some (.ok (.insert (cteOutlines ctes) (tableOf table byname) source))
  | .update _ ctes _ table byname assigned sources condition returning =>
    some do
      return .update (cteOutlines ctes) (tableOf table byname) (← assignments assigned)
        (sourceOutlines sources) (optionTerms condition).head? (returningTerms returning)
  | .delete _ ctes _ table byname sources condition returning =>
    some (.ok (.delete (cteOutlines ctes) (tableOf table byname) (sourceOutlines sources)
      (optionTerms condition).head? (returningTerms returning)))
  | .other .. => none

end Outline

end IndexAdvisor
