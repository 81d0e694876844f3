/-! # Statement trees

What a statement says, without its layout: parentheses that only group, comments and the
spellings of a keyword are gone. Names are kept as read, in lower case unless they were quoted.
-/

namespace IndexAdvisor.Sql

/-! ## Parts without expressions -/

inductive Constant
  | integer (value : Int)
  /-- Any other number, as written, with its sign. -/
  | number (source : String)
  | text (content : String)
  /-- A bit string: its radix letter and its digits. -/
  | bits (radix : Char) (digits : String)
  | boolean (value : Bool)
  | null
  deriving DecidableEq, Repr, Inhabited

/-- An operator, perhaps with the schema it is looked up in. -/
structure Operator where
  schema : List String
  name : String
  deriving DecidableEq, Repr, Inhabited

/-- The name of a table, perhaps with its catalog and schema. -/
structure TableName where
  catalog : Option String
  schema : Option String
  name : String
  deriving DecidableEq, Repr, Inhabited

/-- The name a `FROM` item goes by, with names for its columns. -/
structure Alias where
  name : String
  columns : List String
  deriving DecidableEq, Repr, Inhabited

/-- Which elements a comparison with several values asks for. -/
inductive Quantifier
  | any
  | all
  deriving DecidableEq, Repr, Inhabited

inductive PatternForm
  | like
  | ilike
  | similar
  deriving DecidableEq, Repr, Inhabited

/-- How a chain of conditions is joined. -/
inductive Connective
  | and
  | or
  deriving DecidableEq, Repr, Inhabited

inductive TruthTest
  | isTrue
  | isFalse
  | isUnknown
  deriving DecidableEq, Repr, Inhabited

structure CallForm where
  /-- The argument list is `*`. -/
  star : Bool
  distinct : Bool
  /-- The last argument is an array of arguments. -/
  variadic : Bool
  /-- The sort order stands in `WITHIN GROUP`. -/
  withinGroup : Bool
  /-- The call stands for a form that SQL has for the function. -/
  special : Bool
  deriving DecidableEq, Repr, Inhabited

inductive SortDirection
  | unspecified
  | ascending
  | descending
  | using (operator : Operator)
  deriving DecidableEq, Repr, Inhabited

inductive NullsOrder
  | unspecified
  | first
  | last
  deriving DecidableEq, Repr, Inhabited

/-- Where a window frame begins or ends; an offset is an expression of the window. -/
inductive FrameBound
  | unboundedPreceding
  | preceding
  | currentRow
  | following
  | unboundedFollowing
  deriving DecidableEq, Repr, Inhabited

structure Frame where
  unit : String
  start : FrameBound
  finish : Option FrameBound
  exclusion : Option String
  deriving DecidableEq, Repr, Inhabited

inductive JoinKind
  | inner
  | left
  | right
  | full
  deriving DecidableEq, Repr, Inhabited

inductive SetOperator
  | union
  | intersect
  | except
  deriving DecidableEq, Repr, Inhabited

/-- Where `SELECT INTO` puts its rows. -/
structure IntoTable where
  persistence : Option String
  table : TableName
  deriving DecidableEq, Repr, Inhabited

structure Lock where
  strength : String
  tables : List TableName
  /-- What to do about rows that are locked already. -/
  waiting : Option String
  deriving DecidableEq, Repr, Inhabited

/-- A name that `RETURNING` gives to the changed rows. -/
structure RowName where
  /-- The name is for the rows after the change. -/
  isNew : Bool
  name : String
  deriving DecidableEq, Repr, Inhabited

/-- Whether the rows of a common table expression are to be stored. -/
inductive Materialized
  | unspecified
  | always
  | never
  deriving DecidableEq, Repr, Inhabited

/-! ## Expressions, queries and statements -/

mutual

inductive Expr
  /-- A column, named by its path; with `star` all columns below the path. -/
  | column (names : List String) (star : Bool)
  | parameter (number : Nat)
  | constant (value : Constant)
  /-- A field or element of a value. -/
  | access (base : Expr) (steps : List Step)
  | prefixed (operator : Operator) (operand : Expr)
  | binary (operator : Operator) (left right : Expr)
  /-- A comparison with the elements of an array. -/
  | quantified (operator : Operator) (quantifier : Quantifier) (left right : Expr)
  | distinctFrom (negated : Bool) (left right : Expr)
  | nullIf (left right : Expr)
  | inList (negated : Bool) (left : Expr) (items : List Expr)
  | pattern (form : PatternForm) (negated : Bool) (left right : Expr) (escape : Option Expr)
  | between (symmetric negated : Bool) (operand low high : Expr)
  | chain (connective : Connective) (items : List Expr)
  | negation (operand : Expr)
  | nullTest (negated : Bool) (operand : Expr)
  | truthTest (test : TruthTest) (negated : Bool) (operand : Expr)
  | documentTest (operand : Expr)
  | cast (operand : Expr) (type : TypeName)
  | collate (operand : Expr) (collation : List String)
  | call (name : List String) (form : CallForm) (arguments : List Expr) (order : List SortKey)
      (filter : Option Expr) (window : Window)
  /-- An argument passed by name. -/
  | named (name : String) (argument : Expr)
  | case (subject : Option Expr) (whens : List When) (otherwise : Option Expr)
  | row (explicit : Bool) (items : List Expr)
  | array (items : List Expr)
  | coalesce (items : List Expr)
  | extreme (greatest : Bool) (items : List Expr)
  | grouping (items : List Expr)
  /-- A value named by a keyword, such as the current date. -/
  | keywordValue (keyword : String) (precision : Option Nat)
  | subquery (query : Query)
  | existsQuery (query : Query)
  | arrayQuery (query : Query)
  | inQuery (operand : Expr) (query : Query)
  | quantifiedQuery (operator : Operator) (quantifier : Quantifier) (operand : Expr) (query : Query)
  /-- The default of the column that is assigned. -/
  | default
  /-- The row a cursor is at. -/
  | cursorRow (cursor : String)
  /-- A form of SQL/JSON or SQL/XML. -/
  | form (parts : List Part)

/-- A part of a form that is kept as it is written. -/
inductive Part
  | words (text : String)
  | name (name : String)
  /-- An operand, with the flag if the form is an operation on it. -/
  | operand (direct : Bool) (value : Expr)
  | type (type : TypeName)
  | query (query : Query)
  | source (source : FromItem)
  | window (window : Window)
  | order (keys : List SortKey)
  | destinations (targets : List Destination)
  | assignments (assignments : List Assignment)
  | returning (returning : Returning)
  /-- Parts with commas between them. -/
  | list (items : List Part)
  /-- Parts one after the other. -/
  | group (parts : List Part)

/-- A step from a value to one of its parts. -/
inductive Step
  | field (name : String)
  | star
  | index (position : Expr)
  | slice (low high : Option Expr)

inductive When
  | mk (condition result : Expr)

/-- A type. A name of two parts whose first is `pg_catalog` has a keyword of its own. -/
inductive TypeName
  | mk (isSet : Bool) (names : List String) (modifiers : List Expr) (bounds : List (Option Nat))

inductive SortKey
  | mk (key : Expr) (direction : SortDirection) (nulls : NullsOrder)

/-- A window: the name it gets, the window it extends, and its own parts. -/
inductive Window
  | mk (name base : Option String) (partition : List Expr) (order : List SortKey)
      (frame : Option Frame) (start finish : Option Expr)
  /-- A window defined elsewhere. -/
  | reference (name : String)
  /-- No window: the call is an ordinary one. -/
  | absent

inductive Target
  | mk (value : Expr) (label : Option String)

inductive GroupKey
  | key (value : Expr)
  | nothing
  | cube (items : List Expr)
  | rollup (items : List Expr)
  | sets (items : List GroupKey)

inductive ResultColumn
  | mk (name : String) (type : TypeName) (collation : List String)

/-- A call in `FROM`, perhaps with the columns of its result. -/
inductive SourceCall
  | mk (call : Expr) (columns : List ResultColumn)

inductive FromItem
  | table (only : Bool) (name : TableName) (byname : Option Alias)
  | query (lateral : Bool) (query : Query) (byname : Option Alias)
  | functions (lateral rowsFrom ordinality : Bool) (calls : List SourceCall)
      (byname : Option Alias) (columns : List ResultColumn)
  /-- Some of the rows of an item, drawn by a method. -/
  | sample (source : FromItem) (method : List String) (arguments : List Expr)
      (seed : Option Expr)
  /-- The rows that a form of SQL/JSON or SQL/XML makes. -/
  | form (lateral : Bool) (parts : List Part) (byname : Option Alias)
  /-- A join; without a condition and shared columns it is a cross join. -/
  | join (kind : JoinKind) (natural : Bool) (left right : FromItem) (condition : Option Expr)
      (shared : List String) (sharedAlias : Option String) (byname : Option Alias)

/-- A query with its own order and limits. -/
inductive Query
  | mk (recursive : Bool) (ctes : List Cte) (body : QueryBody) (order : List SortKey)
      (limit : Option Expr) (ties : Bool) (offset : Option Expr) (locks : List Lock)

inductive QueryBody
  | select (distinct : Bool) (distinctOn : List Expr) (targets : List Target)
      (into : Option IntoTable) (sources : List FromItem) (condition : Option Expr)
      (groupDistinct : Bool) (group : List GroupKey) (having : Option Expr)
      (windows : List Window)
  | values (rows : List (List Expr))
  /-- One row of defaults, which only `INSERT` asks for. -/
  | defaults
  | combined (operator : SetOperator) (all : Bool) (left right : Query)

/-- A common table expression; `walk` says in which order its rows are searched and how cycles
    are marked. -/
inductive Cte
  | mk (name : String) (columns : List String) (materialized : Materialized)
      (statement : Statement) (walk : List Part)

inductive Destination
  | mk (column : String) (steps : List Step)

inductive Assignment
  | single (target : Destination) (value : Expr)
  | row (targets : List Destination) (value : Expr)

inductive IndexKey
  | mk (value : Expr) (collation operatorClass : List String) (options : List Part)
      (direction : SortDirection) (nulls : NullsOrder)

/-- What `INSERT` does about a row that is there already. -/
inductive Conflict
  | unspecified
  | keep (constraint : Option String) (keys : List IndexKey) (condition : Option Expr)
  | update (constraint : Option String) (keys : List IndexKey) (condition : Option Expr)
      (assignments : List Assignment) (restriction : Option Expr)

/-- What a statement that changes rows gives back. -/
inductive Returning
  | mk (names : List RowName) (targets : List Target)

inductive Statement
  | query (query : Query)
  | insert (recursive : Bool) (ctes : List Cte) (table : TableName) (byname : Option String)
      (columns : List Destination) (overriding : Option String) (source : Query)
      (conflict : Conflict) (returning : Returning)
  | update (recursive : Bool) (ctes : List Cte) (only : Bool) (table : TableName)
      (byname : Option String) (assignments : List Assignment) (sources : List FromItem)
      (condition : Option Expr) (returning : Returning)
  | delete (recursive : Bool) (ctes : List Cte) (only : Bool) (table : TableName)
      (byname : Option String) (sources : List FromItem) (condition : Option Expr)
      (returning : Returning)
  /-- A statement that is only classified; its parts are known if it may stand in a query. -/
  | other (kind : String) (parts : List Part)

end

instance : Inhabited Expr := ⟨.default⟩

instance : Inhabited Query := ⟨.mk false [] (.values []) [] none false none []⟩

end IndexAdvisor.Sql
