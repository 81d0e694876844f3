import IndexAdvisor.Sql.Grammar.Source

/-! # Reading queries -/

namespace IndexAdvisor.Sql.Grammar

open Parse

/-! ## Output columns -/

def target (g : Nested) : Parse Target := do
  if ← symbol? "*" then return .mk (.column [] true) none
  else
    let value ← g.expr Precedence.lowest true
    if ← word? "as" then return .mk value (some (← label))
    else
      match bareLabel? (← peek) with
      | some name => advance; return .mk value (some name)
      | none => return .mk value none

def targets (g : Nested) : Parse (List Target) := commaList (target g)

/-- Whether a query may go on with a lexeme in place of its output columns. -/
def endsTargets : Lexeme → Bool
  | .finish => true
  | .symbol mark => mark = ")" || mark = ";"
  | .keyword w _ =>
    ["into", "from", "where", "group", "having", "window", "union", "intersect", "except", "order",
      "limit", "offset", "fetch", "for", "on", "returning"].contains w
  | _ => false

/-! ## Clauses of `SELECT` -/

def into? (g : Nested) : Parse (Option IntoTable) := do
  if !(← word? "into") then return none
  else
    let ahead ← peekSecond
    let names := (columnName? ahead).isSome || isWord "table" ahead
    let lexeme ← peek
    let temporary := ["temporary", "temp"].any (isWord · lexeme)
    let prefixed := ["local", "global"].any (isWord · lexeme)
      && (isWord "temporary" ahead || isWord "temp" ahead)
    let persistence ← if prefixed then do
        advance
        advance
        pure (some "TEMPORARY")
      else if temporary && names then do
        advance
        pure (some "TEMPORARY")
      else if isWord "unlogged" lexeme && names then do
        advance
        pure (some "UNLOGGED")
      else pure none
    let _ ← word? "table"
    return some ⟨persistence, ← tableName g⟩

def condition? (g : Nested) (keyword : String) : Parse (Option Expr) := do
  if ← word? keyword then return some (← g.any) else return none

def groupKey (g : Nested) : Parse GroupKey := do
  let lexeme ← peek
  let ahead ← peekSecond
  if isSymbol "(" lexeme && isSymbol ")" ahead then
    advance
    advance
    return .nothing
  else if isWord "cube" lexeme && isSymbol "(" ahead then
    advance
    return .cube (← inParentheses g.list)
  else if isWord "rollup" lexeme && isSymbol "(" ahead then
    advance
    return .rollup (← inParentheses g.list)
  else if isWord "grouping" lexeme && isWord "sets" ahead then
    advance
    advance
    return .sets (← inParentheses (commaList g.groupKey))
  else return .key (← g.any)

def group? (g : Nested) : Parse (Bool × List GroupKey) := do
  if ← word? "group" then
    word "by"
    let distinct := (← oneOf? ["all", "distinct"]) = some "distinct"
    return (distinct, ← commaList (groupKey g))
  else return (false, [])

def windows? (g : Nested) : Parse (List Window) := do
  if ← word? "window" then
    commaList do
      let name ← columnName
      word "as"
      window g (some name)
  else return []

def selectBody (g : Nested) : Parse QueryBody := do
  let distinct ← word? "distinct"
  let distinctOn ← if distinct then do
      if ← word? "on" then inParentheses g.list else pure []
    else do
      let _ ← word? "all"
      pure []
  let found ← if !distinct && endsTargets (← peek) then pure [] else targets g
  let into ← into? g
  let sources ← sources? g "from"
  let condition ← condition? g "where"
  let (groupDistinct, group) ← group? g
  let having ← condition? g "having"
  return .select distinct distinctOn found into sources condition groupDistinct group having
    (← windows? g)

/-! ## Set operations -/

def plainQuery (body : QueryBody) : Query := .mk false [] body [] none false none []

/-- A query without set operations: `SELECT`, `VALUES`, `TABLE` or one in parentheses. -/
def singleQuery (g : Nested) : Parse Query := do
  if isSymbol "(" (← peek) then queryInParentheses g
  else if ← word? "select" then return plainQuery (← selectBody g)
  else if ← word? "values" then
    return plainQuery (.values (← commaList (inParentheses g.list)))
  else if ← word? "table" then
    let (only, table) ← relation g
    return plainQuery (.select false [] [.mk (.column [] true) none] none [.table only table none]
      none false [] none [])
  else unexpected

/-- Whether a set operation keeps repeated rows. -/
def keepsRepeated : Parse Bool := do return (← oneOf? ["all", "distinct"]) = some "all"

/-- Intersections, of which the first operand is given. -/
def intersections (g : Nested) (left : Query) : Parse Query :=
  repeated (fun left => do
    if ← word? "intersect" then
      let all ← keepsRepeated
      return some (plainQuery (.combined .intersect all left (← singleQuery g)))
    else return none) left

/-- Set operations, of which the first operand is given; intersections come first. -/
def setOperations (g : Nested) (left : Query) : Parse Query := do
  repeated (fun left => do
    match ← oneOf? ["union", "except"] with
    | none => return none
    | some w =>
      let all ← keepsRepeated
      let right ← intersections g (← singleQuery g)
      let operator := if w = "union" then SetOperator.union else .except
      return some (plainQuery (.combined operator all left right))) (← intersections g left)

/-! ## Order, limits and locks -/

/-- What follows the body of a query. Limits and offsets have the places of their keywords. -/
structure Options where
  order : List SortKey
  orderPlace : Option Nat
  limit : Option Expr
  limitPlace : Nat
  ties : Option Nat
  offset : Option Expr
  offsetPlace : Nat
  locks : List Lock

def Options.absent : Options := ⟨[], none, none, 0, none, none, 0, []⟩

/-- Whether a query goes on, after a part of it in parentheses. -/
def goesOnAfter (lexeme : Lexeme) : Bool :=
  ["union", "intersect", "except", "order", "limit", "offset", "fetch", "for"].any
    (isWord · lexeme)

/-- The tokens after the parenthesis that closes those open, `depth` of them and one more. -/
def afterGroup (depth : Nat) : List Token → List Token
  | [] => []
  | t :: rest =>
    if isSymbol "(" t.lexeme then afterGroup (depth + 1) rest
    else if isSymbol ")" t.lexeme then
      match depth with
      | 0 => rest
      | outer + 1 => afterGroup outer rest
    else afterGroup depth rest

/-- Whether tokens after an opening parenthesis are a query and nothing else. -/
def holdsQuery : List Token → Bool
  | [] => false
  | t :: rest =>
    if isSymbol "(" t.lexeme then
      holdsQuery rest && match afterGroup 0 rest with
        | u :: _ => isSymbol ")" u.lexeme || goesOnAfter u.lexeme
        | [] => false
    else startsQuery t.lexeme ((rest.head?.map (·.lexeme)).getD .finish)

/-- Whether tokens after an opening parenthesis are a row: a comma comes before the closing one. -/
def holdsRow (depth : Nat) : List Token → Bool
  | [] => false
  | t :: rest =>
    if isSymbol "(" t.lexeme || isSymbol "[" t.lexeme then holdsRow (depth + 1) rest
    else if isSymbol ")" t.lexeme || isSymbol "]" t.lexeme then
      match depth with
      | 0 => false
      | outer + 1 => holdsRow outer rest
    else if isSymbol "," t.lexeme && depth = 0 then true
    else holdsRow depth rest

/-- The place of an expression, which is not that of parentheses that only group. -/
def valuePlace : List Token → Nat
  | [] => 0
  | t :: rest =>
    if isSymbol "(" t.lexeme && !holdsQuery rest && !holdsRow 0 rest then valuePlace rest
    else t.start

def limitOf (g : Nested) (place : Nat) (o : Options) : Parse Options := do
  let count ← if ← word? "all" then pure (.constant .null) else g.any
  if ← symbol? "," then
    let _ ← g.any
    impossible .limitPair place
  else return { o with limit := some count, limitPlace := place }

/-- Whether the number of rows is said in a word. -/
def isRows (lexeme : Lexeme) : Bool := isWord "row" lexeme || isWord "rows" lexeme

def signedNumber : Parse Expr := do
  let number : Parse Expr := do
    match ← peek with
    | .integer n => advance; return wholeConstant n
    | .number source => advance; return .constant (.number source)
    | _ => unexpected
  if ← symbol? "+" then return .prefixed ⟨[], "+"⟩ (← number)
  else
    symbol "-"
    return negated (← number)

def signAhead : Parse Bool := do return isSymbol "+" (← peek) || isSymbol "-" (← peek)

def fetchOf (g : Nested) (place : Nat) (o : Options) : Parse Options := do
  let _ ← oneOf ["first", "next"]
  let count ← if isRows (← peek) then pure (wholeConstant 1)
    else if ← signAhead then signedNumber
    else value g
  let _ ← oneOf ["row", "rows"]
  let tiesPlace := (← next).start
  if ← word? "with" then
    word "ties"
    return { o with limit := some count, limitPlace := place, ties := some tiesPlace }
  else
    word "only"
    return { o with limit := some count, limitPlace := place }

/-- Whether an expression with an operator before its operand is next. -/
def operationAhead : Parse Bool := do
  let lexeme ← peek
  let ahead ← peekSecond
  match lexeme with
  | .operator _ => return true
  | .keyword "operator" _ => return isSymbol "(" ahead
  | _ => return ["not", "default", "unique"].any (isWord · lexeme) || isJoined "not" lexeme

/-- `OFFSET` after its keyword, which is at a place. Only a value without operators may be followed
    by `ROWS`. -/
def offsetOf (g : Nested) (place : Nat) (o : Options) : Parse Options := do
  let offset ← if ← signAhead then do
      let isNumber := match ← peekSecond with
        | .integer _ | .number _ => true
        | _ => false
      if isNumber && isRows (← peekThird) then do
        let number ← signedNumber
        advance
        pure number
      else g.any
    else if ← operationAhead then g.any
    else do
      let start ← value g
      if isRows (← peek) then do
        advance
        pure start
      else operations g Precedence.lowest false start
  return { o with offset := some offset, offsetPlace := place }

/-- A limit and an offset, in either order. -/
def limits (g : Nested) (o : Options) : Parse Options := do
  let limit (o : Options) : Parse Options := do
    let place := (← next).start
    if ← word? "limit" then limitOf g place o
    else if ← word? "fetch" then fetchOf g place o
    else return o
  let offset (o : Options) : Parse Options := do
    let place := (← next).start
    if ← word? "offset" then offsetOf g place o else return o
  if isWord "offset" (← peek) then limit (← offset o) else offset (← limit o)

def lockStrength : Parse String := do
  if ← word? "update" then return "UPDATE"
  else if ← word? "share" then return "SHARE"
  else if ← word? "key" then
    word "share"
    return "KEY SHARE"
  else
    word "no"
    word "key"
    word "update"
    return "NO KEY UPDATE"

def lock? (g : Nested) : Parse (Option Lock) := do
  if ← word? "for" then
    let strength ← lockStrength
    let tables ← if ← word? "of" then commaList (tableName g) else pure []
    let waiting ← if ← word? "nowait" then pure (some "NOWAIT")
      else if ← word? "skip" then do
        word "locked"
        pure (some "SKIP LOCKED")
      else pure none
    return some ⟨strength, tables, waiting⟩
  else return none

/-- The locking clauses that are next. `FOR READ ONLY` locks nothing and stands alone. -/
def locks (g : Nested) : Parse (List Lock) := do
  if isWord "for" (← peek) && isWord "read" (← peekSecond) then
    advance
    advance
    word "only"
    return []
  else
    let found ← repeated (fun (found : List Lock) => do
      match ← lock? g with
      | some l => return some (l :: found)
      | none => return none) []
    return found.reverse

/-- `ORDER BY` and its place, if it is next. The place is that of the first key; a path has none. -/
def orderOption (g : Nested) : Parse Options := do
  if isWord "order" (← peek) then
    let place := valuePlace ((← get).drop 2)
    let order ← sortKeys g
    let orderPlace := match order with
      | .mk (.access ..) _ _ :: _ => none
      | _ => some place
    return { Options.absent with order, orderPlace }
  else return Options.absent

def options (g : Nested) : Parse Options := do
  let o ← orderOption g
  if isWord "for" (← peek) then
    let o := { o with locks := ← locks g }
    limits g o
  else
    let o ← limits g o
    return { o with locks := ← locks g }

/-- A query with further options. Each option may be given once. -/
def withOptions (o : Options) : Query → Parse Query
  | .mk recursive ctes body order limit ties offset locks => do
    if !o.order.isEmpty && !order.isEmpty then
      throw (.impossible (.repeatedClause "ORDER BY") o.orderPlace)
    let order := order ++ o.order
    let locks := locks ++ o.locks
    if o.offset.isSome && offset.isSome then
      impossible (.repeatedClause "OFFSET") o.offsetPlace
    if o.limit.isSome && limit.isSome then
      impossible (.repeatedClause "LIMIT") o.limitPlace
    if ties && (o.limit.isSome || o.offset.isSome) then
      throw (.impossible .repeatedLimitOption o.ties)
    match o.ties with
    | some place =>
      if order.isEmpty then impossible .tiesWithoutOrder place
      if locks.any (·.waiting = some "SKIP LOCKED") then impossible .tiesWithSkipping place
    | none => pure ()
    return .mk recursive ctes body order (o.limit <|> limit) (ties || o.ties.isSome)
      (o.offset <|> offset) locks

/-! ## Common table expressions and whole queries -/

def namesPart : Parse Part := do return .list ((← commaList columnName).map .name)

/-- The order in which the rows of a common table expression are searched, if it is said. -/
def search? : Parse (List Part) := after? "search" do
  let order ← oneOf ["depth", "breadth"]
  word "first"
  word "by"
  let names ← namesPart
  word "set"
  return [.words s!" SEARCH {order.toUpper} FIRST BY ", names, .words " SET ",
    .name (← columnName)]

/-- How cycles of a common table expression are marked, if it is said. -/
def cycle? (g : Nested) : Parse (List Part) := after? "cycle" do
  let names ← namesPart
  word "set"
  let mark ← columnName
  let (marked, unmarked) ← if ← word? "to" then do
      let marked ← g.any
      word "default"
      pure (marked, ← g.any)
    else pure (.constant (.boolean true), .constant (.boolean false))
  word "using"
  return [.words " CYCLE ", names, .words " SET ", .name mark, .words " TO ",
    .operand false marked, .words " DEFAULT ", .operand false unmarked, .words " USING ",
    .name (← columnName)]

def cte (g : Nested) : Parse Cte := do
  let name ← columnName
  let columns ← aliasColumns
  word "as"
  let materialized ← if ← word? "materialized" then pure Materialized.always
    else if isWord "not" (← peek) then do
      advance
      word "materialized"
      pure .never
    else pure .unspecified
  let statement ← inParentheses g.rows
  let search ← search?
  return .mk name columns materialized statement (search ++ (← cycle? g))

/-- `WITH` and its tables: the place, whether they may refer to themselves, and the tables. -/
def ctes? (g : Nested) : Parse (Option (Nat × Bool × List Cte)) := do
  let place := (← next).start
  if ← anyWord? "with" then
    let recursive ← word? "recursive"
    return some (place, recursive, ← commaList (cte g))
  else return none

/-- A query with the tables of a `WITH` before it. -/
def withCtes (found : Option (Nat × Bool × List Cte)) (query : Query) : Parse Query :=
  match found, query with
  | none, query => return query
  | some (place, recursive, ctes), .mk _ inner body order limit ties offset locks =>
    if inner.isEmpty then return .mk recursive ctes body order limit ties offset locks
    else impossible (.repeatedClause "WITH") place

/-- The rest of a query whose first operand is given. -/
def queryFrom (g : Nested) (first : Query) : Parse Query := do
  let query ← setOperations g first
  withOptions (← options g) query

def queryAfter (g : Nested) (found : Option (Nat × Bool × List Cte)) : Parse Query := do
  withCtes found (← queryFrom g (← singleQuery g))

def query (g : Nested) : Parse Query := do queryAfter g (← ctes? g)

/-! ## Parentheses -/

/-- Whether a query in parentheses goes on here as the operand of a larger query. -/
def queryGoesOn : Parse Bool := return goesOnAfter (← peek)

/-- Expressions that begin with the given one, up to the closing parenthesis. -/
def restOfGroup (g : Nested) (first : Expr) : Parse (List Expr) := do
  let more ← repeated (fun (found : List Expr) => do
    if ← symbol? "," then return some ((← g.any) :: found) else return none) []
  symbol ")"
  return first :: more.reverse

def grouped (g : Nested) : Parse (Query ⊕ List Expr) := do
  symbol "("
  let continued (left : Expr) : Parse (Query ⊕ List Expr) := do
    return .inr (← restOfGroup g (← operations g Precedence.lowest false left))
  if ← queryAhead then
    let query ← g.query
    symbol ")"
    return .inl query
  else if isSymbol "(" (← peek) then
    let place := (← next).start
    match ← g.grouped with
    | .inl query =>
      if ← queryGoesOn then
        let query ← queryFrom g query
        symbol ")"
        return .inl query
      else if ← symbol? ")" then return .inl query
      else continued (← accessed g (.subquery query))
    | .inr [single] => continued (← accessed g single)
    | .inr items => continued (← rowOf false place items g)
  else return .inr (← restOfGroup g (← g.any))

def isPlainJoin : FromItem → Bool
  | .join _ _ _ _ _ _ _ none => true
  | _ => false

def groupedSource (g : Nested) : Parse (Query ⊕ FromItem) := do
  symbol "("
  let closed (item : FromItem) : Parse (Query ⊕ FromItem) := do
    if isPlainJoin item then
      symbol ")"
      return .inr item
    else unexpected
  if ← queryAhead then
    let query ← g.query
    symbol ")"
    return .inl query
  else if isSymbol "(" (← peek) then
    match ← g.groupedSource with
    | .inl query =>
      if ← queryGoesOn then
        let query ← queryFrom g query
        symbol ")"
        return .inl query
      else if ← symbol? ")" then return .inl query
      else closed (← repeated (join? g) (.query false query (← alias?)))
    | .inr join => closed (← repeated (join? g) (withAlias (← alias?) join))
  else closed (← g.source)

end IndexAdvisor.Sql.Grammar
