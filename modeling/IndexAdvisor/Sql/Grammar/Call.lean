import IndexAdvisor.Sql.Grammar.Path

/-! # Reading calls

Function calls with their options, windows and sort keys.
-/

namespace IndexAdvisor.Sql.Grammar

open Parse

/-! ## Sort keys -/

def operatorName : Parse String := do
  match ← peek with
  | .operator name => advance; return name
  | .symbol mark =>
    if ["+", "-", "*", "/", "%", "^", "<", ">", "=", "<=", ">=", "<>"].contains mark then
      advance
      return mark
    else unexpected
  | _ => unexpected

def qualifiedOperator : Parse Operator := inParentheses do
  let schema ← repeated (fun (found : List String) => do
    match columnName? (← peek) with
    | some name => advance; symbol "."; return some (name :: found)
    | none => return none) []
  return ⟨schema.reverse, ← operatorName⟩

def nullsOrder : Parse NullsOrder := do
  if isJoined "nulls" (← peek) then
    advance
    if (← oneOf ["first", "last"]) = "first" then return .first else return .last
  else return .unspecified

def sortKey (g : Nested) : Parse SortKey := do
  let key ← g.any
  if ← word? "using" then
    let operator ← if ← word? "operator" then qualifiedOperator else pure ⟨[], ← operatorName⟩
    return .mk key (.using operator) (← nullsOrder)
  else
    let direction := match ← oneOf? ["asc", "desc"] with
      | some "asc" => SortDirection.ascending
      | some _ => .descending
      | none => .unspecified
    return .mk key direction (← nullsOrder)

def sortKeys (g : Nested) : Parse (List SortKey) := do
  word "order"
  word "by"
  commaList (sortKey g)

def sortKeys? (g : Nested) : Parse (List SortKey) := do
  if isWord "order" (← peek) then sortKeys g else return []

/-! ## Windows -/

/-- A bound of a window frame, its offset and its place. -/
def frameBound (g : Nested) : Parse (FrameBound × Option Expr × Nat) := do
  let place := (← next).start
  let ahead ← peekSecond
  if isWord "unbounded" (← peek) && (isWord "preceding" ahead || isWord "following" ahead) then
    advance
    if (← oneOf ["preceding", "following"]) = "preceding" then
      return (.unboundedPreceding, none, place)
    else return (.unboundedFollowing, none, place)
  else if isWord "current" (← peek) && isWord "row" ahead then
    advance
    advance
    return (.currentRow, none, place)
  else
    let offset ← g.any
    if (← oneOf ["preceding", "following"]) = "preceding" then
      return (.preceding, some offset, place)
    else return (.following, some offset, place)

/-- What is wrong with the bounds of a frame, if anything. -/
def frameComplaint? (start : FrameBound) (finish : Option FrameBound) : Option (Complaint × Bool) :=
  match start, finish with
  | .unboundedFollowing, _ => some (.frameStart, true)
  | .following, none => some (.frameFromFollowing "end with current row", true)
  | _, none => none
  | _, some .unboundedPreceding => some (.frameFinish, false)
  | .currentRow, some .preceding => some (.frameFromCurrent, false)
  | .following, some .preceding => some (.frameFromFollowing "have preceding rows", false)
  | .following, some .currentRow => some (.frameFromFollowing "have preceding rows", false)
  | _, _ => none

def exclusion? : Parse (Option String) := do
  if ← word? "exclude" then
    if ← word? "current" then
      word "row"
      return some "CURRENT ROW"
    else if ← word? "no" then
      word "others"
      return none
    else if (← oneOf ["group", "ties"]) = "group" then return some "GROUP"
    else return some "TIES"
  else return none

def frame? (g : Nested) : Parse (Option Frame × Option Expr × Option Expr) := do
  match ← oneOf? ["range", "rows", "groups"] with
  | none => return (none, none, none)
  | some unit =>
    let between ← word? "between"
    let (start, startOffset, startPlace) ← frameBound g
    let (finish, finishOffset, finishPlace) ← if between then do
        word "and"
        let (finish, offset, place) ← frameBound g
        pure (some finish, offset, place)
      else pure (none, none, startPlace)
    match frameComplaint? start finish with
    | some (complaint, atStart) =>
      impossible complaint (if atStart then startPlace else finishPlace)
    | none => return (some ⟨unit.toUpper, start, finish, ← exclusion?⟩, startOffset, finishOffset)

def window (g : Nested) (name : Option String) : Parse Window := inParentheses do
  let lexeme ← peek
  let clause := ["partition", "range", "rows", "groups"].any (isWord · lexeme)
  let base ← match columnName? lexeme, clause with
    | some base, false => do advance; pure (some base)
    | _, _ => pure none
  let partition ← if ← word? "partition" then do word "by"; g.list else pure []
  let order ← sortKeys? g
  let (frame, start, finish) ← frame? g
  return .mk name base partition order frame start finish

def over? (g : Nested) : Parse Window := do
  if ← word? "over" then
    if isSymbol "(" (← peek) then window g none else return .reference (← columnName)
  else return .absent

/-! ## Calls -/

def plainForm : CallForm := ⟨false, false, false, false, false⟩

def plainCall (name : List String) (arguments : List Expr) : Expr :=
  .call name plainForm arguments [] none .absent

/-- A function that a special form of expression stands for. -/
def systemCall (name : String) (arguments : List Expr) : Expr :=
  .call ["pg_catalog", name] { plainForm with special := true } arguments [] none .absent

/-- An argument, perhaps passed by name. -/
def argument (g : Nested) : Parse Expr := do
  let ahead ← peekSecond
  match functionName? (← peek) with
  | some name =>
    if isSymbol ":=" ahead || isSymbol "=>" ahead then
      advance
      advance
      return .named name (← g.any)
    else g.any
  | none => g.any

structure Arguments where
  form : CallForm
  items : List Expr
  order : List SortKey
  orderPlace : Nat
  /-- The items stand by themselves, without a word before any of them. -/
  isBare : Bool
  /-- The place of the first item that is passed by name. -/
  namePlace : Option Nat

/-- An argument, and its place if it is passed by name. -/
def placedArgument (g : Nested) : Parse (Expr × Option Nat) := do
  let place := (← next).start
  match ← argument g with
  | .named name e => return (.named name e, some place)
  | e => return (e, none)

/-- The order of the arguments that were read. -/
def ordered (g : Nested) (form : CallForm) (items : List Expr) (isBare : Bool)
    (namePlace : Option Nat) : Parse Arguments := do
  let orderPlace := (← next).start
  return ⟨form, items, ← sortKeys? g, orderPlace, isBare, namePlace⟩

/-- Arguments without a word before the first one; the last may be an array of arguments. -/
def bareArguments (g : Nested) : Parse Arguments := do
  let (first, place) ← placedArgument g
  let (found, place, variadic) ← repeated
    (fun ((found, place, variadic) : List Expr × Option Nat × Bool) => do
      if variadic then return none
      else if ← symbol? "," then
        let variadic ← word? "variadic"
        let (e, here) ← placedArgument g
        return some (e :: found, place <|> here, variadic)
      else return none) ([first], place, false)
  ordered g { plainForm with variadic } found.reverse (!variadic) place

/-- The arguments of a call, in parentheses, with their order. -/
def arguments (g : Nested) : Parse Arguments := inParentheses do
  if isSymbol ")" (← peek) then return ⟨plainForm, [], [], 0, false, none⟩
  else if ← symbol? "*" then return ⟨{ plainForm with star := true }, [], [], 0, false, none⟩
  else if ← word? "variadic" then
    let array ← argument g
    ordered g { plainForm with variadic := true } [array] false none
  else if ← word? "distinct" then
    let found ← commaList (argument g)
    ordered g { plainForm with distinct := true } found false none
  else if ← word? "all" then
    let found ← commaList (argument g)
    ordered g plainForm found false none
  else bareArguments g

def withinGroup (g : Nested) (form : CallForm) (order : List SortKey) :
    Parse (CallForm × List SortKey) := do
  let place := (← next).start
  if ← word? "within" then
    word "group"
    let inner ← inParentheses (sortKeys g)
    if !order.isEmpty then impossible .groupOrderTwice place
    else if form.distinct then impossible .groupDistinct place
    else if form.variadic then impossible .groupVariadic place
    else return ({ form with withinGroup := true }, inner)
  else return (form, order)

def filter? (g : Nested) : Parse (Option Expr) := do
  if ← word? "filter" then
    return some (← inParentheses do word "where"; g.any)
  else return none

/-- What may stand after a type to make a literal of it: a text, or a parameter for one. -/
def literalContent? : Lexeme → Option Expr
  | .text content => some (.constant (.text content))
  | .parameter n => some (.parameter n)
  | _ => none

/-- A call of a named function with all its options. A text after bare arguments makes it a
    literal of a type with modifiers. -/
def callOf (g : Nested) (name : List String) : Parse Expr := do
  let a ← arguments g
  match literalContent? (← peek) with
  | some content =>
    if a.isBare then
      advance
      match a.namePlace with
      | some place => impossible .modifierName place
      | none =>
        if !a.order.isEmpty then impossible .modifierOrder a.orderPlace
        else return .cast content (.mk false name a.items [])
    else unexpected
  | none =>
    let (form, order) ← withinGroup g a.form a.order
    let filter ← filter? g
    return .call name form a.items order filter (← over? g)

/-- A call of a named function without options, as a table. -/
def sourceCall (g : Nested) (name : List String) : Parse Expr := do
  let a ← arguments g
  return .call name a.form a.items a.order none .absent

end IndexAdvisor.Sql.Grammar
