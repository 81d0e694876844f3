import IndexAdvisor.Sql.Grammar.Query

/-! # Reading statements that work on rows

A query, or a statement that inserts, updates, deletes or merges rows.
-/

namespace IndexAdvisor.Sql.Grammar

open Parse

/-! ## Statements that change rows -/

def destination (g : Nested) : Parse Destination := do
  let name ← columnName
  return .mk name (← checkedSteps g)

def assignment (g : Nested) : Parse Assignment := do
  if isSymbol "(" (← peek) then
    let targets ← inParentheses (commaList (destination g))
    symbol "="
    return .row targets (← g.any)
  else
    let target ← destination g
    symbol "="
    return .single target (← g.any)

def rowName : Parse RowName := do
  let isNew := (← oneOf ["old", "new"]) = "new"
  word "as"
  return ⟨isNew, ← columnName⟩

def returning? (g : Nested) : Parse Returning := do
  if ← word? "returning" then
    let names ← if ← word? "with" then inParentheses (commaList rowName) else pure []
    return .mk names (← targets g)
  else return .mk [] []

/-- The condition of a statement that changes rows. -/
def rowCondition? (g : Nested) : Parse (Option Expr) := do
  if ← word? "where" then
    if isWord "current" (← peek) && isWord "of" (← peekSecond) then
      advance
      advance
      return some (.cursorRow (← columnName))
    else return some (← g.any)
  else return none

/-- The table that `UPDATE` or `DELETE` changes. The word `SET` is no alias by itself. -/
def changedTable (g : Nested) : Parse (Bool × TableName × Option String) := do
  let (only, table) ← relation g
  if ← word? "as" then return (only, table, some (← columnName))
  else
    let lexeme ← peek
    match columnName? lexeme with
    | some name =>
      if isWord "set" lexeme then return (only, table, none)
      else
        advance
        return (only, table, some name)
    | none => return (only, table, none)

def updateOf (g : Nested) (recursive : Bool) (ctes : List Cte) : Parse Statement := do
  let (only, table, byname) ← changedTable g
  word "set"
  let assignments ← commaList (assignment g)
  let sources ← sources? g "from"
  let condition ← rowCondition? g
  return .update recursive ctes only table byname assignments sources condition (← returning? g)

def deleteOf (g : Nested) (recursive : Bool) (ctes : List Cte) : Parse Statement := do
  word "from"
  let (only, table, byname) ← changedTable g
  let sources ← sources? g "using"
  let condition ← rowCondition? g
  return .delete recursive ctes only table byname sources condition (← returning? g)

/-- An option of an operator class: its name, and perhaps a value. -/
def classOption (g : Nested) : Parse Part := do
  let name ← label
  let names ← if ← symbol? "." then do pure [Part.name name, .words ".", .name (← label)]
    else pure [Part.name name]
  if ← symbol? "=" then return .group (names ++ [.words " = ", .operand false (← g.any)])
  else return .group names

/-- A key of an index: a column, a call or an expression in parentheses. -/
def indexKey (g : Nested) : Parse IndexKey := do
  let value ← if isSymbol "(" (← peek) then inParentheses g.any else do
    match columnName? (← peek) with
    | some name =>
      if isSymbol "(" (← peekSecond) || isSymbol "." (← peekSecond) then sourceFunction g
      else
        advance
        pure (.column [name] false)
    | none => sourceFunction g
  let collation ← if ← word? "collate" then dottedNames (← columnName) else pure []
  let operatorClass ← match columnName? (← peek) with
    | some name => do advance; dottedNames name
    | none => pure []
  let options ← if !operatorClass.isEmpty && isSymbol "(" (← peek) then do
      let items ← inParentheses (commaList (classOption g))
      pure [Part.words "(", .list items, .words ")"]
    else pure []
  let direction := match ← oneOf? ["asc", "desc"] with
    | some "asc" => SortDirection.ascending
    | some _ => .descending
    | none => .unspecified
  return .mk value collation operatorClass options direction (← nullsOrder)

def conflict? (g : Nested) : Parse Conflict := do
  if ← word? "on" then
    word "conflict"
    let (constraint, keys, condition) ← if isSymbol "(" (← peek) then do
        let keys ← inParentheses (commaList (indexKey g))
        pure (none, keys, ← condition? g "where")
      else if ← word? "on" then do
        word "constraint"
        pure (some (← columnName), [], none)
      else pure (none, [], none)
    word "do"
    if ← word? "nothing" then return .keep constraint keys condition
    else
      word "update"
      word "set"
      let assignments ← commaList (assignment g)
      return .update constraint keys condition assignments (← condition? g "where")
  else return .unspecified

/-- What `OVERRIDING` puts aside, if it is next. -/
def overriding? : Parse (Option String) := do
  if ← word? "overriding" then
    let kind ← oneOf ["user", "system"]
    word "value"
    return some kind.toUpper
  else return none

def insertedRows (g : Nested) : Parse (List Destination × Option String × Query) := do
  let ahead ← peekSecond
  let isQuery := startsQuery ahead (← peekThird) || isSymbol "(" ahead
  if ← word? "default" then
    word "values"
    return ([], none, plainQuery .defaults)
  else if isSymbol "(" (← peek) && !isQuery then
    let columns ← inParentheses (commaList (destination g))
    let overriding ← overriding?
    return (columns, overriding, ← query g)
  else
    let overriding ← overriding?
    return ([], overriding, ← query g)

def insertOf (g : Nested) (recursive : Bool) (ctes : List Cte) : Parse Statement := do
  word "into"
  let table ← tableName g
  let byname ← if ← word? "as" then some <$> columnName else pure none
  let (columns, overriding, rows) ← insertedRows g
  let conflict ← conflict? g
  return .insert recursive ctes table byname columns overriding rows conflict (← returning? g)

/-! ## `MERGE` -/

/-- When a branch of `MERGE` applies: its words, and whether there is a row to change. -/
def mergeCase : Parse (String × Bool) := do
  word "when"
  if ← anyWord? "not" then
    word "matched"
    match ← phraseOf? [("by", [])] with
    | none => return ("WHEN NOT MATCHED", false)
    | some _ =>
      if (← oneOf ["source", "target"]) = "source" then
        return ("WHEN NOT MATCHED BY SOURCE", true)
      else return ("WHEN NOT MATCHED BY TARGET", false)
  else
    word "matched"
    return ("WHEN MATCHED", true)

def mergedRow (g : Nested) : Parse (List Part) := do
  if ← word? "default" then
    word "values"
    return [.words " DEFAULT VALUES"]
  else
    let columns ← if isSymbol "(" (← peek) then do
        pure [Part.words " (", .destinations (← inParentheses (commaList (destination g))),
          .words ")"]
      else pure []
    let overriding := match ← overriding? with
      | some kind => [Part.words s!" OVERRIDING {kind} VALUE"]
      | none => []
    word "values"
    let values ← inParentheses g.list
    return columns ++ overriding
      ++ [.words " VALUES (", .list (values.map (.operand false ·)), .words ")"]

def mergeAction (g : Nested) (hasRow : Bool) : Parse (List Part) := do
  if ← word? "do" then
    word "nothing"
    return [.words "DO NOTHING"]
  else if hasRow then
    if (← oneOf ["update", "delete"]) = "delete" then return [.words "DELETE"]
    else
      word "set"
      return [.words "UPDATE SET ", .assignments (← commaList (assignment g))]
  else
    word "insert"
    return .words "INSERT" :: (← mergedRow g)

def mergeBranch (g : Nested) : Parse (List Part) := do
  let (words, hasRow) ← mergeCase
  let condition ← if ← word? "and" then do pure [Part.words " AND ", ← innerOperand g]
    else pure []
  word "then"
  return [.words (" " ++ words)] ++ condition ++ [.words " THEN "] ++ (← mergeAction g hasRow)

def mergeOf (g : Nested) : Parse Statement := do
  word "into"
  let (only, table, byname) ← changedTable g
  word "using"
  let other ← source g
  word "on"
  let condition ← innerOperand g
  let first ← mergeBranch g
  let more ← repeated (fun (found : List (List Part)) => do
    if isWord "when" (← peek) then return some ((← mergeBranch g) :: found) else return none) []
  let returning ← match ← returning? g with
    | .mk _ [] => pure []
    | found => pure [Part.words " ", .returning found]
  let target := FromItem.table only table (byname.map (⟨·, []⟩))
  return .other "MergeStmt" ([.words "MERGE INTO ", .source target, .words " USING ",
    .source other, .words " ON ", condition] ++ first ++ more.reverse.flatten ++ returning)

/-! ## Statements that return rows -/

/-- A statement that may follow `WITH`, or a query. -/
def rowStatement (g : Nested) (found : Option (Nat × Bool × List Cte)) :
    Parse Statement := do
  let (recursive, ctes) := match found with
    | some (_, recursive, ctes) => (recursive, ctes)
    | none => (false, [])
  if ← word? "insert" then insertOf g recursive ctes
  else if ← word? "update" then updateOf g recursive ctes
  else if ← word? "delete" then deleteOf g recursive ctes
  else if ← word? "merge" then mergeOf g
  else return .query (← queryAfter g found)

def returningStatement (g : Nested) : Parse Statement := do rowStatement g (← ctes? g)

end IndexAdvisor.Sql.Grammar
