import IndexAdvisor.Sql.Grammar.Operation
import IndexAdvisor.Sql.Grammar.RowForm

/-! # Reading `FROM` items -/

namespace IndexAdvisor.Sql.Grammar

open Parse

/-! ## Aliases -/

def aliasColumns : Parse (List String) := do
  if isSymbol "(" (← peek) then nameList else return []

def alias? : Parse (Option Alias) := do
  if ← word? "as" then
    let name ← columnName
    return some ⟨name, ← aliasColumns⟩
  else
    match columnName? (← peek) with
    | some name => advance; return some ⟨name, ← aliasColumns⟩
    | none => return none

def resultColumn (g : Nested) : Parse ResultColumn := do
  let name ← columnName
  let type ← typeName g
  if ← word? "collate" then return .mk name type (← dottedNames (← columnName))
  else return .mk name type []

/-- Whether the parentheses that are next hold columns with types. -/
def typedColumnsAhead : Parse Bool := do
  let third ← peekThird
  return isSymbol "(" (← peek) && !isSymbol "," third && !isSymbol ")" third

/-- The columns after the alias of a function: their names, or their names and types. -/
def functionColumns (g : Nested) (name : String) : Parse (Option Alias × List ResultColumn) := do
  if ← typedColumnsAhead then
    return (some ⟨name, []⟩, ← inParentheses (commaList (resultColumn g)))
  else return (some ⟨name, ← aliasColumns⟩, [])

def functionAlias (g : Nested) : Parse (Option Alias × List ResultColumn) := do
  if ← word? "as" then
    if isSymbol "(" (← peek) then
      return (none, ← inParentheses (commaList (resultColumn g)))
    else functionColumns g (← columnName)
  else
    match columnName? (← peek) with
    | some name => advance; functionColumns g name
    | none => return (none, [])

/-! ## Single items -/

def ordinality? : Parse Bool := do
  if isJoined "with" (← peek) then
    advance
    word "ordinality"
    return true
  else return false

def functionSource (g : Nested) (lateral rowsFrom : Bool) (calls : List SourceCall) :
    Parse FromItem := do
  let ordinality ← ordinality?
  let (byname, columns) ← functionAlias g
  return .functions lateral rowsFrom ordinality calls byname columns

/-- A function as a table, after its call without columns. -/
def callSource (g : Nested) (lateral : Bool) (call : Expr) : Parse FromItem :=
  functionSource g lateral false [.mk call []]

/-- Whether a keyword begins a call that may stand in `FROM`, given the token after it. -/
def beginsCall (w : String) (ahead : Lexeme) (g : Nested) : Bool :=
  valueKeywords.contains w || preciseKeywords.contains w || w = "current_schema" || w = "cast"
    || ((functionForm? g w).isSome && isSymbol "(" ahead)
    || (w = "collation" && isWord "for" ahead)

def sourceFunction (g : Nested) : Parse Expr := do
  let lexeme ← peek
  match lexeme with
  | .keyword w standing =>
    if beginsCall w (← peekSecond) g then keywordValue g w standing
    else if standing = .reserved || standing = .columnName then unexpected
    else
      let name ← label
      sourceCall g (← namePath name (← steps g))
  | .identifier name =>
    advance
    sourceCall g (← namePath name (← steps g))
  | _ => unexpected

/-- `ROWS FROM` and its calls, each perhaps with the columns of its result. -/
def rowsFrom (g : Nested) (lateral : Bool) : Parse FromItem := do
  word "rows"
  word "from"
  let calls ← inParentheses (commaList do
    let call ← sourceFunction g
    if ← word? "as" then
      return SourceCall.mk call (← inParentheses (commaList (resultColumn g)))
    else return SourceCall.mk call [])
  functionSource g lateral true calls

def rowsFromAhead : Parse Bool := do
  return isWord "rows" (← peek) && isWord "from" (← peekSecond)

/-- A table, perhaps without the tables that inherit from it. -/
def relation (g : Nested) : Parse (Bool × TableName) := do
  if ← word? "only" then
    if isSymbol "(" (← peek) then return (true, ← inParentheses (tableName g))
    else return (true, ← tableName g)
  else
    let name ← tableName g
    let _ ← symbol? "*"
    return (false, name)

/-- A table with its alias, of which perhaps only some rows are drawn. -/
def sampled (g : Nested) (only : Bool) (table : TableName) : Parse FromItem := do
  let source := FromItem.table only table (← alias?)
  if ← word? "tablesample" then
    let method ← dottedNames (← named functionName?)
    let arguments ← inParentheses g.list
    let seed ← if ← word? "repeatable" then some <$> inParentheses g.any else pure none
    return .sample source method arguments seed
  else return source

/-- A table or a function, told apart by the parenthesis after its name. -/
def namedSource (g : Nested) (first : String) : Parse FromItem := do
  let place := (← next).start
  advance
  let found ← steps g
  if isSymbol "(" (← peek) then callSource g false (← sourceCall g (← namePath first found))
  else
    let table ← tableOf place (← namePath first found)
    let _ ← symbol? "*"
    sampled g false table

/-- Whether a form of rows begins with a keyword, given the token after it. -/
def beginsRows (w : String) (ahead : Lexeme) : Bool :=
  (w = "xmltable" || w = "json_table") && isSymbol "(" ahead

def rowsSource (g : Nested) (lateral : Bool) : Parse FromItem := do
  let parts ← rowsForm g
  return .form lateral parts (← alias?)

def rowsFormAhead : Parse Bool := do
  match ← peek with
  | .keyword w _ => return beginsRows w (← peekSecond)
  | _ => return false

def lateralSource (g : Nested) : Parse FromItem := do
  if isSymbol "(" (← peek) then
    let query ← queryInParentheses g
    return .query true query (← alias?)
  else if ← rowsFromAhead then rowsFrom g true
  else if ← rowsFormAhead then rowsSource g true
  else callSource g true (← sourceFunction g)

def withAlias (byname : Option Alias) : FromItem → FromItem
  | .join kind natural left right condition shared sharedAlias none =>
    .join kind natural left right condition shared sharedAlias byname
  | item => item

def singleSource (g : Nested) : Parse FromItem := do
  let lexeme ← peek
  if isSymbol "(" lexeme then
    match ← g.groupedSource with
    | .inl query => return .query false query (← alias?)
    | .inr join => return withAlias (← alias?) join
  else if ← word? "lateral" then lateralSource g
  else if isWord "only" lexeme then
    let (only, table) ← relation g
    sampled g only table
  else if ← rowsFromAhead then rowsFrom g false
  else if ← rowsFormAhead then rowsSource g false
  else
    match lexeme with
    | .identifier name => namedSource g name
    | .keyword w standing =>
      let ahead ← peekSecond
      if beginsCall w ahead g then callSource g false (← sourceFunction g)
      else
        match standing with
        | .unreserved => namedSource g w
        | .columnName =>
          if isSymbol "(" ahead then
            advance
            unexpected
          else namedSource g w
        | .functionName =>
          advance
          if isSymbol "(" ahead then callSource g false (← sourceCall g [w]) else unexpected
        | .reserved => unexpected
    | _ => unexpected

/-! ## Joins -/

def joinKind : Parse JoinKind := do
  match ← oneOf? ["inner", "left", "right", "full"] with
  | none => return .inner
  | some "inner" => return .inner
  | some side =>
    let _ ← word? "outer"
    return if side = "left" then .left else if side = "right" then .right else .full

def joined? (g : Nested) (kind : JoinKind) (left right : FromItem) : Parse FromItem := do
  if ← word? "on" then
    return .join kind false left right (some (← g.any)) [] none none
  else
    word "using"
    let shared ← nameList
    let sharedAlias ← if ← word? "as" then some <$> columnName else pure none
    return .join kind false left right none shared sharedAlias none

/-- The join that is next, with the given item on its left. A join with a condition takes
    further joins into its right side first. -/
def join? (g : Nested) (left : FromItem) : Parse (Option FromItem) := do
  let lexeme ← peek
  if isWord "cross" lexeme then
    advance
    word "join"
    let right ← singleSource g
    return some (.join .inner false left right none [] none none)
  else if isWord "natural" lexeme then
    advance
    let kind ← joinKind
    word "join"
    let right ← singleSource g
    return some (.join kind true left right none [] none none)
  else if ["join", "inner", "left", "right", "full"].any (isWord · lexeme) then
    let kind ← joinKind
    word "join"
    let right ← g.source
    return some (← joined? g kind left right)
  else return none

def source (g : Nested) : Parse FromItem := do
  repeated (join? g) (← singleSource g)

def sources? (g : Nested) (keyword : String) : Parse (List FromItem) := do
  if ← word? keyword then commaList (source g) else return []

end IndexAdvisor.Sql.Grammar
