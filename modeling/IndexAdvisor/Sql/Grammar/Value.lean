import IndexAdvisor.Sql.Grammar.Form

/-! # Reading values

The operands of expressions: constants, columns, calls, special forms, and whatever stands in
parentheses.
-/

namespace IndexAdvisor.Sql.Grammar

open Parse

/-- The row on the right of `OVERLAPS`. -/
def otherRow (g : Nested) : Parse (List Expr) := do
  if ← word? "row" then inParentheses do if isSymbol ")" (← peek) then return [] else g.list
  else
    match ← g.grouped with
    | .inr (a :: b :: more) => return a :: b :: more
    | _ => unexpected

/-- A row that begins at a place, or the call that `OVERLAPS` between two rows stands for; each of
    them has to hold two values. -/
def rowOf (explicit : Bool) (place : Nat) (items : List Expr) (g : Nested) : Parse Expr := do
  if ← word? "overlaps" then
    let otherPlace := (← next).start
    let others ← otherRow g
    if items.length ≠ 2 then impossible .overlapsLeft place
    else if others.length ≠ 2 then impossible .overlapsRight otherPlace
    else return systemCall "overlaps" (items ++ others)
  else return .row explicit items

def groupedValue (g : Nested) : Parse Expr := do
  let place := (← next).start
  match ← g.grouped with
  | .inl query => accessed g (.subquery query)
  | .inr [single] => accessed g single
  | .inr items => rowOf false place items g

/-! ## Special forms -/

def caseOf (g : Nested) : Parse Expr := do
  let subject ← if isWord "when" (← peek) then pure none else some <$> g.any
  let branch : Parse When := do
    word "when"
    let condition ← g.any
    word "then"
    return .mk condition (← g.any)
  let first ← branch
  let more ← repeated (fun (found : List When) => do
    if isWord "when" (← peek) then return some ((← branch) :: found) else return none) []
  let otherwise ← if ← word? "else" then some <$> g.any else pure none
  word "end"
  return .case subject (first :: more.reverse) otherwise

def castOf (g : Nested) : Parse Expr := inParentheses do
  let operand ← g.any
  word "as"
  return .cast operand (← typeName g)

/-- The field that `EXTRACT` takes out of a moment. -/
def extractField : Parse Expr := do
  match ← peek with
  | .identifier name => advance; return .constant (.text name)
  | .text content => advance; return .constant (.text content)
  | .parameter n => advance; return .parameter n
  | _ => return .constant (.text (← oneOf ["year", "month", "day", "hour", "minute", "second"]))

def extractOf (g : Nested) : Parse Expr := inParentheses do
  let field ← extractField
  word "from"
  return systemCall "extract" [field, ← g.any]

def positionOf (g : Nested) : Parse Expr := inParentheses do
  let part ← g.operand Precedence.lowest
  word "in"
  let whole ← g.operand Precedence.lowest
  return systemCall "position" [whole, part]

/-- The arguments of a plain call in a special form, after the first one. -/
def plainArguments (g : Nested) (first : Expr) : Parse (List Expr) := do
  let more ← repeated (fun (found : List Expr) => do
    if ← symbol? "," then return some ((← argument g) :: found) else return none) []
  return first :: more.reverse

/-- An argument whose expression may be followed by a keyword of a special form. -/
def leadingArgument (g : Nested) : Parse Expr := do
  let ahead ← peekSecond
  if isSymbol ":=" ahead || isSymbol "=>" ahead then argument g
  else g.expr Precedence.lowest true

def substringOf (g : Nested) : Parse Expr := inParentheses do
  if isSymbol ")" (← peek) then return plainCall ["substring"] []
  else
    let text ← leadingArgument g
    if ← word? "from" then
      let start ← g.any
      if ← word? "for" then return systemCall "substring" [text, start, ← g.any]
      else return systemCall "substring" [text, start]
    else if ← word? "for" then
      let count ← g.any
      if ← word? "from" then return systemCall "substring" [text, ← g.any, count]
      else
        return systemCall "substring"
          [text, wholeConstant 1, .cast count (systemType "int4" [])]
    else if ← word? "similar" then
      let pattern ← g.any
      word "escape"
      return systemCall "substring" [text, pattern, ← g.any]
    else return plainCall ["substring"] (← plainArguments g text)

def overlayOf (g : Nested) : Parse Expr := inParentheses do
  if isSymbol ")" (← peek) then return plainCall ["overlay"] []
  else
    let text ← leadingArgument g
    if ← word? "placing" then
      let replacement ← g.any
      word "from"
      let start ← g.any
      if ← word? "for" then return systemCall "overlay" [text, replacement, start, ← g.any]
      else return systemCall "overlay" [text, replacement, start]
    else return plainCall ["overlay"] (← plainArguments g text)

def trimOf (g : Nested) : Parse Expr := inParentheses do
  let name := match ← oneOf? ["both", "leading", "trailing"] with
    | some "leading" => "ltrim"
    | some "trailing" => "rtrim"
    | _ => "btrim"
  if ← word? "from" then return systemCall name (← g.list)
  else
    let first ← g.any
    if ← word? "from" then return systemCall name ((← g.list) ++ [first])
    else if ← symbol? "," then return systemCall name (first :: (← g.list))
    else return systemCall name [first]

def treatOf (g : Nested) : Parse Expr := inParentheses do
  let operand ← g.any
  word "as"
  match ← typeName g with
  | .mk _ names .. => return systemCall (names.getLastD "") [operand]

def normalizeOf (g : Nested) : Parse Expr := inParentheses do
  let operand ← g.any
  if ← symbol? "," then
    let form ← oneOf ["nfc", "nfd", "nfkc", "nfkd"]
    return systemCall "normalize" [operand, .constant (.text form.toUpper)]
  else return systemCall "normalize" [operand]

def nullIfOf (g : Nested) : Parse Expr := inParentheses do
  let left ← g.any
  symbol ","
  return .nullIf left (← g.any)

def arrayOf (g : Nested) : Parse Expr := do
  if isSymbol "[" (← peek) then return .array (← g.arrayItems)
  else return .arrayQuery (← queryInParentheses g)

/-- The elements of an array, in brackets; each may be an array in brackets itself. -/
def arrayItems (g : Nested) : Parse (List Expr) := do
  symbol "["
  let lexeme ← peek
  if isSymbol "]" lexeme then
    advance
    return []
  else if isSymbol "[" lexeme then
    let rows ← commaList g.arrayItems
    symbol "]"
    return rows.map .array
  else
    let items ← g.list
    symbol "]"
    return items

def explicitRow (g : Nested) (place : Nat) : Parse Expr := do
  let items ← inParentheses do
    if isSymbol ")" (← peek) then return [] else g.list
  rowOf true place items g

/-- `UNIQUE` of a query, which begins at a place. -/
def uniqueOf (g : Nested) (place : Nat) : Parse Expr := do
  if ← word? "nulls" then
    let _ ← anyWord? "not"
    word "distinct"
  let _ ← queryInParentheses g
  impossible .uniquePredicate place

/-! ## Names and keywords -/

/-- A literal of a type that a keyword names, if one is next. -/
def typedLiteral? (g : Nested) : Parse (Option Expr) := do
  match ← peek with
  | .keyword w _ =>
    let ahead ← peekSecond
    let text := (literalContent? ahead).isSome
    let sized := text || isSymbol "(" ahead
    let begins :=
      if (plainTypes.lookup w).isSome then text
      else if ["float", "decimal", "dec", "numeric", "interval"].contains w then sized
      else if ["bit", "character", "char", "nchar", "varchar"].contains w then
        sized || isWord "varying" ahead
      else if w = "timestamp" || w = "time" then
        sized || isJoined "with" ahead || isJoined "without" ahead
      else if w = "national" then isWord "character" ahead || isWord "char" ahead
      else w = "double" && isWord "precision" ahead
    if !begins then return none
    else
      let content : Parse Expr := do
        match literalContent? (← peek) with
        | some content => advance; return content
        | none => unexpected
      if ← word? "interval" then
        match ← precision? with
        | some n => return some (.cast (← content) (preciseInterval n))
        | none =>
          let operand ← content
          return some (.cast operand (intervalType (← intervalFields?)))
      else
        match ← keywordType? g true with
        | some type => return some (.cast (← content) type)
        | none => unexpected
  | _ => return none

/-- What a path of names leads to: a call, a literal of a named type, or a column. -/
def pathValue (g : Nested) (name : String) (found : List Step) : Parse Expr := do
  let lexeme ← peek
  if isSymbol "(" lexeme then callOf g (← namePath name found)
  else
    match literalContent? lexeme with
    | some content =>
      let names ← namePath name found
      advance
      return .cast content (.mk false names [] [])
    | none =>
      if starInside found then throw (.misplacedStar (← next)) else return columnOf name found

def nameValue (g : Nested) (name : String) : Parse Expr := do
  advance
  pathValue g name (← steps g)

/-- A value that begins with a name that no function or type has by itself. -/
def columnValue (g : Nested) (name : String) : Parse Expr := do
  advance
  match ← steps g with
  | [] => return .column [name] false
  | found => pathValue g name found

/-- A call of, or a literal of the type with, a name that no column may have. -/
def functionValue (g : Nested) (name : String) : Parse Expr := do
  advance
  let lexeme ← peek
  if isSymbol "(" lexeme then callOf g [name]
  else
    match literalContent? lexeme with
    | some content =>
      advance
      return .cast content (.mk false [name] [] [])
    | none => unexpected

def valueKeywords : List String :=
  ["current_date", "current_role", "current_user", "user", "session_user", "system_user",
   "current_catalog"]

/-- The keywords that are values and may have a precision. -/
def preciseKeywords : List String :=
  ["current_time", "current_timestamp", "localtime", "localtimestamp"]

/-- The functions with a special form: a keyword before an opening parenthesis. -/
def functionForm? (g : Nested) (w : String) : Option (Parse Expr) :=
  match w with
  | "coalesce" => some do return .coalesce (← inParentheses g.list)
  | "greatest" => some do return .extreme true (← inParentheses g.list)
  | "least" => some do return .extreme false (← inParentheses g.list)
  | "nullif" => some (nullIfOf g)
  | "extract" => some (extractOf g)
  | "position" => some (positionOf g)
  | "substring" => some (substringOf g)
  | "overlay" => some (overlayOf g)
  | "trim" => some (trimOf g)
  | "treat" => some (treatOf g)
  | "normalize" => some (normalizeOf g)
  | _ => formOf? g w

/-- The special forms that look like a call; the keyword is at a place. -/
def callForm? (g : Nested) (place : Nat) (w : String) : Option (Parse Expr) :=
  match w with
  | "exists" => some do return .existsQuery (← queryInParentheses g)
  | "row" => some (explicitRow g place)
  | "grouping" => some do return .grouping (← inParentheses g.list)
  | _ => functionForm? g w

def keywordValue (g : Nested) (w : String) (standing : Keyword.Standing) : Parse Expr := do
  match ← typedLiteral? g with
  | some literal => return literal
  | none =>
    match callForm? g (← next).start w, isSymbol "(" (← peekSecond) with
    | some form, true => advance; form
    | _, called =>
      if valueKeywords.contains w then
        advance
        return .keywordValue w none
      else if preciseKeywords.contains w then
        advance
        return .keywordValue w (← precision?)
      else
        match w with
        | "true" => advance; return .constant (.boolean true)
        | "false" => advance; return .constant (.boolean false)
        | "null" => advance; return .constant .null
        | "case" => advance; caseOf g
        | "cast" => advance; castOf g
        | "array" => advance; arrayOf g
        | "unique" =>
          let place := (← next).start
          advance
          uniqueOf g place
        | "current_schema" =>
          if called then functionValue g w
          else
            advance
            return .keywordValue w none
        | "collation" =>
          if isWord "for" (← peekSecond) then
            advance
            advance
            return systemCall "pg_collation_for" [← inParentheses g.any]
          else functionValue g w
        | _ =>
          match standing with
          | .unreserved => nameValue g w
          | .columnName => columnValue g w
          | .functionName => functionValue g w
          | .reserved => unexpected

def value (g : Nested) : Parse Expr := do
  match ← peek with
  | .integer n => advance; return wholeConstant n
  | .number source => advance; return .constant (.number source)
  | .text content => advance; return .constant (.text content)
  | .bits radix digits => advance; return .constant (.bits radix digits)
  | .parameter n => advance; accessed g (.parameter n)
  | .symbol "(" => groupedValue g
  | .identifier name => nameValue g name
  | .keyword w standing => keywordValue g w standing
  | _ => unexpected

end IndexAdvisor.Sql.Grammar
