import IndexAdvisor.Sql.Grammar.Basic
import IndexAdvisor.Sql.IntervalFields

/-! # Reading type names

Types that SQL names by keywords are kept under their names in `pg_catalog`.
-/

namespace IndexAdvisor.Sql.Grammar

open Parse

def systemType (name : String) (modifiers : List Expr) : TypeName :=
  .mk false ["pg_catalog", name] modifiers []

def wholeConstant (n : Nat) : Expr := .constant (.integer n)

/-- Expressions in parentheses, none if there are none. -/
def modifiers (g : Nested) : Parse (List Expr) := do
  if isSymbol "(" (← peek) then inParentheses g.list else return []

/-- A whole number in parentheses, if one is next. -/
def precision? : Parse (Option Nat) := do
  if isSymbol "(" (← peek) then return some (← inParentheses wholeNumber) else return none

/-- `FLOAT`, whose precision in bits picks one of two types. -/
def floatType : Parse TypeName := do
  if isSymbol "(" (← peek) then
    advance
    let place := (← next).start
    let bits ← wholeNumber
    symbol ")"
    if bits < 1 then impossible .floatTooSmall place
    else if bits ≤ 24 then return systemType "float4" []
    else if bits ≤ 53 then return systemType "float8" []
    else impossible .floatTooLarge place
  else return systemType "float8" []

/-- `BIT`; outside of a literal a type without length has length one. -/
def bitType (g : Nested) (literal : Bool) : Parse TypeName := do
  let varying ← word? "varying"
  let lengths ← modifiers g
  if varying then return systemType "varbit" lengths
  else if lengths.isEmpty && !literal then return systemType "bit" [wholeConstant 1]
  else return systemType "bit" lengths

/-- A text type; outside of a literal a type of fixed width without length has length one. -/
def characterType (varying literal : Bool) : Parse TypeName := do
  match ← precision?, varying with
  | some n, true => return systemType "varchar" [wholeConstant n]
  | some n, false => return systemType "bpchar" [wholeConstant n]
  | none, true => return systemType "varchar" []
  | none, false => return systemType "bpchar" (if literal then [] else [wholeConstant 1])

/-- `TIME` or `TIMESTAMP`, perhaps with a time zone. -/
def clockType (base : String) : Parse TypeName := do
  let digits ← precision?
  let lengths := digits.toList.map wholeConstant
  if isJoined "with" (← peek) then
    advance
    word "time"
    word "zone"
    return systemType (base ++ "tz") lengths
  else if isJoined "without" (← peek) then
    advance
    word "time"
    word "zone"
    return systemType base lengths
  else return systemType base lengths

/-- The last field of an interval: its name, and perhaps a precision for seconds. -/
def intervalEnd (fields : List String) : Parse (String × List Expr) := do
  let field ← oneOf fields
  if field = "second" then return (field, (← precision?).toList.map wholeConstant)
  else return (field, [])

/-- The fields of an interval, if it has any: their number, and perhaps a precision. -/
def intervalFields? : Parse (List Expr) := do
  let fields (words : String) : Expr := .constant (.integer (IntervalFields.ofWords words))
  match ← oneOf? ["year", "month", "day", "hour", "minute"] with
  | some first =>
    let finer := match first with
      | "year" => ["month"]
      | "day" => ["hour", "minute", "second"]
      | "hour" => ["minute", "second"]
      | "minute" => ["second"]
      | _ => []
    if !finer.isEmpty && isWord "to" (← peek) then
      advance
      let (last, digits) ← intervalEnd finer
      return fields (first ++ " to " ++ last) :: digits
    else return [fields first]
  | none =>
    if isWord "second" (← peek) then
      let (last, digits) ← intervalEnd ["second"]
      return fields last :: digits
    else return []

def intervalType (lengths : List Expr) : TypeName := systemType "interval" lengths

/-- The interval type of every field with a precision. -/
def preciseInterval (digits : Nat) : TypeName :=
  intervalType [.constant (.integer IntervalFields.full), wholeConstant digits]

/-- The types without further parts that keywords name. -/
def plainTypes : List (String × String) :=
  [("int", "int4"), ("integer", "int4"), ("smallint", "int2"), ("bigint", "int8"),
   ("real", "float4"), ("boolean", "bool"), ("json", "json")]

/-- A type that a keyword names, if one is next. -/
def keywordType? (g : Nested) (literal : Bool) : Parse (Option TypeName) := do
  match ← peek with
  | .keyword w _ =>
    match plainTypes.lookup w with
    | some name => advance; return some (systemType name [])
    | none =>
      match w with
      | "float" => advance; return some (← floatType)
      | "double" =>
        if isWord "precision" (← peekSecond) then
          advance
          advance
          return some (systemType "float8" [])
        else return none
      | "decimal" | "dec" | "numeric" => advance; return some (systemType "numeric" (← modifiers g))
      | "bit" => advance; return some (← bitType g literal)
      | "character" | "char" | "nchar" =>
        advance
        return some (← characterType (← word? "varying") literal)
      | "varchar" => advance; return some (← characterType true literal)
      | "national" =>
        advance
        let _ ← oneOf ["character", "char"]
        return some (← characterType (← word? "varying") literal)
      | "timestamp" | "time" => advance; return some (← clockType w)
      | _ => return none
  | _ => return none

/-- The brackets after a type, which make it an array. -/
def arrayBounds : Parse (List (Option Nat)) := do
  if ← word? "array" then
    if ← symbol? "[" then
      let n ← wholeNumber
      symbol "]"
      return [some n]
    else return [none]
  else
    let found ← repeated (fun (found : List (Option Nat)) => do
      if ← symbol? "[" then
        if ← symbol? "]" then return some (none :: found)
        else
          let n ← wholeNumber
          symbol "]"
          return some (some n :: found)
      else return none) []
    return found.reverse

def typeName (g : Nested) : Parse TypeName := do
  let isSet ← word? "setof"
  let finish : TypeName → Parse TypeName
    | .mk _ names lengths _ => do return .mk isSet names lengths (← arrayBounds)
  match ← keywordType? g false with
  | some type => finish type
  | none =>
    if ← word? "interval" then
      match ← precision? with
      | some n => finish (preciseInterval n)
      | none => finish (intervalType (← intervalFields?))
    else
      let names ← dottedNames (← named functionName?)
      finish (.mk false names (← modifiers g) [])

end IndexAdvisor.Sql.Grammar
