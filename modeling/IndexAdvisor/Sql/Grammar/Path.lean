import IndexAdvisor.Sql.Grammar.TypeName

/-! # Reading paths

A path leads from a name or value to one of its parts: `.field`, `.*`, `[index]`, `[low:high]`.
-/

namespace IndexAdvisor.Sql.Grammar

open Parse

/-- The rest of a step in brackets, after the opening one. -/
def bracketed (g : Nested) : Parse Step := do
  let bound? : Parse (Option Expr) := do
    let lexeme ← peek
    if isSymbol ":" lexeme || isSymbol "]" lexeme then return none else return some (← g.any)
  if ← symbol? ":" then
    let high ← bound?
    symbol "]"
    return .slice none high
  else
    let low ← g.any
    if ← symbol? ":" then
      let high ← bound?
      symbol "]"
      return .slice (some low) high
    else
      symbol "]"
      return .index low

def step? (g : Nested) : Parse (Option Step) := do
  if ← symbol? "." then
    if ← symbol? "*" then return some .star else return some (.field (← label))
  else if ← symbol? "[" then return some (← bracketed g)
  else return none

def steps (g : Nested) : Parse (List Step) := do
  let found ← repeated (fun (found : List Step) => do
    match ← step? g with
    | some s => return some (s :: found)
    | none => return none) []
  return found.reverse

/-- Whether a star is followed by further steps. -/
def starInside : List Step → Bool
  | [] => false
  | [_] => false
  | .star :: _ => true
  | _ :: rest => starInside rest

/-- Steps in which a star may only be the last. -/
def checkedSteps (g : Nested) : Parse (List Step) := do
  let found ← steps g
  if starInside found then throw (.misplacedStar (← next)) else return found

/-- A value with the steps that follow it. -/
def accessed (g : Nested) (base : Expr) : Parse Expr := do
  match ← checkedSteps g with
  | [] => return base
  | found => return .access base found

/-- The field names among the first steps, and the steps after them. -/
def leadingFields : List Step → List String × List Step
  | .field name :: rest => let (names, others) := leadingFields rest; (name :: names, others)
  | others => ([], others)

/-- The column that a name and the steps after it lead to. -/
def columnOf (name : String) (found : List Step) : Expr :=
  match leadingFields found with
  | (names, []) => .column (name :: names) false
  | (names, [.star]) => .column (name :: names) true
  | (names, others) => .access (.column (name :: names) false) others

def namePath (first : String) (found : List Step) : Parse (List String) := do
  match leadingFields found with
  | (names, []) => return first :: names
  | _ => unexpected

def tableOf (place : Nat) (names : List String) : Parse TableName := do
  match names with
  | [name] => return ⟨none, none, name⟩
  | [schema, name] => return ⟨none, some schema, name⟩
  | [catalog, schema, name] => return ⟨some catalog, some schema, name⟩
  | _ => impossible (.longName names) place

def tableName (g : Nested) : Parse TableName := do
  let place := (← next).start
  let first ← columnName
  tableOf place (← namePath first (← steps g))

end IndexAdvisor.Sql.Grammar
