import IndexAdvisor.Sql.Utility.Statement

/-! # Reading statements -/

namespace IndexAdvisor.Sql

namespace Grammar

open Parse

def statement (g : Nested) : Parse Statement := do
  let lexeme ← peek
  let rows := ["select", "values", "table", "with", "insert", "update", "delete", "merge"].any
    (isWord · lexeme)
  if rows || isJoined "with" lexeme || isSymbol "(" lexeme then returningStatement g
  else return .other (← Utility.statement.read g "") []

/-- Statements with semicolons between them; some may be empty. -/
def statements (g : Nested) : Parse (List Statement) := do
  let semicolons : Parse Unit := modify (List.dropWhile (isSymbol ";" ·.lexeme))
  let found ← repeated (fun (found : List Statement) => do
    semicolons
    match ← peek with
    | .finish => return none
    | _ =>
      let s ← statement g
      match ← peek with
      | .finish | .symbol ";" => return some (s :: found)
      | _ => unexpected) []
  return found.reverse

end Grammar

/-- The readers for a depth of nesting. Each level of nesting takes at least one token, so no text
    reaches the bottom if the depth is the number of its tokens. -/
def Nested.level : Nat → Nested
  | 0 =>
    { expr := fun _ _ => Parse.unexpected
      operand := fun _ => Parse.unexpected
      query := Parse.unexpected
      rows := Parse.unexpected
      statement := Parse.unexpected
      source := Parse.unexpected
      groupKey := Parse.unexpected
      arrayItems := Parse.unexpected
      grouped := Parse.unexpected
      groupedSource := Parse.unexpected }
  | depth + 1 =>
    let g := Nested.level depth
    { expr := Grammar.expr g
      operand := Grammar.operand g
      query := Grammar.query g
      rows := Grammar.returningStatement g
      statement := Grammar.statement g
      source := Grammar.source g
      groupKey := Grammar.groupKey g
      arrayItems := Grammar.arrayItems g
      grouped := Grammar.grouped g
      groupedSource := Grammar.groupedSource g }

/-- The statements of a text, or why it has none. -/
def Statement.readAll (sql : String) : Except SyntaxError (List Statement) :=
  let tokens := Token.scan sql
  match (Grammar.statements (Nested.level (tokens.length + 1))).run tokens with
  | .ok (found, _) => .ok found
  | .error e => .error e

end IndexAdvisor.Sql
