import IndexAdvisor.Sql.Grammar.Statement
import IndexAdvisor.Sql.Placeholder
import IndexAdvisor.Sql.Printed
import IndexAdvisor.Text.Blank
import IndexAdvisor.Text.HalfPair
import IndexAdvisor.Usage.Walk

/-! # Statements under analysis

A text is accepted as a statement if it holds exactly one `SELECT`, `UPDATE`, `DELETE` or
`INSERT`. Its placeholders are numbered first.
-/

namespace IndexAdvisor

inductive StatementError
  | empty
  /-- A placeholder has a number that cannot be read. -/
  | number (cause : Number.WholeError)
  /-- The text with numbered placeholders is not correct. -/
  | syntaxError (sql : String) (cause : Sql.SyntaxError)
  /-- The text cannot be encoded. -/
  | encoding
  | count (found : Nat)
  | kind (name : String)
  deriving Inhabited

/-- The character that holds the byte at a place, counted in bytes; nothing beyond the last. -/
def charAtByte? (place : Nat) : List Char → Option Nat
  | [] => none
  | c :: cs =>
    if place < c.utf8Size then some 0
    else (charAtByte? (place - c.utf8Size) cs).map (· + 1)

/-- The report of a syntax error. Its place is taken for a number of bytes. -/
def syntaxReport (sql : String) (e : Sql.SyntaxError) : String :=
  match e.place.bind fun place => charAtByte? place sql.toList with
  | some index => s!"{e.message}, at index {index}"
  | none => e.message

def StatementError.message : StatementError → String
  | .empty => "Query cannot be empty"
  | .number cause => cause.message
  | .syntaxError sql cause => "Failed to parse SQL query: " ++ syntaxReport sql cause
  | .encoding => "surrogates not allowed"
  | .count found => s!"Expected a single statement, found {found}"
  | .kind name => s!"Unsupported statement type: {name}"

structure Parsed where
  /-- The text as given. -/
  query : String
  /-- The text with numbered placeholders. -/
  sql : String
  placeholderCount : Nat
  statement : Sql.Statement
  kind : StatementKind
  outline : Except Outline.AssignmentError Outline

/-- The kind of a statement, or the name of a kind that is not analysed. -/
def kindOf : Sql.Statement → Except String StatementKind
  | .query _ => .ok .select
  | .insert .. => .ok .insert
  | .update .. => .ok .update
  | .delete .. => .ok .delete
  | .other kind _ => .error kind

/-- Reads the statement of a text. -/
def Parsed.read (query : String) : Except StatementError Parsed := do
  if Text.isBlankText query then throw .empty
  let numbered ← (Sql.normalise query).mapError .number
  unless Text.isEncodable numbered.sql do throw .encoding
  let statements ← (Sql.Statement.readAll numbered.sql).mapError (.syntaxError numbered.sql)
  match statements with
  | [statement] =>
    let kind ← (kindOf statement).mapError .kind
    match Outline.ofStatement? statement with
    | some outline => return ⟨query, numbered.sql, numbered.count, statement, kind, outline⟩
    | none => throw (.kind kind.name)
  | _ => throw (.count statements.length)

def Parsed.hasPlaceholders (p : Parsed) : Bool := p.placeholderCount > 0

end IndexAdvisor
