import IndexAdvisor.Sql.Token.Lexer
import IndexAdvisor.Sql.Tree
import IndexAdvisor.Sql.Precedence

/-! # Reading from tokens

A reader consumes tokens from the left. Every choice is made by the tokens that come next and
never taken back, so that a failure is at the first token that no statement could continue with.
-/

namespace IndexAdvisor.Sql

/-- A statement that is well formed word by word but asks for something impossible. -/
inductive Complaint
  | repeatedClause (clause : String)
  | repeatedLimitOption
  | limitPair
  | tiesWithoutOrder
  | tiesWithSkipping
  | longName (names : List String)
  | floatTooSmall
  | floatTooLarge
  | frameStart
  | frameFinish
  | frameFromFollowing (bound : String)
  | frameFromCurrent
  | groupOrderTwice
  | groupDistinct
  | groupVariadic
  | modifierOrder
  | modifierName
  | overlapsLeft
  | overlapsRight
  | uniquePredicate
  /-- Any other limit of the language, in words. -/
  | refused (words : String)
  deriving Repr, Inhabited

def Complaint.message : Complaint → String
  | .repeatedClause clause => s!"multiple {clause} clauses not allowed"
  | .repeatedLimitOption => "multiple limit options not allowed"
  | .limitPair => "LIMIT #,# syntax is not supported"
  | .tiesWithoutOrder => "WITH TIES cannot be specified without ORDER BY clause"
  | .tiesWithSkipping => "SKIP LOCKED and WITH TIES options cannot be used together"
  | .longName names =>
    "improper qualified name (too many dotted names): " ++ ".".intercalate names
  | .floatTooSmall => "precision for type float must be at least 1 bit"
  | .floatTooLarge => "precision for type float must be less than 54 bits"
  | .frameStart => "frame start cannot be UNBOUNDED FOLLOWING"
  | .frameFinish => "frame end cannot be UNBOUNDED PRECEDING"
  | .frameFromFollowing bound => s!"frame starting from following row cannot {bound}"
  | .frameFromCurrent => "frame starting from current row cannot have preceding rows"
  | .groupOrderTwice => "cannot use multiple ORDER BY clauses with WITHIN GROUP"
  | .groupDistinct => "cannot use DISTINCT with WITHIN GROUP"
  | .groupVariadic => "cannot use VARIADIC with WITHIN GROUP"
  | .modifierOrder => "type modifier cannot have ORDER BY"
  | .modifierName => "type modifier cannot have parameter name"
  | .overlapsLeft => "wrong number of parameters on left side of OVERLAPS expression"
  | .overlapsRight => "wrong number of parameters on right side of OVERLAPS expression"
  | .uniquePredicate => "UNIQUE predicate is not yet implemented"
  | .refused words => words

/-- Why a text is no statement. -/
inductive SyntaxError
  /-- A token that cannot continue the statement. -/
  | unexpected (token : Token)
  /-- A `*` that is not at the end of a path; noticed at the given token. -/
  | misplacedStar (token : Token)
  | impossible (complaint : Complaint) (place : Option Nat)
  deriving Inhabited

/-- Where a syntax error was noticed, in characters. Faults of encoding and some complaints have
    no place. -/
def SyntaxError.place : SyntaxError → Option Nat
  | .unexpected t =>
    match t.lexeme with
    | .invalid (.encoding _) _ => none
    | _ => some t.start
  | .misplacedStar t => some t.start
  | .impossible _ place => place

def nearText (message : String) (t : Token) : String :=
  if t.source = "" then message ++ " at end of input"
  else message ++ " at or near \"" ++ t.source ++ "\""

def SyntaxError.message : SyntaxError → String
  | .unexpected t =>
    match t.lexeme with
    | .invalid e near => if near then nearText e.message t else e.message
    | _ => nearText "syntax error" t
  | .misplacedStar t => nearText "improper use of \"*\"" t
  | .impossible complaint _ => complaint.message

/-- A reader of a part of a statement. -/
abbrev Parse := StateT (List Token) (Except SyntaxError)

namespace Parse

/-- The next token, which stays. -/
def next : Parse Token := do
  match ← get with
  | [] => return ⟨.finish, 0, ""⟩
  | t :: _ => return t

def peek : Parse Lexeme := return (← next).lexeme

def peekSecond : Parse Lexeme := do
  match ← get with
  | _ :: t :: _ => return t.lexeme
  | _ => return .finish

def peekThird : Parse Lexeme := do
  match ← get with
  | _ :: _ :: t :: _ => return t.lexeme
  | _ => return .finish

def advance : Parse Unit := modify (List.drop 1)

/-- The next token cannot continue the statement. -/
def unexpected {α : Type} : Parse α := do throw (.unexpected (← next))

def impossible {α : Type} (complaint : Complaint) (place : Nat) : Parse α :=
  throw (.impossible complaint (some place))

/-- Whether a lexeme is a keyword read by itself. -/
def isWord (word : String) : Lexeme → Bool
  | .keyword w _ => w = word
  | _ => false

/-- Whether a lexeme is a keyword that only means something with the word after it. -/
def isJoined (word : String) : Lexeme → Bool
  | .joined w => w = word
  | _ => false

def isSymbol (mark : String) : Lexeme → Bool
  | .symbol m => m = mark
  | _ => false

def word? (word : String) : Parse Bool := do
  if isWord word (← peek) then advance; return true else return false

/-- Takes a keyword, joined to the next one or not, if it is next. -/
def anyWord? (word : String) : Parse Bool := do
  let lexeme ← peek
  if isWord word lexeme || isJoined word lexeme then advance; return true else return false

def symbol? (mark : String) : Parse Bool := do
  if isSymbol mark (← peek) then advance; return true else return false

def word (w : String) : Parse Unit := do
  if ← word? w then return else unexpected

def symbol (mark : String) : Parse Unit := do
  if ← symbol? mark then return else unexpected

def oneOf (words : List String) : Parse String := do
  match ← peek with
  | .keyword w _ => if words.contains w then advance; return w else unexpected
  | _ => unexpected

/-- Takes one of several keywords if one is next. -/
def oneOf? (words : List String) : Parse (Option String) := do
  match ← peek with
  | .keyword w _ => if words.contains w then advance; return some w else return none
  | _ => return none

/-! ## Repetition -/

/-- Takes steps until one declines, at most `fuel` of them. -/
def iterate {α : Type} (step : α → Parse (Option α)) : Nat → α → Parse α
  | 0, a => return a
  | fuel + 1, a => do
    match ← step a with
    | none => return a
    | some b => iterate step fuel b

/-- Takes steps until one declines. Every step takes a token, so there are no more of them than
    tokens. -/
def repeated {α : Type} (step : α → Parse (Option α)) (a : α) : Parse α := do
  iterate step (← get).length a

def commaList {α : Type} (part : Parse α) : Parse (List α) := do
  let first ← part
  let more ← repeated (fun (found : List α) => do
    if ← symbol? "," then return some ((← part) :: found) else return none) []
  return first :: more.reverse

def inParentheses {α : Type} (part : Parse α) : Parse α := do
  symbol "("
  let a ← part
  symbol ")"
  return a

/-! ## Names -/

/-- The name a token is, if keywords of the given standings count. -/
def nameOf? (standings : List Keyword.Standing) : Lexeme → Option String
  | .identifier name => some name
  | .keyword w standing => if standings.contains standing then some w else none
  | _ => none

def columnName? : Lexeme → Option String := nameOf? [.unreserved, .columnName]

def functionName? : Lexeme → Option String := nameOf? [.unreserved, .functionName]

/-- A name where any keyword may stand. -/
def label? : Lexeme → Option String
  | .joined w => some w
  | lexeme => nameOf? [.unreserved, .columnName, .functionName, .reserved] lexeme

def bareLabel? : Lexeme → Option String
  | .keyword w _ => if Keyword.labelsAlone w then some w else none
  | .identifier name => some name
  | _ => none

/-- Takes a name of the given kind. -/
def named (kind : Lexeme → Option String) : Parse String := do
  match kind (← peek) with
  | some name => advance; return name
  | none => unexpected

def columnName : Parse String := named columnName?

def label : Parse String := named label?

def wholeNumber : Parse Nat := do
  match ← peek with
  | .integer n => advance; return n
  | _ => unexpected

def nameList : Parse (List String) := inParentheses (commaList columnName)

/-- The names after the first one of a dotted path. -/
def dottedNames (first : String) : Parse (List String) := do
  let more ← repeated (fun (found : List String) => do
    if ← symbol? "." then return some ((← label) :: found) else return none) []
  return first :: more.reverse

end Parse

/-- The readers of the parts that contain each other. The reader of a part that is nested deeper
    is taken from here, so that each level of nesting is built from the one below it. -/
structure Nested where
  /-- An expression whose operators bind at least as tightly as the given precedence. With the
      flag, an operator keyword that cannot go on is left to be the label of the expression. -/
  expr : Nat → Bool → Parse Expr
  /-- An expression without conditions, as it may stand before `AND` or `IN`. -/
  operand : Nat → Parse Expr
  query : Parse Query
  /-- A query or another statement that works on rows. -/
  rows : Parse Statement
  statement : Parse Statement
  source : Parse FromItem
  groupKey : Parse GroupKey
  arrayItems : Parse (List Expr)
  grouped : Parse (Query ⊕ List Expr)
  groupedSource : Parse (Query ⊕ FromItem)

namespace Nested

def any (g : Nested) : Parse Expr := g.expr Precedence.lowest false

def list (g : Nested) : Parse (List Expr) := Parse.commaList g.any

end Nested

namespace Grammar

open Parse

/-- Whether a query begins with the given token, before the second one given. -/
def startsQuery (lexeme ahead : Lexeme) : Bool :=
  ["select", "with", "table"].any (isWord · lexeme) || isJoined "with" lexeme
    || (isWord "values" lexeme && isSymbol "(" ahead)

def queryAhead : Parse Bool := do return startsQuery (← peek) (← peekSecond)

def queryInParentheses (g : Nested) : Parse Query := inParentheses g.query

end Grammar

end IndexAdvisor.Sql
