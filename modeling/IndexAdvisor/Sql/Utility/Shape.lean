import IndexAdvisor.Sql.Grammar.Basic

/-! # Shapes of statements

Of a statement that is not analysed only the kind is kept. Its grammar is data: a shape says which
tokens may follow each other, and reading along a shape takes them from the left. What comes next
decides between parts, so a statement fails at the first token with which none could go on.
-/

namespace IndexAdvisor.Sql

open Parse

/-- What a part of a statement is made of. -/
inductive Shape where
  | nothing
  /-- A keyword read by itself. -/
  | word (w : String)
  /-- A keyword that belongs to the word after it. -/
  | joined (w : String)
  | mark (m : String)
  | part (begins : Lexeme → Bool) (read : Nested → Parse Unit)
  | both (first second : Shape)
  | either (first second : Shape)
  | many (item : Shape)
  /-- One of two parts; the lexemes that come next decide. -/
  | given (test : List Lexeme → Bool) (yes no : Shape)
  /-- No part, but from here on the statement is of a kind. -/
  | kind (name : String)
  /-- A part that is refused once it is complete. -/
  | refused (words : String) (body : Shape)

namespace Shape

/-! ## Combinations -/

def seq : List Shape → Shape
  | [] => .nothing
  | [s] => s
  | s :: rest => .both s (seq rest)

def oneOf : List Shape → Shape
  | [] => .nothing
  | [s] => s
  | s :: rest => .either s (oneOf rest)

/-- A keyword or a mark, by how it begins. -/
def ofWord (w : String) : Shape :=
  if w.toList.head?.any Char.isAlpha then .word w else .mark w

/-- Keywords and marks with blanks between them. -/
instance : Coe String Shape := ⟨fun words => seq ((words.splitOn " ").map ofWord)⟩

def keywords (words : String) : Shape := oneOf ((words.splitOn " ").map .word)

def option (parts : List Shape) : Shape := .either (seq parts) .nothing

def group (parts : List Shape) : Shape := seq (.mark "(" :: parts ++ [.mark ")"])

/-- One or more parts with commas between them. -/
def list (item : Shape) : Shape := .both item (.many (.both (.mark ",") item))

def areNext (words : List String) (ahead : List Lexeme) : Bool :=
  words.length ≤ ahead.length && (words.zip ahead).all fun (w, lexeme) => isWord w lexeme

/-- One of two parts; the first if given keywords come next. -/
def ifNext (words : String) (yes no : Shape) : Shape :=
  .given (areNext (words.splitOn " ")) yes no

/-- One of two parts, by the second lexeme that comes next. -/
def ifSecond (test : Lexeme → Bool) (yes no : Shape) : Shape :=
  .given (fun ahead => ahead[1]?.any test) yes no

/-! ## Reading -/

/-- Whether a part may take no token. -/
def canBeEmpty : Shape → Bool
  | .nothing | .many _ | .kind _ => true
  | .word _ | .joined _ | .mark _ | .part .. => false
  | .both a b => a.canBeEmpty && b.canBeEmpty
  | .either a b | .given _ a b => a.canBeEmpty || b.canBeEmpty
  | .refused _ a => a.canBeEmpty

/-- Whether a part may begin with the lexemes that come next. -/
def starts (ahead : List Lexeme) : Shape → Bool
  | .nothing | .kind _ => false
  | .word w => ahead.head?.any (isWord w)
  | .joined w => ahead.head?.any (isJoined w)
  | .mark m => ahead.head?.any (isSymbol m)
  | .part begins _ => ahead.head?.any begins
  | .both a b => a.starts ahead || (a.canBeEmpty && b.starts ahead)
  | .either a b => a.starts ahead || b.starts ahead
  | .many a | .refused _ a => a.starts ahead
  | .given test a b => if test ahead then a.starts ahead else b.starts ahead

/-- How many lexemes decide between parts. -/
def reach : Nat := 4

def ahead : Parse (List Lexeme) := return ((← get).take reach).map (·.lexeme)

/-- Takes the tokens of a part; gives the kind that is known after it. -/
def read (g : Nested) : Shape → String → Parse String
  | .nothing, k => return k
  | .word w, k => do Parse.word w; return k
  | .joined w, k => do
    if isJoined w (← peek) then advance; return k else unexpected
  | .mark m, k => do symbol m; return k
  | .part begins take, k => do
    if begins (← peek) then take g; return k else unexpected
  | .both a b, k => do b.read g (← a.read g k)
  | .either a b, k => do
    let next ← ahead
    if a.starts next || (a.canBeEmpty && !b.starts next) then a.read g k else b.read g k
  | .many a, k => repeated (fun k => do
      if a.starts (← ahead) then some <$> a.read g k else return none) k
  | .given test a b, k => do
    if test (← ahead) then a.read g k else b.read g k
  | .kind name, _ => return name
  | .refused words a, k => do
    let place := (← next).start
    let _ ← a.read g k
    impossible (.refused words) place

end Shape

end IndexAdvisor.Sql
