import IndexAdvisor.Number.Whole
import IndexAdvisor.Path

/-! # Replay scripts

A bound query is kept as a numbered script, so that a workload driver can run it again. The
script opens a transaction, holds the query with the types and values of its parameters, and
closes the transaction in the way its id calls for.
-/

namespace IndexAdvisor.Replay

open Text Number

/-- What the id of a query says about its script. -/
structure Kind where
  start : String
  /-- What a script of the kind adds to its number, in units of the scale. -/
  multiplier : Nat
  /-- The command that ends the transaction. -/
  closing : String
  deriving Repr, DecidableEq

/-- The kinds of query that get a script. -/
def kinds : List Kind :=
  [⟨"query.select.", 2, "COMMIT"⟩, ⟨"query.update.", 3, "ROLLBACK"⟩,
    ⟨"query.delete.", 1, "ROLLBACK"⟩]

def kindOf? (queryId : String) : Option Kind :=
  kinds.find? fun kind => kind.start.toList.isPrefixOf queryId.toList

/-- Strips the leading zeros of a number one by one. The scale grows tenfold for each zero that
    follows a stripped one. -/
def stripZeros (scale : Nat) : List Char → Nat × List Char
  | '0' :: rest => stripZeros (if rest.head? = some '0' then scale * 10 else scale) rest
  | digits => (scale, digits)

/-- The script number of a kind for the digits of an id. -/
def numberOfDigits (kind : Kind) (digits : List Char) : Except WholeError Nat := do
  let (scale, rest) := stripZeros 100 digits
  let value ← if rest.isEmpty then pure 0 else readWhole (String.ofList rest)
  pure (value.toNat + kind.multiplier * scale)

/-- The script number of a query id, if the id is of a known kind and goes on in digits. -/
def number? (queryId : String) : Except WholeError (Option Nat) :=
  match kindOf? queryId with
  | none => .ok none
  | some kind =>
    let digits := queryId.toList.drop kind.start.length
    if digits.isEmpty || !digits.all isDigitSign then .ok none
    else (numberOfDigits kind digits).map some

def stripQuotes (value : String) : String :=
  let cs := value.toList
  if 2 ≤ cs.length ∧ cs.head? = some '\'' ∧ cs.getLast? = some '\'' then
    String.ofList (cs.drop 1).dropLast
  else value

/-- The lines of the script of a query. Types are given by their numbers. -/
def scriptLines (queryId query : String) (types : List Int) (values : List String) :
    List String :=
  let closing := ((kindOf? queryId).map Kind.closing).getD "ROLLBACK"
  let parameters :=
    if types.isEmpty then ["", ""]
    else ["|".intercalate (types.map toString), "|".intercalate (values.map stripQuotes)]
  ["#", "# " ++ queryId, "#", "P", "BEGIN", "", "", "P", query] ++ parameters
    ++ ["P", closing, "", ""]

def fileText (lines : List String) : String :=
  String.join (lines.map (· ++ "\n"))

structure Script where
  name : String
  content : String
  deriving Repr, DecidableEq

inductive ScriptError where
  /-- The number cannot be read or written. -/
  | number (cause : WholeError)
  /-- The path of the file has too long a name. -/
  | longName (path : Path)
  deriving Repr, DecidableEq

def ScriptError.message : ScriptError → String
  | .number cause => cause.message
  | .longName path => "[Errno 36] File name too long: " ++ quoted path.text

/-- The script file of a query in a folder, if its id gets one. -/
def script? (folder : Path) (queryId query : String) (types : List Int) (values : List String) :
    Except ScriptError (Option Script) := do
  match ← (number? queryId).mapError .number with
  | none => pure none
  | some n =>
    let name := (← (writeWhole n).mapError .number) ++ ".cli"
    if Path.longestName < name.utf8ByteSize then throw (.longName (folder.child name))
    pure (some ⟨name, fileText (scriptLines queryId query types values)⟩)

end IndexAdvisor.Replay
