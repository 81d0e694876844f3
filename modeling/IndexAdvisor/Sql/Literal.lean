import IndexAdvisor.Sql.Type
import IndexAdvisor.Text.Blank
import IndexAdvisor.Text.Hex

/-! # Literals

A sampled value written as SQL text for a column of a given type. Texts, dates and times are
put in quotes with every inner quote doubled, bytes are decoded from their hexadecimal form,
numbers and truth values stand bare.
-/

namespace IndexAdvisor.Sql

open Text

inductive BytesError where
  /-- A number does not fit a byte. -/
  | outOfRange
  /-- A count of zero bytes is negative. -/
  | negativeCount
  /-- A count of zero bytes is beyond all sizes. -/
  | hugeCount
  /-- A count of zero bytes is a size, but too large a one for a sequence of bytes. -/
  | largeCount
  /-- A count of zero bytes is beyond the memory. -/
  | noMemory
  /-- An element of the given kind is no number. -/
  | notByte (kind : String)
  /-- A value of the given kind has no bytes. -/
  | notBytes (kind : String)
  deriving Repr, DecidableEq

def BytesError.message : BytesError → String
  | .outOfRange => "bytes must be in range(0, 256)"
  | .negativeCount => "negative count"
  | .hugeCount => "cannot fit 'int' into an index-sized integer"
  | .largeCount => "byte string is too large"
  | .noMemory => ""
  | .notByte kind => s!"'{kind}' object cannot be interpreted as an integer"
  | .notBytes kind => s!"cannot convert '{kind}' object to bytes"

def byteOf : Value → Except BytesError UInt8
  | .bool b => .ok (if b then 1 else 0)
  | .int n => if 0 ≤ n ∧ n < 256 then .ok n.toNat.toUInt8 else .error .outOfRange
  | v => .error (.notByte v.kindName)

/-- The number of bytes that no memory holds. -/
def memorySize : Int := 0x10000000000

/-- The bytes that are kept beside those of a sequence. -/
def sequenceOverhead : Int := 33

/-- As many zero bytes as a number says. -/
def zeroBytes (n : Int) : Except BytesError (List UInt8) :=
  if n < -Number.wordLimit ∨ Number.wordLimit ≤ n then .error .hugeCount
  else if n < 0 then .error .negativeCount
  else if Number.wordLimit ≤ n + sequenceOverhead then .error .largeCount
  else if memorySize ≤ n then .error .noMemory
  else .ok (List.replicate n.toNat 0)

/-- The bytes of a value: of a text its encoding, of a list its numbers, of a number as many
    zeros. -/
def bytesOf : Value → Except BytesError (List UInt8)
  | .bytes bs | .view bs => .ok bs
  | .text s => .ok s.toUTF8.toList
  | .list vs => vs.mapM byteOf
  | .record fields => if fields.isEmpty then .ok [] else .error (.notByte "str")
  | .bool b => zeroBytes (if b then 1 else 0)
  | .int n => zeroBytes n
  | v => .error (.notBytes v.kindName)

/-- The hexadecimal form of bytes. -/
def hexText (bs : List UInt8) : String :=
  String.ofList (bs.flatMap hexPair)

mutual

/-- The text of a value in a text column; an array is written in braces. -/
def arrayText : Value → String
  | .list vs => "\x7b" ++ ",".intercalate (arrayTexts vs) ++ "\x7d"
  | v => v.plainText

def arrayTexts : List Value → List String
  | [] => []
  | v :: vs => arrayText v :: arrayTexts vs

end

/-- Every quote of a text doubled. -/
def doubleQuotes : List Char → List Char
  | [] => []
  | '\'' :: rest => '\'' :: '\'' :: doubleQuotes rest
  | c :: rest => c :: doubleQuotes rest

def quoteText (s : String) : String :=
  String.ofList ('\'' :: doubleQuotes s.toList ++ ['\''])

/-- The texts that stand for true in a truth column. -/
def trueTexts : List String := ["t", "true", "1", "y", "yes", "on"]

/-- Whether a value stands for true in a truth column. -/
def standsForTrue : Value → Bool
  | .text s => trueTexts.contains (lowercase (trim s))
  | v => v.isTruthy

/-- The literal of a value for a column of type `t`. -/
def renderLiteral (v : Value) (t : SqlType) : Except BytesError String :=
  match t.family with
  | .binary => do
    let bs ← bytesOf v
    pure ("decode('" ++ hexText bs ++ "', 'hex')")
  | .truth => .ok (if standsForTrue v then "true" else "false")
  | .number =>
    match v with
    | .bool b => .ok (if b then "1" else "0")
    | .decimal d => .ok d.plain
    | v => .ok v.plainText
  | .character | .text | .temporal => .ok (quoteText (arrayText v))

end IndexAdvisor.Sql
