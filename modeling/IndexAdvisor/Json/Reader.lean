import IndexAdvisor.Entries
import IndexAdvisor.Json
import IndexAdvisor.Number.Reading
import IndexAdvisor.Number.Whole
import IndexAdvisor.Text.HalfPair
import IndexAdvisor.Text.Hex

/-! # Reading JSON

A text is read from left to right, and refused at the first character that no value continues
with. Besides the numbers of the format, the words for infinities and the missing number are
read. Of two fields with one name the later one counts, in the place of the earlier.
-/

namespace IndexAdvisor.Json

inductive Refusal.Cause where
  | expectedValue
  | expectedName
  | expectedColon
  | expectedComma
  | controlCharacter
  | unterminated
  | unknownEscape
  | malformedCode
  /-- Something follows the value. -/
  | extra
  /-- A whole number has too many digits. -/
  | hugeNumber
  /-- Too many brackets are open. -/
  | tooDeep
  deriving DecidableEq, Repr

structure Refusal where
  cause : Refusal.Cause
  /-- The number of characters before the refused one. -/
  place : Nat
  deriving DecidableEq, Repr

namespace Reader

/-- A refusal, with the number of characters from the refused one on. -/
abbrev Refused := Refusal.Cause × Nat

/-- Refuses the text at its first character. -/
def refuse {α} (cause : Refusal.Cause) (cs : List Char) : Except Refused α :=
  .error (cause, cs.length)

/-- Whether a character may stand between the parts of a value. -/
def isBlank (c : Char) : Bool :=
  c = ' ' || c = '\t' || c = '\n' || c = '\r'

/-- The text from its first character on that is not blank. -/
def skipBlanks (cs : List Char) : List Char :=
  cs.dropWhile isBlank

/-! ## Texts -/

/-- The number that four hexadecimal digits write; some character must follow them. -/
def hexCode? : List Char → Option (Nat × List Char)
  | a :: b :: c :: d :: e :: rest => do
    let a ← Text.hexDigit? a
    let b ← Text.hexDigit? b
    let c ← Text.hexDigit? c
    let d ← Text.hexDigit? d
    return (((a * 16 + b) * 16 + c) * 16 + d, e :: rest)
  | _ => none

/-- The second half of a pair of codes, if it follows. -/
def lowCode? (cs : List Char) : Except Refused (Option (Nat × List Char)) :=
  match cs with
  | '\\' :: 'u' :: rest =>
    if cs.length ≤ 6 then .ok none
    else
      match hexCode? rest with
      | none => refuse .malformedCode ('u' :: rest)
      | some (code, rest) =>
        .ok (if 0xdc00 ≤ code ∧ code < 0xe000 then some (code, rest) else none)
  | _ => .ok none

/-- The character of a numbered escape, by what follows its `u`. -/
def numberedEscape (cs : List Char) : Except Refused (Char × List Char) :=
  match hexCode? cs with
  | none => refuse .malformedCode ('u' :: cs)
  | some (code, rest) =>
    if 0xd800 ≤ code ∧ code < 0xdc00 then do
      match ← lowCode? rest with
      | some (low, rest) =>
        return (Char.ofNat (0x10000 + (code - 0xd800) * 0x400 + (low - 0xdc00)), rest)
      | none => return (Text.halfPair, rest)
    else if 0xdc00 ≤ code ∧ code < 0xe000 then .ok (Text.halfPair, rest)
    else .ok (Char.ofNat code, rest)

/-- The character that one letter after a backslash stands for. -/
def shortEscape? : Char → Option Char
  | '"' => some '"'
  | '\\' => some '\\'
  | '/' => some '/'
  | 'b' => some '\x08'
  | 'f' => some '\x0c'
  | 'n' => some '\n'
  | 'r' => some '\r'
  | 't' => some '\t'
  | _ => none

/-- Reads a text whose quote stands before `cs`; `opened` counts the characters from that quote
    on. Takes at most `fuel` characters. -/
def textFrom (opened : Nat) : Nat → List Char → List Char → Except Refused (String × List Char)
  | 0, _, _ => .error (.unterminated, opened)
  | fuel + 1, read, cs =>
    match cs with
    | [] => .error (.unterminated, opened)
    | '"' :: rest => .ok (String.ofList read.reverse, rest)
    | ['\\'] => .error (.unterminated, opened)
    | '\\' :: 'u' :: rest => do
      let (c, rest) ← numberedEscape rest
      textFrom opened fuel (c :: read) rest
    | '\\' :: letter :: rest =>
      match shortEscape? letter with
      | some c => textFrom opened fuel (c :: read) rest
      | none => refuse .unknownEscape cs
    | c :: rest =>
      if c.toNat < 0x20 then refuse .controlCharacter cs
      else textFrom opened fuel (c :: read) rest

/-- Reads the text whose quote stands before `cs`. -/
def text (cs : List Char) : Except Refused (String × List Char) :=
  textFrom (cs.length + 1) (cs.length + 1) [] cs

/-! ## Numbers -/

/-- The whole part of a number: a zero, or digits that start with another one. -/
def wholePart : List Char → Option (List Char × List Char)
  | '0' :: rest => some (['0'], rest)
  | cs =>
    let digits := cs.takeWhile Char.isDigit
    if digits.isEmpty then none else some (digits, cs.dropWhile Char.isDigit)

/-- The decimal places of a number, if a digit follows the point. -/
def fractionPart : List Char → List Char × List Char
  | '.' :: c :: rest =>
    if c.isDigit then
      ('.' :: c :: rest.takeWhile Char.isDigit, rest.dropWhile Char.isDigit)
    else ([], '.' :: c :: rest)
  | cs => ([], cs)

def exponentPart : List Char → List Char × List Char
  | [] => ([], [])
  | c :: rest =>
    if c = 'e' ∨ c = 'E' then
      let (sign, rest') := match rest with
        | '+' :: more => (['+'], more)
        | '-' :: more => (['-'], more)
        | more => ([], more)
      let digits := rest'.takeWhile Char.isDigit
      if digits.isEmpty then ([], c :: rest)
      else ('e' :: sign ++ digits, rest'.dropWhile Char.isDigit)
    else ([], c :: rest)

def number (cs : List Char) : Except Refused (Json × List Char) :=
  let (sign, body) := match cs with
    | '-' :: rest => (['-'], rest)
    | rest => ([], rest)
  match wholePart body with
  | none => refuse .expectedValue cs
  | some (whole, rest) =>
    let (fraction, rest) := fractionPart rest
    let (exponent, rest) := exponentPart rest
    if fraction.isEmpty && exponent.isEmpty then
      match Number.readWhole (String.ofList (sign ++ whole)) with
      | .ok n => .ok (.int n, rest)
      | .error _ => refuse .hugeNumber cs
    else
      match Number.readFloat? (String.ofList (sign ++ whole ++ fraction ++ exponent)) with
      | some x => .ok (.float x, rest)
      | none => refuse .expectedValue cs

/-! ## Values -/

/-- The words that are values. -/
def words : List (List Char × Json) :=
  [("null".toList, .null), ("true".toList, .bool true), ("false".toList, .bool false),
    ("NaN".toList, .float (0.0 / 0.0)), ("Infinity".toList, .float (1.0 / 0.0)),
    ("-Infinity".toList, .float (-1.0 / 0.0))]

/-- The word a text starts with, as a value. -/
def word? (cs : List Char) : Option (Json × List Char) :=
  (words.find? fun word => word.1.isPrefixOf cs).map fun word =>
    (word.2, cs.drop word.1.length)

/-- The most brackets that may be open at a time. -/
def deepest : Nat := 945

mutual

/-- Reads a value inside `depth` open brackets. -/
def value (depth : Nat) : Nat → List Char → Except Refused (Json × List Char)
  | 0, cs => refuse .expectedValue cs
  | fuel + 1, cs =>
    match cs with
    | '"' :: rest => do
      let (s, rest) ← text rest
      return (.text s, rest)
    | '\x7b' :: rest =>
      if deepest ≤ depth then refuse .tooDeep cs
      else
        match skipBlanks rest with
        | '\x7d' :: rest => .ok (.record [], rest)
        | rest => record (depth + 1) fuel [] rest
    | '[' :: rest =>
      if deepest ≤ depth then refuse .tooDeep cs
      else
        match skipBlanks rest with
        | ']' :: rest => .ok (.list [], rest)
        | rest => list (depth + 1) fuel [] rest
    | cs =>
      match word? cs with
      | some found => .ok found
      | none => number cs

/-- Reads the rest of a list, from an item on. -/
def list (depth : Nat) : Nat → List Json → List Char → Except Refused (Json × List Char)
  | 0, _, cs => refuse .expectedValue cs
  | fuel + 1, items, cs => do
    let (item, rest) ← value depth fuel cs
    match skipBlanks rest with
    | ']' :: rest => return (.list (item :: items).reverse, rest)
    | ',' :: rest => list depth fuel (item :: items) (skipBlanks rest)
    | rest => refuse .expectedComma rest

/-- Reads the rest of a record, from a field on. -/
def record (depth : Nat) : Nat → Entries Json → List Char → Except Refused (Json × List Char)
  | 0, _, cs => refuse .expectedName cs
  | fuel + 1, fields, cs =>
    match cs with
    | '"' :: rest => do
      let (name, rest) ← text rest
      match skipBlanks rest with
      | ':' :: rest =>
        let (v, rest) ← value depth fuel (skipBlanks rest)
        match skipBlanks rest with
        | '\x7d' :: rest => return (.record (Entries.put fields name v), rest)
        | ',' :: rest => record depth fuel (Entries.put fields name v) (skipBlanks rest)
        | rest => refuse .expectedComma rest
      | rest => refuse .expectedColon rest
    | cs => refuse .expectedName cs

end

end Reader

def read (s : String) : Except Refusal Json :=
  let cs := s.toList
  let answer := do
    let (v, rest) ← Reader.value 0 (2 * cs.length + 2) (Reader.skipBlanks cs)
    match Reader.skipBlanks rest with
    | [] => return v
    | rest => Reader.refuse .extra rest
  answer.mapError fun (cause, left) => ⟨cause, cs.length - left⟩

end IndexAdvisor.Json
