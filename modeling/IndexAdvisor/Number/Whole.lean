import IndexAdvisor.Text.Blank
import IndexAdvisor.Text.Digit
import IndexAdvisor.Text.Hex
import IndexAdvisor.Text.Printable

/-! # Whole numbers as text

A whole number is written with blanks around it, a sign, and decimal digits of any script in
which single underscores may separate the digits. Numbers of more than `maxDigits` digits
are refused in both directions.
-/

namespace IndexAdvisor.Number

open IndexAdvisor.Text

/-- The longest whole number that is read or written, in digits. -/
def maxDigits : Nat := 4300

/-- A word of sixty-four bits holds the whole numbers from `-wordLimit` on and below `wordLimit`. -/
def wordLimit : Int := 0x8000000000000000

/-- Why a text is not read as a whole number, or a whole number not written. -/
inductive WholeError where
  /-- The text is no whole number. -/
  | malformed (text : String)
  /-- The text has more digits than are read. -/
  | tooLong (digits : Nat)
  /-- The number has more digits than are written. -/
  | tooLarge
  deriving Repr, DecidableEq

/-- The escape of a character by its number, in the fewest of two, four or eight digits. -/
def codeEscape (n : Nat) : List Char :=
  if n < 0x100 then '\\' :: 'x' :: hexDigits 2 n
  else if n < 0x10000 then '\\' :: 'u' :: hexDigits 4 n
  else '\\' :: 'U' :: hexDigits 8 n

/-- A character inside quotes; what is not printable is escaped. -/
def quotedChar (quote c : Char) : List Char :=
  if c = quote || c = '\\' then ['\\', c]
  else if c = '\n' then ['\\', 'n']
  else if c = '\r' then ['\\', 'r']
  else if c = '\t' then ['\\', 't']
  else if isPrintable c then [c]
  else codeEscape c.toNat

/-- A text in quotes: single ones, unless the text holds a single and no double one. -/
def quoted (s : String) : String :=
  let cs := s.toList
  let quote := if cs.contains '\'' && !cs.contains '"' then '"' else '\''
  String.ofList (quote :: cs.flatMap (quotedChar quote) ++ [quote])

def WholeError.message : WholeError → String
  | .malformed text => "invalid literal for int() with base 10: " ++ quoted text
  | .tooLong digits =>
    "Exceeds the limit (4300 digits) for integer string conversion: value has "
      ++ toString digits ++ " digits; use sys.set_int_max_str_digits() to increase the limit"
  | .tooLarge =>
    "Exceeds the limit (4300 digits) for integer string conversion; "
      ++ "use sys.set_int_max_str_digits() to increase the limit"

/-- Digits, most significant first, in which single underscores may stand between digits. -/
def groupedDigits? : List Char → Option (List Nat)
  | [] => none
  | [c] => (digitValue? c).map ([·])
  | c :: '_' :: rest => do
    let d ← digitValue? c
    let ds ← groupedDigits? rest
    pure (d :: ds)
  | c :: rest => do
    let d ← digitValue? c
    let ds ← groupedDigits? rest
    pure (d :: ds)

/-- A sign and what follows it; true for a minus. -/
def splitSign : List Char → Bool × List Char
  | '-' :: rest => (true, rest)
  | '+' :: rest => (false, rest)
  | cs => (false, cs)

def readWhole (s : String) : Except WholeError Int :=
  let (negative, body) := splitSign (trimRight (trimLeft s.toList))
  match groupedDigits? body with
  | none => .error (.malformed s)
  | some ds =>
    if maxDigits < ds.length then .error (.tooLong ds.length)
    else
      let n : Int := numberFrom 0 ds
      .ok (if negative then -n else n)

def writeWhole (n : Int) : Except WholeError String :=
  if n.natAbs < Nat.pow 10 maxDigits then .ok (toString n) else .error .tooLarge

end IndexAdvisor.Number
