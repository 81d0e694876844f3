import IndexAdvisor.Sql.Token

/-! # Numbers in statements

A number is the longest piece that has one of the forms below; a form that ends in junk is an
error of its own. Underscores may separate digits.
-/

namespace IndexAdvisor.Sql.Numeral

/-- How many characters of `(_?digit)*` come first. -/
def groupTail (isDigit : Char → Bool) : List Char → Nat
  | [] => 0
  | [c] => if isDigit c then 1 else 0
  | c :: d :: rest =>
    if isDigit c then 1 + groupTail isDigit (d :: rest)
    else if c = '_' && isDigit d then 2 + groupTail isDigit rest
    else 0

/-- How many characters of `digit(_?digit)*` come first. -/
def groupLength : List Char → Nat
  | c :: rest => if c.isDigit then 1 + groupTail Char.isDigit rest else 0
  | [] => 0

/-- How many characters of a name come first. -/
def nameLength : List Char → Nat
  | c :: rest => if startsName c then 1 + (rest.takeWhile continuesName).length else 0
  | [] => 0

/-- The length of `digits.digits?` or `.digits`, zero if there is none. -/
def fractionLength (cs : List Char) : Nat :=
  let whole := groupLength cs
  match cs.drop whole with
  | '.' :: rest =>
    let digits := groupLength rest
    if whole = 0 && digits = 0 then 0 else whole + 1 + digits
  | _ => 0

/-- The exponent after a mantissa: its length, and whether it has digits. -/
def power? : List Char → Option (Nat × Bool)
  | e :: rest =>
    if e = 'e' || e = 'E' then
      match rest with
      | s :: digits =>
        if s = '+' || s = '-' then
          let n := groupLength digits
          some (2 + n, n ≠ 0)
        else
          let n := groupLength rest
          if n = 0 then none else some (1 + n, true)
      | [] => none
    else none
  | [] => none

/-- What a numeric form stands for. -/
inductive Form
  | whole (radix : Nat)
  | fraction
  | junk (error : LexicalError)
  deriving DecidableEq, Repr

def isHexDigit (c : Char) : Bool :=
  c.isDigit || ('a' ≤ c && c ≤ 'f') || ('A' ≤ c && c ≤ 'F')

def isOctalDigit (c : Char) : Bool := '0' ≤ c && c ≤ '7'

def isBinaryDigit (c : Char) : Bool := c = '0' || c = '1'

/-- The forms of a whole number with a radix letter. -/
def radixForms (lower upper : Char) (radix : Nat) (isDigit : Char → Bool) (error : LexicalError) :
    List Char → List (Nat × Form)
  | '0' :: x :: rest =>
    if x = lower || x = upper then
      let digits := groupTail isDigit rest
      let empty := match rest with
        | '_' :: _ => 3
        | _ => 2
      [(if digits = 0 then 0 else 2 + digits, .whole radix), (empty, .junk error)]
    else []
  | _ => []

/-- Every form a number could have here, with its length. -/
def forms (cs : List Char) : List (Nat × Form) :=
  let whole := groupLength cs
  let fraction := fractionLength cs
  let mantissa := max whole fraction
  let named (n : Nat) := if n = 0 then 0 else
    match nameLength (cs.drop n) with
    | 0 => 0
    | m => n + m
  let scientific := match power? (cs.drop mantissa) with
    | some (n, true) =>
      [(mantissa + n, Form.fraction), (named (mantissa + n), .junk .junkAfterNumber)]
    | some (n, false) => [(mantissa + n, .junk .junkAfterNumber)]
    | none => []
  [(whole, .whole 10)]
    ++ radixForms 'x' 'X' 16 isHexDigit .noHexadecimal cs
    ++ radixForms 'o' 'O' 8 isOctalDigit .noOctal cs
    ++ radixForms 'b' 'B' 2 isBinaryDigit .noBinary cs
    ++ [(fraction, .fraction)] ++ scientific
    ++ [(named whole, .junk .junkAfterNumber), (named fraction, .junk .junkAfterNumber)]

/-- The longest form, of two equally long ones the earlier. -/
def longest (best : Nat × Form) : List (Nat × Form) → Nat × Form
  | [] => best
  | f :: rest => longest (if best.1 < f.1 then f else best) rest

/-- The value of a digit in any radix up to sixteen. -/
def digitValue (c : Char) : Nat :=
  if c.isDigit then c.toNat - '0'.toNat else c.toLower.toNat - 'a'.toNat + 10

/-- The value of a run of digits and underscores. -/
def value (radix : Nat) (cs : List Char) : Nat :=
  (cs.filter (· ≠ '_')).foldl (fun n c => n * radix + digitValue c) 0

/-- The largest whole number that is not kept as written. -/
def maxWhole : Nat := 2147483647

def wholeLexeme (radix : Nat) (cs : List Char) : Lexeme :=
  let n := value radix (if radix = 10 then cs else cs.drop 2)
  if n ≤ maxWhole then .integer n else .number (.ofList cs)

/-- Reads the number that comes first. Two dots after a whole number are not part of it. -/
def read (cs : List Char) : Lexeme × List Char :=
  let whole := groupLength cs
  let doubleDot := whole ≠ 0 && (cs.drop whole).take 2 = ['.', '.']
  let (n, form) := if doubleDot then (whole, .whole 10) else longest (0, .fraction) (forms cs)
  let source := cs.take n
  let lexeme := match form with
    | .whole radix => wholeLexeme radix source
    | .fraction => .number (.ofList source)
    | .junk error => .invalid error true
  (lexeme, cs.drop n)

end IndexAdvisor.Sql.Numeral
