import IndexAdvisor.Number.Whole

/-! # Decimal numbers

Numbers with a coefficient and a power of ten, as databases return them: `12.50` and `12.5`
are different decimals of one value. `text` writes a decimal with the power of ten where that
is needed, `plain` never does.
-/

namespace IndexAdvisor.Number

open IndexAdvisor.Text

inductive Decimal where
  /-- `coefficient · 10 ^ exponent`, with its sign. -/
  | finite (negative : Bool) (coefficient : Nat) (exponent : Int)
  | infinite (negative : Bool)
  /-- No number; `signal` marks one that may not take part in a comparison. -/
  | nan (negative signal : Bool) (payload : String)
  deriving Repr, DecidableEq

namespace Decimal

def signText (negative : Bool) : String :=
  if negative then "-" else ""

/-- The texts that both forms share. -/
def specialText? : Decimal → Option String
  | .finite .. => none
  | .infinite negative => some (signText negative ++ "Infinity")
  | .nan negative signal payload =>
    some (signText negative ++ (if signal then "sNaN" else "NaN") ++ payload)

/-- Digits with a point that leaves `places` of them after it. -/
def pointed (digits : List Char) (places : Nat) : List Char :=
  if places = 0 then digits
  else
    let padded := List.replicate (places + 1 - digits.length) '0' ++ digits
    padded.take (padded.length - places) ++ '.' :: padded.drop (padded.length - places)

/-- All digits written out. A zero keeps its places after the point and gains none before it. -/
def plain (d : Decimal) : String :=
  match d with
  | .finite negative coefficient exponent =>
    let digits := (toString coefficient).toList
    let body :=
      if 0 ≤ exponent then
        if coefficient = 0 then digits else digits ++ List.replicate exponent.toNat '0'
      else pointed digits (-exponent).toNat
    signText negative ++ String.ofList body
  | d => (specialText? d).getD ""

/-- The digits of `plain` while the point falls among them or up to six places before them,
    otherwise one digit before the point and a power of ten. -/
def text (d : Decimal) : String :=
  match d with
  | .finite negative coefficient exponent =>
    let digits := (toString coefficient).toList
    let leading : Int := exponent + digits.length - 1
    if exponent ≤ 0 ∧ -6 ≤ leading then
      signText negative ++ String.ofList (pointed digits (-exponent).toNat)
    else
      let power := if leading < 0 then toString leading else "+" ++ toString leading
      signText negative ++ String.ofList (pointed digits (digits.length - 1)) ++ "E" ++ power
  | d => (specialText? d).getD ""

def isZero : Decimal → Bool
  | .finite _ coefficient _ => coefficient == 0
  | _ => false

/-- The values of a run of decimal digits and the characters after it. -/
def spanDigits (cs : List Char) : List Nat × List Char :=
  ((cs.takeWhile isDecimalDigit).filterMap digitValue?, cs.dropWhile isDecimalDigit)

/-- A power of ten after the digits: nothing, or `e` with a whole number. -/
def readPower? : List Char → Option Int
  | [] => some 0
  | c :: rest =>
    if c = 'e' || c = 'E' then
      let (negative, body) := splitSign rest
      let (digits, after) := spanDigits body
      if digits.isEmpty || !after.isEmpty then none
      else
        let n : Int := numberFrom 0 digits
        some (if negative then -n else n)
    else none

/-- Reads a decimal; underscores are ignored. -/
def read? (s : String) : Option Decimal :=
  let cs := (trimRight (trimLeft s.toList)).filter (· ≠ '_')
  let (negative, body) := splitSign cs
  let word := String.ofList (body.map Char.toLower)
  if word = "inf" || word = "infinity" then some (.infinite negative)
  else if word.startsWith "nan" then
    some (.nan negative false (String.ofList (body.drop 3)))
  else if word.startsWith "snan" then
    some (.nan negative true (String.ofList (body.drop 4)))
  else
    let (whole, rest) := spanDigits body
    let (fraction, rest) := match rest with
      | '.' :: more => spanDigits more
      | _ => ([], rest)
    if whole.isEmpty && fraction.isEmpty then none
    else (readPower? rest).map fun power =>
      .finite negative (numberFrom 0 (whole ++ fraction)) (power - fraction.length)

end Decimal

end IndexAdvisor.Number
