/-! # Shortest decimal text of a binary number

A finite binary number `m · 2 ^ q` is written with the fewest digits that are read back as
that number, the nearest such digits where there are several. All tests are made on whole
numbers: the number and the two ends of the interval that rounds to it are brought to one
denominator.
-/

namespace IndexAdvisor.Number

/-- A positive binary number with the interval that rounds to it, as fractions over `den`.
    The ends belong to the interval iff `closed`. -/
structure RoundingInterval where
  low : Nat
  value : Nat
  high : Nat
  den : Nat
  closed : Bool

/-- The interval that rounds to `m · 2 ^ q`; below the least `m` of its binade the
    neighbours lie twice as close. -/
def RoundingInterval.ofBinary (m : Nat) (q : Int) (lowest : Bool) : RoundingInterval :=
  let up := Nat.pow 2 q.toNat
  { low := (4 * m - if lowest then 1 else 2) * up
    value := 4 * m * up
    high := (4 * m + 2) * up
    den := 4 * Nat.pow 2 (-q).toNat
    closed := m % 2 = 0 }

/-- Whether the fraction `num / den` lies in the interval. -/
def RoundingInterval.holds (i : RoundingInterval) (num den : Nat) : Bool :=
  let low := compare (i.low * den) (num * i.den)
  let high := compare (num * i.den) (i.high * den)
  (low == .lt || (i.closed && low == .eq)) && (high == .lt || (i.closed && high == .eq))

def digitCount (n : Nat) : Nat :=
  (toString n).length

/-- The place `p` of the leading digit: `10 ^ (p - 1) ≤ value < 10 ^ p`. -/
def RoundingInterval.leadingPlace (i : RoundingInterval) : Int :=
  (digitCount (i.value * Nat.pow 10 350 / i.den) : Int) - 350

/-- The unit of the `n`-digit grid below the leading place `p`, as a fraction. -/
def gridUnit (p : Int) (n : Nat) : Nat × Nat :=
  let e := p - n
  (Nat.pow 10 e.toNat, Nat.pow 10 (-e).toNat)

/-- The point of the `n`-digit grid that reads back and is nearest, if there is one.
    A tie goes to the even point. -/
def RoundingInterval.onGrid? (i : RoundingInterval) (p : Int) (n : Nat) : Option Nat :=
  let (up, down) := gridUnit p n
  let below := i.value * down / (i.den * up)
  let lowHolds := i.holds (below * up) down
  let highHolds := i.holds ((below + 1) * up) down
  match lowHolds, highHolds with
  | false, false => none
  | true, false => some below
  | false, true => some (below + 1)
  | true, true =>
    let twice := 2 * (i.value * down - below * i.den * up)
    match compare twice (i.den * up) with
    | .lt => some below
    | .gt => some (below + 1)
    | .eq => some (if below % 2 = 0 then below else below + 1)

/-- The fewest digits that read back, with the place of the leading one. -/
def RoundingInterval.shortest (i : RoundingInterval) : Nat × Int :=
  let p := i.leadingPlace
  match (List.range 17).findSome? fun k => (i.onGrid? p (k + 1)).map (·, k + 1) with
  | some (digits, n) => (digits, p + ((digitCount digits : Int) - n))
  | none => (i.value / i.den, p)

def dropZeros (digits : List Char) : List Char :=
  (digits.reverse.dropWhile (· == '0')).reverse

structure FloatStyle where
  /-- Positional notation ends here: the leading place is above `small`. -/
  small : Int
  /-- Positional notation ends here: the leading place is at most `large`. -/
  large : Int

/-- Amounts are positional from `0.0001` up to sixteen digits before the point. -/
def FloatStyle.plain : FloatStyle := ⟨-4, 16⟩

/-- Digits with a point after the `place`-th, with one digit at least on both sides. -/
def positional (digits : List Char) (place : Int) : List Char :=
  if place ≤ 0 then
    '0' :: '.' :: (List.replicate (-place).toNat '0' ++ digits)
  else
    let whole := digits.take place.toNat
    let fraction := digits.drop place.toNat
    whole ++ List.replicate (place.toNat - digits.length) '0' ++ '.' ::
      (if fraction.isEmpty then ['0'] else fraction)

/-- Digits with a point after the first and a power of ten of two digits at least. -/
def scientific (digits : List Char) (place : Int) : List Char :=
  let power := place - 1
  let magnitude := (toString power.natAbs).toList
  let fraction := digits.drop 1
  digits.take 1 ++ (if fraction.isEmpty then [] else '.' :: fraction)
    ++ ['e', if power < 0 then '-' else '+']
    ++ List.replicate (2 - magnitude.length) '0' ++ magnitude

/-- The text of a number that has the digits `digits`, with the place of the leading one. -/
def FloatStyle.write (style : FloatStyle) (negative : Bool) (digits : Nat) (place : Int) : String :=
  let cs := dropZeros (toString digits).toList
  let body :=
    if style.small < place ∧ place ≤ style.large then positional cs place
    else scientific cs place
  String.ofList (if negative then '-' :: body else body)

/-- A binary number taken apart: no number, an infinity, a zero, or `m · 2 ^ q`. -/
inductive BinaryParts where
  | nan
  | infinite (negative : Bool)
  | zero (negative : Bool)
  | finite (negative : Bool) (m : Nat) (q : Int) (lowest : Bool)

def BinaryParts.ofBits (bits : UInt64) : BinaryParts :=
  let n := bits.toNat
  let negative := n / Nat.pow 2 63 = 1
  let exponent : Nat := n / Nat.pow 2 52 % Nat.pow 2 11
  let fraction : Nat := n % Nat.pow 2 52
  if exponent = 2047 then if fraction = 0 then .infinite negative else .nan
  else if exponent = 0 then
    if fraction = 0 then .zero negative else .finite negative fraction (-1074) false
  else
    .finite negative (Nat.pow 2 52 + fraction) ((exponent : Int) - 1075)
      (fraction = 0 ∧ exponent ≠ 1)

def BinaryParts.write (style : FloatStyle) : BinaryParts → String
  | .nan => "nan"
  | .infinite negative => if negative then "-inf" else "inf"
  | .zero negative => if negative then "-0.0" else "0.0"
  | .finite negative m q lowest =>
    let found := (RoundingInterval.ofBinary m q lowest).shortest
    style.write negative found.1 found.2

/-- The shortest text that reads back as the number. -/
def writeFloat (x : Float) : String :=
  (BinaryParts.ofBits x.toBits).write .plain

end IndexAdvisor.Number
