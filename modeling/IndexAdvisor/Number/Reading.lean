import IndexAdvisor.Number.Decimal

/-! # Reading binary numbers

A number may carry blanks around it, a sign, single underscores between digits, a point and a
power of ten, or be one of the words for infinity and for no number, in any letter case.
-/

namespace IndexAdvisor.Number

open IndexAdvisor.Text

/-- The characters without their underscores, provided each stands between two digits. -/
def dropUnderscores? (afterDigit : Bool) : List Char → Option (List Char)
  | [] => some []
  | '_' :: c :: rest =>
    if afterDigit && isDecimalDigit c then (dropUnderscores? true rest).map (c :: ·) else none
  | ['_'] => none
  | c :: rest => (dropUnderscores? (isDecimalDigit c) rest).map (c :: ·)

/-- The binary number nearest to `coefficient · 10 ^ power`. -/
def nearestFloat (negative : Bool) (coefficient : Nat) (power : Int) : Float :=
  let size := power + digitsOf coefficient
  let magnitude :=
    if coefficient = 0 || size < -400 then 0.0
    else if 400 < size then 1.0 / 0.0
    else if power < 0 then Float.ofScientific coefficient true (-power).toNat
    else Float.ofScientific coefficient false power.toNat
  if negative then -magnitude else magnitude
where
  digitsOf (n : Nat) : Int := (toString n).length

def notANumber : Float := 0.0 / 0.0

def readFloat? (s : String) : Option Float := do
  let cs ← dropUnderscores? false (trimRight (trimLeft s.toList))
  let (negative, body) := splitSign cs
  let word := String.ofList (body.map Char.toLower)
  if word = "inf" || word = "infinity" then
    pure (if negative then -(1.0 / 0.0) else 1.0 / 0.0)
  else if word = "nan" then pure notANumber
  else
    let (whole, rest) := Decimal.spanDigits body
    let (fraction, rest) := match rest with
      | '.' :: more => Decimal.spanDigits more
      | _ => ([], rest)
    if whole.isEmpty && fraction.isEmpty then none
    else
      let power ← Decimal.readPower? rest
      pure (nearestFloat negative (numberFrom 0 (whole ++ fraction)) (power - fraction.length))

end IndexAdvisor.Number
