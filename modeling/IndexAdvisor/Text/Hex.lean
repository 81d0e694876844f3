/-! # Hexadecimal digits -/

namespace IndexAdvisor.Text

/-- The number of a hexadecimal digit in either letter case. -/
def hexDigit? (c : Char) : Option Nat :=
  if '0' ≤ c ∧ c ≤ '9' then some (c.toNat - 48)
  else if 'a' ≤ c ∧ c ≤ 'f' then some (c.toNat - 87)
  else if 'A' ≤ c ∧ c ≤ 'F' then some (c.toNat - 55)
  else none

/-- The byte that two hexadecimal digits write. -/
def hexByte? (high low : Char) : Option UInt8 := do
  return (16 * (← hexDigit? high) + (← hexDigit? low)).toUInt8

/-- The last hexadecimal digits of a number, as many as `width` says. -/
def hexDigits : Nat → Nat → List Char
  | 0, _ => []
  | width + 1, n => hexDigits width (n / 16) ++ [Nat.digitChar (n % 16)]

/-- The two hexadecimal digits of a byte. -/
def hexPair (b : UInt8) : List Char :=
  hexDigits 2 b.toNat

end IndexAdvisor.Text
