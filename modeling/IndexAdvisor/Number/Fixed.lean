import IndexAdvisor.Number.Shortest

/-! # Fixed places

A binary number written with a fixed count of digits after the point. The number is rounded
exactly; a half goes to the even neighbour.
-/

namespace IndexAdvisor.Number

/-- The whole number nearest to `num / den`; a half goes to the even neighbour. -/
def roundHalfEven (num den : Nat) : Nat :=
  let below := num / den
  match compare (2 * (num % den)) den with
  | .lt => below
  | .gt => below + 1
  | .eq => if below % 2 = 0 then below else below + 1

/-- A rounded quotient lies within half a unit of the quotient. -/
theorem roundHalfEven_close (num den : Nat) (h : 0 < den) :
    2 * num ≤ (2 * roundHalfEven num den + 1) * den ∧
      2 * roundHalfEven num den * den ≤ 2 * num + den := by
  have hdiv := Nat.div_add_mod num den
  have hlt := Nat.mod_lt num h
  have hcomm : den * (num / den) = (num / den) * den := Nat.mul_comm ..
  unfold roundHalfEven
  split
  · rename_i hc
    have := Nat.compare_eq_lt.mp hc
    constructor <;> grind
  · rename_i hc
    have := Nat.compare_eq_gt.mp hc
    constructor <;> grind
  · rename_i hc
    have := Nat.compare_eq_eq.mp hc
    dsimp only
    split <;> constructor <;> grind

def fixedDigits (scaled places : Nat) : String :=
  let digits := (toString scaled).toList
  let padded := List.replicate (places + 1 - digits.length) '0' ++ digits
  let whole := padded.take (padded.length - places)
  let fraction := padded.drop (padded.length - places)
  String.ofList (if places = 0 then whole else whole ++ '.' :: fraction)

def BinaryParts.writeFixed (places : Nat) : BinaryParts → String
  | .nan => "nan"
  | .infinite negative => if negative then "-inf" else "inf"
  | .zero negative => (if negative then "-" else "") ++ fixedDigits 0 places
  | .finite negative m q _ =>
    let scaled := roundHalfEven (m * Nat.pow 2 q.toNat * Nat.pow 10 places) (Nat.pow 2 (-q).toNat)
    (if negative then "-" else "") ++ fixedDigits scaled places

/-- A number with `places` digits after the point. -/
def writeFixed (places : Nat) (x : Float) : String :=
  (BinaryParts.ofBits x.toBits).writeFixed places

end IndexAdvisor.Number
