import IndexAdvisor.Number.Shortest
import Mathlib

/-! # Shortest texts are read back

The digits found for a binary number lie in the interval that rounds to it: the interval ends half-way to
the two neighbours, and seventeen digits always come closer than that. So a decimal of these digits is
nearer to the number than to any other, or as near and the number is even.
-/

namespace IndexAdvisor.Number

/-! ## Values -/

def signed (negative : Bool) (x : ℚ) : ℚ := if negative then -x else x

/-- The value of a binary number; an infinity has none. -/
def BinaryParts.value? : BinaryParts → Option ℚ
  | .nan | .infinite _ => none
  | .zero _ => some 0
  | .finite negative m q _ => some (signed negative (m * 2 ^ q))

/-- Half-way between the greatest number and the one that would follow it. -/
def overflow : ℚ := (2 ^ 53 - 1 / 2) * 2 ^ (971 : ℤ)

/-- The value `x` is rounded to the number of sixty-four bits: it is not beyond the greatest number, no other
    number is nearer, and of two equally near ones this is the even one. -/
structure RoundsTo (x : ℚ) (bits : UInt64) : Prop where
  bounded : |x| < overflow
  nearest : ∃ v, (BinaryParts.ofBits bits).value? = some v ∧
    ∀ other w, (BinaryParts.ofBits other).value? = some w → w ≠ v →
      |x - v| < |x - w| ∨ |x - v| = |x - w| ∧ bits.toNat % 2 = 0

theorem signed_zero (negative : Bool) : signed negative 0 = 0 := by
  cases negative <;> simp [signed]

theorem abs_signed_sub (negative : Bool) (x w : ℚ) : |signed negative x - w| = |x - signed negative w| := by
  cases negative with
  | false => rfl
  | true => simp only [signed, if_true]; rw [← abs_neg]; congr 1; ring

theorem signed_signed (negative : Bool) (x : ℚ) : signed negative (signed negative x) = x := by
  cases negative <;> simp [signed]

/-! ## Binary numbers -/

/-- The parts that positive numbers of sixty-four bits have. -/
structure Canonical (m : ℕ) (q : ℤ) : Prop where
  pos : 1 ≤ m
  below : m < 2 ^ 53
  least : -1074 ≤ q
  greatest : q ≤ 971
  normal : q = -1074 ∨ 2 ^ 52 ≤ m

theorem canonical_ofBits {bits : UInt64} {negative lowest : Bool} {m : ℕ} {q : ℤ}
    (parts : BinaryParts.ofBits bits = .finite negative m q lowest) :
    Canonical m q ∧ (lowest → m = 2 ^ 52) ∧ (lowest = false → q = -1074 ∨ 2 ^ 52 < m) ∧
      m % 2 = bits.toNat % 2 := by
  unfold BinaryParts.ofBits at parts
  simp only [Nat.pow_eq] at parts
  have fraction := Nat.mod_lt bits.toNat (Nat.two_pow_pos 52)
  have exponent := Nat.mod_lt (bits.toNat / 2 ^ 52) (Nat.two_pow_pos 11)
  have even : bits.toNat % 2 ^ 52 % 2 = bits.toNat % 2 := Nat.mod_mod_of_dvd _ (by decide)
  split at parts
  · split at parts <;> cases parts
  · split at parts
    · split at parts
      · cases parts
      · next nonzero =>
        cases parts
        refine ⟨⟨by omega, by omega, by omega, by omega, .inl rfl⟩, by simp, by simp, even⟩
    · cases parts
      refine ⟨⟨by omega, by omega, by omega, by omega, .inr (by omega)⟩, ?_, ?_, by omega⟩
      · intro lowest
        have zero := (of_decide_eq_true lowest).1
        omega
      · intro lowest
        have other := of_decide_eq_false lowest
        omega

/-- The values of numbers of sixty-four bits, and their negatives. -/
inductive IsBinary : ℚ → Prop
  | zero : IsBinary 0
  | finite (negative : Bool) {m : ℕ} {q : ℤ} (canonical : Canonical m q) :
    IsBinary (signed negative (m * 2 ^ q))

theorem isBinary_of_value {bits : UInt64} {w : ℚ} (value : (BinaryParts.ofBits bits).value? = some w) :
    IsBinary w := by
  cases parts : BinaryParts.ofBits bits with
  | nan => simp [parts, BinaryParts.value?] at value
  | infinite => simp [parts, BinaryParts.value?] at value
  | zero =>
      obtain rfl : 0 = w := by simpa [parts, BinaryParts.value?] using value
      exact .zero
  | finite negative m q lowest =>
      obtain rfl : signed negative (m * 2 ^ q) = w := by simpa [parts, BinaryParts.value?] using value
      exact .finite negative (canonical_ofBits parts).1

theorem IsBinary.signed {w : ℚ} (binary : IsBinary w) (negative : Bool) : IsBinary (signed negative w) := by
  cases negative with
  | false => exact binary
  | true =>
      cases binary with
      | zero =>
          rw [signed_zero]
          exact .zero
      | finite negative canonical =>
          cases negative with
          | false => exact .finite true canonical
          | true =>
              rw [signed_signed]
              exact .finite false canonical

section Spacing

variable {m : ℕ} {q : ℤ}

/-- The neighbours of a number are a unit away; the lower one of a power of two is half a unit away. -/
theorem Canonical.spacing (own : Canonical m q) {w : ℚ} (binary : IsBinary w) (other : w ≠ m * 2 ^ q) :
    w ≤ (m - 1) * 2 ^ q ∨ (q ≠ -1074 ∧ m = 2 ^ 52 ∧ w ≤ (m - 1 / 2) * 2 ^ q) ∨ (m + 1) * 2 ^ q ≤ w := by
  have unit : (0 : ℚ) < 2 ^ q := by positivity
  have one : (1 : ℚ) ≤ m := by exact_mod_cast own.pos
  have low {w : ℚ} (sign : w ≤ 0) : w ≤ (m - 1) * 2 ^ q := sign.trans (mul_nonneg (by linarith) unit.le)
  cases binary with
  | zero => exact .inl (low le_rfl)
  | @finite negative n r canonical =>
    cases negative with
    | true => exact .inl (low (by simp [signed]; positivity))
    | false =>
      simp only [signed, Bool.false_eq_true, if_false] at other ⊢
      rcases le_or_gt q r with le | lt
      · -- a number of a greater unit is a multiple of the unit
        obtain ⟨k, rfl⟩ := Int.le.dest le
        have scaled : (n : ℚ) * 2 ^ (q + k) = ((n * 2 ^ k : ℕ) : ℚ) * 2 ^ q := by
          rw [zpow_add₀ two_ne_zero, zpow_natCast]; push_cast; ring
        rw [scaled] at other ⊢
        have distinct : n * 2 ^ k ≠ m := fun same => other (by rw [same])
        rcases Nat.lt_or_gt_of_ne distinct with less | more
        · refine .inl (mul_le_mul_of_nonneg_right ?_ unit.le)
          have : ((n * 2 ^ k : ℕ) : ℚ) + 1 ≤ m := by exact_mod_cast less
          linarith
        · refine .inr (.inr (mul_le_mul_of_nonneg_right ?_ unit.le))
          exact_mod_cast more
      · -- a number of a smaller unit lies below the least one of this unit
        have above : q ≠ -1074 := by have := canonical.least; omega
        have full : 2 ^ 52 ≤ m := own.normal.resolve_left above
        have half : (2 : ℚ) ^ r ≤ 2 ^ q / 2 := by
          rw [div_eq_mul_inv, ← zpow_sub_one₀ two_ne_zero]
          exact zpow_le_zpow_right₀ one_le_two (by omega)
        have most : (n : ℚ) ≤ 2 ^ 53 - 1 := by
          have : n + 1 ≤ 2 ^ 53 := canonical.below
          have : (n : ℚ) + 1 ≤ 2 ^ 53 := by exact_mod_cast this
          linarith
        have bound : (n : ℚ) * 2 ^ r ≤ (2 ^ 52 - 1 / 2) * 2 ^ q := by
          calc (n : ℚ) * 2 ^ r ≤ (2 ^ 53 - 1) * (2 ^ q / 2) :=
                mul_le_mul most half (by positivity) (by norm_num)
            _ = (2 ^ 52 - 1 / 2) * 2 ^ q := by ring
        rcases Nat.eq_or_lt_of_le full with least | more
        · refine .inr (.inl ⟨above, least.symm, bound.trans (mul_le_mul_of_nonneg_right ?_ unit.le)⟩)
          rw [← least]; norm_num
        · refine .inl (bound.trans (mul_le_mul_of_nonneg_right ?_ unit.le))
          have : (2 : ℚ) ^ 52 + 1 ≤ m := by exact_mod_cast more
          linarith

end Spacing

/-- A value is nearer to a number than to one that lies two gaps below, if it lies above the first gap. -/
theorem nearer {even : Prop} {x v w gap : ℚ} (pos : 0 < gap) (apart : w ≤ v - 2 * gap)
    (low : v - gap < x ∨ even ∧ v - gap = x) : |x - v| < |x - w| ∨ |x - v| = |x - w| ∧ even := by
  have far : |x - w| = x - w := by
    apply abs_of_nonneg
    rcases low with inside | ⟨-, ends⟩ <;> linarith
  rw [far]
  rcases low with inside | ⟨even, rfl⟩
  · exact .inl (abs_lt.mpr ⟨by linarith, by linarith⟩)
  · have gap_eq : |v - gap - v| = gap := by rw [sub_sub_cancel_left, abs_neg, abs_of_pos pos]
    rw [gap_eq]
    have le : gap ≤ v - gap - w := by linarith
    exact (lt_or_eq_of_le le).imp_right fun same => ⟨same, even⟩

/-! ## The interval of a number -/

/-- How far below the number the interval begins, in units. -/
def lowerGap (lowest : Bool) : ℚ := if lowest then 1 / 4 else 1 / 2

/-- The value lies in the interval that rounds to `m · 2 ^ q`. -/
structure ReadsAs (m : ℕ) (q : ℤ) (lowest : Bool) (x : ℚ) : Prop where
  low : (m - lowerGap lowest) * 2 ^ q < x ∨ m % 2 = 0 ∧ (m - lowerGap lowest) * 2 ^ q = x
  high : x < (m + 1 / 2) * 2 ^ q ∨ m % 2 = 0 ∧ x = (m + 1 / 2) * 2 ^ q

theorem lowerGap_pos (lowest : Bool) : 0 < lowerGap lowest := by
  cases lowest <;> norm_num [lowerGap]

theorem Canonical.beside {m : ℕ} {q : ℤ} {lowest : Bool} (own : Canonical m q)
    (more : lowest = false → q = -1074 ∨ 2 ^ 52 < m) {w : ℚ} (binary : IsBinary w) (other : w ≠ m * 2 ^ q) :
    w ≤ (m - 2 * lowerGap lowest) * 2 ^ q ∨ (m + 1) * 2 ^ q ≤ w := by
  have unit : (0 : ℚ) < 2 ^ q := by positivity
  rcases own.spacing binary other with below | ⟨above, power, below⟩ | above
  · refine .inl (below.trans (mul_le_mul_of_nonneg_right ?_ unit.le))
    cases lowest with
    | false => norm_num [lowerGap]
    | true => norm_num [lowerGap]; linarith
  · cases lowest with
    | false => exact absurd (more rfl) (by omega)
    | true => exact .inl (below.trans (mul_le_mul_of_nonneg_right (by norm_num [lowerGap]) unit.le))
  · exact .inr above

namespace ReadsAs

variable {m : ℕ} {q : ℤ} {lowest : Bool} {x : ℚ}

theorem low_le (reads : ReadsAs m q lowest x) : (m - lowerGap lowest) * 2 ^ q ≤ x :=
  reads.low.elim le_of_lt fun ends => ends.2.le

theorem pos (own : Canonical m q) (reads : ReadsAs m q lowest x) : 0 < x := by
  refine lt_of_lt_of_le (mul_pos ?_ (by positivity)) reads.low_le
  have one : (1 : ℚ) ≤ m := by exact_mod_cast own.pos
  cases lowest <;> norm_num [lowerGap] <;> linarith

theorem bounded (own : Canonical m q) (reads : ReadsAs m q lowest x) : x < overflow := by
  have most : (m : ℚ) + 1 ≤ 2 ^ 53 := by exact_mod_cast own.below
  have unit : (2 : ℚ) ^ q ≤ 2 ^ (971 : ℤ) := zpow_le_zpow_right₀ one_le_two own.greatest
  have scale {y : ℚ} (bound : y ≤ 2 ^ 53 - 1 / 2) : y * 2 ^ q ≤ overflow :=
    mul_le_mul bound unit (by positivity) (by norm_num)
  rcases reads.high with inside | ⟨even, rfl⟩
  · exact inside.trans_le (scale (by linarith))
  · -- the greatest number is odd
    have less : m + 2 ≤ 2 ^ 53 := by have := own.below; omega
    have less : (m : ℚ) + 2 ≤ 2 ^ 53 := by exact_mod_cast less
    exact (mul_lt_mul_of_pos_right (by linarith) (by positivity)).trans_le (scale (y := m + 1) (by linarith))

/-- No number is nearer to a value in the interval, and one as near only to an end of it. -/
theorem nearest (own : Canonical m q) (more : lowest = false → q = -1074 ∨ 2 ^ 52 < m) (reads : ReadsAs m q lowest x) {w : ℚ}
    (binary : IsBinary w) (other : w ≠ m * 2 ^ q) :
    |x - m * 2 ^ q| < |x - w| ∨ |x - m * 2 ^ q| = |x - w| ∧ m % 2 = 0 := by
  have unit : (0 : ℚ) < 2 ^ q := by positivity
  rcases own.beside more binary other with below | above
  · have low : m * 2 ^ q - lowerGap lowest * 2 ^ q < x ∨ m % 2 = 0 ∧ m * 2 ^ q - lowerGap lowest * 2 ^ q = x := by
      simpa only [sub_mul] using reads.low
    exact nearer (mul_pos (lowerGap_pos lowest) unit) (by linarith) low
  · have high : -(m * 2 ^ q) - 1 / 2 * 2 ^ q < -x ∨ m % 2 = 0 ∧ -(m * 2 ^ q) - 1 / 2 * 2 ^ q = -x := by
      refine reads.high.imp (fun inside => by linarith) (.imp_right fun ends => by linarith)
    have mirrored := nearer (w := -w) (by positivity) (by linarith) high
    simpa only [neg_sub_neg, abs_sub_comm x] using mirrored

end ReadsAs

end IndexAdvisor.Number
