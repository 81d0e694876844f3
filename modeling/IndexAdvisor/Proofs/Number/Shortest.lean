import IndexAdvisor.Proofs.Number.Nearest

/-! # Shortest texts are found

Seventeen digits lie so close together that one of two neighbouring points falls into the interval of every
number. So digits are found, and what is found lies in the interval.
-/

namespace IndexAdvisor.Number

/-! ## Fractions -/

theorem fraction_lt {a b c d : ℕ} (b_pos : 0 < b) (d_pos : 0 < d) :
    a * d < c * b ↔ (a : ℚ) / b < c / d := by
  rw [div_lt_div_iff₀ (by exact_mod_cast b_pos) (by exact_mod_cast d_pos)]
  norm_cast

theorem fraction_eq {a b c d : ℕ} (b_pos : 0 < b) (d_pos : 0 < d) :
    a * d = c * b ↔ (a : ℚ) / b = c / d := by
  rw [div_eq_div_iff (by exact_mod_cast b_pos.ne') (by exact_mod_cast d_pos.ne')]
  norm_cast

/-- A power whose exponent may be negative, as a fraction of whole numbers. -/
theorem pow_div_pow {b : ℕ} (pos : 0 < b) (e : ℤ) :
    ((Nat.pow b e.toNat : ℕ) : ℚ) / (Nat.pow b (-e).toNat : ℕ) = (b : ℚ) ^ e := by
  have nonzero : (b : ℚ) ≠ 0 := by exact_mod_cast pos.ne'
  rw [Nat.pow_eq, Nat.pow_eq, Nat.cast_pow, Nat.cast_pow, ← zpow_natCast, ← zpow_natCast,
    ← zpow_sub₀ nonzero]
  congr 1
  omega

theorem gridUnit_div (p : ℤ) (n : ℕ) : ((gridUnit p n).1 : ℚ) / (gridUnit p n).2 = 10 ^ (p - n) := by
  rw [gridUnit, pow_div_pow (by decide)]
  rfl

theorem grid_point (p : ℤ) (n k : ℕ) :
    ((k * (gridUnit p n).1 : ℕ) : ℚ) / (gridUnit p n).2 = k * 10 ^ (p - n) := by
  rw [Nat.cast_mul, mul_div_assoc, gridUnit_div]

theorem gridUnit_pos (p : ℤ) (n : ℕ) : 0 < (gridUnit p n).1 ∧ 0 < (gridUnit p n).2 :=
  ⟨Nat.pow_pos (by decide), Nat.pow_pos (by decide)⟩

theorem pow_digitCount_le {n : ℕ} (pos : 0 < n) : 10 ^ (digitCount n - 1) ≤ n := by
  by_contra less
  have nonzero : digitCount n - 1 ≠ 0 := by
    intro zero
    rw [zero] at less
    omega
  have short : digitCount n ≤ digitCount n - 1 :=
    (Nat.length_repr_le_iff (Nat.pos_of_ne_zero nonzero)).mpr (not_le.mp less)
  omega

/-- The leading digit of a number of which so many places are made whole. -/
theorem pow_le_of_floor {v : ℚ} {whole places : ℕ} (positive : 0 < whole)
    (floor : (whole : ℚ) ≤ v * 10 ^ (places : ℤ)) : (10 : ℚ) ^ ((digitCount whole : ℤ) - places - 1) ≤ v := by
  have scale : (0 : ℚ) < 10 ^ (places : ℤ) := by positivity
  have digits : (10 : ℚ) ^ ((digitCount whole : ℤ) - 1) ≤ whole := by
    rw [← Nat.cast_pred (show 0 < digitCount whole from Nat.length_repr_pos), zpow_natCast]
    exact_mod_cast pow_digitCount_le positive
  rw [sub_right_comm, zpow_sub₀ (by norm_num), div_le_iff₀ scale]
  exact digits.trans floor

/-! ## The interval -/

namespace RoundingInterval

variable {m : ℕ} {q : ℤ} {lowest : Bool}

theorem den_pos : 0 < (ofBinary m q lowest).den :=
  Nat.mul_pos (by decide) (Nat.pow_pos (by decide))

/-- Quarters of the unit are whole numbers over the denominator. -/
theorem quarters_div_den (c : ℕ) :
    ((c * Nat.pow 2 q.toNat : ℕ) : ℚ) / (ofBinary m q lowest).den = c / 4 * 2 ^ q := by
  have power := pow_div_pow (b := 2) (by decide) q
  rw [ofBinary, Nat.cast_mul, Nat.cast_mul, mul_div_mul_comm, power]
  rfl

theorem value_div_den : ((ofBinary m q lowest).value : ℚ) / (ofBinary m q lowest).den = m * 2 ^ q := by
  refine (quarters_div_den (4 * m)).trans ?_
  push_cast
  ring

theorem low_div_den (pos : 1 ≤ m) :
    ((ofBinary m q lowest).low : ℚ) / (ofBinary m q lowest).den = (m - lowerGap lowest) * 2 ^ q := by
  refine (quarters_div_den (4 * m - if lowest then 1 else 2)).trans ?_
  have quarters : (if lowest then 1 else 2) ≤ 4 * m := by
    split <;> omega
  rw [Nat.cast_sub quarters]
  congr 1
  cases lowest <;> norm_num [lowerGap] <;> ring

theorem high_div_den :
    ((ofBinary m q lowest).high : ℚ) / (ofBinary m q lowest).den = (m + 1 / 2) * 2 ^ q := by
  refine (quarters_div_den (4 * m + 2)).trans ?_
  push_cast
  ring

theorem holds_iff (pos : 1 ≤ m) {num den : ℕ} (nonzero : 0 < den) :
    (ofBinary m q lowest).holds num den ↔ ReadsAs m q lowest (num / den) := by
  have closed : (ofBinary m q lowest).closed = decide (m % 2 = 0) := rfl
  simp only [holds, Bool.and_eq_true, Bool.or_eq_true, beq_iff_eq, Nat.compare_eq_lt, Nat.compare_eq_eq,
    fraction_lt den_pos nonzero, fraction_eq den_pos nonzero, fraction_lt nonzero den_pos,
    fraction_eq nonzero den_pos, low_div_den pos, high_div_den, closed, decide_eq_true_eq]
  exact ⟨fun reads => ⟨reads.1, reads.2⟩, fun reads => ⟨reads.low, reads.high⟩⟩

end RoundingInterval

/-! ## Digits that are near enough -/

section Grid

variable {m : ℕ} {q : ℤ} {lowest : Bool} {x : ℚ}

/-- A number has fewer than `2 ^ 54` gaps, so what is near to it in its seventeenth digit lies within one. -/
theorem readsAs_of_close (own : Canonical m q) (power : lowest → m = 2 ^ 52)
    (close : |x - m * 2 ^ q| * (2 * 10 ^ 16) ≤ m * 2 ^ q) : ReadsAs m q lowest x := by
  have unit : (0 : ℚ) < 2 ^ q := by positivity
  have below : (m : ℚ) ≤ 2 ^ 53 := by exact_mod_cast own.below.le
  have gap : (m : ℚ) ≤ lowerGap lowest * 2 ^ 54 := by
    cases lowest with
    | false => norm_num [lowerGap] at below ⊢; linarith
    | true => norm_num [lowerGap, power rfl]
  have half : lowerGap lowest ≤ 1 / 2 := by
    cases lowest <;> norm_num [lowerGap]
  have near : |x - m * 2 ^ q| < lowerGap lowest * 2 ^ q := by
    have scaled : (m : ℚ) * 2 ^ q ≤ lowerGap lowest * 2 ^ q * 2 ^ 54 := by
      calc (m : ℚ) * 2 ^ q ≤ lowerGap lowest * 2 ^ 54 * 2 ^ q := mul_le_mul_of_nonneg_right gap unit.le
        _ = lowerGap lowest * 2 ^ q * 2 ^ 54 := by ring
    have positive := mul_pos (lowerGap_pos lowest) unit
    have digits : (2 : ℚ) ^ 54 < 2 * 10 ^ 16 := by norm_num
    by_contra far
    have := mul_le_mul_of_nonneg_right (not_lt.mp far) (show (0 : ℚ) ≤ 2 * 10 ^ 16 by norm_num)
    have := mul_lt_mul_of_pos_left digits positive
    linarith
  obtain ⟨low, high⟩ := abs_lt.mp near
  have upper : lowerGap lowest * 2 ^ q ≤ 1 / 2 * 2 ^ q := mul_le_mul_of_nonneg_right half unit.le
  exact ⟨.inl (by linarith), .inl (by linarith)⟩

/-- Of the two points around a quotient, one is at most half a unit away. -/
theorem div_close (a : ℕ) {b : ℕ} (pos : 0 < b) :
    |((a / b : ℕ) : ℚ) - a / b| ≤ 1 / 2 ∨ |((a / b + 1 : ℕ) : ℚ) - a / b| ≤ 1 / 2 := by
  have above : ((a / b : ℕ) : ℚ) ≤ a / b := Nat.cast_div_le
  have below : (a : ℚ) / b < ((a / b : ℕ) : ℚ) + 1 := by
    rw [div_lt_iff₀ (by exact_mod_cast pos)]
    exact_mod_cast (Nat.div_lt_iff_lt_mul pos).mp (Nat.lt_succ_self _)
  rw [Nat.cast_succ]
  rcases le_total ((a : ℚ) / b - (a / b : ℕ)) (1 / 2) with near | near
  · exact .inl (abs_le.mpr ⟨by linarith, by linarith⟩)
  · exact .inr (abs_le.mpr ⟨by linarith, by linarith⟩)

theorem close_of_div {k t unit v : ℚ} (near : |k - t| ≤ 1 / 2) (pos : 0 < unit) (value : v = t * unit)
    (leading : unit * 10 ^ 16 ≤ v) : |k * unit - v| * (2 * 10 ^ 16) ≤ v := by
  have scaled : |k * unit - v| ≤ 1 / 2 * unit := by
    rw [value, ← sub_mul, abs_mul, abs_of_pos pos]
    exact mul_le_mul_of_nonneg_right near pos.le
  linarith

end Grid

/-! ## Digits that are found -/

namespace RoundingInterval

variable {i : RoundingInterval} {p : ℤ} {n k : ℕ}

/-- A point that is found lies in the interval. -/
theorem onGrid?_sound (found : i.onGrid? p n = some k) :
    i.holds (k * (gridUnit p n).1) (gridUnit p n).2 := by
  unfold onGrid? at found
  dsimp only at found
  split at found
  · cases found
  · next low _ =>
      obtain rfl := Option.some.inj found
      exact low
  · next _ high =>
      obtain rfl := Option.some.inj found
      exact high
  · next low high =>
      split at found
      · obtain rfl := Option.some.inj found
        exact low
      · obtain rfl := Option.some.inj found
        exact high
      · obtain rfl := Option.some.inj found
        split
        · exact low
        · exact high

/-- A point is found if one of the two around the number lies in the interval. -/
theorem onGrid?_complete (missed : i.onGrid? p n = none) :
    ¬i.holds (i.value * (gridUnit p n).2 / (i.den * (gridUnit p n).1) * (gridUnit p n).1) (gridUnit p n).2 ∧
      ¬i.holds ((i.value * (gridUnit p n).2 / (i.den * (gridUnit p n).1) + 1) * (gridUnit p n).1)
        (gridUnit p n).2 := by
  unfold onGrid? at missed
  dsimp only at missed
  split at missed
  · next low high => exact ⟨by simp [low], by simp [high]⟩
  · cases missed
  · cases missed
  · split at missed <;> cases missed

/-- The definition as a function: for a single interval, checking the equation would evaluate the search. -/
theorem shortest_eq : shortest = fun i =>
    let p := i.leadingPlace
    match (List.range 17).findSome? fun k => (i.onGrid? p (k + 1)).map (·, k + 1) with
    | some (digits, n) => (digits, p + ((digitCount digits : ℤ) - n))
    | none => (i.value / i.den, p) :=
  Eq.refl shortest

/-- What is written is a point of the first grid that has one in the interval. -/
theorem shortest_onGrid {digits : ℕ} {place : ℤ} (found : i.shortest = (digits, place))
    (last : i.onGrid? i.leadingPlace 17 ≠ none) :
    ∃ n, i.onGrid? i.leadingPlace n = some digits ∧ place - digitCount digits = i.leadingPlace - n := by
  rw [shortest_eq] at found
  dsimp only at found
  generalize i.leadingPlace = p at found last ⊢
  cases first : (List.range 17).findSome? (fun k => (i.onGrid? p (k + 1)).map (·, k + 1)) with
  | none =>
      have missed := List.findSome?_eq_none_iff.mp first 16 (by decide)
      exact absurd (Option.map_eq_none_iff.mp missed) last
  | some pair =>
      obtain ⟨k, -, here⟩ := List.exists_of_findSome?_eq_some first
      obtain ⟨point, grid, rfl⟩ := Option.map_eq_some_iff.mp here
      simp only [first, Prod.mk.injEq] at found
      obtain ⟨rfl, rfl⟩ := found
      exact ⟨k + 1, grid, by omega⟩

variable {m : ℕ} {q : ℤ} {lowest : Bool}

theorem den_le_value (own : Canonical m q) {scale : ℕ} (power : Nat.pow 2 (-q).toNat ≤ scale) :
    (ofBinary m q lowest).den ≤ (ofBinary m q lowest).value * scale := by
  have one : 1 ≤ m * Nat.pow 2 q.toNat := Nat.mul_pos own.pos (Nat.pow_pos (by decide))
  calc 4 * Nat.pow 2 (-q).toNat ≤ 4 * scale := Nat.mul_le_mul_left 4 power
    _ ≤ 4 * (m * Nat.pow 2 q.toNat) * scale := Nat.mul_le_mul_right _ (Nat.mul_le_mul_left 4 one)
    _ = 4 * m * Nat.pow 2 q.toNat * scale := by rw [← Nat.mul_assoc 4]

/-- Ten digits hold more than 31 bits. -/
theorem bits_le_digits {bits k : ℕ} (bits_le : bits ≤ 31 * k) : Nat.pow 2 bits ≤ Nat.pow 10 (10 * k) := by
  calc 2 ^ bits ≤ 2 ^ (31 * k) := Nat.pow_le_pow_right (by decide) bits_le
    _ = (2 ^ 31) ^ k := Nat.pow_mul ..
    _ ≤ (10 ^ 10) ^ k := Nat.pow_le_pow_left (by decide) k
    _ = 10 ^ (10 * k) := (Nat.pow_mul ..).symm

/-- The least number, `2 ^ -1074`, is above `10 ^ -350`. -/
theorem unit_le_scale (own : Canonical m q) {places : ℕ} (enough : 350 ≤ places) :
    Nat.pow 2 (-q).toNat ≤ Nat.pow 10 places := by
  obtain ⟨k, bits, digits⟩ : ∃ k, (-q).toNat ≤ 31 * k ∧ 10 * k ≤ places := by
    have := own.least
    exact ⟨35, by omega, by omega⟩
  exact (bits_le_digits bits).trans (Nat.pow_le_pow_right (by decide) digits)

theorem leading_le (own : Canonical m q) {places : ℕ} (enough : 350 ≤ places) :
    (10 : ℚ) ^ ((digitCount ((ofBinary m q lowest).value * Nat.pow 10 places / (ofBinary m q lowest).den) : ℤ)
      - places - 1) ≤ m * 2 ^ q := by
  refine pow_le_of_floor (Nat.div_pos (den_le_value own (unit_le_scale own enough)) den_pos) ?_
  refine Nat.cast_div_le.trans (le_of_eq ?_)
  rw [Nat.cast_mul, mul_div_right_comm, value_div_den, Nat.pow_eq, Nat.cast_pow, zpow_natCast]
  rfl

/-- The leading digit does not stand above the number. -/
theorem leadingPlace_le (own : Canonical m q) :
    (10 : ℚ) ^ ((ofBinary m q lowest).leadingPlace - 1) ≤ m * 2 ^ q :=
  leading_le own (le_refl 350)

theorem onGrid?_seventeen (own : Canonical m q) (power : lowest → m = 2 ^ 52)
    (leading : (10 : ℚ) ^ (p - 1) ≤ m * 2 ^ q) : (ofBinary m q lowest).onGrid? p 17 ≠ none := by
  intro missed
  let i := ofBinary m q lowest
  obtain ⟨low, high⟩ := onGrid?_complete missed
  obtain ⟨up, down⟩ := gridUnit_pos p 17
  have unit : (0 : ℚ) < 10 ^ (p - (17 : ℕ)) := by positivity
  rw [holds_iff own.pos down, grid_point] at low high
  have spaced : (10 : ℚ) ^ (p - (17 : ℕ)) * 10 ^ 16 ≤ m * 2 ^ q := by
    refine le_trans (le_of_eq ?_) leading
    rw [← zpow_natCast, ← zpow_add₀ (by norm_num)]
    congr 1
    omega
  have quotient : (m : ℚ) * 2 ^ q = ((i.value * (gridUnit p 17).2 : ℕ) : ℚ)
      / (i.den * (gridUnit p 17).1 : ℕ) * 10 ^ (p - (17 : ℕ)) := by
    have up' : ((gridUnit p 17).1 : ℚ) ≠ 0 := by exact_mod_cast up.ne'
    have down' : ((gridUnit p 17).2 : ℚ) ≠ 0 := by exact_mod_cast down.ne'
    rw [← gridUnit_div, ← value_div_den]
    push_cast
    field_simp
    rfl
  rcases div_close (i.value * (gridUnit p 17).2) (Nat.mul_pos den_pos up) with near | near
  · exact low (readsAs_of_close own power (close_of_div near unit quotient spaced))
  · exact high (readsAs_of_close own power (close_of_div near unit quotient spaced))

/-- Digits are found, and they are read back. -/
theorem shortest_reads (own : Canonical m q) (power : lowest → m = 2 ^ 52) {digits : ℕ} {place : ℤ}
    (found : (ofBinary m q lowest).shortest = (digits, place)) :
    0 < digits ∧ ReadsAs m q lowest (digits * 10 ^ (place - digitCount digits)) := by
  obtain ⟨n, grid, scale⟩ := shortest_onGrid found (onGrid?_seventeen own power (leadingPlace_le own))
  have reads := (holds_iff own.pos (gridUnit_pos _ n).2).mp (onGrid?_sound grid)
  rw [grid_point, ← scale] at reads
  refine ⟨Nat.pos_of_ne_zero ?_, reads⟩
  rintro rfl
  have positive := reads.pos own
  rw [Nat.cast_zero, zero_mul] at positive
  exact lt_irrefl 0 positive

end RoundingInterval

end IndexAdvisor.Number
