import IndexAdvisor.Number.Decimal
import IndexAdvisor.Proofs.Sql.Constants
import IndexAdvisor.Proofs.Sql.Settled

/-! # Texts of numbers

Whole numbers, decimals with all their digits and binary numbers are written as digits, at most one point
and at most one power of ten, whose value is that of the digits with the place of the leading one.
-/

namespace IndexAdvisor.Sql

open Number

/-- The text is a number in digits with the value. -/
def Spells (cs : List Char) (x : ℚ) : Prop := ∃ s : Spelling, s.Proper ∧ s.chars = cs ∧ s.value = x

/-- The text is a number in digits, perhaps behind a minus, with the value. -/
def Writes (text : String) (x : ℚ) : Prop :=
  ∃ negative body y, text.toList = signedChars negative body ∧ Spells body y ∧ signed negative y = x

theorem Writes.constant? {text : String} {x : ℚ} (writes : Writes text x) : constant? text = some x := by
  obtain ⟨negative, body, y, chars, ⟨s, proper, rfl, rfl⟩, rfl⟩ := writes
  rw [← String.ofList_toList (s := text), chars]
  exact constant?_number proper negative

/-! ## Digits -/

section Digits

variable {ds es : List Char}

theorem digits_toString (n : ℕ) : Digits (toString n).toList := fun _ mem => isDigit_of_mem_toString mem

theorem toString_ne_nil (n : ℕ) : (toString n).toList ≠ [] := by
  rw [Nat.toString_eq_ofList_toDigits, String.toList_ofList]
  exact Nat.toDigits_ne_nil

theorem value_toString (n : ℕ) : Nat.ofDigitChars 10 (toString n).toList 0 = n := by
  rw [Nat.toString_eq_ofList_toDigits, String.toList_ofList]
  exact Nat.ofDigitChars_ten_toDigits

theorem value_append_zeros (ds : List Char) (n : ℕ) :
    Nat.ofDigitChars 10 (ds ++ List.replicate n '0') 0 = Nat.ofDigitChars 10 ds 0 * 10 ^ n := by
  rw [Nat.ofDigitChars_append, Nat.ofDigitChars_replicate_zero, Nat.mul_comm]

theorem value_zeros_append (n : ℕ) (ds : List Char) :
    Nat.ofDigitChars 10 (List.replicate n '0' ++ ds) 0 = Nat.ofDigitChars 10 ds 0 := by
  rw [Nat.ofDigitChars_append, Nat.ofDigitChars_replicate_zero, Nat.mul_zero]

theorem Digits.of_mem (digits : Digits es) (sub : ∀ c ∈ ds, c ∈ es) : Digits ds :=
  fun c mem => digits c (sub c mem)

theorem spells_digits (digits : Digits ds) (given : ds ≠ []) : Spells ds (Nat.ofDigitChars 10 ds 0) := by
  refine ⟨⟨ds, [], none⟩, ⟨given, digits, List.forall_mem_nil _, by simp⟩, ?_, ?_⟩
  · simp [Spelling.chars, Spelling.point, Spelling.tail]
  · simp [Spelling.value, Spelling.exponent]

/-- The digits of a number with a point before the last ones. -/
theorem spells_point (first : Digits ds) (given : ds ≠ []) (second : Digits es) (given' : es ≠ []) :
    Spells (ds ++ '.' :: es) (Nat.ofDigitChars 10 (ds ++ es) 0 * 10 ^ (-es.length : ℤ)) := by
  refine ⟨⟨ds, es, none⟩, ⟨given, first, second, by simp⟩, ?_, ?_⟩
  · simp [Spelling.chars, Spelling.point, Spelling.tail, given']
  · simp [Spelling.value, Spelling.exponent]

/-- As many digits stand behind the point as there are places, with zeros before them where needed. -/
theorem spells_pointed (digits : Digits ds) (given : ds ≠ []) (places : ℕ) :
    Spells (Decimal.pointed ds places) (Nat.ofDigitChars 10 ds 0 * 10 ^ (-places : ℤ)) := by
  unfold Decimal.pointed
  split
  · next none =>
      subst none
      simpa using spells_digits digits given
  · next some =>
      let padded := List.replicate (places + 1 - ds.length) '0' ++ ds
      have length : places + 1 ≤ padded.length := by
        simp only [padded, List.length_append, List.length_replicate]
        omega
      have inner : Digits padded := (digits_zeros _).append digits
      have value : Nat.ofDigitChars 10 padded 0 = Nat.ofDigitChars 10 ds 0 := value_zeros_append _ ds
      have behind : (padded.drop (padded.length - places)).length = places := by
        rw [List.length_drop]
        omega
      have spelled := spells_point (inner.of_mem fun c => List.mem_of_mem_take (i := padded.length - places)) ?_
        (inner.of_mem fun c => List.mem_of_mem_drop (i := padded.length - places)) ?_
      · rwa [List.take_append_drop, value, behind] at spelled
      · intro empty
        have none := congrArg List.length empty
        rw [List.length_take, List.length_nil] at none
        omega
      · intro empty
        rw [empty] at behind
        exact some behind.symm

end Digits

/-! ## Whole numbers and decimals -/

theorem spells_nat (n : ℕ) : Spells (toString n).toList n := by
  have spelled := spells_digits (digits_toString n) (toString_ne_nil n)
  rwa [value_toString] at spelled

theorem writes_nat (n : ℕ) : Writes (toString n) n :=
  ⟨false, _, n, rfl, spells_nat n, rfl⟩

theorem writes_int (n : ℤ) : Writes (toString n) n := by
  rw [Int.toString_eq_repr, Int.repr_eq_if]
  split
  · next nonneg =>
      refine ⟨false, _, n.toNat, rfl, spells_nat n.toNat, ?_⟩
      have same : (n.toNat : ℤ) = n := Int.toNat_of_nonneg nonneg
      change (n.toNat : ℚ) = n
      exact_mod_cast congrArg (Int.cast (R := ℚ)) same
  · next negative =>
      refine ⟨true, _, (-n).toNat, String.toList_append, spells_nat (-n).toNat, ?_⟩
      have same : -((-n).toNat : ℤ) = n := by omega
      change -((-n).toNat : ℚ) = n
      exact_mod_cast congrArg (Int.cast (R := ℚ)) same

theorem toList_signed (negative : Bool) (cs : List Char) :
    (Decimal.signText negative ++ String.ofList cs).toList = signedChars negative cs := by
  rw [String.toList_append, String.toList_ofList]
  cases negative <;> rfl

theorem writes_plain (negative : Bool) (coefficient : ℕ) (exponent : ℤ) :
    Writes (Decimal.plain (.finite negative coefficient exponent))
      (signed negative (coefficient * 10 ^ exponent)) := by
  refine ⟨negative, _, _, toList_signed negative _, ?_, rfl⟩
  have digits := digits_toString coefficient
  have given := toString_ne_nil coefficient
  split
  · next nonneg =>
      obtain ⟨e, rfl⟩ := Int.eq_ofNat_of_zero_le nonneg
      split
      · next zero =>
          subst zero
          simpa using spells_nat 0
      · have zeros := digits_zeros e
        have spelled := spells_digits (digits.append zeros) (List.append_ne_nil_of_left_ne_nil given _)
        rw [value_append_zeros, value_toString] at spelled
        simpa using spelled
  · next below =>
      have spelled := spells_pointed digits given (-exponent).toNat
      have power : (-((-exponent).toNat : ℤ)) = exponent := by omega
      rwa [value_toString, power] at spelled

/-! ## Binary numbers -/

section Float

variable {ds : List Char}

theorem dropZeros_append (ds : List Char) : ∃ n, dropZeros ds ++ List.replicate n '0' = ds := by
  let zeros := ds.reverse.takeWhile (· == '0')
  have all : zeros = List.replicate zeros.length '0' := by
    apply List.eq_replicate_length.mpr
    intro c mem
    exact beq_iff_eq.mp (List.mem_takeWhile_imp (p := (· == '0')) mem)
  refine ⟨zeros.length, ?_⟩
  rw [dropZeros, ← List.reverse_replicate, ← all, ← List.reverse_append, List.takeWhile_append_dropWhile,
    List.reverse_reverse]

/-- The digits of a number with the place of the leading one. -/
theorem spells_positional (digits : Digits ds) (given : ds ≠ []) (place : ℤ) :
    Spells (positional ds place) (Nat.ofDigitChars 10 ds 0 * 10 ^ (place - ds.length)) := by
  have zero : Digits ['0'] := digits_zeros 1
  -- the point stands before the digits, behind them or among them
  unfold positional
  split
  · next before =>
      have zeros := digits_zeros (-place).toNat
      have spelled := spells_point zero (by simp) (zeros.append digits)
        (List.append_ne_nil_of_right_ne_nil _ given)
      have value : Nat.ofDigitChars 10 (['0'] ++ (List.replicate (-place).toNat '0' ++ ds)) 0
          = Nat.ofDigitChars 10 ds 0 := value_zeros_append ((-place).toNat + 1) ds
      have power : -((List.replicate (-place).toNat '0' ++ ds).length : ℤ) = place - ds.length := by
        rw [List.length_append, List.length_replicate]
        omega
      rwa [value, power] at spelled
  · next inside =>
      dsimp only
      split
      · next empty =>
          have short : ds.length ≤ place.toNat := List.drop_eq_nil_iff.mp (List.isEmpty_iff.mp empty)
          have zeros := digits_zeros (place.toNat - ds.length)
          have spelled := spells_point (digits.append zeros)
            (List.append_ne_nil_of_left_ne_nil given _) zero (by simp)
          have value : Nat.ofDigitChars 10 (ds ++ List.replicate (place.toNat - ds.length) '0' ++ ['0']) 0
              = Nat.ofDigitChars 10 ds 0 * 10 ^ (place.toNat - ds.length + 1) := by
            rw [← value_append_zeros, List.replicate_succ', List.append_assoc]
          rw [value] at spelled
          rw [List.take_of_length_le short]
          have power : (10 : ℚ) ^ (place - ds.length)
              = 10 ^ (place.toNat - ds.length + 1) * 10 ^ (-['0'].length : ℤ) := by
            rw [← zpow_natCast, ← zpow_add₀ (by norm_num)]
            congr 1
            rw [List.length_singleton]
            omega
          rwa [power, ← mul_assoc, ← Nat.cast_ofNat (R := ℚ) (n := 10), ← Nat.cast_pow, ← Nat.cast_mul]
      · next given' =>
          have long : place.toNat < ds.length := by
            by_contra short
            exact given' (List.isEmpty_iff.mpr (List.drop_eq_nil_iff.mpr (not_lt.mp short)))
          have spelled := spells_point (digits.of_mem fun c => List.mem_of_mem_take (i := place.toNat)) ?_
            (digits.of_mem fun c => List.mem_of_mem_drop (i := place.toNat)) (mt List.isEmpty_iff.mpr given')
          · have power : -((ds.drop place.toNat).length : ℤ) = place - ds.length := by
              rw [List.length_drop]
              omega
            rw [List.take_append_drop, power] at spelled
            rwa [Nat.sub_eq_zero_of_le long.le, List.replicate_zero, List.append_nil]
          · intro empty
            rcases List.take_eq_nil_iff.mp empty with zero | none
            · omega
            · exact given none

theorem spells_scientific (digits : Digits ds) (given : ds ≠ []) (place : ℤ) :
    Spells (scientific ds place) (Nat.ofDigitChars 10 ds 0 * 10 ^ (place - ds.length)) := by
  let magnitude := (toString (place - 1).natAbs).toList
  let zeros := List.replicate (2 - magnitude.length) '0'
  have power : Digits (zeros ++ magnitude) := (digits_zeros _).append (digits_toString _)
  have power_ne : zeros ++ magnitude ≠ [] := List.append_ne_nil_of_right_ne_nil _ (toString_ne_nil _)
  refine ⟨⟨ds.take 1, ds.drop 1, some (decide (place - 1 < 0), zeros ++ magnitude)⟩, ?_, ?_, ?_⟩
  · refine ⟨?_, digits.of_mem fun c => List.mem_of_mem_take, digits.of_mem fun c => List.mem_of_mem_drop, ?_⟩
    · simp [given]
    · rintro negative ds same
      cases same
      exact ⟨power_ne, power⟩
  · simp [Spelling.chars, Spelling.point, Spelling.tail, scientific, zeros, magnitude]
  · have value : Nat.ofDigitChars 10 (zeros ++ magnitude) 0 = (place - 1).natAbs :=
      (value_zeros_append _ _).trans (value_toString _)
    have long : 0 < ds.length := List.length_pos_iff.mpr given
    have exponent : (if decide (place - 1 < 0) then -((place - 1).natAbs : ℤ) else (place - 1).natAbs)
        - (ds.length - 1 : ℕ) = place - ds.length := by
      split
      · next below =>
          have below := of_decide_eq_true below
          omega
      · next above =>
          have above : ¬place - 1 < 0 := fun below => above (decide_eq_true below)
          omega
    rw [Spelling.value, Spelling.exponent]
    dsimp only
    rw [List.take_append_drop, value, List.length_drop, exponent]

theorem writes_found (style : FloatStyle) (negative : Bool) {n : ℕ} (pos : 0 < n) (place : ℤ) :
    Writes (style.write negative n place) (signed negative (n * 10 ^ (place - digitCount n))) := by
  obtain ⟨k, whole⟩ := dropZeros_append (toString n).toList
  let ds := dropZeros (toString n).toList
  have digits : Digits ds := (digits_toString n).of_mem fun c mem => by
    rw [← whole]
    exact List.mem_append_left _ mem
  have value : Nat.ofDigitChars 10 ds 0 * 10 ^ k = n := by
    rw [← value_append_zeros, whole, value_toString]
  have length : digitCount n = ds.length + k := by
    rw [digitCount, ← String.length_toList, ← whole, List.length_append, List.length_replicate]
  have given : ds ≠ [] := by
    intro empty
    rw [empty, Nat.ofDigitChars_nil, Nat.zero_mul] at value
    omega
  have scale : (n : ℚ) * 10 ^ (place - digitCount n) = Nat.ofDigitChars 10 ds 0 * 10 ^ (place - ds.length) := by
    have shift : (k : ℤ) + (place - (ds.length + k : ℕ)) = place - ds.length := by omega
    rw [length, ← value, Nat.cast_mul, Nat.cast_pow, mul_assoc, Nat.cast_ofNat, ← zpow_natCast,
      ← zpow_add₀ (by norm_num), shift]
  refine ⟨negative, if style.small < place ∧ place ≤ style.large then positional ds place else scientific ds place,
    _, ?_, ?_, rfl⟩
  · rw [FloatStyle.write, String.toList_ofList]
    rfl
  · rw [scale]
    split
    · exact spells_positional digits given place
    · exact spells_scientific digits given place

end Float

end IndexAdvisor.Sql
