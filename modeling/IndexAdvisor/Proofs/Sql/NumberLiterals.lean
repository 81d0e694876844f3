import IndexAdvisor.Proofs.Number.Shortest
import IndexAdvisor.Proofs.Sql.Spelled

/-! # Literals of numbers

In a column of numbers a value is put in without quotes. For a number that is a constant of its value: of a
truth value, a whole number and a decimal exactly, of a binary number to its rounding. Infinities and what is
no number are put in as a word, and a text is put in as it stands.
-/

namespace IndexAdvisor.Sql

open Number

/-! ## What a literal stands for -/

/-- The value of a decimal; an infinity has none. -/
def decimalNumber? : Decimal → Option ℚ
  | .finite negative coefficient exponent => some (signed negative (coefficient * 10 ^ exponent))
  | _ => none

/-- The number that a value is; of a text, the constant that it is. -/
def number? : Value → Option ℚ
  | .bool b => some (if b then 1 else 0)
  | .int n => some n
  | .float x => (BinaryParts.ofBits x.toBits).value?
  | .decimal d => decimalNumber? d
  | .text s => constant? s
  | _ => none

/-- The number `x` is the value: a binary number is one by rounding. -/
def IsValueOf (x : ℚ) : Value → Prop
  | .float y => RoundsTo x y.toBits
  | v => number? v = some x

/-- The literal is a constant of the value, or it is quoted. -/
def Faithful (literal : String) (v : Value) : Prop :=
  (∃ x, constant? literal = some x ∧ IsValueOf x v) ∨ IsQuoted literal

/-- The values that a column of numbers may have. -/
def isSampledNumber : Value → Bool
  | .bool _ | .int _ | .float _ | .decimal _ | .text _ => true
  | _ => false

/-! ## Binary numbers -/

theorem roundsTo_of_reads {bits : UInt64} {negative lowest : Bool} {m : ℕ} {q : ℤ} {x : ℚ}
    (parts : BinaryParts.ofBits bits = .finite negative m q lowest) (reads : ReadsAs m q lowest x) :
    RoundsTo (signed negative x) bits := by
  obtain ⟨own, -, more, parity⟩ := canonical_ofBits parts
  have pos := reads.pos own
  have magnitude : |signed negative x| = x := by
    cases negative with
    | false => exact abs_of_pos pos
    | true => exact (abs_neg x).trans (abs_of_pos pos)
  refine ⟨magnitude.trans_lt (reads.bounded own), signed negative (m * 2 ^ q), by rw [parts]; rfl, ?_⟩
  intro other w value distinct
  have apart : signed negative w ≠ m * 2 ^ q := by
    intro same
    rw [← same, signed_signed] at distinct
    exact distinct rfl
  have nearest := reads.nearest own more ((isBinary_of_value value).signed negative) apart
  rwa [abs_signed_sub, abs_signed_sub, signed_signed, ← parity]

theorem roundsTo_zero {bits : UInt64} {negative : Bool} (parts : BinaryParts.ofBits bits = .zero negative) :
    RoundsTo 0 bits := by
  refine ⟨?_, 0, by rw [parts]; rfl, ?_⟩
  · rw [abs_zero, overflow]
    exact mul_pos (by norm_num) (by positivity)
  · intro other w value distinct
    rw [sub_zero, abs_zero, zero_sub, abs_neg]
    exact .inl (abs_pos.mpr distinct)

/-- A finite binary number is written as a constant that is rounded to it. -/
theorem writes_float {bits : UInt64} (style : FloatStyle) (finite : (BinaryParts.ofBits bits).value?.isSome) :
    ∃ x, Writes ((BinaryParts.ofBits bits).write style) x ∧ RoundsTo x bits := by
  cases parts : BinaryParts.ofBits bits with
  | nan => simp [parts, BinaryParts.value?] at finite
  | infinite => simp [parts, BinaryParts.value?] at finite
  | zero negative =>
      refine ⟨0, ⟨negative, ['0', '.', '0'], 0, ?_, ?_, signed_zero negative⟩, roundsTo_zero parts⟩
      · cases negative <;> simp [BinaryParts.write, signedChars]
      · have spelled := spells_point (digits_zeros 1) (by simp) (digits_zeros 1) (by simp)
        have value : Nat.ofDigitChars 10 (List.replicate 1 '0' ++ List.replicate 1 '0') 0 = 0 := rfl
        rwa [value, Nat.cast_zero, zero_mul] at spelled
  | finite negative m q lowest =>
      obtain ⟨own, power, -, -⟩ := canonical_ofBits parts
      cases found : (RoundingInterval.ofBinary m q lowest).shortest with
      | mk digits place =>
          obtain ⟨pos, reads⟩ := RoundingInterval.shortest_reads own power found
          refine ⟨_, ?_, roundsTo_of_reads parts reads⟩
          rw [BinaryParts.write]
          simp only [found]
          exact writes_found style negative pos place

/-! ## Words -/

theorem beginsWord_float {bits : UInt64} (style : FloatStyle) (infinite : (BinaryParts.ofBits bits).value? = none) :
    BeginsWord ((BinaryParts.ofBits bits).write style) := by
  cases parts : BinaryParts.ofBits bits with
  | nan => exact beginsWord_chars (c := 'n') (d := 'a') rfl (by simp) ['n'] false
  | infinite negative =>
      cases negative with
      | false => exact beginsWord_chars (c := 'i') (d := 'n') rfl (by simp) ['f'] false
      | true => exact beginsWord_chars (c := 'i') (d := 'n') rfl (by simp) ['f'] true
  | zero => simp [parts, BinaryParts.value?] at infinite
  | finite => simp [parts, BinaryParts.value?] at infinite

theorem beginsWord_plain {d : Decimal} (infinite : decimalNumber? d = none) : BeginsWord d.plain := by
  have word {c e : Char} (letter : startsName c) (second : e = 'a' ∨ e = 'n' ∨ e = 'N') (cs : List Char)
      (negative : Bool) : BeginsWord (Decimal.signText negative ++ String.ofList (c :: e :: cs)) := by
    rw [← String.ofList_toList (s := _ ++ _), toList_signed]
    exact beginsWord_chars letter second cs negative
  cases d with
  | finite => simp [decimalNumber?] at infinite
  | infinite negative => exact word (c := 'I') (e := 'n') rfl (by simp) "finity".toList negative
  | nan negative signal payload =>
      have text : (Decimal.nan negative signal payload).plain = Decimal.signText negative ++
          String.ofList ((if signal then "sNaN" else "NaN").toList ++ payload.toList) := by
        simp [Decimal.plain, Decimal.specialText?, String.append_assoc]
      rw [text]
      cases signal with
      | false => exact word (c := 'N') (e := 'a') rfl (by simp) ('N' :: payload.toList) negative
      | true => exact word (c := 's') (e := 'N') rfl (by simp) ('a' :: 'N' :: payload.toList) negative

/-! ## Literals -/

/-- How a literal stands for a value in a column of numbers. -/
structure StandsFor (literal : String) (v : Value) : Prop where
  /-- The literal is faithful for a number, and for a quoted text, but for nothing else. -/
  faithful_iff : Faithful literal v ↔ (number? v).isSome ∨ ∃ s, v = .text s ∧ IsQuoted s
  constant : (number? v).isSome → ∃ x, constant? literal = some x ∧ IsValueOf x v
  word : number? v = none → BeginsWord literal ∨ v = .text literal

section

variable {literal : String} {v : Value}

theorem standsFor_of_writes {x : ℚ} (writes : Writes literal x) (value : IsValueOf x v)
    (given : (number? v).isSome) : StandsFor literal v where
  faithful_iff := ⟨fun _ => .inl given, fun _ => .inl ⟨x, writes.constant?, value⟩⟩
  constant := fun _ => ⟨x, writes.constant?, value⟩
  word := by
    intro none
    rw [none] at given
    exact nomatch given

theorem standsFor_of_word (begins : BeginsWord literal) (none : number? v = none) (other : ∀ s, v ≠ .text s) :
    StandsFor literal v where
  faithful_iff := by
    constructor
    · rintro (⟨x, constant, -⟩ | quoted)
      · rw [begins.constant?_eq_none] at constant
        exact nomatch constant
      · exact absurd quoted begins.not_quoted
    · rintro (given | ⟨s, same, -⟩)
      · rw [none] at given
        exact nomatch given
      · exact absurd same (other s)
  constant := by
    intro given
    rw [none] at given
    exact nomatch given
  word := fun _ => .inl begins

theorem standsFor_text (s : String) : StandsFor s (.text s) where
  faithful_iff := by
    constructor
    · rintro (⟨x, constant, -⟩ | quoted)
      · exact .inl (Option.isSome_of_eq_some constant)
      · exact .inr ⟨s, rfl, quoted⟩
    · rintro (given | ⟨s', same, quoted⟩)
      · obtain ⟨x, constant⟩ := Option.isSome_iff_exists.mp given
        exact .inl ⟨x, constant, constant⟩
      · cases same
        exact .inr quoted
  constant := by
    intro given
    obtain ⟨x, constant⟩ := Option.isSome_iff_exists.mp given
    exact ⟨x, constant, constant⟩
  word := fun _ => .inr rfl

end

end IndexAdvisor.Sql
