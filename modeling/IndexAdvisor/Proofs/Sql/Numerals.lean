import IndexAdvisor.Sql.Token.Numeral
import Mathlib

/-! # Numbers are read whole

Digits with a point and a power of ten are one number for the scanner: among the forms that begin there,
that of the whole text is the longest, and no other has its length before it.
-/

namespace IndexAdvisor.Sql

/-! ## The value of a number -/

/-- The value of the power of ten behind its letter. -/
def powerValue : List Char → ℤ
  | '-' :: digits => -Numeral.value 10 digits
  | '+' :: digits => Numeral.value 10 digits
  | digits => Numeral.value 10 digits

/-- The value of decimal digits with a point and a power of ten. -/
def decimalValue (cs : List Char) : ℚ :=
  let mantissa := cs.takeWhile fun c => c ≠ 'e' && c ≠ 'E'
  let whole := mantissa.takeWhile (· ≠ '.')
  let fraction := (mantissa.drop (whole.length + 1)).filter (· ≠ '_')
  Numeral.value 10 (whole ++ fraction) * 10 ^ (powerValue (cs.drop (mantissa.length + 1)) - fraction.length)

/-- The radix of digits behind a zero and a letter. -/
def radix? (letter : Char) : Option ℕ :=
  if letter = 'x' || letter = 'X' then some 16
  else if letter = 'o' || letter = 'O' then some 8
  else if letter = 'b' || letter = 'B' then some 2
  else none

/-- The value of a number as it is written. -/
def sourceValue : List Char → ℚ
  | '0' :: letter :: digits =>
    match radix? letter with
    | some radix => Numeral.value radix digits
    | none => decimalValue ('0' :: letter :: digits)
  | cs => decimalValue cs

/-- The value of a token that is a number. -/
def Lexeme.value? : Lexeme → Option ℚ
  | .integer n => some n
  | .number source => some (sourceValue source.toList)
  | _ => none

/-! ## Runs of digits -/

theorem ne_of_isDigit {c d : Char} (digit : c.isDigit) (other : d.isDigit = false) : c ≠ d := by
  rintro rfl
  exact Bool.noConfusion (other.symm.trans digit)

/-- A run of decimal digits. -/
def Digits (cs : List Char) : Prop := ∀ c ∈ cs, c.isDigit

/-- What follows a run of digits. -/
def EndsDigits (rest : List Char) : Prop := ∀ c ∈ rest.head?, c ≠ '_' ∧ c.isDigit = false

namespace Digits

variable {ds es rest : List Char} {c : Char}

theorem head (digits : Digits (c :: ds)) : c.isDigit := digits c List.mem_cons_self

theorem tail (digits : Digits (c :: ds)) : Digits ds := fun d mem => digits d (List.mem_cons_of_mem c mem)

theorem append (first : Digits ds) (second : Digits es) : Digits (ds ++ es) :=
  List.forall_mem_append.mpr ⟨first, second⟩

theorem groupTail (digits : Digits ds) (ends : EndsDigits rest) :
    Numeral.groupTail Char.isDigit (ds ++ rest) = ds.length := by
  induction ds with
  | nil =>
      cases rest with
      | nil => rfl
      | cons c rest =>
          obtain ⟨joint, digit⟩ := ends c rfl
          cases rest with
          | nil => simp [Numeral.groupTail, digit]
          | cons d rest => simp [Numeral.groupTail, digit, joint]
  | cons c ds ih =>
      have tail := ih digits.tail
      cases whole : ds ++ rest with
      | nil =>
          obtain ⟨rfl, rfl⟩ := List.append_eq_nil_iff.mp whole
          simp [Numeral.groupTail, digits.head]
      | cons d more =>
          rw [whole] at tail
          rw [List.cons_append, whole, Numeral.groupTail, if_pos digits.head, tail, List.length_cons]
          omega

theorem groupLength (digits : Digits ds) (ends : EndsDigits rest) :
    Numeral.groupLength (ds ++ rest) = ds.length := by
  cases ds with
  | nil =>
      cases rest with
      | nil => rfl
      | cons c rest => simp [Numeral.groupLength, (ends c rfl).2]
  | cons c ds =>
      rw [List.cons_append, Numeral.groupLength, if_pos digits.head, digits.tail.groupTail ends, List.length_cons]
      omega

theorem filter_joints (digits : Digits ds) : ds.filter (· ≠ '_') = ds :=
  List.filter_eq_self.mpr fun _ mem => decide_eq_true (ne_of_isDigit (digits _ mem) rfl)

theorem value (digits : Digits ds) : Numeral.value 10 ds = Nat.ofDigitChars 10 ds 0 := by
  rw [Numeral.value, digits.filter_joints]
  generalize 0 = start
  induction ds generalizing start with
  | nil => rfl
  | cons c ds ih =>
      rw [List.foldl_cons, ih digits.tail, Nat.ofDigitChars_cons, Numeral.digitValue, if_pos digits.head, Nat.mul_comm]

end Digits

theorem digits_zeros (n : ℕ) : Digits (List.replicate n '0') := by
  intro c mem
  rw [List.eq_of_mem_replicate mem]
  rfl

/-! ## The longest form -/

theorem longest_eq_self {f : ℕ × Numeral.Form} {after : List (ℕ × Numeral.Form)} (above : ∀ g ∈ after, g.1 ≤ f.1) :
    Numeral.longest f after = f := by
  induction after with
  | nil => rfl
  | cons g after ih =>
      obtain ⟨first, later⟩ := List.forall_mem_cons.mp above
      rw [Numeral.longest, if_neg (not_lt.mpr first), ih later]

/-- The first of the longest forms is read. -/
theorem longest_eq {best f : ℕ × Numeral.Form} (before : List (ℕ × Numeral.Form)) {after : List (ℕ × Numeral.Form)}
    (start : best.1 < f.1) (below : ∀ g ∈ before, g.1 < f.1) (above : ∀ g ∈ after, g.1 ≤ f.1) :
    Numeral.longest best (before ++ f :: after) = f := by
  induction before generalizing best with
  | nil => rw [List.nil_append, Numeral.longest, if_pos start, longest_eq_self above]
  | cons g before ih =>
      obtain ⟨first, later⟩ := List.forall_mem_cons.mp below
      rw [List.cons_append, Numeral.longest]
      split
      · exact ih first later
      · exact ih start later

theorem nameLength_le (cs : List Char) : Numeral.nameLength cs ≤ cs.length := by
  cases cs with
  | nil => exact le_rfl
  | cons c rest =>
      have run := (List.takeWhile_sublist (l := rest) continuesName).length_le
      rw [Numeral.nameLength, List.length_cons]
      split <;> omega

theorem named_le (cs : List Char) (n : ℕ) :
    (if n = 0 then 0 else match Numeral.nameLength (cs.drop n) with
      | 0 => 0
      | m => n + m) ≤ cs.length := by
  have inside := nameLength_le (cs.drop n)
  rw [List.length_drop] at inside
  split
  · exact Nat.zero_le _
  · cases name : Numeral.nameLength (cs.drop n) with
    | zero => exact Nat.zero_le _
    | succ m =>
        rw [name] at inside
        change n + (m + 1) ≤ cs.length
        omega

/-! ## Numbers in digits -/

/-- A number in digits before and behind a point, with a power of ten that has a sign. -/
structure Spelling where
  whole : List Char
  fraction : List Char
  power : Option (Bool × List Char)

namespace Spelling

/-- The digits behind the point, with the point. -/
def point (s : Spelling) : List Char := if s.fraction = [] then [] else '.' :: s.fraction

/-- The power of ten with its letter. -/
def tail (s : Spelling) : List Char :=
  match s.power with
  | none => []
  | some (negative, digits) => 'e' :: (if negative then '-' else '+') :: digits

/-- The text of the number. -/
def chars (s : Spelling) : List Char := s.whole ++ s.point ++ s.tail

/-- The power of ten. -/
def exponent (s : Spelling) : ℤ :=
  match s.power with
  | none => 0
  | some (negative, digits) => if negative then -Nat.ofDigitChars 10 digits 0 else Nat.ofDigitChars 10 digits 0

def value (s : Spelling) : ℚ :=
  Nat.ofDigitChars 10 (s.whole ++ s.fraction) 0 * 10 ^ (s.exponent - s.fraction.length)

/-- All digits are digits, and one stands before the point and in the power. -/
structure Proper (s : Spelling) : Prop where
  whole_ne : s.whole ≠ []
  whole : Digits s.whole
  fraction : Digits s.fraction
  power : ∀ negative digits, s.power = some (negative, digits) → digits ≠ [] ∧ Digits digits

variable {s : Spelling}

theorem endsDigits_tail (s : Spelling) : EndsDigits s.tail := by
  intro c first
  unfold tail at first
  split at first
  · exact nomatch first
  · cases first
    exact ⟨by decide, rfl⟩

theorem endsDigits_point (s : Spelling) : EndsDigits (s.point ++ s.tail) := by
  unfold point
  split
  · exact s.endsDigits_tail
  · intro c first
    cases first
    exact ⟨by decide, rfl⟩

namespace Proper

theorem groupLength (proper : s.Proper) : Numeral.groupLength s.chars = s.whole.length := by
  rw [chars, List.append_assoc]
  exact proper.whole.groupLength s.endsDigits_point

theorem drop_whole (s : Spelling) : s.chars.drop s.whole.length = s.point ++ s.tail := by
  rw [chars, List.append_assoc, List.drop_left]

theorem drop_mantissa (s : Spelling) : s.chars.drop (s.whole ++ s.point).length = s.tail := by
  rw [chars, List.drop_left]

theorem fractionLength (proper : s.Proper) :
    Numeral.fractionLength s.chars = if s.fraction = [] then 0 else (s.whole ++ s.point).length := by
  have digit : s.whole.length ≠ 0 := mt List.length_eq_zero_iff.mp proper.whole_ne
  rw [Numeral.fractionLength, proper.groupLength, drop_whole]
  by_cases bare : s.fraction = []
  · rw [point, if_pos bare, if_pos bare, List.nil_append, tail]
    cases s.power <;> rfl
  · have digits := proper.fraction.groupLength s.endsDigits_tail
    simp only [point, if_neg bare, List.cons_append, digits, digit, List.length_append, List.length_cons,
      decide_false, Bool.false_and, Bool.false_eq_true, if_false]
    omega

theorem head (proper : s.Proper) : ∃ c cs, s.chars = c :: cs ∧ c.isDigit := by
  cases whole : s.whole with
  | nil => exact absurd whole proper.whole_ne
  | cons c ds =>
      refine ⟨c, ds ++ s.point ++ s.tail, ?_, proper.whole c (by simp [whole])⟩
      simp [chars, whole]

/-- Behind the first digit stands no letter of a radix. -/
theorem second (proper : s.Proper) {c d : Char} {rest : List Char} (whole : s.chars = c :: d :: rest) :
    d.isDigit ∨ d = '.' ∨ d = 'e' := by
  rw [chars, List.append_assoc] at whole
  cases first : s.whole with
  | nil => exact absurd first proper.whole_ne
  | cons a digits =>
      rw [first, List.cons_append] at whole
      have later := (List.cons.inj whole).2
      cases digits with
      | cons b digits =>
          obtain ⟨rfl, -⟩ := List.cons.inj later
          exact .inl (proper.whole b (by simp [first]))
      | nil =>
          unfold point tail at later
          split at later
          · split at later
            · cases later
            · obtain ⟨rfl, -⟩ := List.cons.inj later
              exact .inr (.inr rfl)
          · obtain ⟨rfl, -⟩ := List.cons.inj later
            exact .inr (.inl rfl)

theorem radixForms (proper : s.Proper) (lower upper : Char)
    (letters : ∀ x ∈ [lower, upper], x.isDigit = false ∧ x ≠ '.' ∧ x ≠ 'e') (radix : ℕ)
    (isDigit : Char → Bool) (error : LexicalError) :
    Numeral.radixForms lower upper radix isDigit error s.chars = [] := by
  cases cs : s.chars with
  | nil => rfl
  | cons c cs' =>
      cases cs' with
      | nil => simp [Numeral.radixForms]
      | cons d rest =>
          have other (x : Char) (letter : x ∈ [lower, upper]) : d ≠ x := by
            obtain ⟨digit, point, power⟩ := letters x letter
            rcases proper.second cs with is_digit | rfl | rfl
            · exact ne_of_isDigit is_digit digit
            · exact point.symm
            · exact power.symm
          unfold Numeral.radixForms
          split
          · next same =>
              cases same
              simp [other lower, other upper]
          · rfl

theorem power? (proper : s.Proper) :
    Numeral.power? s.tail = if s.power = none then none else some (s.tail.length, true) := by
  unfold tail
  cases power : s.power with
  | none => rfl
  | some pair =>
      obtain ⟨negative, digits⟩ := pair
      obtain ⟨given, decimal⟩ := proper.power negative digits power
      have ends : EndsDigits [] := nofun
      have length := decimal.groupLength ends
      rw [List.append_nil] at length
      simp [Numeral.power?, length, given]
      omega

/-- The forms of a number in digits are its whole part, its mantissa and all of it; nothing longer comes
    after them. -/
theorem forms (proper : s.Proper) : ∃ junk, (∀ g ∈ junk, g.1 ≤ s.chars.length) ∧
    Numeral.forms s.chars = (s.whole.length, .whole 10) ::
      (if s.fraction = [] then 0 else (s.whole ++ s.point).length, .fraction) ::
      ((if s.power = none then [] else [(s.chars.length, .fraction)]) ++ junk) := by
  have hex := proper.radixForms 'x' 'X' (by simp)
  have octal := proper.radixForms 'o' 'O' (by simp)
  have binary := proper.radixForms 'b' 'B' (by simp)
  have mantissa : max s.whole.length (if s.fraction = [] then 0 else (s.whole ++ s.point).length)
      = (s.whole ++ s.point).length := by
    unfold point
    split <;> simp
  have total : (s.whole ++ s.point).length + s.tail.length = s.chars.length := by
    rw [chars, ← List.length_append]
  unfold Numeral.forms
  simp only [proper.groupLength, proper.fractionLength, hex, octal, binary, mantissa, drop_mantissa,
    proper.power?, List.nil_append, List.append_nil, List.cons_append]
  cases power : s.power with
  | none =>
      refine ⟨_, ?_, rfl⟩
      intro g mem
      rcases List.mem_pair.mp mem with rfl | rfl <;> exact named_le _ _
  | some pair =>
      simp only [reduceCtorEq, if_false, total]
      refine ⟨_, ?_, rfl⟩
      intro g mem
      rcases List.mem_cons.mp mem with rfl | mem
      · exact named_le _ _
      · rcases List.mem_pair.mp mem with rfl | rfl <;> exact named_le _ _

/-- What a number in digits is read as. -/
def form (s : Spelling) : Numeral.Form :=
  if s.fraction = [] ∧ s.power = none then .whole 10 else .fraction

theorem longest_forms (proper : s.Proper) :
    Numeral.longest (0, .fraction) (Numeral.forms s.chars) = (s.chars.length, form s) := by
  obtain ⟨junk, bounded, forms⟩ := proper.forms
  have given : 0 < s.whole.length := List.length_pos_iff.mpr proper.whole_ne
  have length : s.chars.length = s.whole.length + s.point.length + s.tail.length := by
    simp only [chars, List.length_append]
  rw [forms]
  -- the longest form is that with the power, that with the fraction, or the digits alone
  cases power : s.power with
  | some pair =>
      have more : 0 < s.tail.length := by simp [tail, power]
      have form : form s = .fraction := by simp [form, power]
      rw [form]
      apply longest_eq [_, _]
      · dsimp only
        omega
      · intro g mem
        rcases List.mem_pair.mp mem with rfl | rfl
        · dsimp only
          omega
        · dsimp only
          split
          · omega
          · rw [List.length_append]
            omega
      · exact bounded
  | none =>
      have last : s.tail.length = 0 := by simp [tail, power]
      by_cases bare : s.fraction = []
      · have form : form s = .whole 10 := by simp [form, power, bare]
        have whole : s.whole.length = s.chars.length := by
          rw [length, last, point, if_pos bare]
          rfl
        rw [form, whole]
        apply longest_eq []
        · dsimp only
          omega
        · exact List.forall_mem_nil _
        · intro g mem
          rcases List.mem_cons.mp mem with rfl | mem
          · simp [bare]
          · exact bounded g (by simpa using mem)
      · have form : form s = .fraction := by simp [form, bare]
        have more : 0 < s.point.length := by simp [point, bare]
        have mantissa : (s.whole ++ s.point).length = s.chars.length := by
          rw [List.length_append]
          omega
        rw [form, if_neg bare, mantissa]
        apply longest_eq [_]
        · dsimp only
          omega
        · intro g mem
          obtain rfl := List.mem_singleton.mp mem
          dsimp only
          omega
        · exact bounded

/-- The point is followed by a digit. -/
theorem no_doubleDot (proper : s.Proper) : (s.chars.drop s.whole.length).take 2 ≠ ['.', '.'] := by
  rw [drop_whole]
  unfold point
  split
  · unfold tail
    split <;> simp
  · intro dots
    cases digits : s.fraction with
    | nil => contradiction
    | cons c fraction =>
        have digit := proper.fraction c (by simp [digits])
        obtain rfl : c = '.' := by simpa [digits] using dots
        exact nomatch digit

end Proper

/-! ## Reading -/

theorem sourceValue_chars (proper : s.Proper) : sourceValue s.chars = decimalValue s.chars := by
  unfold sourceValue
  split
  · next letter digits whole =>
      have none : radix? letter = none := by
        have letters : ∀ x ∈ ['x', 'X', 'o', 'O', 'b', 'B'], x ≠ '.' ∧ x ≠ 'e' ∧ x.isDigit = false := by
          simp
        have other (x : Char) (mem : x ∈ ['x', 'X', 'o', 'O', 'b', 'B']) : letter ≠ x := by
          obtain ⟨point, power, digit⟩ := letters x mem
          rcases proper.second whole with is_digit | rfl | rfl
          · exact ne_of_isDigit is_digit digit
          · exact point.symm
          · exact power.symm
        simp [radix?, other]
      rw [none, whole]
  · rfl

theorem decimalValue_chars (proper : s.Proper) : decimalValue s.chars = s.value := by
  have mantissa : s.chars.takeWhile (fun c => c ≠ 'e' && c ≠ 'E') = s.whole ++ s.point := by
    have digits {ds : List Char} (digits : Digits ds) : ∀ c ∈ ds, (c ≠ 'e' && c ≠ 'E') = true := by
      intro c mem
      simp [ne_of_isDigit (digits c mem) (d := 'e') rfl, ne_of_isDigit (digits c mem) (d := 'E') rfl]
    have inside : ∀ c ∈ s.whole ++ s.point, (c ≠ 'e' && c ≠ 'E') = true := by
      refine List.forall_mem_append.mpr ⟨digits proper.whole, ?_⟩
      unfold point
      split
      · exact List.forall_mem_nil _
      · exact List.forall_mem_cons.mpr ⟨rfl, digits proper.fraction⟩
    have ends : s.tail.takeWhile (fun c => c ≠ 'e' && c ≠ 'E') = [] := by
      unfold tail
      cases s.power <;> rfl
    rw [chars, List.takeWhile_append_of_pos inside, ends, List.append_nil]
  have whole : (s.whole ++ s.point).takeWhile (· ≠ '.') = s.whole := by
    have inside : ∀ c ∈ s.whole, decide (c ≠ '.') = true := fun c mem =>
      decide_eq_true (ne_of_isDigit (proper.whole c mem) rfl)
    have ends : s.point.takeWhile (· ≠ '.') = [] := by
      unfold point
      split <;> rfl
    rw [List.takeWhile_append_of_pos inside, ends, List.append_nil]
  have fraction : ((s.whole ++ s.point).drop (s.whole.length + 1)).filter (· ≠ '_') = s.fraction := by
    have behind : s.point.drop 1 = s.fraction := by
      unfold point
      split <;> simp_all
    rw [← List.drop_drop, List.drop_left, behind, proper.fraction.filter_joints]
  have power : powerValue (s.chars.drop ((s.whole ++ s.point).length + 1)) = s.exponent := by
    rw [chars, ← List.drop_drop, List.drop_left]
    unfold tail exponent
    cases power : s.power with
    | none => rfl
    | some pair =>
        obtain ⟨negative, digits⟩ := pair
        have value := (proper.power negative digits power).2.value
        cases negative with
        | false => exact congrArg Nat.cast value
        | true => exact congrArg (fun n : ℕ => -(n : ℤ)) value
  simp only [decimalValue, mantissa, whole, fraction, power]
  rw [(proper.whole.append proper.fraction).value, value]

theorem wholeLexeme_value {ds : List Char} (digits : Digits ds) (source : sourceValue ds = Nat.ofDigitChars 10 ds 0) :
    (Numeral.wholeLexeme 10 ds).value? = some (Nat.ofDigitChars 10 ds 0 : ℚ) := by
  unfold Numeral.wholeLexeme
  simp only [if_true, digits.value]
  split
  · rfl
  · rw [← source, Lexeme.value?, String.toList_ofList]

theorem read (proper : s.Proper) :
    ∃ lexeme : Lexeme, Numeral.read s.chars = (lexeme, []) ∧ lexeme.value? = some s.value := by
  have decimal : sourceValue s.chars = s.value := (sourceValue_chars proper).trans (decimalValue_chars proper)
  unfold Numeral.read
  simp only [proper.groupLength, proper.no_doubleDot, proper.longest_forms, decide_false, Bool.and_false,
    Bool.false_eq_true, if_false, List.take_length, List.drop_length]
  refine ⟨_, rfl, ?_⟩
  by_cases bare : s.fraction = [] ∧ s.power = none
  · have chars : s.chars = s.whole := by simp [chars, point, tail, bare]
    have value : s.value = Nat.ofDigitChars 10 s.whole 0 := by simp [value, exponent, bare]
    rw [Proper.form, if_pos bare, chars, value]
    rw [chars, value] at decimal
    exact wholeLexeme_value proper.whole decimal
  · rw [Proper.form, if_neg bare]
    change some (sourceValue (String.ofList s.chars).toList) = _
    rw [String.toList_ofList, decimal]

end Spelling

end IndexAdvisor.Sql
