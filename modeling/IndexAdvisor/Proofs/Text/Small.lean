import IndexAdvisor.Text.Lowercase

/-! # Small texts

A text in small letters is its own small form. What the table of capitals gives for a capital is no
capital again: the letters that one run gives miss those of every other, which is checked run by run.
-/

namespace IndexAdvisor.Text

namespace CaseRun

/-- The small form of the first letter of a run. -/
def image (run : CaseRun) : Nat := (run.first + run.shift).toNat

/-- The small forms of the letters of a run are no letters of another: they lie before or behind
    them, or between them. -/
def misses (run other : CaseRun) : Bool :=
  Nat.blt (run.image + run.count * run.step) (other.first + run.step)
    || Nat.blt (other.first + other.count * other.step) (run.image + other.step)
    || (Nat.beq other.step 2 && (Nat.beq run.step 2 || Nat.beq run.count 1)
      && Nat.beq ((run.image + other.first) % 2) 1)

/-- A run counts in steps of one or two, and its small forms are neither `İ` nor `Σ` nor, but for
    the Kelvin sign, in ASCII. -/
def isRegular (run : CaseRun) : Bool :=
  (Nat.beq run.step 1 || Nat.beq run.step 2) && decide (0 ≤ run.first + run.shift)
    && ((Nat.beq run.image 'k'.toNat && Nat.beq run.count 1) || Nat.ble 0x80 run.image)
    && run.misses ⟨'İ'.toNat, 1, 1, 0⟩ && run.misses ⟨'Σ'.toNat, 1, 1, 0⟩

/-- The small form of a letter is as far from that of the first as the letter is from the first. -/
theorem other?_eq_some {run : CaseRun} (regular : run.isRegular) {n code : Nat}
    (found : run.other? n = some code) :
    ∃ k < run.count, code = run.image + k * run.step := by
  simp only [isRegular, Bool.and_eq_true, Bool.or_eq_true, decide_eq_true_eq, Nat.beq_eq] at regular
  obtain ⟨⟨⟨⟨step, positive⟩, -⟩, -⟩, -⟩ := regular
  simp only [other?, Option.ite_none_right_eq_some, Option.some.injEq] at found
  obtain ⟨⟨above, below, aligned⟩, rfl⟩ := found
  refine ⟨(n - run.first) / run.step, ?_, ?_⟩
  · rcases step with single | double
    · rw [single] at below ⊢
      omega
    · rw [double] at below ⊢
      omega
  · rw [Nat.div_mul_cancel (Nat.dvd_of_mod_eq_zero aligned), image]
    omega

theorem other?_eq_none {run other : CaseRun} (steps : other.step = 1 ∨ other.step = 2)
    (apart : run.misses other) (own : run.step = 1 ∨ run.step = 2) {k : Nat}
    (within : k < run.count) : other.other? (run.image + k * run.step) = none := by
  simp only [misses, Bool.or_eq_true, Bool.and_eq_true, Nat.blt_eq, Nat.beq_eq] at apart
  simp only [other?, ite_eq_right_iff, reduceCtorEq, imp_false, not_and]
  intro above below aligned
  rcases own with single | double <;> rcases steps with single' | double' <;>
    simp only [*] at apart above below aligned <;> omega

end CaseRun

theorem capitalRuns_regular : ∀ run ∈ capitalRuns, run.isRegular := by decide +kernel

theorem capitalRuns_miss : ∀ run ∈ capitalRuns, ∀ other ∈ capitalRuns, run.misses other := by
  decide +kernel

/-- The small form of a character of a run is in no run. -/
theorem not_capital {run : CaseRun} (listed : run ∈ capitalRuns) {n code : Nat}
    (found : run.other? n = some code) : capitalRuns.findSome? (·.other? code) = none := by
  have steps {r : CaseRun} (mem : r ∈ capitalRuns) : r.step = 1 ∨ r.step = 2 := by
    have regular := capitalRuns_regular r mem
    simp only [CaseRun.isRegular, Bool.and_eq_true, Bool.or_eq_true, Nat.beq_eq] at regular
    exact regular.1.1.1.1
  obtain ⟨k, within, rfl⟩ := CaseRun.other?_eq_some (capitalRuns_regular run listed) found
  refine List.findSome?_eq_none_iff.mpr fun other mem => ?_
  exact CaseRun.other?_eq_none (steps mem) (capitalRuns_miss run listed other mem) (steps listed)
    within

/-! ## Characters -/

/-- The character is its own small form, wherever it stands. -/
def IsSmall (c : Char) : Prop := ∀ before after, lowercaseAt before c after = [c]

theorem isSmall_ascii {c : Char} (ascii : c.toNat < 0x80) : IsSmall c.toLower := by
  have all : ∀ n < 0x80, (Char.ofNat n).toLower.toNat < 0x80 ∧
      (Char.ofNat n).toLower.toLower = (Char.ofNat n).toLower := by decide +kernel
  obtain ⟨within, fixed⟩ := all c.toNat ascii
  rw [Char.ofNat_toNat] at within fixed
  exact fun before after => by rw [lowercaseAt_ascii within, fixed]

/-- A character outside ASCII that no run holds is small if it is neither `İ` nor `Σ`. -/
theorem isSmall_of_not_capital {c : Char} (beyond : 0x80 ≤ c.toNat) (dotted : c ≠ 'İ')
    (sigma : c ≠ 'Σ') (free : capitalRuns.findSome? (·.other? c.toNat) = none) : IsSmall c := by
  intro before after
  simp [lowercaseAt, dotted, sigma, smallLetter, free, Nat.not_lt.mpr beyond]

/-- The small form of a character outside ASCII: itself, if no run holds it, and else what a run gives, which
    is outside ASCII but for the `k` of the Kelvin sign. A number that is no character's becomes zero. -/
theorem smallLetter_cases (c : Char) :
    (capitalRuns.findSome? (·.other? c.toNat) = none ∧ smallLetter c = c) ∨
    smallLetter c = 'k' ∨ smallLetter c = '\x00' ∨
    0x80 ≤ (smallLetter c).toNat ∧ ∃ run ∈ capitalRuns, run.other? c.toNat = some (smallLetter c).toNat := by
  unfold smallLetter
  cases found : capitalRuns.findSome? (·.other? c.toNat) with
  | none => exact .inl ⟨rfl, rfl⟩
  | some code =>
      right
      obtain ⟨run, listed, held⟩ := List.exists_of_findSome?_eq_some found
      have regular := capitalRuns_regular run listed
      obtain ⟨k, within, same⟩ := CaseRun.other?_eq_some regular held
      simp only [CaseRun.isRegular, Bool.and_eq_true, Bool.or_eq_true, Nat.beq_eq, Nat.ble_eq] at regular
      obtain ⟨⟨⟨-, range⟩, -⟩, -⟩ := regular
      dsimp only
      by_cases valid : code.isValidChar
      · have number : (Char.ofNat code).toNat = code := by rw [Char.ofNat, dif_pos valid]; rfl
        rcases range with ⟨kelvin, single⟩ | beyond
        · obtain rfl : code = 'k'.toNat := by
            obtain rfl : k = 0 := by omega
            rw [same, kelvin, Nat.zero_mul, Nat.add_zero]
          exact .inl rfl
        · refine .inr (.inr ⟨?_, run, listed, by rw [number, held]⟩)
          rw [number, same]
          exact Nat.le_trans beyond (Nat.le_add_right _ _)
      · rw [Char.ofNat, dif_neg valid]
        exact .inr (.inl rfl)

theorem isSmall_smallLetter {c : Char} (beyond : 0x80 ≤ c.toNat) (dotted : c ≠ 'İ')
    (sigma : c ≠ 'Σ') : IsSmall (smallLetter c) := by
  rcases smallLetter_cases c with ⟨free, own⟩ | kelvin | zero | ⟨beyond', run, listed, held⟩
  · rw [own]
    exact isSmall_of_not_capital beyond dotted sigma free
  · rw [kelvin]
    exact isSmall_ascii (c := 'k') (by decide)
  · rw [zero]
    exact isSmall_ascii (c := '\x00') (by decide)
  · have regular := capitalRuns_regular run listed
    obtain ⟨k, within, same⟩ := CaseRun.other?_eq_some regular held
    simp only [CaseRun.isRegular, Bool.and_eq_true, Bool.or_eq_true, Nat.beq_eq] at regular
    obtain ⟨⟨⟨⟨steps, -⟩, -⟩, notDotted⟩, notSigma⟩ := regular
    have missed {d : Char} (apart : run.misses ⟨d.toNat, 1, 1, 0⟩) : smallLetter c ≠ d := by
      rintro rfl
      have none := CaseRun.other?_eq_none (.inl rfl) apart steps within
      rw [← same] at none
      simp [CaseRun.other?] at none
    exact isSmall_of_not_capital beyond' (missed notDotted) (missed notSigma) (not_capital listed held)

/-! ## Texts -/

theorem isSmall_lowercaseAt (before : List Char) (c : Char) (after : List Char) :
    ∀ d ∈ lowercaseAt before c after, IsSmall d := by
  unfold lowercaseAt
  split
  · next ascii => simpa using isSmall_ascii ascii
  · next beyond =>
      have free (d : Char) (here : d = 'i' ∨ d = '\u0307' ∨ d = 'ς' ∨ d = 'σ') : IsSmall d := by
        rcases here with rfl | rfl | rfl | rfl
        · exact isSmall_ascii (c := 'i') (by decide)
        · exact isSmall_of_not_capital (by decide) (by decide) (by decide) (by decide +kernel)
        · exact isSmall_of_not_capital (by decide) (by decide) (by decide) (by decide +kernel)
        · exact isSmall_of_not_capital (by decide) (by decide) (by decide) (by decide +kernel)
      split
      · simp [free]
      · next dotted =>
          split
          · split <;> simp [free]
          · next sigma => simpa using isSmall_smallLetter (Nat.not_lt.mp beyond) dotted sigma

theorem isSmall_lowercaseFrom (before text : List Char) :
    ∀ c ∈ lowercaseFrom before text, IsSmall c := by
  induction text generalizing before with
  | nil => exact nofun
  | cons c rest ih =>
      exact List.forall_mem_append.mpr ⟨isSmall_lowercaseAt before c rest, ih (c :: before)⟩

theorem lowercaseFrom_of_small {text : List Char} (small : ∀ c ∈ text, IsSmall c)
    (before : List Char) : lowercaseFrom before text = text := by
  induction text generalizing before with
  | nil => rfl
  | cons c rest ih =>
      rw [lowercaseFrom, small c List.mem_cons_self,
        ih fun d mem => small d (List.mem_cons_of_mem c mem)]
      rfl

theorem lowercase_lowercase (s : String) : lowercase (lowercase s) = lowercase s := by
  simp only [lowercase, String.toList_ofList,
    lowercaseFrom_of_small (isSmall_lowercaseFrom [] s.toList)]

end IndexAdvisor.Text
