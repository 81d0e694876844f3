import IndexAdvisor.Replay
import Mathlib

/-! # Script numbers

The number of a script is the number that the digits of the id write, together with what the kind of
the query adds in units of the scale. The scale is a hundred, tenfold for each leading zero after the
first. Digit signs that are no decimal digits, and more digits than are read, have no number.
-/

namespace IndexAdvisor

open Text Number

/-! ## Signs of digits -/

namespace Text

def blankCodes : List Nat :=
  [0x09, 0x0a, 0x0b, 0x0c, 0x0d, 0x1c, 0x1d, 0x1e, 0x1f, 0x20, 0x85, 0xa0, 0x1680, 0x2000, 0x2001, 0x2002,
    0x2003, 0x2004, 0x2005, 0x2006, 0x2007, 0x2008, 0x2009, 0x200a, 0x2028, 0x2029, 0x202f, 0x205f, 0x3000]

theorem not_blank_of_digitSign {c : Char} (sign : isDigitSign c) : isBlank c = false := by
  refine Bool.eq_false_iff.mpr fun blank => ?_
  have code : c.toNat ∈ blankCodes := by
    simp only [isBlank, Bool.or_eq_true, Bool.and_eq_true, decide_eq_true_eq, beq_iff_eq] at blank
    simp only [blankCodes, List.mem_cons, List.not_mem_nil, or_false]
    omega
  have none : ∀ n ∈ blankCodes, isDigitSign (Char.ofNat n) = false := by decide
  have other := none _ code
  rw [Char.ofNat_toNat] at other
  exact Bool.noConfusion (sign.symm.trans other)

theorem trim_eq_of_digitSigns {cs : List Char} (signs : ∀ c ∈ cs, isDigitSign c) :
    trimRight (trimLeft cs) = cs := by
  have inside (cs : List Char) (signs : ∀ c ∈ cs, isDigitSign c) : cs.dropWhile isBlank = cs := by
    cases cs with
    | nil => rfl
    | cons c cs => simp [not_blank_of_digitSign (signs c List.mem_cons_self)]
  rw [trimRight, trimLeft, inside cs signs, inside _ fun c mem => signs c (List.mem_reverse.mp mem),
    List.reverse_reverse]

theorem ne_of_digitSign {c d : Char} (sign : isDigitSign c) (other : isDigitSign d = false) : c ≠ d := by
  rintro rfl
  exact Bool.noConfusion (sign.symm.trans other)

/-- Leading zeros do not count. -/
theorem digitsValue_dropZeros (digits : List Char) :
    digitsValue (digits.dropWhile (· = '0')) = digitsValue digits := by
  induction digits with
  | nil => rfl
  | cons c digits ih =>
      by_cases zero : c = '0'
      · have value : digitValue? c = some 0 := by
          subst zero
          rfl
        have same : digitsValue (c :: digits) = digitsValue digits := by
          simp [digitsValue, value, numberFrom]
        rw [List.dropWhile_cons_of_pos (by simpa using zero), ih, same]
      · rw [List.dropWhile_cons_of_neg (by simpa using zero)]

end Text

/-! ## Reading digits -/

namespace Number

theorem groupedDigits?_eq {cs : List Char} (given : cs ≠ []) (plain : '_' ∉ cs) :
    groupedDigits? cs
      = if ∀ c ∈ cs, isDecimalDigit c then some (cs.filterMap digitValue?) else none := by
  fun_induction groupedDigits? cs with
  | case1 => exact absurd rfl given
  | case2 c => cases digit : digitValue? c <;> simp [isDecimalDigit, digit]
  | case3 c rest ih => simp at plain
  | case4 c rest more other ih =>
      have later : '_' ∉ rest := fun mem => plain (List.mem_cons_of_mem c mem)
      have more : rest ≠ [] := by
        rintro rfl
        exact more rfl
      rw [ih more later]
      simp only [List.forall_mem_cons, List.filterMap_cons]
      cases digit : digitValue? c with
      | none => simp [isDecimalDigit, digit]
      | some d =>
          have decimal : isDecimalDigit c := by simp [isDecimalDigit, digit]
          by_cases digits : ∀ c ∈ rest, isDecimalDigit c
          · rw [if_pos digits, if_pos ⟨decimal, digits⟩]
            rfl
          · rw [if_neg digits, if_neg fun both => digits both.2]
            rfl

/-- Digit signs are read exactly if all of them are decimal digits, and not too many. -/
theorem readWhole_digitSigns {cs : List Char} (given : cs ≠ []) (signs : ∀ c ∈ cs, isDigitSign c) :
    readWhole (String.ofList cs) =
      if ∀ c ∈ cs, isDecimalDigit c then
        if maxDigits < cs.length then .error (.tooLong cs.length) else .ok (digitsValue cs)
      else .error (.malformed (String.ofList cs)) := by
  have unsigned : splitSign cs = (false, cs) := by
    obtain ⟨c, rest, rfl⟩ := List.exists_cons_of_ne_nil given
    have sign := signs c List.mem_cons_self
    unfold splitSign
    split
    · next same => exact absurd (List.cons.inj same).1 (ne_of_digitSign sign (by decide))
    · next same => exact absurd (List.cons.inj same).1 (ne_of_digitSign sign (by decide))
    · rfl
  have plain : '_' ∉ cs := fun mem => ne_of_digitSign (signs _ mem) (by decide) rfl
  rw [readWhole, String.toList_ofList, trim_eq_of_digitSigns signs, unsigned]
  simp only [groupedDigits?_eq given plain]
  by_cases digits : ∀ c ∈ cs, isDecimalDigit c
  · have length : (cs.filterMap digitValue?).length = cs.length := by
      rw [List.length_filterMap_eq_countP]
      exact List.countP_eq_length.mpr digits
    rw [if_pos digits, if_pos digits]
    simp only [length, Bool.false_eq_true, if_false]
    rfl
  · rw [if_neg digits, if_neg digits]

end Number

/-! ## Numbers of scripts -/

namespace Replay

/-- How many zeros digits begin with. -/
def leadingZeros (digits : List Char) : Nat := (digits.takeWhile (· = '0')).length

theorem stripZeros_eq (scale : Nat) (digits : List Char) :
    stripZeros scale digits = (scale * 10 ^ (leadingZeros digits - 1), digits.dropWhile (· = '0')) := by
  fun_induction stripZeros scale digits with
  | case1 scale rest ih =>
      have zeros : leadingZeros ('0' :: rest) = leadingZeros rest + 1 := by simp [leadingZeros]
      have dropped : ('0' :: rest).dropWhile (· = '0') = rest.dropWhile (· = '0') := by simp
      rw [ih, zeros, dropped]
      cases rest with
      | nil => rfl
      | cons c rest =>
          by_cases zero : c = '0'
          · simp [zero, leadingZeros, Nat.pow_succ', Nat.mul_assoc]
          · simp [zero, leadingZeros]
  | case2 scale digits other =>
      cases digits with
      | nil => simp [leadingZeros]
      | cons c digits =>
          have zero : c ≠ '0' := fun same => other digits (by rw [same])
          simp [leadingZeros, zero]

/-- What the digits of an id of a kind come to. -/
def valueOf (kind : Kind) (digits : List Char) : Nat :=
  digitsValue digits + kind.multiplier * (100 * 10 ^ (leadingZeros digits - 1))

theorem numberOfDigits_eq (kind : Kind) {digits : List Char} (signs : ∀ c ∈ digits, isDigitSign c) :
    numberOfDigits kind digits =
      let rest := digits.dropWhile (· = '0')
      if ∀ c ∈ digits, isDecimalDigit c then
        if maxDigits < rest.length then .error (.tooLong rest.length) else .ok (valueOf kind digits)
      else .error (.malformed (String.ofList rest)) := by
  have rest : ∀ c ∈ digits.dropWhile (· = '0'), isDigitSign c := fun c mem =>
    signs c (List.dropWhile_sublist _ |>.subset mem)
  have zero : isDecimalDigit '0' := by decide
  have decimal : (∀ c ∈ digits.dropWhile (· = '0'), isDecimalDigit c) ↔ ∀ c ∈ digits, isDecimalDigit c := by
    have zeros : ∀ c ∈ digits.takeWhile (· = '0'), isDecimalDigit c := by
      intro c mem
      have same := List.mem_takeWhile_imp (p := (· = '0')) mem
      exact of_decide_eq_true same ▸ zero
    have parts := List.takeWhile_append_dropWhile (p := (· = '0')) (l := digits)
    conv_rhs => rw [← parts, List.forall_mem_append]
    exact (and_iff_right zeros).symm
  rw [numberOfDigits, stripZeros_eq]
  dsimp only
  by_cases none : digits.dropWhile (· = '0') = []
  · have all : ∀ c ∈ digits, isDecimalDigit c := decimal.mp (by simp [none])
    have value : digitsValue digits = 0 := by rw [← digitsValue_dropZeros, none]; rfl
    rw [if_pos all, none]
    simp [valueOf, value]
    rfl
  · have some : ¬(digits.dropWhile (· = '0')).isEmpty := by simpa using none
    rw [if_neg some, readWhole_digitSigns none rest, digitsValue_dropZeros]
    by_cases all : ∀ c ∈ digits, isDecimalDigit c
    · rw [if_pos all, if_pos (decimal.mpr all)]
      split <;> rfl
    · rw [if_neg all, if_neg (mt decimal.mp all)]
      rfl

/-- No kind starts as another one does, so an id is of one kind only. -/
theorem kindOf?_eq_some_iff {id : String} {kind : Kind} :
    kindOf? id = some kind ↔ kind ∈ kinds ∧ kind.start.toList <+: id.toList := by
  have of_found {kind : Kind} (found : kinds.find? (·.start.toList.isPrefixOf id.toList) = some kind) :
      kind ∈ kinds ∧ kind.start.toList <+: id.toList := by
    have starts := List.find?_some found
    exact ⟨List.mem_of_find?_eq_some found, List.isPrefixOf_iff_prefix.mp starts⟩
  constructor
  · exact of_found
  · rintro ⟨listed, starts⟩
    have apart : ∀ kind ∈ kinds, ∀ other ∈ kinds, kind.start.toList <+: other.start.toList → kind = other := by
      decide
    cases found : kindOf? id with
    | none =>
        have other := List.find?_eq_none.mp found kind listed
        exact absurd (List.isPrefixOf_iff_prefix.mpr starts) other
    | some other =>
        obtain ⟨listed', starts'⟩ := of_found found
        cases List.prefix_or_prefix_of_prefix starts starts' with
        | inl below => rw [apart kind listed other listed' below]
        | inr below => rw [apart other listed' kind listed below]

def digitsOf (kind : Kind) (id : String) : List Char := id.toList.drop kind.start.length

/-- An id of a kind that goes on in digits. -/
structure Named (kind : Kind) (id : String) : Prop where
  found : kindOf? id = some kind
  given : digitsOf kind id ≠ []
  signs : ∀ c ∈ digitsOf kind id, isDigitSign c

/-- An id with a number: its digits are decimal, and behind the leading zeros not too many. -/
structure Numbered (kind : Kind) (id : String) : Prop extends Named kind id where
  decimal : ∀ c ∈ digitsOf kind id, isDecimalDigit c
  short : ((digitsOf kind id).dropWhile (· = '0')).length ≤ maxDigits

/-- The number that an id of a kind stands for. -/
def scriptNumber (id : String) : Nat :=
  match kindOf? id with
  | none => 0
  | some kind => valueOf kind (digitsOf kind id)

theorem scriptNumber_of_found {kind : Kind} {id : String} (found : kindOf? id = some kind) :
    scriptNumber id = valueOf kind (digitsOf kind id) := by
  rw [scriptNumber, found]

theorem number?_named {kind : Kind} {id : String} (named : Named kind id) :
    number? id =
      let rest := (digitsOf kind id).dropWhile (· = '0')
      if ∀ c ∈ digitsOf kind id, isDecimalDigit c then
        if maxDigits < rest.length then .error (.tooLong rest.length) else .ok (some (scriptNumber id))
      else .error (.malformed (String.ofList rest)) := by
  have digits : (digitsOf kind id).isEmpty = false := by simpa using named.given
  have signs : (digitsOf kind id).all isDigitSign := List.all_eq_true.mpr named.signs
  have tested : ((digitsOf kind id).isEmpty || !(digitsOf kind id).all isDigitSign) = false := by
    rw [digits, signs]
    rfl
  have number : number? id = (numberOfDigits kind (digitsOf kind id)).map some := by
    rw [number?, named.found]
    exact if_neg (Bool.eq_false_iff.mp tested)
  rw [number, numberOfDigits_eq kind named.signs, scriptNumber_of_found named.found]
  dsimp only
  split
  · split <;> rfl
  · rfl

/-- Ids of no kind, and those that do not go on in digits, get no number. -/
theorem number?_cases (id : String) : number? id = .ok none ∨ ∃ kind, Named kind id := by
  cases found : kindOf? id with
  | none => exact .inl (by rw [number?, found])
  | some kind =>
      cases tested : (digitsOf kind id).isEmpty || !(digitsOf kind id).all isDigitSign with
      | true =>
          left
          rw [number?, found]
          exact if_pos tested
      | false =>
          obtain ⟨given, signs⟩ := Bool.or_eq_false_iff.mp tested
          refine .inr ⟨kind, found, by simpa using given, List.all_eq_true.mp ?_⟩
          simpa using signs

/-- An id gets a script exactly if it has a number, which is the one it stands for. -/
theorem number?_eq_some_iff {id : String} {n : Nat} :
    number? id = .ok (some n) ↔ (∃ kind, Numbered kind id) ∧ scriptNumber id = n := by
  constructor
  · intro number
    rcases number?_cases id with none | ⟨kind, named⟩
    · exact nomatch none.symm.trans number
    · rw [number?_named named] at number
      dsimp only at number
      split at number
      · next decimal =>
          split at number
          · exact nomatch number
          · next short =>
              refine ⟨⟨kind, named, decimal, Nat.le_of_not_lt short⟩, ?_⟩
              exact Option.some.inj (Except.ok.inj number)
      · exact nomatch number
  · rintro ⟨⟨kind, numbered⟩, rfl⟩
    rw [number?_named numbered.toNamed]
    dsimp only
    rw [if_pos numbered.decimal, if_neg (Nat.not_lt.mpr numbered.short)]

/-! ## Leading zeros -/

theorem isDigitSign_of_isDecimalDigit {c : Char} (decimal : isDecimalDigit c) : isDigitSign c := by
  rw [isDigitSign, decimal, Bool.true_or]

/-- What follows the start of a kind decides on the number; an id that ends there gets none. -/
theorem number?_start {kind : Kind} (listed : kind ∈ kinds) {digits : List Char}
    (signs : ∀ c ∈ digits, isDigitSign c) :
    number? (kind.start ++ String.ofList digits) =
      if digits = [] then .ok none else (numberOfDigits kind digits).map some := by
  have found : kindOf? (kind.start ++ String.ofList digits) = some kind :=
    kindOf?_eq_some_iff.mpr ⟨listed, by simp⟩
  have behind : (kind.start ++ String.ofList digits).toList.drop kind.start.length = digits := by
    rw [String.toList_append, String.toList_ofList, ← String.length_toList, List.drop_left]
  have all : digits.all isDigitSign := List.all_eq_true.mpr signs
  rw [number?, found]
  simp only [behind, all, Bool.not_true, Bool.or_false, List.isEmpty_iff]

/-- Digits that begin with a number of zeros. -/
def zerosThen (zeros : Nat) (digits : List Char) : List Char := List.replicate zeros '0' ++ digits

/-- The zeros are all stripped, and each one behind the first has made the scale tenfold. -/
theorem stripZeros_zerosThen (zeros : Nat) {digits : List Char} (first : digits.head? ≠ some '0') :
    stripZeros 100 (zerosThen zeros digits) = (100 * 10 ^ (max zeros 1 - 1), digits) := by
  have own : digits.takeWhile (· = '0') = [] ∧ digits.dropWhile (· = '0') = digits := by
    cases digits with
    | nil => exact ⟨rfl, rfl⟩
    | cons c digits =>
        have other : c ≠ '0' := by simpa using first
        simp [other]
  have leading : leadingZeros (zerosThen zeros digits) = zeros := by
    simp [leadingZeros, zerosThen, List.takeWhile_append_of_pos, own.1]
  have power : zeros - 1 = max zeros 1 - 1 := by omega
  rw [stripZeros_eq, leading, power, zerosThen, List.dropWhile_append_of_pos (by simp), own.2]

theorem numberOfDigits_zerosThen (kind : Kind) (zeros : Nat) {digits : List Char}
    (signs : ∀ c ∈ digits, isDigitSign c) (first : digits.head? ≠ some '0') :
    numberOfDigits kind (zerosThen zeros digits) =
      if ∀ c ∈ digits, isDecimalDigit c then
        if maxDigits < digits.length then .error (.tooLong digits.length)
        else .ok (digitsValue digits + kind.multiplier * (100 * 10 ^ (max zeros 1 - 1)))
      else .error (.malformed (String.ofList digits)) := by
  rw [numberOfDigits, stripZeros_zerosThen zeros first]
  dsimp only
  by_cases none : digits = []
  · subst none
    rw [if_pos (List.forall_mem_nil _)]
    rfl
  · rw [if_neg (by simpa using none), readWhole_digitSigns none signs]
    split
    · split <;> rfl
    · rfl

theorem signs_zerosThen (zeros : Nat) {digits : List Char} (signs : ∀ c ∈ digits, isDigitSign c) :
    ∀ c ∈ zerosThen zeros digits, isDigitSign c := by
  refine List.forall_mem_append.mpr ⟨fun c mem => ?_, signs⟩
  rw [List.eq_of_mem_replicate mem]
  decide

/-- The number of an id that goes on in zeros and further digit signs. An id without any of them gets no
    number; signs behind the zeros that are no decimal digits, or more than are read, are refused. -/
theorem number?_zerosThen {kind : Kind} (listed : kind ∈ kinds) (zeros : Nat) {digits : List Char}
    (signs : ∀ c ∈ digits, isDigitSign c) (first : digits.head? ≠ some '0') :
    stripZeros 100 (zerosThen zeros digits) = (100 * 10 ^ (max zeros 1 - 1), digits) ∧
    number? (kind.start ++ String.ofList (zerosThen zeros digits)) =
      if zeros = 0 ∧ digits = [] then .ok none
      else if ∀ c ∈ digits, isDecimalDigit c then
        if maxDigits < digits.length then .error (.tooLong digits.length)
        else .ok (some (digitsValue digits + kind.multiplier * 100 * 10 ^ (max zeros 1 - 1)))
      else .error (.malformed (String.ofList digits)) := by
  refine ⟨stripZeros_zerosThen zeros first, ?_⟩
  have empty : zerosThen zeros digits = [] ↔ zeros = 0 ∧ digits = [] := by simp [zerosThen]
  rw [number?_start listed (signs_zerosThen zeros signs), numberOfDigits_zerosThen kind zeros signs first,
    Nat.mul_assoc]
  simp only [empty]
  split
  · rfl
  · split
    · split <;> rfl
    · rfl

theorem number?_zerosThen_select :
    (∃ kind ∈ kinds, kind.start = "query.select." ∧ kind.multiplier = 2) ∧
    (∀ c ∈ ['1'], isDigitSign c) ∧ ['1'].head? ≠ some '0' ∧
    stripZeros 100 (zerosThen 2 ['1']) = (100 * 10 ^ (max 2 1 - 1), ['1']) ∧
    number? "query.select.001" = .ok (some 2001) := by
  have listed : kinds[0] ∈ kinds := by decide
  have decimal : ∀ c ∈ ['1'], isDecimalDigit c := List.forall_mem_singleton.mpr (by decide)
  have signs : ∀ c ∈ ['1'], isDigitSign c := fun c mem => isDigitSign_of_isDecimalDigit (decimal c mem)
  have first : ['1'].head? ≠ some '0' := by decide
  have id : kinds[0].start ++ String.ofList (zerosThen 2 ['1']) = "query.select.001" := by decide +kernel
  obtain ⟨stripped, number⟩ := number?_zerosThen listed 2 signs first
  rw [id] at number
  refine ⟨⟨_, listed, rfl, rfl⟩, signs, first, stripped, ?_⟩
  rw [number, if_neg (by decide), if_pos decimal, if_neg (by decide)]
  rfl

/-- An id that ends behind the start of its kind has no number, and too many digits are refused. -/
theorem number?_without_digits :
    number? "query.select." = .ok none ∧
    number? ("query.select." ++ String.ofList (List.replicate 4301 '1')) = .error (.tooLong 4301) := by
  have listed : kinds[0] ∈ kinds := by decide
  have decimal : ∀ c ∈ List.replicate 4301 '1', isDecimalDigit c := fun c mem => by
    rw [List.eq_of_mem_replicate mem]
    decide
  have signs : ∀ c ∈ List.replicate 4301 '1', isDigitSign c := fun c mem =>
    isDigitSign_of_isDecimalDigit (decimal c mem)
  have first : (List.replicate 4301 '1').head? ≠ some '0' := by simp
  have none : ∀ c ∈ ([] : List Char), isDigitSign c := fun c mem => absurd mem List.not_mem_nil
  refine ⟨(number?_start listed none).trans (if_pos rfl), (number?_start listed signs).trans ?_⟩
  have number := numberOfDigits_zerosThen kinds[0] 0 signs first
  rw [zerosThen, List.replicate_zero, List.nil_append, if_pos decimal, List.length_replicate,
    if_pos (by decide)] at number
  rw [if_neg (by simp), number]
  rfl

end Replay

end IndexAdvisor
