import IndexAdvisor.Plan
import IndexAdvisor.Proofs.Text.Small
import Mathlib.Data.List.Basic
import Mathlib.Data.List.Induction

/-! # Timings of a plan

A timing is decided by the last line that begins with its label, in whatever letter case: it is the
number of that line, and there is none if the line cannot be read. All lines are kept, and the others have
no part in the timing, those of the other timing included.
-/

namespace IndexAdvisor

open Text

/-! ## Labels in small letters -/

namespace Text

/-- A sign that only an ASCII character has as its small form: of `k` there is also the Kelvin sign. -/
def IsPlainSign (c : Char) : Prop := c.toNat < 0x80 ∧ c ≠ 'k' ∧ c ≠ '\x00'

instance : DecidablePred IsPlainSign := fun _ => inferInstanceAs (Decidable (_ ∧ _))

theorem toLower_of_beyond {c : Char} (beyond : 0x80 ≤ c.toNat) : c.toLower = c := by
  have lower : ¬(c.val ≥ 'A'.val ∧ c.val ≤ 'Z'.val) := by
    rintro ⟨-, upper⟩
    have code : c.val.toNat ≤ 90 := UInt32.le_iff_toNat_le.mp upper
    exact absurd (Nat.le_trans beyond code) (by decide)
  exact dif_neg lower

/-- Outside ASCII a dotted `İ` has two characters for its small form, and all others have no plain sign. -/
theorem lowercaseAt_beyond {c : Char} (beyond : 0x80 ≤ c.toNat) (before after : List Char) :
    lowercaseAt before c after = ['i', '\u0307'] ∨
      ∃ d, ¬IsPlainSign d ∧ lowercaseAt before c after = [d] := by
  unfold lowercaseAt
  rw [if_neg (Nat.not_lt.mpr beyond)]
  split
  · exact .inl rfl
  right
  split
  · split
    · exact ⟨_, by decide, rfl⟩
    · exact ⟨_, by decide, rfl⟩
  · refine ⟨_, ?_, rfl⟩
    rintro ⟨ascii, noKelvin, noZero⟩
    rcases smallLetter_cases c with ⟨-, own⟩ | kelvin | zero | ⟨beyond', -⟩
    · exact absurd (own ▸ ascii) (Nat.not_lt.mpr beyond)
    · exact noKelvin kelvin
    · exact noZero zero
    · exact absurd ascii (Nat.not_lt.mpr beyond')

/-- What begins with plain signs in small letters has these signs at its own beginning, in small or
    capital letters. The small form of `İ` is no `i`, as its dot stands behind it. -/
theorem prefix_lowercaseFrom {label : List Char} (plain : ∀ c ∈ label, IsPlainSign c)
    (last : label.getLast? ≠ some 'i') (before text : List Char) :
    label <+: lowercaseFrom before text ↔ (text.take label.length).map Char.toLower = label := by
  induction label generalizing before text with
  | nil => simp
  | cons l label ih =>
      obtain ⟨here, later⟩ := List.forall_mem_cons.mp plain
      have last' : label.getLast? ≠ some 'i' := fun same => last (by rw [List.getLast?_cons, same]; rfl)
      cases text with
      | nil => simp [lowercaseFrom]
      | cons c rest =>
          rw [lowercaseFrom, List.length_cons, List.take_succ_cons, List.map_cons, List.cons.injEq]
          rcases Nat.lt_or_ge c.toNat 0x80 with ascii | beyond
          · rw [lowercaseAt_ascii ascii, List.singleton_append, List.cons_prefix_cons, ih later last',
              eq_comm]
          · -- beyond ASCII only `İ` has a small form that begins plainly, and a dot stands behind it
            have other : c ≠ l := by
              rintro rfl
              exact absurd here.1 (Nat.not_lt.mpr beyond)
            rw [toLower_of_beyond beyond]
            refine iff_of_false ?_ fun same => other same.1
            rcases lowercaseAt_beyond beyond before rest with dotted | ⟨d, odd, single⟩
            · rw [dotted, List.cons_append, List.cons_append, List.cons_prefix_cons]
              rintro ⟨rfl, dot⟩
              cases label with
              | nil => exact last rfl
              | cons m label =>
                  obtain ⟨rfl, -⟩ := List.cons_prefix_cons.mp dot
                  exact absurd (later _ List.mem_cons_self) (by decide)
            · rw [single, List.singleton_append, List.cons_prefix_cons]
              rintro ⟨rfl, -⟩
              exact odd here

end Text

namespace Timing

/-! ## Lines of a timing -/

/-- The line begins with the label of the timing, trimmed and in any letter case. -/
def Begins (timing : Timing) (line : String) : Prop :=
  ((trim line).toList.take timing.label.length).map Char.toLower = timing.label.toList

instance (timing : Timing) : DecidablePred timing.Begins := fun _ => inferInstanceAs (Decidable (_ = _))

/-- No line begins with both labels, as their first letters differ. -/
theorem Begins.unique {timing other : Timing} {line : String} (begins : timing.Begins line)
    (begins' : other.Begins line) : timing = other := by
  have first (timing : Timing) (begins : timing.Begins line) :
      (trim line).toList.head?.map Char.toLower = timing.label.toList.head? := by
    rw [← begins, List.head?_map, List.head?_take]
    cases timing <;> rfl
  have same := (first timing begins).symm.trans (first other begins')
  cases timing <;> cases other <;> first | rfl | exact absurd same (by decide)

theorem Begins.eq_iff {timing other : Timing} {line : String} (begins : timing.Begins line) :
    timing = other ↔ other.Begins line :=
  ⟨fun same => same ▸ begins, begins.unique⟩

theorem isPrefixOf_lowercase {timing : Timing} {line : String} :
    timing.label.toList.isPrefixOf (lowercase (trim line)).toList ↔ timing.Begins line := by
  have signs : timing.label.toList.all (IsPlainSign ·) := by cases timing <;> decide
  have plain : ∀ c ∈ timing.label.toList, IsPlainSign c := fun c mem =>
    of_decide_eq_true (List.all_eq_true.mp signs c mem)
  have last : timing.label.toList.getLast? ≠ some 'i' := by cases timing <;> decide
  rw [List.isPrefixOf_iff_prefix, lowercase, String.toList_ofList, prefix_lowercaseFrom plain last]
  rfl

/-- The timing that a trimmed line reports is the one with whose label it begins. -/
theorem ofLine?_trim {timing : Timing} {line : String} :
    ofLine? (trim line) = some timing ↔ timing.Begins line := by
  simp only [ofLine?, isPrefixOf_lowercase]
  split
  · next begins => exact Option.some_inj.trans begins.eq_iff
  split
  · next begins => exact Option.some_inj.trans begins.eq_iff
  · next first second =>
      refine iff_of_false nofun ?_
      cases timing
      · exact first
      · exact second

/-- The number of a line of the timing, if it can be read. -/
def number? (timing : Timing) (line : String) : Option Float := timing.milliseconds? (trim line)

/-- A list that comes from lines by changes to those that do not begin with the label: such lines are put in
    and taken out anywhere, and so are moved as well. -/
inductive Edited (timing : Timing) (lines : List String) : List String → Prop
  | same : Edited timing lines lines
  | insert {before after : List String} {line : String} :
    Edited timing lines (before ++ after) → ¬timing.Begins line →
      Edited timing lines (before ++ line :: after)
  | delete {before after : List String} {line : String} :
    Edited timing lines (before ++ line :: after) → ¬timing.Begins line →
      Edited timing lines (before ++ after)

theorem Edited.filter_eq {timing : Timing} {lines others : List String}
    (edited : timing.Edited lines others) :
    others.filter timing.Begins = lines.filter timing.Begins := by
  induction edited with
  | same => rfl
  | insert _ other ih => simpa [List.filter_append, List.filter_cons, other] using ih
  | delete _ other ih => simpa [List.filter_append, List.filter_cons, other] using ih

end Timing

/-! ## Plans -/

namespace Plan

/-- The milliseconds of a timing, where the plan reports them. -/
def timing (plan : Plan) : Timing → Option Float
  | .planning => plan.planningTime
  | .execution => plan.executionTime

theorem timing_setLines (plan : Plan) (lines : List String) (timing : Timing) :
    { plan with lines }.timing timing = plan.timing timing := by
  cases timing <;> rfl

theorem timing_setUnreadable (plan : Plan) (unreadable : List String) (timing : Timing) :
    { plan with unreadable }.timing timing = plan.timing timing := by
  cases timing <;> rfl

theorem timing_setTiming (plan : Plan) (told : Timing) (time : Option Float) (timing : Timing) :
    (plan.setTiming told time).timing timing = if told = timing then time else plan.timing timing := by
  cases told <;> cases timing <;> rfl

theorem lines_setTiming (plan : Plan) (told : Timing) (time : Option Float) :
    (plan.setTiming told time).lines = plan.lines := by
  cases told <;> rfl

theorem lines_addLine (plan : Plan) (line : String) : (plan.addLine line).lines = plan.lines ++ [line] := by
  rw [addLine]
  cases Timing.ofLine? (trim line) with
  | none => rfl
  | some told =>
      dsimp only
      split <;> simp only [lines_setTiming]

/-- A line sets the timing with whose label it begins, and no other. -/
theorem timing_addLine (plan : Plan) (line : String) (timing : Timing) :
    (plan.addLine line).timing timing
      = if timing.Begins line then timing.number? line else plan.timing timing := by
  rw [addLine]
  cases reported : Timing.ofLine? (trim line) with
  | none =>
      have other : ¬timing.Begins line := fun begins =>
        nomatch reported.symm.trans (Timing.ofLine?_trim.mpr begins)
      rw [if_neg other]
      exact timing_setLines plan _ timing
  | some told =>
      have begins : told.Begins line := Timing.ofLine?_trim.mp reported
      have decided :
          ({ plan with lines := plan.lines ++ [line] }.setTiming told (told.number? line)).timing timing
          = if timing.Begins line then timing.number? line else plan.timing timing := by
        simp only [timing_setTiming, timing_setLines, ← begins.eq_iff]
        exact ite_congr rfl (fun same => by rw [same]) fun _ => rfl
      rw [← decided]
      dsimp only
      split
      · exact timing_setUnreadable _ _ timing
      · rfl

theorem lines_ofLines (lines : List String) (analyzed : Bool) : (ofLines lines analyzed).lines = lines := by
  induction lines using List.reverseRecOn with
  | nil => rfl
  | append_singleton lines line ih =>
      rw [ofLines, List.foldl_concat, lines_addLine]
      exact congrArg (· ++ [line]) ih

theorem timing_ofLines (lines : List String) (analyzed : Bool) (timing : Timing) :
    (ofLines lines analyzed).timing timing = (lines.filter timing.Begins).getLast?.bind timing.number? := by
  induction lines using List.reverseRecOn with
  | nil => cases timing <;> rfl
  | append_singleton lines line ih =>
      rw [ofLines, List.foldl_concat, timing_addLine, List.filter_append]
      split
      · next begins => simp [begins]
      · next other =>
          rw [List.filter_cons_of_neg (by simpa using other), List.filter_nil, List.append_nil]
          exact ih

end Plan

end IndexAdvisor
