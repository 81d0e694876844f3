import IndexAdvisor.Session
import Mathlib

/-! # Steps that succeed

`Gives x s a s'` says that the step `x` succeeds on the session `s`, with the result `a` and the
session `s'`. A composed step succeeds exactly if its parts do, so that a success is taken apart
by rewriting. `Carries R x` says that a success of `x` on one session is a success with the same
result on every session related to it by `R`, and that the sessions after it are related again.
`Keeps P x` says that `x` keeps the property `P` of sessions even if it fails, `Yields Q x` that
every result of `x` has the property `Q`, and `Raises P Q x` that every failure of `x` has it while
the property `P` of sessions holds.
-/

namespace IndexAdvisor.Step

variable {α β : Type}

/-- What a step makes of a session. -/
def outcome (x : Step α) (s : Session) : Except Failure α × Session := x.run.run s

section Outcome

variable (s : Session)

@[simp]
theorem outcome_pure (a : α) : (pure a : Step α).outcome s = (.ok a, s) := rfl

@[simp]
theorem outcome_throw (e : Failure) : (throw e : Step α).outcome s = (.error e, s) := rfl

@[simp]
theorem outcome_get : (get : Step Session).outcome s = (.ok s, s) := rfl

@[simp]
theorem outcome_set (t : Session) : (set t : Step PUnit).outcome s = (.ok ⟨⟩, t) := rfl

@[simp]
theorem outcome_modify (f : Session → Session) :
    (modify f : Step PUnit).outcome s = (.ok ⟨⟩, f s) := rfl

theorem outcome_bind (x : Step α) (f : α → Step β) :
    (x >>= f).outcome s = match x.outcome s with
      | (.ok a, t) => (f a).outcome t
      | (.error e, t) => (.error e, t) := by
  simp only [outcome, ExceptT.run_bind, StateT.run_bind]
  rcases x.run.run s with ⟨e | a, t⟩ <;> rfl

@[simp]
theorem outcome_require {ε : Type} (result : Except ε α) (failure : ε → Failure) :
    (require result failure).outcome s = (result.mapError failure, s) := by
  cases result <;> rfl

theorem outcome_demand (setting : Setting) (question : Question) (failure : Fault → Failure) :
    (demand setting question failure).outcome s
      = ((setting.database.answer s.asked question).mapError failure,
        { s with asked := question :: s.asked }) := by
  have asks : (ask setting question).outcome s
      = (.ok (setting.database.answer s.asked question), { s with asked := question :: s.asked }) :=
    rfl
  rw [demand, outcome_bind, asks]
  cases setting.database.answer s.asked question <;> rfl

end Outcome

/-- The step succeeds on a session with a result and a session after it. -/
def Gives (x : Step α) (s : Session) (a : α) (s' : Session) : Prop :=
  x.outcome s = (.ok a, s')

/-- A step succeeds if its outcome is a result. -/
theorem gives_of_isOk {x : Step α} {s : Session} (ok : (x.outcome s).1.isOk) :
    ∃ a, Gives x s a (x.outcome s).2 := by
  rcases run : x.outcome s with ⟨e | a, t⟩
  · simp [run, Except.isOk, Except.toBool] at ok
  · exact ⟨a, run⟩

theorem gives_bind {x : Step α} {f : α → Step β} {s s' : Session} {b : β} :
    Gives (x >>= f) s b s' ↔ ∃ a t, Gives x s a t ∧ Gives (f a) t b s' := by
  simp only [Gives, outcome_bind]
  rcases x.outcome s with ⟨e | a, t⟩ <;> simp [and_assoc]

theorem gives_require {ε : Type} {result : Except ε α} {failure : ε → Failure} {s s' : Session}
    {a : α} : Gives (require result failure) s a s' ↔ result = .ok a ∧ s = s' := by
  cases result <;> simp [Gives, Except.mapError]

/-! ## Successes on related sessions -/

/-- A success on one session is one on every related session, with the same result. -/
def Carries (R : Session → Session → Prop) (x : Step α) : Prop :=
  ∀ ⦃s t a s'⦄, R s t → Gives x s a s' → ∃ t', Gives x t a t' ∧ R s' t'

section Carries

variable {R : Session → Session → Prop}

theorem carries_pure (a : α) : Carries R (pure a) := by
  rintro s t b s' related ⟨⟩
  exact ⟨t, rfl, related⟩

theorem carries_throw (e : Failure) : Carries R (throw e : Step α) :=
  fun _ _ _ _ _ given => by simp [Gives] at given

theorem carries_require {ε : Type} (result : Except ε α) (failure : ε → Failure) :
    Carries R (require result failure) := by
  cases result with
  | error e => exact carries_throw _
  | ok a => exact carries_pure a

theorem carries_bind {x : Step α} {f : α → Step β} (first : Carries R x)
    (second : ∀ a, Carries R (f a)) : Carries R (x >>= f) := by
  intro s t b s' related given
  obtain ⟨a, m, givenFirst, givenSecond⟩ := gives_bind.mp given
  obtain ⟨n, otherFirst, between⟩ := first related givenFirst
  obtain ⟨t', otherSecond, after⟩ := second a between givenSecond
  exact ⟨t', gives_bind.mpr ⟨a, n, otherFirst, otherSecond⟩, after⟩

/-- A step may go on from a session if it goes on the same way from every related one. -/
theorem carries_get {f : Session → Step α} (same : ∀ s t, R s t → f s = f t)
    (next : ∀ s, Carries R (f s)) : Carries R (get >>= f) := by
  intro s t a s' related given
  obtain ⟨_, _, seen, given⟩ := gives_bind.mp given
  obtain ⟨rfl, rfl⟩ : s = _ ∧ s = _ := by simpa [Gives] using seen
  obtain ⟨t', other, after⟩ := next s related given
  rw [same s t related] at other
  exact ⟨t', gives_bind.mpr ⟨t, t, rfl, other⟩, after⟩

theorem carries_modify {f : Session → Session} (kept : ∀ s t, R s t → R (f s) (f t)) :
    Carries R (modify f) := by
  intro s t u s' related given
  obtain rfl : f s = s' := by simpa [Gives] using given
  exact ⟨f t, rfl, kept s t related⟩

end Carries

/-! ## What all outcomes keep -/

/-- The step keeps a property of sessions, whether it succeeds or fails. -/
def Keeps (P : Session → Prop) (x : Step α) : Prop := ∀ s, P s → P (x.outcome s).2

section Keeps

variable {P : Session → Prop}

theorem Keeps.gives {x : Step α} (keeps : Keeps P x) {s s' : Session} {a : α}
    (given : Gives x s a s') (holds : P s) : P s' := by
  have kept := keeps s holds
  rwa [show x.outcome s = _ from given] at kept

theorem keeps_pure (a : α) : Keeps P (pure a) := fun _ kept => kept

theorem keeps_throw (e : Failure) : Keeps P (throw e : Step α) := fun _ kept => kept

theorem keeps_throw_bind (e : Failure) (f : α → Step β) : Keeps P (throw e >>= f) :=
  fun _ kept => kept

theorem keeps_require {ε : Type} (result : Except ε α) (failure : ε → Failure) :
    Keeps P (require result failure) := by
  intro s kept
  rw [outcome_require]
  exact kept

theorem keeps_bind {x : Step α} {f : α → Step β} (first : Keeps P x)
    (second : ∀ a, Keeps P (f a)) : Keeps P (x >>= f) := by
  intro s kept
  have between := first s kept
  rw [outcome_bind]
  split
  · next a t run =>
      rw [run] at between
      exact second a t between
  · next e t run =>
      rw [run] at between
      exact between

theorem keeps_get {f : Session → Step α} (next : ∀ s, P s → Keeps P (f s)) :
    Keeps P (get >>= f) := by
  intro s kept
  rw [outcome_bind, outcome_get]
  exact next s kept s kept

theorem keeps_modify {f : Session → Session} (kept : ∀ s, P s → P (f s)) : Keeps P (modify f) :=
  kept

theorem keeps_demand
    (asks : ∀ (s : Session) question, P s → P { s with asked := question :: s.asked })
    (setting : Setting) (question : Question) (failure : Fault → Failure) :
    Keeps P (demand setting question failure) := by
  intro s kept
  rw [outcome_demand]
  exact asks s _ kept

end Keeps

/-! ## What all results share -/

/-- Every result of the step has a property. -/
def Yields (Q : α → Prop) (x : Step α) : Prop := ∀ s a t, Gives x s a t → Q a

theorem yields_pure {Q : α → Prop} {a : α} (holds : Q a) : Yields Q (pure a) := by
  intro s b t given
  obtain ⟨⟨⟩, -⟩ := Prod.mk.inj given
  exact holds

theorem yields_throw {Q : α → Prop} (e : Failure) : Yields Q (throw e : Step α) :=
  fun _ _ _ given => by simp [Gives] at given

theorem yields_throw_bind {Q : β → Prop} (e : Failure) (f : α → Step β) :
    Yields Q (throw e >>= f) := by
  intro s b t given
  obtain ⟨a, u, thrown, -⟩ := gives_bind.mp given
  simp [Gives] at thrown

theorem yields_bind {Q : β → Prop} {x : Step α} {f : α → Step β} (next : ∀ a, Yields Q (f a)) :
    Yields Q (x >>= f) := by
  intro s b t given
  obtain ⟨a, u, -, given⟩ := gives_bind.mp given
  exact next a u b t given

/-! ## What all failures share -/

/-- While a property of sessions holds, every failure of the step has a property. -/
def Raises (P : Session → Prop) (Q : Failure → Prop) (x : Step α) : Prop :=
  ∀ s, P s → ∀ e, (x.outcome s).1 = .error e → Q e

section Raises

variable {P : Session → Prop} {Q : Failure → Prop}

theorem raises_pure (a : α) : Raises P Q (pure a) := by
  intro s _ e failed
  cases failed

theorem raises_throw {e : Failure} (holds : Q e) : Raises P Q (throw e : Step α) := by
  intro s _ f failed
  cases failed
  exact holds

theorem raises_throw_bind {e : Failure} (holds : Q e) (f : α → Step β) :
    Raises P Q (throw e >>= f) := by
  intro s _ d failed
  cases failed
  exact holds

theorem raises_modify (f : Session → Session) : Raises P Q (modify f : Step PUnit) := by
  intro s _ e failed
  cases failed

theorem raises_require {ε : Type} {result : Except ε α} {failure : ε → Failure}
    (holds : ∀ e, result = .error e → Q (failure e)) : Raises P Q (require result failure) := by
  intro s _ e failed
  rw [outcome_require] at failed
  cases result with
  | ok a => cases failed
  | error cause =>
      cases failed
      exact holds cause rfl

theorem raises_demand {setting : Setting} {question : Question} {failure : Fault → Failure}
    (holds : ∀ fault, Q (failure fault)) : Raises P Q (demand setting question failure) := by
  intro s _ e failed
  rw [outcome_demand] at failed
  cases answer : setting.database.answer s.asked question with
  | ok a =>
      rw [answer] at failed
      cases failed
  | error fault =>
      rw [answer] at failed
      cases failed
      exact holds fault

theorem raises_bind {x : Step α} {f : α → Step β} (first : Raises P Q x) (keeps : Keeps P x)
    (second : ∀ a, Raises P Q (f a)) : Raises P Q (x >>= f) := by
  intro s holds e failed
  have between := keeps s holds
  rw [outcome_bind] at failed
  rcases run : x.outcome s with ⟨cause | a, t⟩
  · rw [run] at failed
    obtain rfl : cause = e := Except.error.inj failed
    exact first s holds cause (by rw [run])
  · rw [run] at failed between
    exact second a t between e failed

theorem raises_get {f : Session → Step α} (next : ∀ s, P s → Raises P Q (f s)) :
    Raises P Q (get >>= f) := by
  intro s holds e failed
  rw [outcome_bind, outcome_get] at failed
  exact next s holds s holds e failed

end Raises

end IndexAdvisor.Step
