import IndexAdvisor.Proofs.Session.Success

/-! # Failures that are not foreseen

`Fails Q x s` says that the step `x` ends on the session `s` in a failure of the sort `Q`, and `Slips x s`
that it ends in one that no user is told about. A composed step fails so exactly if one of its parts does,
on a session that the parts before it lead to. So all that makes a long step fail is gathered from its
parts.
-/

namespace IndexAdvisor.Step

variable {α β : Type} {s : Session}

/-- The step ends in a failure of some sort. -/
def Fails (Q : Failure → Prop) (x : Step α) (s : Session) : Prop := ∃ e t, x.outcome s = (.error e, t) ∧ Q e

/-- The step ends in a failure that is not foreseen. -/
def Slips (x : Step α) (s : Session) : Prop := ∃ e t, x.outcome s = (.error e, t) ∧ ¬e.isForeseen

/-! ## Failures of some sort -/

section Fails

variable {Q : Failure → Prop}

theorem fails_pure (a : α) : ¬Fails Q (pure a) s := by simp [Fails]

theorem fails_throw (e : Failure) : Fails Q (throw e : Step α) s ↔ Q e := by simp [Fails]

theorem fails_require {ε : Type} {result : Except ε α} {failure : ε → Failure} :
    Fails Q (require result failure) s ↔ ∃ cause, result = .error cause ∧ Q (failure cause) := by
  cases result <;> simp [Fails, Except.mapError]

theorem fails_bind {x : Step α} {f : α → Step β} :
    Fails Q (x >>= f) s ↔ Fails Q x s ∨ ∃ a t, Gives x s a t ∧ Fails Q (f a) t := by
  simp only [Fails, Gives, outcome_bind]
  rcases x.outcome s with ⟨e | a, t⟩ <;> simp

theorem fails_modify_bind (f : Session → Session) (rest : PUnit → Step β) :
    Fails Q (modify f >>= rest) s ↔ Fails Q (rest ⟨⟩) (f s) := by
  simp [Fails, outcome_bind]

/-- Behind a step that cannot fail so only the rest can. -/
theorem fails_bind_of_not {x : Step α} {f : α → Step β} (safe : ¬Fails Q x s) :
    Fails Q (x >>= f) s ↔ ∃ a t, Gives x s a t ∧ Fails Q (f a) t := by
  rw [fails_bind, or_iff_right safe]

/-- Before steps that cannot fail so only the first can. -/
theorem fails_bind_of_rest {x : Step α} {f : α → Step β} (safe : ∀ a t, ¬Fails Q (f a) t) :
    Fails Q (x >>= f) s ↔ Fails Q x s := by
  rw [fails_bind, or_iff_left]
  rintro ⟨a, t, -, fails⟩
  exact safe a t fails

end Fails

/-! ## Slips -/

/-- What does not slip has a result or a failure that a user is told about. -/
theorem not_slips_iff {x : Step α} :
    ¬Slips x s ↔ (∃ a t, Gives x s a t) ∨ ∃ e t, x.outcome s = (.error e, t) ∧ e.isForeseen := by
  unfold Slips Gives
  rcases x.outcome s with ⟨e | a, t⟩ <;> simp

@[simp]
theorem slips_pure (a : α) : ¬Slips (pure a) s := fails_pure a

@[simp]
theorem slips_throw (e : Failure) : Slips (throw e : Step α) s ↔ ¬e.isForeseen := fails_throw e

@[simp]
theorem slips_modify (f : Session → Session) : ¬Slips (modify f : Step PUnit) s := by simp [Slips]

@[simp]
theorem slips_require {ε : Type} {result : Except ε α} {failure : ε → Failure} :
    Slips (require result failure) s ↔ ∃ cause, result = .error cause ∧ ¬(failure cause).isForeseen :=
  fails_require

theorem slips_demand {setting : Setting} {question : Question} {failure : Fault → Failure} :
    Slips (demand setting question failure) s ↔
      ∃ fault, setting.database.answer s.asked question = .error fault ∧ ¬(failure fault).isForeseen := by
  simp only [Slips, outcome_demand]
  cases setting.database.answer s.asked question <;> simp [Except.mapError]

theorem slips_bind {x : Step α} {f : α → Step β} :
    Slips (x >>= f) s ↔ Slips x s ∨ ∃ a t, Gives x s a t ∧ Slips (f a) t :=
  fails_bind

theorem slips_modify_bind (f : Session → Session) (rest : PUnit → Step β) :
    Slips (modify f >>= rest) s ↔ Slips (rest ⟨⟩) (f s) :=
  fails_modify_bind f rest

theorem slips_get {f : Session → Step α} : Slips (get >>= f) s ↔ Slips (f s) s := by
  simp [Slips, outcome_bind]

/-- Behind a step that cannot slip only the rest can. -/
theorem slips_bind_of_not {x : Step α} {f : α → Step β} (safe : ¬Slips x s) :
    Slips (x >>= f) s ↔ ∃ a t, Gives x s a t ∧ Slips (f a) t :=
  fails_bind_of_not safe

/-- Before steps that cannot slip only the first can. -/
theorem slips_bind_of_rest {x : Step α} {f : α → Step β} (safe : ∀ a t, ¬Slips (f a) t) :
    Slips (x >>= f) s ↔ Slips x s :=
  fails_bind_of_rest safe

theorem not_slips_bind {x : Step α} {f : α → Step β} (first : ¬Slips x s)
    (second : ∀ a t, Gives x s a t → ¬Slips (f a) t) : ¬Slips (x >>= f) s := by
  rw [slips_bind_of_not first]
  rintro ⟨a, t, given, slips⟩
  exact second a t given slips

theorem gives_demand {setting : Setting} {question : Question} {failure : Fault → Failure}
    {answer : question.Answer} {t : Session} (given : Gives (demand setting question failure) s answer t) :
    setting.database.answer s.asked question = .ok answer := by
  rw [Gives, outcome_demand] at given
  cases told : setting.database.answer s.asked question with
  | error fault => simp [told, Except.mapError] at given
  | ok other =>
      rw [told] at given
      exact congrArg Except.ok (Except.ok.inj (Prod.mk.inj given).1)

end IndexAdvisor.Step
