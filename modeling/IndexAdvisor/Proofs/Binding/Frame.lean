import IndexAdvisor.Proofs.Binding.Stages
import IndexAdvisor.Proofs.Usage.Frame
import IndexAdvisor.Proofs.Usage.Occurrences

/-! # The frame of a binding

However far a binding comes, it adds to the usage only what its statement says about its own tables
under the id of its query.
-/

namespace IndexAdvisor

section Recording

variable {query : String} {o : Outline}

theorem gains_recordUse (s : Session) {r : UsageRecord} (mem : r ∈ o.usage.records) :
    s.usage.Gains query o.kind o.usage.tables (recordUse s query o.usage.tables r) := by
  unfold recordUse
  cases owned : (columnOwner s o.usage.tables r.column r.table).filter s.catalog.has with
  | none => exact .refl _
  | some owner =>
      have read := (Walk.sound_outline o).records r mem
      have listed := columnOwner_mem read (Option.filter_eq_some_iff.mp owned).1
      cases use : r.use with
      | join => exact .recordJoin _ listed _
      | condition | membership => exact .recordFilter _ listed _
      | assignment =>
          rw [o.kind_of_assignment mem use]
          exact .recordUpdate _ listed _

theorem gains_noted (s : Session) (query : String) (o : Outline) :
    s.usage.Gains query o.kind o.usage.tables (s.noted query o.usage).usage := by
  refine List.foldlRecOn (motive := fun t : Session => s.usage.Gains query o.kind o.usage.tables t.usage)
    o.usage.noted _ (.refl _) ?_
  intro t gains r mem
  exact gains.trans (gains_recordUse t (o.usage.noted_subset mem))

theorem gains_touched (s : Session) (query : String) (o : Outline) :
    s.usage.Gains query o.kind o.usage.tables (s.touched query o.usage).usage := by
  refine List.foldlRecOn (motive := fun u : Tracker => s.usage.Gains query o.kind o.usage.tables u)
    o.usage.touches _ (.refl _) ?_
  intro u gains target mem
  refine gains.trans (.recordTouch u fun t here => ?_)
  unfold StatementUsage.touches at mem
  split at mem
  · simpa [here] using mem
  · exact (Walk.sound_outline o).targets t (here ▸ mem)

end Recording

namespace Step

variable {setting : Setting} {query : String} {parsed : Parsed}

theorem gains_reach (setting : Setting) (query : String) {o : Outline}
    (outlined : parsed.outline = .ok o) (s : Session) :
    s.usage.Gains query o.kind o.usage.tables ((reach setting query parsed).outcome s).2.usage := by
  rcases reach_cases setting query parsed s with
    ⟨e, t, run, grows, -⟩ | ⟨o', t, outlined', described, ends⟩
  · rw [run, grows.usage]
    exact .refl _
  · obtain rfl : o' = o := Except.ok.inj (outlined'.symm.trans outlined)
    have learned : s.Grows t :=
      grows_of_keeps (keeps_introspectAll (lasting_grows s) fun _ _ => trivial) described
    have touches := gains_touched (aliased o'.usage t) query o'
    have same : (aliased o'.usage t).usage = s.usage := learned.usage
    rw [same] at touches
    rcases ends with ⟨e, v, run, grows, -⟩ | ⟨v, run, grows, -⟩
    · rw [run, grows.usage]
      exact touches
    · rw [show (reach setting query parsed).outcome s = (.ok o', v) from run, grows.usage]
      exact touches

/-- Whether a binding succeeds or fails, what is read off the usage differs from before by what the
    statement may add; a statement without an outline adds nothing. -/
theorem bind_framed (setting : Setting) (query : String) (parsed : Parsed) (s : Session) :
    let after := ((bind setting query parsed).outcome s).2
    (∀ e, parsed.outline = .error e → after.usage = s.usage) ∧
      ∀ o, parsed.outline = .ok o →
        s.usage.Framed query o.kind o.usage.tables after.usage := by
  refine ⟨fun e unknown => ?_, fun o outlined => Tracker.Gains.framed ?_⟩
  · rw [bind, outcome_bind, outcome_require, unknown]
    rfl
  · have reached := gains_reach setting query outlined s
    rcases bind_cases setting query parsed s with ⟨e, t, stopped, run⟩ | ⟨o', t, given, -, grows⟩
    · rw [stopped] at reached
      rw [run]
      exact reached
    · obtain rfl : o' = o := Except.ok.inj ((gives_reach given).1.symm.trans outlined)
      rw [show (reach setting query parsed).outcome s = (.ok o', t) from given] at reached
      rw [grows.usage]
      exact reached.trans (gains_noted t query o')

end Step

end IndexAdvisor
