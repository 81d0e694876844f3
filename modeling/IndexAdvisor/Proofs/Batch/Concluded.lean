import IndexAdvisor.Proofs.Batch.Scripts
import IndexAdvisor.Proofs.Binding.Slipping

/-! # Runs that end as foreseen

A failure that is foreseen ends a run with a report of what was done before; any other ends the program.
On a well-formed database the analysis of a query ends in such another failure for five reasons only:
its text, its rows, its target, its literals and its script.
-/

namespace IndexAdvisor

open Replay (Unscripted)

namespace Step

/-- What nobody foresaw about a query. -/
inductive Unforeseen (setting : Setting) (options : BatchOptions) (id query : String) (s : Session) : Prop
  | text : Sql.Unreadable query → Unforeseen setting options id query s
  | row {parsed : Parsed} : Parsed.read query = .ok parsed → parsed.statement.AssignsShortRow →
      Unforeseen setting options id query s
  /-- The tables of the statement are known, but what it changes is none of them. -/
  | target {parsed : Parsed} {o : Outline} {t : Session} : Parsed.read query = .ok parsed →
      parsed.statement.ChangesExpression → parsed.outline = .ok o →
      Gives (introspectAll setting o.usage.tables) s () t → Unforeseen setting options id query s
  /-- All that is used is recorded, but literals cannot be put in. -/
  | literals {parsed : Parsed} {o : Outline} {t : Session} : Parsed.read query = .ok parsed →
      Gives (reach setting id parsed) s o t → o.usage.kind ≠ .insert → parsed.hasPlaceholders →
      LiteralSlip setting parsed o.usage (t.noted id o.usage) → Unforeseen setting options id query s
  /-- The statement is bound and has a plan, but no script can be made of it. -/
  | script {parsed : Parsed} {result : BindResult} {bound : BoundStatement} {plan : Plan}
      {t u : Session} : Parsed.read query = .ok parsed → Gives (bind setting id parsed) s result t →
      result.binding = .bound bound →
      Gives (inspect setting options.warmUps bound.sql result.tables) t plan u →
      options.replay.isSome → Unscripted id → Unforeseen setting options id query s

variable {setting : Setting} {options : BatchOptions} {id query : String} {s : Session}

theorem slips_scriptOf {bound : BoundStatement} :
    Slips (scriptOf options id query bound) s ↔ options.replay.isSome ∧ Unscripted id := by
  unfold scriptOf
  cases options.replay with
  | none => exact iff_of_false (slips_pure _) nofun
  | some folder =>
      constructor
      · intro slips
        obtain ⟨cause, failed, -⟩ := slips_require.mp slips
        exact ⟨rfl, Replay.script?_error_iff.mp ⟨cause, failed⟩⟩
      · rintro ⟨-, why⟩
        obtain ⟨cause, failed⟩ := Replay.script?_error_iff.mpr why
        exact slips_require.mpr ⟨cause, failed, Bool.false_ne_true⟩

section WellFormed

variable (wellFormed : setting.database.WellFormed)

include wellFormed

/-- Behind its binding a statement is analysed as foreseen, up to its script. -/
theorem slips_analyseBound {result : BindResult} :
    Slips (analyseBound setting options id query result) s ↔
      ∃ bound plan t, result.binding = .bound bound ∧
        Gives (inspect setting options.warmUps bound.sql result.tables) s plan t ∧
        options.replay.isSome ∧ Unscripted id := by
  unfold analyseBound
  cases result.binding with
  | unsupported reason =>
      exact iff_of_false (not_slips_bind (slips_modify _) fun _ _ _ => slips_pure _) nofun
  | bound bound =>
      simp only [slips_bind_of_not (not_slips_inspect wellFormed _ _ _),
        slips_bind_of_rest fun _ _ => slips_pure _, slips_scriptOf, Binding.bound.injEq]
      constructor
      · rintro ⟨plan, t, inspected, scripts⟩
        exact ⟨bound, plan, t, rfl, inspected, scripts⟩
      · rintro ⟨_, plan, t, rfl, inspected, scripts⟩
        exact ⟨plan, t, inspected, scripts⟩

theorem slips_analyse :
    Slips (analyse setting options id query) s ↔ Unforeseen setting options id query s := by
  constructor
  · intro slips
    rw [analyse_eq] at slips
    rcases slips_bind.mp slips with slips | ⟨⟨parsed, result⟩, t, given, slips⟩
    · rcases slips_bind.mp slips with slips | ⟨parsed, t, given, slips⟩
      · exact .text (slips_read.mp slips)
      · obtain ⟨read, rfl⟩ := gives_require.mp given
        rw [slips_bind_of_rest fun _ _ => slips_pure _,
          slips_bound wellFormed (Parsed.outline_of_read read)] at slips
        rcases slips with short | ⟨changes, o, t, outlined, described⟩ | ⟨o, t, reached, kind, marked, why⟩
        · exact .row read short
        · exact .target read changes outlined described
        · exact .literals read reached kind marked why
    · obtain ⟨read, binding⟩ := gives_bindText.mp given
      obtain ⟨bound, plan, u, supported, inspected, scripts, why⟩ :=
        (slips_analyseBound wellFormed).mp slips
      exact .script read binding supported inspected scripts why
  · intro unforeseen
    -- each reason but the text and the script is one of the binding
    have bindings {parsed : Parsed} (read : Parsed.read query = .ok parsed)
        (slips : Slips (bind setting id parsed) s) : Slips (analyse setting options id query) s := by
      rw [analyse_eq]
      refine slips_bind.mpr (.inl (slips_bind.mpr (.inr ⟨parsed, s, gives_require.mpr ⟨read, rfl⟩, ?_⟩)))
      exact slips_bind.mpr (.inl slips)
    cases unforeseen with
    | text unreadable =>
        rw [analyse_eq]
        exact slips_bind.mpr (.inl (slips_bind.mpr (.inl (slips_read.mpr unreadable))))
    | row read short =>
        exact bindings read ((slips_bound wellFormed (Parsed.outline_of_read read)).mpr (.inl short))
    | target read changes outlined described =>
        refine bindings read ((slips_bound wellFormed (Parsed.outline_of_read read)).mpr (.inr (.inl ?_)))
        exact ⟨changes, _, _, outlined, described⟩
    | literals read reached kind marked why =>
        refine bindings read ((slips_bound wellFormed (Parsed.outline_of_read read)).mpr (.inr (.inr ?_)))
        exact ⟨_, _, reached, kind, marked, why⟩
    | script read binding supported inspected scripts why =>
        rw [analyse_eq]
        refine slips_bind.mpr (.inr ⟨_, _, gives_bindText.mpr ⟨read, binding⟩, ?_⟩)
        exact (slips_analyseBound wellFormed).mpr ⟨_, _, _, supported, inspected, scripts, why⟩

end WellFormed

end Step

namespace Run

open Step

/-- A run ends in a failure that is not foreseen at a query whose analysis slips. -/
theorem unforeseen_iff (setting : Setting) (options : BatchOptions) (queries : List (String × String))
    (s : Session) :
    (∃ id e, (ofQueries setting options queries s).1.failure = some (id, e) ∧ ¬e.isForeseen) ↔
      ∃ done id query later results t, queries = done ++ (id, query) :: later ∧
        ofQueries setting options done s = (⟨results, none⟩, t) ∧
        Slips (analyse setting options id query) t := by
  constructor
  · rintro ⟨id, e, failed, unforeseen⟩
    obtain ⟨done, query, later, t, u, same, complete, ended, -⟩ := ofQueries_failure failed
    exact ⟨done, id, query, later, _, t, same, complete, e, u, ended, unforeseen⟩
  · rintro ⟨done, id, query, later, results, t, rfl, complete, e, u, ended, unforeseen⟩
    refine ⟨id, e, ?_, unforeseen⟩
    rw [ofQueries_append complete, ofQueries_error ended]

end Run

end IndexAdvisor
