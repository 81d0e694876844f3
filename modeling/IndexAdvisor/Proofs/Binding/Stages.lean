import IndexAdvisor.Proofs.Binding.Recorded

/-! # Stages of binding

Binding changes the aliases and the usage at three places, one after the other: the aliases of the
statement are registered and its touches recorded once its tables are introspected, and the uses of
its columns once the changed tables are sampled. All that comes between and after only learns. So
what a binding leaves behind is told by how far it came, whether it succeeds or fails.
-/

namespace IndexAdvisor

def StatementUsage.touches (usage : StatementUsage) : List (Option String) :=
  match usage.kind with
  | .select => usage.tables.map some
  | _ => usage.targets

def Session.touched (query : String) (usage : StatementUsage) (s : Session) : Session :=
  { s with usage :=
      usage.touches.foldl (fun u table => u.recordTouch usage.kind table query) s.usage }

/-- The uses of columns that are recorded of a statement; of an `INSERT` there are none. -/
def StatementUsage.noted (usage : StatementUsage) : List UsageRecord :=
  match usage.kind with
  | .insert => []
  | _ => usage.records

theorem StatementUsage.noted_subset (usage : StatementUsage) : usage.noted ⊆ usage.records := by
  unfold noted
  split
  · exact List.nil_subset _
  · exact List.Subset.refl _

theorem StatementUsage.noted_eq {usage : StatementUsage} (kind : usage.kind ≠ .insert) :
    usage.noted = usage.records := by
  unfold noted
  split
  · next insert => exact absurd insert kind
  · rfl

/-- The session with the uses of a statement's columns. -/
def Session.noted (query : String) (usage : StatementUsage) (s : Session) : Session :=
  usage.noted.foldl (fun s r => { s with usage := recordUse s query usage.tables r }) s

/-- Recording changes nothing but the usage. -/
theorem Session.noted_eq (s : Session) (query : String) (usage : StatementUsage) :
    s.noted query usage = { s with usage := (s.noted query usage).usage } := by
  refine List.foldlRecOn (motive := fun t : Session => t = { s with usage := t.usage }) usage.noted _ rfl ?_
  intro t same r _
  rw [same]

namespace Step

variable {setting : Setting} {query : String} {parsed : Parsed} {s t : Session}

/-- The tables that are sampled before the uses of columns are recorded. -/
def sampledFirst (usage : StatementUsage) : List (Option String) :=
  match usage.kind with
  | .select | .insert => []
  | _ => usage.targets

/-- All of binding that comes before the uses of columns are recorded. -/
def reach (setting : Setting) (query : String) (parsed : Parsed) : Step Outline := do
  let o ← require parsed.outline .assignment
  introspectAll setting o.usage.tables
  registerAliases o.usage
  registerTouches query o.usage
  sampleTargets setting (sampledFirst o.usage)
  return o

/-- All of binding that comes after the uses of columns are recorded. -/
def finish (setting : Setting) (parsed : Parsed) (usage : StatementUsage) : Step BindResult :=
  let unchanged : BindResult := ⟨usage.kind, usage.tables, .bound ⟨parsed.query, parsed.query, []⟩⟩
  match usage.kind with
  | .insert =>
    if parsed.hasPlaceholders then
      return { unchanged with
        binding := .unsupported "Literal substitution for INSERT statements is not supported" }
    else return unchanged
  | _ => do
    if parsed.hasPlaceholders then
      return { unchanged with binding := .bound (← bindLiterals setting parsed usage) }
    else return unchanged

theorem modify_noted {usage : StatementUsage} (kind : usage.kind ≠ .insert) :
    (modify (Session.noted query usage) : Step PUnit) = recordUses query usage := by
  unfold Session.noted
  rw [usage.noted_eq kind, recordUses]

theorem bind_eq (setting : Setting) (query : String) (parsed : Parsed) :
    bind setting query parsed = (do
      let o ← reach setting query parsed
      modify (Session.noted query o.usage)
      finish setting parsed o.usage) := by
  simp only [bind, reach, bind_assoc, pure_bind]
  congr 1
  funext o
  congr 1
  funext _
  congr 1
  funext _
  rw [bindKnown]
  congr 1
  funext _
  cases kind : o.usage.kind with
  | insert =>
      have noted : Session.noted query o.usage = id := by
        funext s
        simp only [Session.noted, StatementUsage.noted, kind, List.foldl_nil, id]
      simp only [noted, sampledFirst, finish, kind]
      rfl
  | select | update | delete =>
      rw [modify_noted (by simp [kind])]
      simp only [sampledFirst, finish, kind]
      rfl

/-! ## How far a binding came -/

/-- Before the uses of columns are recorded, binding either stops at the description of the tables,
    or registers aliases and touches and then only learns. -/
theorem reach_cases (setting : Setting) (query : String) (parsed : Parsed) (s : Session) :
    (∃ e t, (reach setting query parsed).outcome s = (.error e, t) ∧ s.Grows t ∧
      ((∃ cause, parsed.outline = .error cause ∧ e = .assignment cause) ∨
        ∃ o, parsed.outline = .ok o ∧
          (introspectAll setting o.usage.tables).outcome s = (.error e, t))) ∨
    ∃ o t, parsed.outline = .ok o ∧ Gives (introspectAll setting o.usage.tables) s () t ∧
      let u := (aliased o.usage t).touched query o.usage
      ((∃ e v, (reach setting query parsed).outcome s = (.error e, v) ∧ u.Grows v ∧
          (sampleTargets setting (sampledFirst o.usage)).outcome u = (.error e, v)) ∨
        ∃ v, Gives (reach setting query parsed) s o v ∧ u.Grows v ∧
          Gives (sampleTargets setting (sampledFirst o.usage)) u () v) := by
  cases outlined : parsed.outline with
  | error cause =>
      refine .inl ⟨.assignment cause, s, ?_, .refl s, .inl ⟨cause, rfl, rfl⟩⟩
      rw [reach, outcome_bind, outcome_require, outlined]
      rfl
  | ok o =>
      have learns : Keeps s.Grows (introspectAll setting o.usage.tables) :=
        keeps_introspectAll (lasting_grows s) fun _ _ => trivial
      have grown := learns s (.refl s)
      rcases described : (introspectAll setting o.usage.tables).outcome s with ⟨e | ⟨⟩, t⟩
      · rw [described] at grown
        refine .inl ⟨e, t, ?_, grown, .inr ⟨o, rfl, described⟩⟩
        simp only [reach, outcome_bind, outcome_require, outlined, Except.mapError, described]
      · refine .inr ⟨o, t, rfl, described, ?_⟩
        let u := (aliased o.usage t).touched query o.usage
        -- aliases and touches are registered in between, which cannot fail
        have same : (reach setting query parsed).outcome s
            = (sampleTargets setting (sampledFirst o.usage) >>= fun _ => pure o).outcome u := by
          simp only [reach, outcome_bind, outcome_require, outlined, Except.mapError, described,
            registerAliases, registerTouches, outcome_modify]
          rfl
        have samples : Keeps u.Grows (sampleTargets setting (sampledFirst o.usage)) :=
          keeps_sampleTargets (lasting_grows u) fun _ _ => trivial
        have grown := samples u (.refl u)
        rw [outcome_bind] at same
        rcases sampled : (sampleTargets setting (sampledFirst o.usage)).outcome u with ⟨e | ⟨⟩, v⟩
        · rw [sampled] at grown same
          exact .inl ⟨e, v, same, grown, sampled⟩
        · rw [sampled] at grown same
          exact .inr ⟨v, same, grown, sampled⟩

/-- The outline of a statement that gets so far, and what was learned after its touches. -/
theorem gives_reach {o : Outline} {v : Session} (given : Gives (reach setting query parsed) s o v) :
    parsed.outline = .ok o ∧ ∃ t, Gives (introspectAll setting o.usage.tables) s () t ∧
      ((aliased o.usage t).touched query o.usage).Grows v := by
  have given : (reach setting query parsed).outcome s = (.ok o, v) := given
  rcases reach_cases setting query parsed s with ⟨e, t, run, -⟩ | ⟨o', t, outlined, described, ends⟩
  · exact nomatch given.symm.trans run
  · rcases ends with ⟨e, v', run, -⟩ | ⟨v', run, grows, -⟩
    · exact nomatch given.symm.trans run
    · obtain ⟨⟨⟩, ⟨⟩⟩ := Prod.mk.inj (given.symm.trans run)
      exact ⟨outlined, t, described, grows⟩

theorem named_of_sampleTargets {targets : List (Option String)}
    (given : Gives (sampleTargets setting targets) s () t) : none ∉ targets := by
  induction targets generalizing s with
  | nil => exact List.not_mem_nil
  | cons target rest ih =>
      cases target with
      | none => exact nomatch given
      | some table =>
          obtain ⟨row, u, -, later⟩ := gives_bind.mp given
          exact fun mem => (List.mem_cons.mp mem).elim nofun (ih later)

/-- The changed table of an `UPDATE` has no name of a common table expression if it gets so far. -/
theorem named_of_reach {o : Outline} {v : Session} (given : Gives (reach setting query parsed) s o v)
    (updates : o.kind = .update) : none ∉ o.usage.targets := by
  have given : (reach setting query parsed).outcome s = (.ok o, v) := given
  rcases reach_cases setting query parsed s with
    ⟨e, t, run, -⟩ | ⟨o', t, -, -, ⟨e, v', run, -⟩ | ⟨v', run, -, sampled⟩⟩
  · exact nomatch given.symm.trans run
  · exact nomatch given.symm.trans run
  · obtain ⟨⟨⟩, ⟨⟩⟩ := Prod.mk.inj (given.symm.trans run)
    have first : sampledFirst o.usage = o.usage.targets := by
      rw [sampledFirst, show o.usage.kind = .update from updates]
    exact first ▸ named_of_sampleTargets sampled

theorem known_of_reach {o : Outline} {v : Session}
    (given : Gives (reach setting query parsed) s o v) :
    ∀ table ∈ o.usage.tables, v.catalog.has table := by
  obtain ⟨-, t, described, learned⟩ := gives_reach given
  have before : ∀ table ∈ o.usage.tables, t.catalog.has table := known_of_introspectAll described
  exact learned.knows before

theorem keeps_finish {P : Session → Prop} (lasting : Lasting setting (fun _ => True) P)
    (parsed : Parsed) (usage : StatementUsage) : Keeps P (finish setting parsed usage) := by
  unfold finish
  cases usage.kind with
  | insert =>
      dsimp only
      split <;> exact keeps_pure _
  | select | update | delete =>
      dsimp only
      split
      · exact keeps_bind (keeps_bindLiterals lasting parsed usage.within_all) fun _ => keeps_pure _
      · exact keeps_pure _

/-- Binding stops before the uses of columns are recorded, or records them and then only learns. -/
theorem bind_cases (setting : Setting) (query : String) (parsed : Parsed) (s : Session) :
    (∃ e t, (reach setting query parsed).outcome s = (.error e, t) ∧
      (bind setting query parsed).outcome s = (.error e, t)) ∨
    ∃ o t, Gives (reach setting query parsed) s o t ∧
      (bind setting query parsed).outcome s
        = (finish setting parsed o.usage).outcome (t.noted query o.usage) ∧
      (t.noted query o.usage).Grows ((bind setting query parsed).outcome s).2 := by
  have staged := outcome_bind s (reach setting query parsed) fun o => do
    modify (Session.noted query o.usage)
    finish setting parsed o.usage
  rw [← bind_eq] at staged
  rcases reached : (reach setting query parsed).outcome s with ⟨e | o, t⟩
  · rw [reached] at staged
    exact .inl ⟨e, t, rfl, staged⟩
  · rw [reached] at staged
    have ends : (bind setting query parsed).outcome s
        = (finish setting parsed o.usage).outcome (t.noted query o.usage) := by
      rw [staged]
      simp only [outcome_bind, outcome_modify]
    refine .inr ⟨o, t, reached, ends, ?_⟩
    rw [ends]
    exact keeps_finish (lasting_grows _) parsed o.usage _ (.refl _)

end Step

end IndexAdvisor
