import IndexAdvisor.Proofs.Batch.Calls

/-! # Analysed queries

The statement of a query is read and bound, and then, if it is supported, explained by its own tables.
These are the tables that the analysis adds to the catalog, and the calls for its plan are all that it
executes.
-/

namespace IndexAdvisor

open Text (lowercase)

/-- The calls for the plan of a bound statement; none for one that is not supported. -/
def BindResult.calls (catalog : Catalog) (warmUps : Nat) (result : BindResult) : List Execution :=
  match result.binding with
  | .unsupported _ => []
  | .bound bound => (catalog.explain result.tables).calls warmUps bound.sql

/-- The result of a query tells what its statement was bound to, and that it was executed exactly if
    it was explained so. -/
structure QueryResult.Tells (catalog : Catalog) (bound : BindResult) (result : QueryResult) :
    Prop where
  kind : result.kind = bound.kind
  tables : result.tables = bound.tables
  outcome : match bound.binding with
    | .unsupported reason => result.outcome = .error reason
    | .bound statement => ∃ profile, result.outcome = .ok profile ∧ profile.sql = statement.sql ∧
        profile.plan.analyzed = decide (catalog.explain bound.tables = .analyze)

namespace Step

variable {setting : Setting} {options : BatchOptions} {id query : String} {s t : Session}

/-- Reads the statement of a query and binds it. -/
def bindText (setting : Setting) (id query : String) : Step (Parsed × BindResult) := do
  let parsed ← require (Parsed.read query) .statement
  return (parsed, ← bind setting id parsed)

def analyseBound (setting : Setting) (options : BatchOptions) (id query : String)
    (result : BindResult) : Step QueryResult :=
  match result.binding with
  | .unsupported reason => do
    leave (.skipped id reason)
    return ⟨id, result.kind, query, result.tables, .error reason⟩
  | .bound bound => do
    let plan ← inspect setting options.warmUps bound.sql result.tables
    let script ← scriptOf options id query bound
    return ⟨id, result.kind, query, result.tables, .ok ⟨bound.sql, bound.parameters, plan, script⟩⟩

theorem analyse_eq (setting : Setting) (options : BatchOptions) (id query : String) :
    analyse setting options id query
      = bindText setting id query >>= fun read => analyseBound setting options id query read.2 := by
  simp only [analyse, bindText, bind_assoc, pure_bind]
  rfl

theorem gives_bindText {parsed : Parsed} {bound : BindResult} :
    Gives (bindText setting id query) s (parsed, bound) t ↔
      Parsed.read query = .ok parsed ∧ Gives (bind setting id parsed) s bound t := by
  rw [bindText, gives_bind]
  constructor
  · rintro ⟨found, u, required, rest⟩
    obtain ⟨other, v, given, ends⟩ := gives_bind.mp rest
    obtain ⟨⟨⟩, rfl⟩ := Prod.mk.inj ends
    obtain ⟨read, rfl⟩ := gives_require.mp required
    exact ⟨read, given⟩
  · rintro ⟨read, given⟩
    exact ⟨parsed, s, gives_require.mpr ⟨read, rfl⟩, gives_bind.mpr ⟨bound, t, given, rfl⟩⟩

/-- Either the statement cannot be read and bound, and the analysis fails with it, or the analysis goes
    on from where it is bound. -/
theorem analyse_cases (setting : Setting) (options : BatchOptions) (id query : String)
    (s : Session) :
    (∃ e t, (bindText setting id query).outcome s = (.error e, t) ∧
      (analyse setting options id query).outcome s = (.error e, t)) ∨
    ∃ parsed bound t, Parsed.read query = .ok parsed ∧ Gives (bind setting id parsed) s bound t ∧
      (bindText setting id query).outcome s = (.ok (parsed, bound), t) ∧
      (analyse setting options id query).outcome s
        = (analyseBound setting options id query bound).outcome t := by
  rw [analyse_eq, outcome_bind]
  rcases run : (bindText setting id query).outcome s with ⟨e | ⟨parsed, bound⟩, t⟩
  · exact .inl ⟨e, t, rfl, rfl⟩
  · obtain ⟨read, binding⟩ := gives_bindText.mp run
    exact .inr ⟨parsed, bound, t, read, binding, rfl, rfl⟩

theorem gives_analyse {result : QueryResult}
    (given : Gives (analyse setting options id query) s result t) :
    ∃ parsed bound u, Parsed.read query = .ok parsed ∧ Gives (bind setting id parsed) s bound u ∧
      Gives (analyseBound setting options id query bound) u result t := by
  rcases analyse_cases setting options id query s with
    ⟨e, u, -, failed⟩ | ⟨parsed, bound, u, read, binding, -, run⟩
  · exact nomatch failed.symm.trans given
  · exact ⟨parsed, bound, u, read, binding, run.symm.trans given⟩

/-- The tables of a statement are known once it is bound. -/
theorem known_of_bind {parsed : Parsed} {bound : BindResult}
    (given : Gives (bind setting id parsed) s bound t) :
    ∀ table ∈ bound.tables, t.catalog.has table := by
  obtain ⟨o, -, facts⟩ := bound_of_bind given
  rw [facts.tables]
  exact facts.known

/-! ## What an analysis makes known -/

/-- A script is made, or not, without a change of the session. -/
theorem outcome_scriptOf (options : BatchOptions) (id query : String) (bound : BoundStatement)
    (s : Session) : ∃ script, (scriptOf options id query bound).outcome s = (script, s) := by
  unfold scriptOf
  cases options.replay with
  | none => exact ⟨_, rfl⟩
  | some folder => exact ⟨_, outcome_require s _ _⟩

section Keeps

variable {P : Session → Prop}
  (asks : ∀ (s : Session) question, P s → P { s with asked := question :: s.asked })
  (notes : ∀ s notes, P s → P { s with notes })

include asks notes

theorem keeps_inspect (warmUps : Nat) (sql : String) {tables : List String}
    (introspects : ∀ table ∈ tables, Keeps P (introspect setting table)) :
    Keeps P (inspect setting warmUps sql tables) := by
  have explains : Keeps P (explainFor setting tables) := by
    induction tables with
    | nil => exact keeps_pure _
    | cons table rest ih =>
        obtain ⟨first, later⟩ := List.forall_mem_cons.mp introspects
        refine keeps_bind first fun schema => ?_
        split
        · exact keeps_pure _
        · exact ih later
  have warms (statement : String) (runs : Nat) : Keeps P (warmUp setting statement runs) := by
    induction runs with
    | zero => exact keeps_pure _
    | succ runs ih => exact keeps_bind (keeps_demand asks setting _ _) fun _ => ih
  have leaves (lines : List String) : Keeps P (leaveUnreadable lines) := by
    induction lines with
    | nil => exact keeps_pure _
    | cons line rest ih => exact keeps_bind (keeps_modify fun s => notes s _) fun _ => ih
  refine keeps_bind explains fun explain => keeps_bind (warms _ warmUps) fun _ => ?_
  refine keeps_bind (keeps_demand asks setting _ _) fun lines => ?_
  exact keeps_bind (leaves _) fun _ => keeps_pure _

theorem keeps_analyseBound {bound : BindResult}
    (introspects : ∀ table ∈ bound.tables, Keeps P (introspect setting table)) :
    Keeps P (analyseBound setting options id query bound) := by
  have scripts (statement : BoundStatement) : Keeps P (scriptOf options id query statement) := by
    intro s kept
    obtain ⟨script, made⟩ := outcome_scriptOf options id query statement s
    rw [made]
    exact kept
  unfold analyseBound
  cases bound.binding with
  | unsupported reason => exact keeps_bind (keeps_modify fun s => notes s _) fun _ => keeps_pure _
  | bound statement =>
      refine keeps_bind (keeps_inspect asks notes _ _ introspects) fun plan => ?_
      exact keeps_bind (scripts statement) fun script => keeps_pure _

end Keeps

/-- What the rest of an analysis tells of the query and its tables. -/
theorem yields_analyseBound (bound : BindResult) :
    Yields (fun result => (result.id, result.query) = (id, query) ∧ result.tables = bound.tables)
      (analyseBound setting options id query bound) := by
  unfold analyseBound
  cases bound.binding with
  | unsupported reason => exact yields_bind fun _ => yields_pure ⟨rfl, rfl⟩
  | bound statement => exact yields_bind fun plan => yields_bind fun script => yields_pure ⟨rfl, rfl⟩

/-- An analysis adds the tables of its statement to those that are known. -/
theorem names_of_analyse {result : QueryResult}
    (given : Gives (analyse setting options id query) s result t) (name : String) :
    name ∈ t.catalog.tables.names ↔ name ∈ s.catalog.tables.names ∨ name ∈ result.tables := by
  obtain ⟨parsed, bound, u, read, binding, rest⟩ := gives_analyse given
  have kept : t.catalog.tables = u.catalog.tables := by
    refine (keeps_analyseBound (P := fun s => s.catalog.tables = u.catalog.tables)
      (fun _ _ kept => kept) (fun _ _ kept => kept) fun table mem => ?_).gives rest rfl
    refine (lasting_tables setting u.catalog.tables).introspect table ?_
    exact Entries.mem_names_iff.mpr (known_of_bind binding table mem)
  rw [kept, names_of_bind read binding, (yields_analyseBound bound u _ _ rest).2]

theorem keeps_analyse_proper (setting : Setting) (options : BatchOptions) (id query : String) :
    Keeps (fun s => s.catalog.Proper) (analyse setting options id query) := by
  have binds : Keeps (fun s => s.catalog.Proper) (bindText setting id query) := by
    refine keeps_bind (keeps_require _ _) fun parsed => keeps_bind ?_ fun _ => keeps_pure _
    exact keeps_bind_of_lasting lasting_proper (fun _ _ kept => kept) (fun _ _ kept => kept) id parsed
  rw [analyse_eq]
  refine keeps_bind binds fun read => keeps_analyseBound (fun _ _ kept => kept) (fun _ _ kept => kept) ?_
  exact fun table _ => lasting_proper.introspect table trivial

/-! ## What an analysis executes -/

/-- Binding forgets no table. -/
theorem lasting_extends (c : Catalog) :
    Lasting setting (fun _ => True) fun s => c.Extends s.catalog := by
  refine ⟨fun table _ t kept => ?_, fun table _ t kept => ?_⟩
  · exact kept.trans (keeps_introspect table t (.refl t)).known
  · exact kept.trans (keeps_sampleRow table t (.refl t)).known

/-- A query is read and bound without a call, whether that succeeds or fails. -/
theorem ran_bindText (setting : Setting) (id query : String) (s : Session) :
    s.Ran setting.database [] ((bindText setting id query).outcome s).2 := by
  have spares : Keeps (s.Spares Question.Executes) (bindText setting id query) := by
    refine keeps_bind (keeps_require _ _) fun parsed => ?_
    exact keeps_bind (keeps_bind_spares s id parsed) fun _ => keeps_pure _
  have grows : Keeps (fun t => s.catalog.Extends t.catalog) (bindText setting id query) := by
    refine keeps_bind (keeps_require _ _) fun parsed => keeps_bind ?_ fun _ => keeps_pure _
    exact keeps_bind_of_lasting (lasting_extends s.catalog) (fun _ _ kept => kept)
      (fun _ _ kept => kept) id parsed
  have spared := spares s (.refl _ s)
  exact ⟨grows s (.refl _), by rw [spared.executed_eq, List.append_nil], spared.unfailing⟩

section Explained

variable {bound : BindResult} (known : ∀ table ∈ bound.tables, s.catalog.has table)

include known

/-- The calls for the plan are made, up to the first that raises a fault. -/
theorem calls_of_analyseBound (setting : Setting) (options : BatchOptions) (id query : String) :
    let ends := (analyseBound setting options id query bound).outcome s
    let calls := bound.calls s.catalog options.warmUps
    s.Ran setting.database calls ends.2 ∨
      ∃ fault, ends.1 = .error (.fault fault) ∧ s.Broke setting.database calls fault ends.2 := by
  unfold analyseBound BindResult.calls
  cases bound.binding with
  | unsupported reason => exact .inl ⟨.refl _, (List.append_nil _).symm, fun before => before⟩
  | bound statement =>
      rcases runs_inspect setting options.warmUps statement.sql known with
        ⟨plan, t, given, -, ran⟩ | ⟨fault, t, failed, broke⟩
      · left
        have run : (inspect setting options.warmUps statement.sql bound.tables).outcome s
            = (.ok plan, t) := given
        obtain ⟨script, made⟩ := outcome_scriptOf options id query statement t
        simp only [outcome_bind, run, made]
        cases script <;> exact ran
      · refine .inr ⟨fault, ?_⟩
        simp only [outcome_bind, failed]
        exact ⟨trivial, broke⟩

theorem tells_of_analyseBound {result : QueryResult}
    (given : Gives (analyseBound setting options id query bound) s result t) :
    result.Tells s.catalog bound := by
  unfold analyseBound at given
  cases binding : bound.binding with
  | unsupported reason =>
      simp only [binding] at given
      obtain ⟨_, u, -, ends⟩ := gives_bind.mp given
      obtain ⟨⟨⟩, -⟩ := Prod.mk.inj ends
      exact ⟨rfl, rfl, by rw [binding]⟩
  | bound statement =>
      simp only [binding] at given
      obtain ⟨plan, u, inspected, rest⟩ := gives_bind.mp given
      obtain ⟨script, v, -, ends⟩ := gives_bind.mp rest
      obtain ⟨⟨⟩, -⟩ := Prod.mk.inj ends
      refine ⟨rfl, rfl, ?_⟩
      rw [binding]
      refine ⟨_, rfl, rfl, ?_⟩
      rcases runs_inspect setting options.warmUps statement.sql known with
        ⟨other, w, given', analyzed, -⟩ | ⟨fault, w, failed, -⟩
      · obtain ⟨⟨⟩, -⟩ := Prod.mk.inj (inspected.symm.trans given')
        exact analyzed
      · exact nomatch inspected.symm.trans failed

end Explained

end Step

end IndexAdvisor
