import IndexAdvisor.Proofs.Batch.Turns

/-! # What a run executes

A run sends the statements of its queries to be executed, each behind the words that explain it: the
warm-up runs of the first, then its measured run, then those of the second, and so on. The first
statement that raises a fault is the last that is sent.
-/

namespace IndexAdvisor

/-- Every call carries the words of an explanation before its statement. -/
theorem BindResult.explained_of_mem_calls (bound : BindResult) {catalog : Catalog} {warmUps : Nat}
    {call : Execution} (mem : call ∈ bound.calls catalog warmUps) :
    ∃ (explain : Explain) (sql : String), call.1 = explain.words ++ " " ++ sql := by
  unfold calls at mem
  cases binding : bound.binding with
  | unsupported reason => simp [binding] at mem
  | bound statement =>
      refine ⟨catalog.explain bound.tables, statement.sql, ?_⟩
      simp only [binding, Explain.calls, List.mem_append, List.mem_replicate, List.mem_singleton] at mem
      rcases mem with ⟨-, rfl⟩ | rfl <;> rfl

section More

variable {c d : Catalog} (more : c.Extends d) {bound : BindResult}
  (known : ∀ table ∈ bound.tables, c.has table)

include more known

/-- A statement whose tables are known is explained the same way when more is known. -/
theorem BindResult.calls_eq (warmUps : Nat) : bound.calls d warmUps = bound.calls c warmUps := by
  rw [calls, calls, more.explain_eq known]

theorem QueryResult.Tells.extends {result : QueryResult} (tells : result.Tells c bound) :
    result.Tells d bound :=
  ⟨tells.kind, tells.tables, by rw [more.explain_eq known]; exact tells.outcome⟩

end More

namespace Run

/-- What the queries of a run are bound to, in turn. A query that fails is the last, if it was bound
    before it failed. -/
def bindings (setting : Setting) (options : BatchOptions) :
    List (String × String) → Session → List (Parsed × BindResult)
  | [], _ => []
  | (id, query) :: rest, s =>
    match ((Step.bindText setting id query).outcome s).1 with
    | .error _ => []
    | .ok bound =>
      match (Step.analyse setting options id query).outcome s with
      | (.error _, _) => [bound]
      | (.ok _, t) => bound :: bindings setting options rest t

/-- What can be told of a run from a session that ends in another. -/
structure Traced (setting : Setting) (options : BatchOptions) (s : Session)
    (queries : List (String × String)) (bound : List (Parsed × BindResult)) (run : Run)
    (t : Session) : Prop where
  catalog : s.catalog.Extends t.catalog
  texts : bound.map (·.1.query) <+: queries.map (·.2)
  known : ∀ b ∈ bound, ∀ table ∈ b.2.tables, t.catalog.has table
  unsupported : ∀ b ∈ bound,
    (∃ reason, b.2.binding = .unsupported reason) ↔ b.2.kind = .insert ∧ b.1.hasPlaceholders
  results : List.Forall₂ (fun b result => result.Tells t.catalog b.2)
    (bound.take run.results.length) run.results
  calls : let calls := bound.flatMap fun b => b.2.calls t.catalog options.warmUps
    s.Ran setting.database calls t ∨ ∃ id fault, run.failure = some (id, .fault fault) ∧
      s.Broke setting.database calls fault t

section Traced

variable {setting : Setting} {options : BatchOptions} {s t u v : Session} {id query : String}
  {queries : List (String × String)} {others : List (Parsed × BindResult)} {run : Run}

/-- Notes leave no trace. -/
theorem Traced.noted (traced : Traced setting options s queries others run t) (notes : List Note) :
    Traced setting options s queries others run { t with notes } where
  catalog := traced.catalog
  texts := traced.texts
  known := traced.known
  unsupported := traced.unsupported
  results := traced.results
  calls := by
    rcases traced.calls with ran | ⟨id, fault, failed, broke⟩
    · exact .inl ⟨ran.catalog, ran.executed, ran.unfailing⟩
    · exact .inr ⟨id, fault, failed, broke.catalog, broke.executed, broke.stopped⟩

theorem traced_nil (setting : Setting) (options : BatchOptions) (s : Session) :
    Traced setting options s [] [] ⟨[], none⟩ s where
  catalog := .refl _
  texts := List.prefix_rfl
  known := by simp
  unsupported := by simp
  results := .nil
  calls := .inl (.refl _ s)

/-- A query that is not bound leaves no trace of calls. -/
theorem traced_unbound {e : Failure} (reads : s.Ran setting.database [] t) :
    Traced setting options s ((id, query) :: queries) [] ⟨[], some (id, e)⟩ t where
  catalog := reads.catalog
  texts := List.nil_prefix
  known := by simp
  unsupported := by simp
  results := .nil
  calls := .inl reads

variable {parsed : Parsed} {bound : BindResult} (read : Parsed.read query = .ok parsed)
  (binding : Step.Gives (Step.bind setting id parsed) s bound t)
  (reads : s.Ran setting.database [] t)

include read binding reads

/-- A query that fails after it was bound ends the trace with its calls. -/
theorem traced_failed {e : Failure}
    (failed : (Step.analyseBound setting options id query bound).outcome t = (.error e, u)) :
    Traced setting options s ((id, query) :: queries) [(parsed, bound)] ⟨[], some (id, e)⟩ u := by
  have known := Step.known_of_bind binding
  have calls := Step.calls_of_analyseBound known setting options id query
  rw [failed] at calls
  have grows : t.catalog.Extends u.catalog := by
    rcases calls with ran | ⟨fault, -, broke⟩
    · exact ran.catalog
    · exact broke.catalog
  refine ⟨reads.catalog.trans grows, ?_, ?_, ?_, .nil, ?_⟩
  · rw [List.map_singleton, (Parsed.of_read read).1]
    exact List.prefix_append _ _
  · exact List.forall_mem_singleton.mpr fun table mem => grows.has (known table mem)
  · exact List.forall_mem_singleton.mpr (Step.unsupported_iff binding)
  · simp only [List.flatMap_singleton, BindResult.calls_eq grows known]
    rcases calls with ran | ⟨fault, same, broke⟩
    · exact .inl (reads.trans ran)
    · obtain rfl : e = .fault fault := Except.error.inj same
      exact .inr ⟨id, fault, rfl, reads.broke broke⟩

/-- The calls of a query come before those of the queries after it. -/
theorem traced_cons {result : QueryResult}
    (given : Step.Gives (Step.analyseBound setting options id query bound) t result u)
    (later : Traced setting options u queries others run v) :
    Traced setting options s ((id, query) :: queries) ((parsed, bound) :: others)
      ⟨result :: run.results, run.failure⟩ v := by
  have known := Step.known_of_bind binding
  have ran : t.Ran setting.database (bound.calls t.catalog options.warmUps) u := by
    have calls := Step.calls_of_analyseBound known setting options id query
    rw [show (Step.analyseBound setting options id query bound).outcome t = _ from given] at calls
    exact calls.resolve_right fun ⟨_, failed, _⟩ => nomatch failed
  have grows := ran.catalog.trans later.catalog
  refine ⟨reads.catalog.trans grows, ?_, ?_, ?_, ?_, ?_⟩
  · rw [List.map_cons, List.map_cons, (Parsed.of_read read).1]
    exact (List.prefix_cons_inj _).mpr later.texts
  · exact List.forall_mem_cons.mpr ⟨fun table mem => grows.has (known table mem), later.known⟩
  · exact List.forall_mem_cons.mpr ⟨Step.unsupported_iff binding, later.unsupported⟩
  · exact .cons ((Step.tells_of_analyseBound known given).extends grows known) later.results
  -- the calls are told by the catalog at the end, which explains the first statement as its own did
  · simp only [List.flatMap_cons, BindResult.calls_eq grows known]
    have first := reads.trans ran
    rcases later.calls with ran' | ⟨id, fault, failed, broke⟩
    · exact .inl (first.trans ran')
    · exact .inr ⟨id, fault, failed, first.broke broke⟩

end Traced

theorem traced_ofQueries (setting : Setting) (options : BatchOptions)
    (queries : List (String × String)) (s : Session) :
    let ends := ofQueries setting options queries s
    Traced setting options s queries (bindings setting options queries s) ends.1 ends.2 := by
  -- by induction on the queries: the trace of the others begins where the first one ends
  induction queries generalizing s with
  | nil => exact traced_nil setting options s
  | cons first rest ih =>
      obtain ⟨id, query⟩ := first
      have reads := Step.ran_bindText setting id query s
      rw [bindings]
      rcases Step.analyse_cases setting options id query s with
        ⟨e, t, unbound, run⟩ | ⟨parsed, bound, t, read, binding, told, run⟩
      · rw [unbound] at reads ⊢
        rw [ofQueries_error run]
        exact (traced_unbound reads).noted _
      · rw [told] at reads ⊢
        rcases last : (Step.analyseBound setting options id query bound).outcome t with ⟨e | result, u⟩
        · rw [last] at run
          rw [run, ofQueries_error run]
          exact (traced_failed read binding reads last).noted _
        · rw [last] at run
          rw [run, ofQueries_ok run]
          exact traced_cons read binding reads last (ih u)

/-- The calls of a run are those of its queries, in turn: all of them are made and answered, or they
    are made up to the first that raises a fault, and the run fails with it. -/
theorem executed_in_order (setting : Setting) (options : BatchOptions) (corpus : Entries String) :
    let queries := queriesOf corpus
    let ends := ofCorpus setting options corpus .start
    let bound := bindings setting options queries .start
    let calls := bound.flatMap fun b => b.2.calls ends.2.catalog options.warmUps
    (ends.2.executed = calls ∧ setting.database.Unfailing ends.2.asked ∨
      ends.2.executed <+: calls ∧ ∃ id fault, ends.1.failure = some (id, .fault fault) ∧
        setting.database.Stopped fault ends.2.asked) ∧
    (∀ call ∈ ends.2.executed, ∃ (explain : Explain) (sql : String),
      call.1 = explain.words ++ " " ++ sql) ∧
    bound.map (·.1.query) <+: queries.map (·.2) ∧
    (∀ b ∈ bound, (∀ table ∈ b.2.tables, ends.2.catalog.has table) ∧
      ((∃ reason, b.2.binding = .unsupported reason) ↔
        b.2.kind = .insert ∧ b.1.hasPlaceholders)) ∧
    List.Forall₂ (fun b result => result.Tells ends.2.catalog b.2)
      (bound.take ends.1.results.length) ends.1.results := by
  intro queries ends bound calls
  have traced := traced_ofQueries setting options queries .start
  have executed : ends.2.executed = calls ∧ setting.database.Unfailing ends.2.asked ∨
      ends.2.executed <+: calls ∧ ∃ id fault, ends.1.failure = some (id, .fault fault) ∧
        setting.database.Stopped fault ends.2.asked := by
    rcases traced.calls with ran | ⟨id, fault, failed, broke⟩
    · exact .inl ⟨ran.executed, ran.unfailing trivial⟩
    · obtain ⟨made, some, last⟩ := broke.executed
      exact .inr ⟨last ▸ some, id, fault, failed, broke.stopped trivial⟩
  refine ⟨executed, fun call mem => ?_, traced.texts, fun b mem => ?_, traced.results⟩
  · have planned : call ∈ calls := by
      rcases executed with ⟨all, -⟩ | ⟨some, -⟩
      · exact all ▸ mem
      · exact some.mem mem
    obtain ⟨b, -, mem⟩ := List.mem_flatMap.mp planned
    exact b.2.explained_of_mem_calls mem
  · exact ⟨traced.known b mem, traced.unsupported b mem⟩

/-- A query that is warmed up once is followed by one that is not supported. -/
example :
    (ofQueries .shop ⟨1, none, false, false⟩
      [("query.a", "SELECT id FROM users"), ("query.b", "INSERT INTO orders VALUES (?)")]
      .start).2.executed
      = [("EXPLAIN (ANALYZE, VERBOSE, BUFFERS ON) SELECT id FROM users", false),
        ("EXPLAIN (ANALYZE, VERBOSE, BUFFERS ON) SELECT id FROM users", true)] := by
  decide +kernel

end Run

end IndexAdvisor
