import IndexAdvisor.Proofs.Batch.Turns
import IndexAdvisor.Proofs.Binding.Recordings

/-! # What a run records

The queries of a run record the uses of columns when their statements are bound. Executing a statement
records nothing, and neither does a failure.
-/

namespace IndexAdvisor

namespace Step

variable {setting : Setting} {options : BatchOptions} {id query : String} {s : Session}

/-- The moment of recording of a query, if its statement can be read and its binding comes so far. -/
def recordingsOf (setting : Setting) (id query : String) (s : Session) : List Recording :=
  match Parsed.read query with
  | .ok parsed => recordings setting id parsed s
  | .error _ => []

theorem follows_analyse (setting : Setting) (options : BatchOptions) (id query : String)
    (s : Session) :
    s.Follows (recordingsOf setting id query s) ((analyse setting options id query).outcome s).2 := by
  have binds : s.Follows (recordingsOf setting id query s) ((bindText setting id query).outcome s).2 := by
    rw [bindText, outcome_bind, outcome_require, recordingsOf]
    cases read : Parsed.read query with
    | error e => exact .of_same (fun _ => Iff.rfl) (.refl _)
    | ok parsed =>
        have follows := follows_bind setting id parsed s
        simp only [Except.mapError, outcome_bind]
        rcases run : (bind setting id parsed).outcome s with ⟨e | result, t⟩
        · rw [run] at follows
          exact follows
        · rw [run] at follows
          exact follows
  rcases analyse_cases setting options id query s with
    ⟨e, t, bound, run⟩ | ⟨parsed, bound, t, read, given, run, rest⟩
  · rw [bound] at binds
    rw [run]
    exact binds
  · rw [run] at binds
    rw [rest]
    have grows : Keeps t.Grows (analyseBound setting options id query bound) :=
      keeps_analyseBound (fun _ _ kept => ⟨kept.aliases, kept.usage, kept.known, kept.sampled⟩)
        (fun _ _ kept => ⟨kept.aliases, kept.usage, kept.known, kept.sampled⟩)
        fun table _ => keeps_introspect table
    exact List.append_nil (recordingsOf setting id query s) ▸ binds.trans (grows t (.refl t)).follows

end Step

namespace Run

variable {setting : Setting} {options : BatchOptions} {s : Session}
  {queries : List (String × String)}

/-- The moments of recording of queries that are analysed in turn. -/
def recordings (setting : Setting) (options : BatchOptions) :
    List (String × String) → Session → List Recording
  | [], _ => []
  | (id, query) :: rest, s =>
    Step.recordingsOf setting id query s ++
      match (Step.analyse setting options id query).outcome s with
      | (.ok _, t) => recordings setting options rest t
      | (.error _, _) => []

theorem follows_ofQueries (setting : Setting) (options : BatchOptions)
    (queries : List (String × String)) (s : Session) :
    s.Follows (recordings setting options queries s) (ofQueries setting options queries s).2 := by
  -- each query begins in the session that the one before left, and the first failure ends the run
  induction queries generalizing s with
  | nil => exact .of_same (fun _ => Iff.rfl) (.refl _)
  | cons first rest ih =>
      obtain ⟨id, query⟩ := first
      have follows := Step.follows_analyse setting options id query s
      rw [recordings]
      rcases run : (Step.analyse setting options id query).outcome s with ⟨e | result, t⟩
      · rw [run] at follows
        rw [ofQueries_error run]
        exact follows.trans (.of_same (fun _ => Iff.rfl) (.refl _))
      · rw [run] at follows
        rw [ofQueries_ok run]
        exact follows.trans (ih t)

/-- What is recorded belongs to the statement of a query. -/
theorem read_of_recordings {n : Recording} (mem : n ∈ recordings setting options queries s) :
    ∃ query parsed, (n.query, query) ∈ queries ∧ Parsed.read query = .ok parsed ∧
      parsed.outline = .ok n.outline := by
  induction queries generalizing s with
  | nil => exact nomatch mem
  | cons first rest ih =>
      obtain ⟨id, query⟩ := first
      rw [recordings, List.mem_append] at mem
      rcases mem with here | later
      · unfold Step.recordingsOf at here
        cases read : Parsed.read query with
        | error e => simp [read] at here
        | ok parsed =>
            rw [read] at here
            obtain ⟨same, given⟩ := Step.mem_recordings.mp here
            refine ⟨query, parsed, ?_, read, (Step.gives_reach given).1⟩
            rw [same]
            exact List.mem_cons_self
      · rcases run : (Step.analyse setting options id query).outcome s with ⟨e | result, t⟩
        · simp [run] at later
        · rw [run] at later
          obtain ⟨other, parsed, listed, found⟩ := ih later
          exact ⟨other, parsed, List.mem_cons_of_mem _ listed, found⟩

end Run

end IndexAdvisor
