import IndexAdvisor.Batch.Result
import IndexAdvisor.Proofs.Binding.Reach

/-! # Calls that execute

What an analysis has executed is read off its questions. `Ran` says that a session has made certain
calls on the way to another, and that none of them raised a fault; `Broke` says that it has made some
of them, up to the first that did. A step that runs calls does one or the other, and two steps in turn
run the calls of the first and then those of the second.
-/

namespace IndexAdvisor

/-- A statement that is sent to be executed, and whether its rows are wanted. -/
abbrev Execution := String × Bool

def Question.call? : Question → Option Execution
  | .execute statement fetch => some (statement, fetch)
  | _ => none

/-- What was executed so far, in order. -/
def Session.executed (s : Session) : List Execution := (s.asked.filterMap Question.call?).reverse

namespace Database

/-- All that was executed so far was answered. -/
def Unfailing (database : Database) : List Question → Prop
  | [] => True
  | q :: before => (q.Executes → (database.answer before q).isOk) ∧ database.Unfailing before

/-- The last question executed a statement, and is the first of this kind that raised a fault. -/
def Stopped (database : Database) (fault : Fault) : List Question → Prop
  | [] => False
  | q :: before => q.Executes ∧ database.answer before q = .error fault ∧ database.Unfailing before

end Database

namespace Session

variable {database : Database} {s t u : Session} {calls more : List Execution} {fault : Fault}

theorem Spares.executed_eq (spares : s.Spares Question.Executes t) : t.executed = s.executed := by
  obtain ⟨asked, same, spared⟩ := spares
  have none : asked.filterMap Question.call? = [] := by
    rw [List.filterMap_eq_nil_iff]
    intro q mem
    cases q with
    | execute statement fetch => exact absurd ⟨statement, fetch, rfl⟩ (spared _ mem)
    | metadata | sampleRow | size | alive | analyze | close => rfl
  rw [executed, executed, same, List.filterMap_append, none, List.nil_append]

theorem Spares.unfailing (spares : s.Spares Question.Executes t)
    (before : database.Unfailing s.asked) : database.Unfailing t.asked := by
  obtain ⟨asked, same, spared⟩ := spares
  rw [same]
  clear same
  induction asked with
  | nil => exact before
  | cons q rest ih =>
      obtain ⟨first, others⟩ := List.forall_mem_cons.mp spared
      exact ⟨fun executes => absurd executes first, ih others⟩

/-- The calls were made in turn, and all were answered. -/
structure Ran (database : Database) (s : Session) (calls : List Execution) (t : Session) : Prop where
  catalog : s.catalog.Extends t.catalog
  executed : t.executed = s.executed ++ calls
  unfailing : database.Unfailing s.asked → database.Unfailing t.asked

/-- The calls were made in turn up to one that raised a fault, and nothing was asked after it. -/
structure Broke (database : Database) (s : Session) (calls : List Execution) (fault : Fault)
    (t : Session) : Prop where
  catalog : s.catalog.Extends t.catalog
  executed : ∃ made, made <+: calls ∧ t.executed = s.executed ++ made
  stopped : database.Unfailing s.asked → database.Stopped fault t.asked

theorem Ran.refl (database : Database) (s : Session) : s.Ran database [] s :=
  ⟨.refl _, (List.append_nil _).symm, id⟩

theorem Ran.trans (first : s.Ran database calls t) (second : t.Ran database more u) :
    s.Ran database (calls ++ more) u where
  catalog := first.catalog.trans second.catalog
  executed := by rw [second.executed, first.executed, List.append_assoc]
  unfailing before := second.unfailing (first.unfailing before)

theorem Ran.broke (first : s.Ran database calls t) (second : t.Broke database more fault u) :
    s.Broke database (calls ++ more) fault u := by
  obtain ⟨made, some, last⟩ := second.executed
  refine ⟨first.catalog.trans second.catalog, ⟨calls ++ made, ?_, ?_⟩, fun before => ?_⟩
  · exact (List.prefix_append_right_inj calls).mpr some
  · rw [last, first.executed, List.append_assoc]
  · exact second.stopped (first.unfailing before)

/-- A call that raises a fault is the last, whatever calls were to follow. -/
theorem Broke.append (broke : s.Broke database calls fault t) (more : List Execution) :
    s.Broke database (calls ++ more) fault t := by
  obtain ⟨made, some, last⟩ := broke.executed
  exact ⟨broke.catalog, ⟨made, some.trans (List.prefix_append calls more), last⟩, broke.stopped⟩

end Session

namespace Step

variable {α β : Type} {setting : Setting} {s : Session} {calls more : List Execution}

/-- The step runs the calls: it either makes them all and succeeds with a result that has the
    property, or fails with the fault of the first that raises one. -/
def Runs (setting : Setting) (calls : List Execution) (Q : α → Prop) (x : Step α) (s : Session) : Prop :=
  (∃ a t, Gives x s a t ∧ Q a ∧ s.Ran setting.database calls t) ∨
    ∃ fault t, x.outcome s = (.error (.fault fault), t) ∧ s.Broke setting.database calls fault t

theorem runs_pure {Q : α → Prop} {a : α} (holds : Q a) (s : Session) :
    Runs setting [] Q (pure a) s :=
  .inl ⟨a, s, rfl, holds, .refl _ s⟩

theorem runs_bind {Q : α → Prop} {Q' : β → Prop} {x : Step α} {f : α → Step β}
    (first : Runs setting calls Q x s)
    (second : ∀ a t, Q a → s.Ran setting.database calls t → Runs setting more Q' (f a) t) :
    Runs setting (calls ++ more) Q' (x >>= f) s := by
  rcases first with ⟨a, t, given, holds, ran⟩ | ⟨fault, t, failed, broke⟩
  · have run : (x >>= f).outcome s = (f a).outcome t := by
      rw [outcome_bind, show x.outcome s = _ from given]
    rcases second a t holds ran with ⟨b, u, given', holds', ran'⟩ | ⟨fault, u, failed, broke⟩
    · exact .inl ⟨b, u, run.trans given', holds', ran.trans ran'⟩
    · exact .inr ⟨fault, u, run.trans failed, ran.broke broke⟩
  · refine .inr ⟨fault, t, ?_, broke.append more⟩
    rw [outcome_bind, failed]

/-- A step that runs no calls may come before those of another. -/
theorem runs_bind_silent {Q : α → Prop} {Q' : β → Prop} {x : Step α} {f : α → Step β}
    (first : Runs setting [] Q x s)
    (second : ∀ a t, Q a → s.Ran setting.database [] t → Runs setting calls Q' (f a) t) :
    Runs setting calls Q' (x >>= f) s :=
  runs_bind first second

theorem runs_execute (setting : Setting) (statement : String) (fetch : Bool) (s : Session) :
    Runs setting [(statement, fetch)] (fun _ => True)
      (demand setting (.execute statement fetch) .fault) s := by
  have run := outcome_demand s setting (.execute statement fetch) .fault
  cases answer : setting.database.answer s.asked (.execute statement fetch) with
  | ok lines =>
      rw [answer] at run
      refine .inl ⟨lines, _, run, trivial, .refl _, ?_, fun before => ⟨fun _ => ?_, before⟩⟩
      · simp [Session.executed, Question.call?]
      · rw [answer]
        rfl
  | error fault =>
      rw [answer] at run
      refine .inr ⟨fault, _, run, .refl _, ⟨_, List.prefix_rfl, ?_⟩, fun before => ?_⟩
      · simp [Session.executed, Question.call?]
      · exact ⟨⟨statement, fetch, rfl⟩, answer, before⟩

/-! ## Inspection -/

theorem runs_warmUp (setting : Setting) (statement : String) (runs : Nat) (s : Session) :
    Runs setting (List.replicate runs (statement, false)) (fun _ => True)
      (warmUp setting statement runs) s := by
  induction runs generalizing s with
  | zero => exact runs_pure trivial s
  | succ runs ih => exact runs_bind (runs_execute setting statement false s) fun _ t _ _ => ih t

end Step

/-- How a plan over tables is asked for, by what is known of them. -/
def Catalog.explain (catalog : Catalog) (tables : List String) : Explain :=
  if tables.any fun table => (catalog.find? table).any (·.hasForeignKeys) then .verbose
  else .analyze

/-- Known tables are explained the same way when more is known. -/
theorem Catalog.Extends.explain_eq {c d : Catalog} (more : c.Extends d) {tables : List String}
    (known : ∀ t ∈ tables, c.has t) : d.explain tables = c.explain tables := by
  have same (t : String) (mem : t ∈ tables) : d.find? t = c.find? t := by
    obtain ⟨schema, found⟩ := Option.isSome_iff_exists.mp (known t mem)
    rw [found, Catalog.find?, more _ schema found]
  have alike : (tables.any fun t => (d.find? t).any (·.hasForeignKeys))
      = tables.any fun t => (c.find? t).any (·.hasForeignKeys) := by
    rw [Bool.eq_iff_iff, List.any_eq_true, List.any_eq_true]
    exact exists_congr fun t => and_congr_right fun mem => by rw [same t mem]
  rw [Catalog.explain, Catalog.explain, alike]

/-- The calls for the plan of a statement: the warm-up runs and the measured one. -/
def Explain.calls (explain : Explain) (warmUps : Nat) (sql : String) : List Execution :=
  let statement := explain.words ++ " " ++ sql
  List.replicate warmUps (statement, false) ++ [(statement, true)]

namespace Step

variable {setting : Setting} {s : Session} {tables : List String}

theorem explainFor_known (known : ∀ t ∈ tables, s.catalog.has t) :
    (explainFor setting tables).outcome s = (.ok (s.catalog.explain tables), s) := by
  induction tables with
  | nil => rfl
  | cons table rest ih =>
      obtain ⟨here, later⟩ := List.forall_mem_cons.mp known
      obtain ⟨schema, found⟩ := Option.isSome_iff_exists.mp here
      have told : (introspect setting table).outcome s = (.ok schema, s) := by
        rcases introspect_cases setting table s with ⟨other, found', run⟩ | ⟨unknown, -⟩
        · rw [run, Option.some.inj (found'.symm.trans found)]
        · exact nomatch unknown.symm.trans found
      rw [explainFor, outcome_bind, told]
      dsimp only
      cases keys : schema.hasForeignKeys with
      | true => simp [Catalog.explain, found, keys]
      | false =>
          simp only [Bool.false_eq_true, if_false, ih later]
          simp [Catalog.explain, found, keys]

theorem runs_leave (note : Note) (s : Session) :
    Runs setting [] (fun _ => True) (leave note) s :=
  .inl ⟨⟨⟩, _, rfl, trivial, .refl _, (List.append_nil _).symm, id⟩

theorem runs_leaveUnreadable (lines : List String) (s : Session) :
    Runs setting [] (fun _ => True) (leaveUnreadable lines) s := by
  induction lines generalizing s with
  | nil => exact runs_pure trivial s
  | cons line rest ih => exact runs_bind_silent (runs_leave _ s) fun _ t _ _ => ih t

end Step

/-- A line tells nothing of whether the statement was executed. -/
theorem Plan.analyzed_ofLines (lines : List String) (analyzed : Bool) :
    (Plan.ofLines lines analyzed).analyzed = analyzed := by
  have added (plan : Plan) (line : String) : (plan.addLine line).analyzed = plan.analyzed := by
    simp only [addLine]
    cases Timing.ofLine? (Text.trim line) with
    | none => rfl
    | some timing =>
        dsimp only
        split <;> cases timing <;> rfl
  have folded (plan : Plan) : (lines.foldl addLine plan).analyzed = plan.analyzed := by
    induction lines generalizing plan with
    | nil => rfl
    | cons line rest ih => rw [List.foldl_cons, ih, added]
  exact folded (empty analyzed)

namespace Step

variable {setting : Setting} {s : Session} {tables : List String}

/-- A statement over known tables is explained by what is known of them. -/
theorem runs_inspect (setting : Setting) (warmUps : Nat) (sql : String)
    (known : ∀ t ∈ tables, s.catalog.has t) :
    Runs setting ((s.catalog.explain tables).calls warmUps sql)
      (fun plan => plan.analyzed = decide (s.catalog.explain tables = .analyze))
      (inspect setting warmUps sql tables) s := by
  have explains : Runs setting [] (· = s.catalog.explain tables) (explainFor setting tables) s :=
    .inl ⟨_, s, explainFor_known known, rfl, .refl _ s⟩
  refine runs_bind_silent explains ?_
  rintro _ t rfl -
  refine runs_bind (runs_warmUp setting _ warmUps t) fun _ u _ _ => ?_
  -- nothing is executed after the measured run
  show Runs setting ([(_, true)] ++ []) _ _ u
  refine runs_bind (runs_execute setting _ true u) fun lines v _ _ => ?_
  refine runs_bind_silent (runs_leaveUnreadable _ v) fun _ w _ _ => ?_
  refine runs_pure ?_ w
  exact Plan.analyzed_ofLines lines _

end Step

end IndexAdvisor
