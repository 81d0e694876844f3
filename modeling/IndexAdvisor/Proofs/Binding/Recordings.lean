import IndexAdvisor.Proofs.Binding.History
import IndexAdvisor.Proofs.Binding.Stages

/-! # What statements record, one after the other

The uses of a statement's columns are recorded at one moment of its binding, each for the table that
owns the column then. What is known of columns after many statements are exactly the facts that were
recorded at such moments.
-/

namespace IndexAdvisor

/-! ## Facts -/

/-- A fact about the use of a column. -/
inductive UsageFact
  | joined (use : ColumnUse)
  | filtered (use : ColumnUse)
  | updated (update : ColumnUpdate)
  deriving DecidableEq, Repr

def Tracker.Has (u : Tracker) : UsageFact → Prop
  | .joined use => use ∈ u.joined
  | .filtered use => use ∈ u.filtered
  | .updated update => update ∈ u.updated

def UsageRecord.fact (r : UsageRecord) (query table : String) : UsageFact :=
  match r.use with
  | .join => .joined ⟨table, query, r.column.name⟩
  | .assignment => .updated ⟨table, r.column.name⟩
  | .membership | .condition => .filtered ⟨table, query, r.column.name⟩

theorem has_recordUse {s : Session} {query : String} {tables : List String} {r : UsageRecord}
    (has : ∀ owner, columnOwner s tables r.column r.table = some owner → s.catalog.has owner)
    {fact : UsageFact} :
    (recordUse s query tables r).Has fact ↔ s.usage.Has fact ∨
      ∃ owner, columnOwner s tables r.column r.table = some owner ∧ r.fact query owner = fact := by
  unfold recordUse
  cases owned : columnOwner s tables r.column r.table with
  | none => simp
  | some owner =>
      rw [Option.filter_some_pos (has owner owned)]
      cases used : r.use <;> cases fact <;>
        simp [UsageRecord.fact, used, Tracker.Has, Tracker.recordJoin, Tracker.recordFilter,
          Tracker.recordUpdate, mem_note, eq_comm, or_comm]

/-! ## Moments of recording -/

/-- The moment at which the uses of a statement's columns are recorded. -/
structure Recording where
  query : String
  outline : Outline
  session : Session

namespace Recording

/-- The table that owns a recorded column. -/
def owner (n : Recording) (r : UsageRecord) : Option String :=
  columnOwner n.session n.outline.usage.tables r.column r.table

def Tells (n : Recording) (fact : UsageFact) : Prop :=
  ∃ r ∈ n.outline.usage.noted, ∃ table, n.owner r = some table ∧ r.fact n.query table = fact

end Recording

/-- From the first session to the second exactly the facts of some moments were recorded, at each of
    which the tables of the statement were known, and nothing that was known is forgotten. -/
structure Session.Follows (s : Session) (moments : List Recording) (t : Session) : Prop where
  has : ∀ fact, t.usage.Has fact ↔ s.usage.Has fact ∨ ∃ n ∈ moments, n.Tells fact
  learned : s.catalog.Extends t.catalog
  knew : ∀ n ∈ moments, (∀ table ∈ n.outline.usage.tables, n.session.catalog.has table) ∧
    n.session.catalog.Extends t.catalog

namespace Session

theorem Follows.trans {s t u : Session} {moments more : List Recording}
    (first : s.Follows moments t) (second : t.Follows more u) : s.Follows (moments ++ more) u where
  has fact := by
    rw [second.has, first.has, or_assoc]
    simp only [List.mem_append, or_and_right, exists_or]
  learned := first.learned.trans second.learned
  knew n mem := by
    rcases List.mem_append.mp mem with before | after
    · exact ⟨(first.knew n before).1, (first.knew n before).2.trans second.learned⟩
    · exact second.knew n after

/-- A step that records no use of a column. -/
theorem Follows.of_same {s t : Session} (same : ∀ fact, t.usage.Has fact ↔ s.usage.Has fact)
    (learned : s.catalog.Extends t.catalog) : s.Follows [] t :=
  ⟨fun fact => by simp [same], learned, nofun⟩

theorem Grows.follows {s t : Session} (grows : s.Grows t) : s.Follows [] t :=
  .of_same (fun fact => by rw [grows.usage]) grows.known

theorem has_touched (s : Session) (query : String) (usage : StatementUsage) (fact : UsageFact) :
    (s.touched query usage).usage.Has fact ↔ s.usage.Has fact := by
  refine List.foldlRecOn (motive := fun u : Tracker => u.Has fact ↔ s.usage.Has fact) usage.touches _ Iff.rfl ?_
  intro u same target _
  refine Iff.trans ?_ same
  cases fact <;> exact Iff.rfl

theorem follows_noted {s : Session} (query : String) {o : Outline}
    (known : ∀ t ∈ o.usage.tables, s.catalog.has t) :
    s.Follows [⟨query, o, s⟩] (s.noted query o.usage) := by
  let tables := o.usage.tables
  -- the sessions of the fold differ in their usage only, so every owner is that of the first one
  have folded (records : List UsageRecord) (within : records ⊆ o.usage.records) (t : Session)
      (same : t.catalog = s.catalog ∧ t.aliases = s.aliases) (fact : UsageFact) :
      (records.foldl (fun s r => { s with usage := recordUse s query tables r }) t).usage.Has fact ↔
        t.usage.Has fact ∨ ∃ r ∈ records, ∃ table,
          columnOwner s tables r.column r.table = some table ∧ r.fact query table = fact := by
    induction records generalizing t with
    | nil => simp
    | cons r rest ih =>
        obtain ⟨first, later⟩ := List.cons_subset.mp within
        have owner : columnOwner t tables r.column r.table = columnOwner s tables r.column r.table := by
          rw [columnOwner, columnOwner, same.1, same.2]
        rw [List.foldl_cons, ih later { t with usage := recordUse t query tables r } same,
          has_recordUse, owner, or_assoc]
        · simp only [List.mem_cons, exists_eq_or_imp]
        · intro table owned
          rw [same.1]
          exact known table (columnOwner_mem ((Walk.sound_outline o).records r first) (owner ▸ owned))
  refine ⟨fun fact => ?_, ?_, fun n mem => ?_⟩
  · simp only [List.mem_singleton, exists_eq_left]
    exact folded o.usage.noted o.usage.noted_subset s ⟨rfl, rfl⟩ fact
  · rw [s.noted_eq]
    exact .refl _
  · rw [List.mem_singleton.mp mem, s.noted_eq]
    exact ⟨known, .refl _⟩

end Session

/-! ## Statements -/

namespace Step

/-- The moment of recording, if a binding comes so far. -/
def recordings (setting : Setting) (query : String) (parsed : Parsed) (s : Session) :
    List Recording :=
  match (reach setting query parsed).outcome s with
  | (.ok o, t) => [⟨query, o, t⟩]
  | (.error _, _) => []

variable {setting : Setting} {query : String} {parsed : Parsed} {s : Session}

theorem mem_recordings {n : Recording} : n ∈ recordings setting query parsed s ↔
    n.query = query ∧ Gives (reach setting query parsed) s n.outline n.session := by
  unfold recordings Gives
  obtain ⟨id, o, t⟩ := n
  rcases (reach setting query parsed).outcome s with ⟨e | o', t'⟩ <;> simp [eq_comm]

theorem follows_bind (setting : Setting) (query : String) (parsed : Parsed) (s : Session) :
    s.Follows (recordings setting query parsed s) ((bind setting query parsed).outcome s).2 := by
  have touched {o : Outline} {t : Session} (given : Gives (introspectAll setting o.usage.tables) s () t) :
      s.Follows [] ((aliased o.usage t).touched query o.usage) := by
    have grows := grows_of_keeps (keeps_introspectAll (lasting_grows s) fun _ _ => trivial) given
    refine .of_same (fun fact => ?_) grows.known
    rw [Session.has_touched, ← grows.usage]
    exact Iff.rfl
  rcases bind_cases setting query parsed s with ⟨e, t, stopped, run⟩ | ⟨o, v, given, -, grows⟩
  · rw [run, recordings, stopped]
    rcases reach_cases setting query parsed s with
      ⟨e', t', run', grows, -⟩ | ⟨o, t', -, described, ⟨e', v, run', grows, -⟩ | ⟨v, run', -⟩⟩
    · obtain ⟨-, rfl⟩ := Prod.mk.inj (run'.symm.trans stopped)
      exact grows.follows
    · obtain ⟨-, rfl⟩ := Prod.mk.inj (run'.symm.trans stopped)
      exact (touched described).trans grows.follows
    · exact nomatch stopped.symm.trans run'
  · rw [recordings, show (reach setting query parsed).outcome s = (.ok o, v) from given]
    obtain ⟨-, t, described, learned⟩ := gives_reach given
    exact ((touched described).trans learned.follows).trans
      ((Session.follows_noted query (known_of_reach given)).trans grows.follows)

end Step

/-- The moments of recording while statements are bound one after the other. -/
def Session.recordings (setting : Setting) : List (String × Parsed) → Session → List Recording
  | [], _ => []
  | (query, parsed) :: rest, s =>
    Step.recordings setting query parsed s
      ++ Session.recordings setting rest ((Step.bind setting query parsed).outcome s).2

/-- The moments of recording are those of the statements that come so far. -/
theorem Session.mem_recordings {setting : Setting} {statements : List (String × Parsed)}
    {n : Recording} {s : Session} :
    n ∈ Session.recordings setting statements s ↔ ∃ before parsed after,
      statements = before ++ (n.query, parsed) :: after ∧
        Step.Gives (Step.reach setting n.query parsed) (before.foldl
          (fun s (query, parsed) => ((Step.bind setting query parsed).outcome s).2) s)
          n.outline n.session := by
  induction statements generalizing s with
  | nil => simp [Session.recordings]
  | cons first rest ih =>
      obtain ⟨query, parsed⟩ := first
      rw [Session.recordings, List.mem_append, Step.mem_recordings, ih]
      constructor
      · rintro (⟨rfl, given⟩ | ⟨before, parsed', after, rfl, given⟩)
        · exact ⟨[], parsed, rest, rfl, given⟩
        · exact ⟨(query, parsed) :: before, parsed', after, rfl, given⟩
      · rintro ⟨before, parsed', after, split, given⟩
        cases before with
        | nil =>
            obtain ⟨⟨⟨⟩, rfl⟩, rfl⟩ := List.cons.inj split
            exact .inl ⟨rfl, given⟩
        | cons other before =>
            obtain ⟨rfl, rfl⟩ := List.cons.inj split
            exact .inr ⟨before, parsed', after, rfl, given⟩

/-- A statement that is bound comes so far. -/
theorem Session.recorded_of_bound {setting : Setting} {before after : List (String × Parsed)}
    {query : String} {parsed : Parsed} {result : BindResult} {t : Session}
    (given : Step.Gives (Step.bind setting query parsed) (Session.afterBinding setting before) result t) :
    ∃ n ∈ Session.recordings setting (before ++ (query, parsed) :: after) .start,
      n.query = query ∧ parsed.outline = .ok n.outline := by
  rcases Step.bind_cases setting query parsed (Session.afterBinding setting before) with
    ⟨e, u, -, run⟩ | ⟨o, u, reached, -⟩
  · exact nomatch run.symm.trans given
  · exact ⟨⟨query, o, u⟩, Session.mem_recordings.mpr ⟨before, parsed, after, rfl, reached⟩, rfl,
      (Step.gives_reach reached).1⟩

theorem Session.follows_afterBinding (setting : Setting) (statements : List (String × Parsed)) :
    Session.start.Follows (Session.recordings setting statements .start)
      (Session.afterBinding setting statements) := by
  have folded (s : Session) : s.Follows (Session.recordings setting statements s) (statements.foldl
      (fun s (query, parsed) => ((Step.bind setting query parsed).outcome s).2) s) := by
    induction statements generalizing s with
    | nil => exact .of_same (fun _ => Iff.rfl) (.refl _)
    | cons first rest ih => exact (Step.follows_bind setting first.1 first.2 s).trans (ih _)
  exact folded .start

end IndexAdvisor
