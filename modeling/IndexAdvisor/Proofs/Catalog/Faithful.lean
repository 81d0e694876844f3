import IndexAdvisor.Catalog.Introspection
import IndexAdvisor.Proofs.Session.Success

/-! # Catalogs of fixed databases

A database with fixed answers describes a table in one way, whenever it is asked. A catalog is
faithful to it if all that it knows is what the database would answer. Introspection and sampling
keep a catalog faithful, and on a faithful catalog their results do not depend on what is known.
-/

namespace IndexAdvisor

open Text (lowercase)

/-- The answers do not depend on what was asked before. -/
def Database.IsFixed (database : Database) : Prop :=
  ∀ asked asked' question, database.answer asked question = database.answer asked' question

/-- The database of some tables, each with its columns and one row. It says nothing of keys. -/
def Database.ofTables (tables : Entries (List (String × String) × List (String × Value))) :
    Database where
  schema := none
  name := none
  answer _
    | .metadata .columns table _ => .ok (((tables.find? table).map (·.1)).getD [] |>.map
        fun (name, type) => .list [.text name, .text type])
    | .metadata .. => .ok []
    | .sampleRow table _ => .ok (((tables.find? table).map (·.2)).getD [])
    | .execute .. => .ok []
    | .size .. => .ok ""
    | .alive => .ok true
    | .analyze | .close => .ok ()

theorem Database.isFixed_ofTables (tables : Entries (List (String × String) × List (String × Value))) :
    (ofTables tables).IsFixed :=
  fun _ _ _ => rfl

/-- A database of users and their orders. -/
def Setting.shop : Setting where
  database := .ofTables [("users", [("id", "int4")], [("id", .int 1)]),
    ("orders", [("id", "int4"), ("user_id", "int4")], [("id", .int 5), ("user_id", .int 7)])]
  schema := "public"
  now := ⟨⟨2024, 1, 1⟩, ⟨0, 0, 0, 0, none⟩⟩

namespace Step

variable {α β : Type} {setting : Setting}

/-! ## Steps that only ask -/

/-- The step has one result on all sessions, and changes nothing but the log of questions. -/
def Steady (x : Step α) : Prop :=
  ∃ result, ∀ s, ∃ asked, x.outcome s = (result, { s with asked := asked })

theorem steady_pure (a : α) : Steady (pure a) := ⟨.ok a, fun s => ⟨s.asked, rfl⟩⟩

theorem steady_throw (e : Failure) : Steady (throw e : Step α) :=
  ⟨.error e, fun s => ⟨s.asked, rfl⟩⟩

theorem steady_throw_bind (e : Failure) (f : α → Step β) : Steady (throw e >>= f) :=
  ⟨.error e, fun s => ⟨s.asked, rfl⟩⟩

theorem steady_require {ε : Type} (result : Except ε α) (failure : ε → Failure) :
    Steady (require result failure) := by
  cases result with
  | error e => exact steady_throw _
  | ok a => exact steady_pure a

theorem steady_bind {x : Step α} {f : α → Step β} (first : Steady x) (next : ∀ a, Steady (f a)) :
    Steady (x >>= f) := by
  obtain ⟨result, runs⟩ := first
  cases result with
  | error e =>
      refine ⟨.error e, fun s => ?_⟩
      obtain ⟨asked, run⟩ := runs s
      exact ⟨asked, by rw [outcome_bind, run]⟩
  | ok a =>
      obtain ⟨result, after⟩ := next a
      refine ⟨result, fun s => ?_⟩
      obtain ⟨asked, run⟩ := runs s
      obtain ⟨asked', run'⟩ := after { s with asked := asked }
      exact ⟨asked', by rw [outcome_bind, run]; exact run'⟩

theorem steady_demand (fixed : setting.database.IsFixed) (question : Question)
    (failure : Fault → Failure) : Steady (demand setting question failure) := by
  refine ⟨(setting.database.answer [] question).mapError failure, fun s => ?_⟩
  exact ⟨question :: s.asked, by rw [outcome_demand, fixed s.asked []]⟩

theorem steady_readTable (fixed : setting.database.IsFixed) (table : String) :
    Steady (readTable setting table) := by
  have asks (what : Metadata) : Steady (metadata setting what table) :=
    steady_demand fixed _ _
  refine steady_bind (asks .columns) fun rows => ?_
  simp only
  split
  · exact steady_throw_bind _ _
  refine steady_bind (steady_require _ _) fun columns => ?_
  refine steady_bind (asks .indexes) fun indexRows => ?_
  refine steady_bind (steady_require _ _) fun indexes => ?_
  refine steady_bind (asks .primaryKey) fun keyRows => ?_
  refine steady_bind (asks .exportedKeys) fun exportedRows => ?_
  refine steady_bind (steady_require _ _) fun exported => ?_
  refine steady_bind (asks .importedKeys) fun importedRows => ?_
  exact steady_bind (steady_require _ _) fun imported => steady_pure _

/-- What a database with fixed answers says about a table. -/
def described (setting : Setting) (table : String) : Except Failure TableSchema :=
  ((readTable setting table).outcome .start).1

/-- The row that a database with fixed answers gives of a table. -/
def sampled (setting : Setting) (table : String) : Except Failure (Entries Value) := do
  let schema ← described setting (lowercase table)
  let row ← (setting.database.answer [] (.sampleRow table setting.schema)).mapError
    (samplingFailure table)
  return sampleOf setting.now schema row

theorem outcome_readTable (fixed : setting.database.IsFixed) (table : String) (s : Session) :
    ∃ asked, (readTable setting table).outcome s
      = (described setting table, { s with asked := asked }) := by
  obtain ⟨result, runs⟩ := steady_readTable fixed table
  obtain ⟨_, start⟩ := runs .start
  obtain ⟨asked, run⟩ := runs s
  exact ⟨asked, by rw [run, described, start]⟩

end Step

/-- All that the catalog knows is what the database says. -/
structure Catalog.Faithful (setting : Setting) (catalog : Catalog) : Prop where
  tables : ∀ name schema, catalog.tables.find? name = some schema →
    Step.described setting name = .ok schema
  samples : ∀ name row, catalog.samples.find? name = some row →
    Step.sampled setting name = .ok row

theorem Catalog.faithful_empty (setting : Setting) : Catalog.empty.Faithful setting :=
  ⟨fun _ _ found => by simp [empty, Entries.find?] at found,
    fun _ _ found => by simp [empty, Entries.find?] at found⟩

/-- What a session goes through when it learns about tables: it keeps its usage and aliases and
    forgets nothing, and what it learns is true. -/
structure Session.Learns (setting : Setting) (s s' : Session) : Prop where
  usage : s'.usage = s.usage
  aliases : s'.aliases = s.aliases
  faithful : s'.catalog.Faithful setting
  known : ∀ name schema, s.catalog.tables.find? name = some schema →
    s'.catalog.tables.find? name = some schema

namespace Session.Learns

variable {setting : Setting} {s t u : Session}

theorem refl (faithful : s.catalog.Faithful setting) : s.Learns setting s :=
  ⟨rfl, rfl, faithful, fun _ _ found => found⟩

theorem trans (first : s.Learns setting t) (second : t.Learns setting u) : s.Learns setting u :=
  ⟨second.usage.trans first.usage, second.aliases.trans first.aliases, second.faithful,
    fun name schema found => second.known name schema (first.known name schema found)⟩

theorem has (learns : s.Learns setting t) {table : String} (known : s.catalog.has table) :
    t.catalog.has table := by
  obtain ⟨schema, found⟩ := Option.isSome_iff_exists.mp known
  exact Option.isSome_iff_exists.mpr ⟨schema, learns.known _ _ found⟩

end Session.Learns

namespace Step

variable {α : Type} {setting : Setting}

/-- On every faithful catalog the step has the given result, and only learns. -/
def Answers (setting : Setting) (x : Step α) (result : Except Failure α) : Prop :=
  ∀ s : Session, s.catalog.Faithful setting →
    ∃ s', x.outcome s = (result, s') ∧ s.Learns setting s'

/-- On a faithful catalog, introspection says what the database says. -/
theorem outcome_introspect (fixed : setting.database.IsFixed) (table : String) {s : Session}
    (faithful : s.catalog.Faithful setting) :
    ∃ s', (introspect setting table).outcome s = (described setting (lowercase table), s') ∧
      s.Learns setting s' ∧
      ∀ schema, described setting (lowercase table) = .ok schema →
        s'.catalog.find? table = some schema := by
  cases known : s.catalog.tables.find? (lowercase table) with
  | some schema =>
      have answer := faithful.tables _ _ known
      refine ⟨s, ?_, .refl faithful, fun _ same => ?_⟩
      · simp only [introspect, outcome_bind, outcome_get, known, outcome_pure, answer]
      · rw [Catalog.find?, known, Except.ok.inj (answer.symm.trans same)]
  | none =>
      obtain ⟨asked, run⟩ := outcome_readTable fixed (lowercase table) s
      cases answer : described setting (lowercase table) with
      | error e =>
          rw [answer] at run
          refine ⟨{ s with asked := asked }, ?_, ⟨rfl, rfl, faithful, fun _ _ => id⟩, nofun⟩
          simp only [introspect, outcome_bind, outcome_get, known, run]
      | ok schema =>
          rw [answer] at run
          -- the catalog stays faithful, as what it learns is what the database says
          let learned := s.catalog.tables.put (lowercase table) schema
          refine ⟨{ s with asked := asked, catalog := { s.catalog with tables := learned } },
            ?_, ⟨rfl, rfl, ⟨?_, faithful.samples⟩, ?_⟩, ?_⟩
          · simp only [introspect, outcome_bind, outcome_get, known, run, outcome_modify,
              outcome_pure, learned]
          · intro name found look
            simp only [learned, Entries.find?_put] at look
            split at look
            · next same => rw [same, answer, Option.some.inj look]
            · exact faithful.tables _ _ look
          · intro name found look
            simp only [learned, Entries.find?_put]
            split
            · next same => rw [same, known] at look; cases look
            · exact look
          · intro found same
            simp [Catalog.find?, learned, Entries.find?_put, Except.ok.inj same]

theorem answers_introspect (fixed : setting.database.IsFixed) (table : String) :
    Answers setting (introspect setting table) (described setting (lowercase table)) := by
  intro s faithful
  obtain ⟨s', run, learns, _⟩ := outcome_introspect fixed table faithful
  exact ⟨s', run, learns⟩

/-- On a faithful catalog, sampling gives the row that the database gives. -/
theorem answers_sampleRow (fixed : setting.database.IsFixed) (table : String) :
    Answers setting (sampleRow setting table) (sampled setting (lowercase table)) := by
  intro s faithful
  cases known : s.catalog.samples.find? (lowercase table) with
  | some row =>
      refine ⟨s, ?_, .refl faithful⟩
      simp only [sampleRow, outcome_bind, outcome_get, known, outcome_pure,
        faithful.samples _ _ known]
  | none =>
      -- the table is introspected first; its name in lower case is lowered once more for that
      obtain ⟨t, run, learns⟩ := answers_introspect fixed (lowercase table) s faithful
      have asks := outcome_demand t setting (.sampleRow (lowercase table) setting.schema)
        (samplingFailure (lowercase table))
      rw [fixed t.asked []] at asks
      cases schema : described setting (lowercase (lowercase table)) with
      | error e =>
          rw [schema] at run
          refine ⟨t, ?_, learns⟩
          simp only [sampleRow, outcome_bind, outcome_get, known, run, sampled, schema]
          rfl
      | ok found =>
          rw [schema] at run
          cases answer : setting.database.answer [] (.sampleRow (lowercase table) setting.schema) with
          | error fault =>
              rw [answer] at asks
              refine ⟨{ t with asked := .sampleRow (lowercase table) setting.schema :: t.asked },
                ?_, learns.usage, learns.aliases, learns.faithful, learns.known⟩
              simp only [sampleRow, outcome_bind, outcome_get, known, run, asks, sampled, schema,
                answer]
              rfl
          | ok row =>
              rw [answer] at asks
              have gives : sampled setting (lowercase table)
                  = .ok (sampleOf setting.now found row) := by
                simp only [sampled, schema, answer]
                rfl
              let samples := t.catalog.samples.put (lowercase table) (sampleOf setting.now found row)
              refine ⟨{ t with
                asked := .sampleRow (lowercase table) setting.schema :: t.asked
                catalog := { t.catalog with samples } }, ?_, learns.usage, learns.aliases,
                ⟨learns.faithful.tables, fun name row look => ?_⟩, learns.known⟩
              · simp only [sampleRow, outcome_bind, outcome_get, known, run, asks, gives]
                rfl
              · simp only [samples, Entries.find?_put] at look
                split at look
                · next same => rw [same, gives, Option.some.inj look]
                · exact learns.faithful.samples _ _ look

end Step
end IndexAdvisor
