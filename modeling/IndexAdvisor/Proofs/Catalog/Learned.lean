import IndexAdvisor.Catalog.Introspection
import IndexAdvisor.Proofs.Session.Success
import IndexAdvisor.Proofs.Text.Small

/-! # What a catalog learns

All that introspection and sampling can do to a session: a table that is known is told without a
question, and else its metadata is asked for, and only if every answer can be read is the table put
into the catalog. A sample is put there after its table. The two case lemmas say this once; whatever
holds of catalogs over many questions follows from them.
-/

namespace IndexAdvisor

open Text (lowercase lowercase_lowercase)

/-- The second session is the first after some questions, all of one kind. -/
def Session.AfterAsking (s : Session) (among : Question → Prop) (t : Session) : Prop :=
  ∃ asked, t = { s with asked := asked ++ s.asked } ∧ ∀ q ∈ asked, among q

namespace Session

/-- No question of a kind was asked from the first session to the second. -/
def Spares (kind : Question → Prop) (s t : Session) : Prop :=
  ∃ asked, t.asked = asked ++ s.asked ∧ ∀ q ∈ asked, ¬ kind q

theorem Spares.refl (kind : Question → Prop) (s : Session) : s.Spares kind s := ⟨[], rfl, nofun⟩

theorem Spares.trans {kind : Question → Prop} {s t u : Session} (first : s.Spares kind t)
    (second : t.Spares kind u) : s.Spares kind u := by
  obtain ⟨asked, rest, spared⟩ := first
  obtain ⟨more, later, sparedToo⟩ := second
  refine ⟨more ++ asked, by rw [later, rest, List.append_assoc], ?_⟩
  exact List.forall_mem_append.mpr ⟨sparedToo, spared⟩

theorem AfterAsking.spares {kind among : Question → Prop} {s t : Session}
    (after : s.AfterAsking among t) (apart : ∀ q, among q → ¬ kind q) : s.Spares kind t := by
  obtain ⟨asked, rfl, about⟩ := after
  exact ⟨asked, rfl, fun q mem => apart q (about q mem)⟩

end Session

/-- The question is about the structure of a table. -/
def Question.Describes (table : String) (q : Question) : Prop :=
  ∃ what schema, q = .metadata what table schema

/-- The question is about a row of a table. -/
def Question.Samples (table : String) (q : Question) : Prop := ∃ schema, q = .sampleRow table schema

namespace Step

variable {setting : Setting} {s : Session}

/-- What all questions about a table keep is kept when it is read. -/
theorem keeps_readTable_of_asks {P : Session → Prop} {table : String}
    (asks : ∀ what s, P s →
      P { s with asked := .metadata what table setting.schema :: s.asked }) :
    Keeps P (readTable setting table) := by
  have asks (what : Metadata) : Keeps P (metadata setting what table) := by
    intro s kept
    rw [metadata, outcome_demand]
    exact asks what s kept
  refine keeps_bind (asks .columns) fun rows => ?_
  dsimp only
  split
  · exact keeps_throw_bind _ _
  refine keeps_bind (keeps_require _ _) fun columns => ?_
  refine keeps_bind (asks .indexes) fun indexRows => ?_
  refine keeps_bind (keeps_require _ _) fun indexes => ?_
  refine keeps_bind (asks .primaryKey) fun keyRows => ?_
  refine keeps_bind (asks .exportedKeys) fun exportedRows => ?_
  refine keeps_bind (keeps_require _ _) fun exported => ?_
  refine keeps_bind (asks .importedKeys) fun importedRows => ?_
  exact keeps_bind (keeps_require _ _) fun imported => keeps_pure _

theorem afterAsking_readTable (setting : Setting) (table : String) (s : Session) :
    s.AfterAsking (Question.Describes table) ((readTable setting table).outcome s).2 := by
  refine keeps_readTable_of_asks (P := s.AfterAsking _) (fun what t => ?_) s ⟨[], rfl, nofun⟩
  rintro ⟨asked, rfl, about⟩
  exact ⟨.metadata what table setting.schema :: asked, rfl,
    List.forall_mem_cons.mpr ⟨⟨what, _, rfl⟩, about⟩⟩

theorem name_of_readTable (table : String) :
    Yields (·.name = table) (readTable setting table) := by
  refine yields_bind fun rows => ?_
  dsimp only
  split
  · exact yields_throw_bind _ _
  -- each of the four other answers is asked for, and all but that of the key have to be read
  refine yields_bind fun columns => ?_
  refine yields_bind fun indexRows => yields_bind fun indexes => yields_bind fun keyRows => ?_
  refine yields_bind fun exportedRows => yields_bind fun exported => ?_
  exact yields_bind fun importedRows => yields_bind fun imported => yields_pure rfl

end Step

/-- The session with one more table known. -/
def Session.learned (s : Session) (name : String) (schema : TableSchema) : Session :=
  { s with catalog := { s.catalog with tables := s.catalog.tables.put name schema } }

/-- The session with one more table sampled. -/
def Session.sampled (s : Session) (name : String) (row : Entries Value) : Session :=
  { s with catalog := { s.catalog with samples := s.catalog.samples.put name row } }

namespace Step

variable {setting : Setting}

theorem introspect_cases (setting : Setting) (table : String) (s : Session) :
    (∃ schema, s.catalog.find? table = some schema ∧
      (introspect setting table).outcome s = (.ok schema, s)) ∨
    s.catalog.find? table = none ∧
      ∃ t, s.AfterAsking (Question.Describes (lowercase table)) t ∧
        ((∃ e, (introspect setting table).outcome s = (.error e, t)) ∨
          ∃ schema, Gives (readTable setting (lowercase table)) s schema t ∧
            (introspect setting table).outcome s
              = (.ok schema, t.learned (lowercase table) schema)) := by
  cases known : s.catalog.tables.find? (lowercase table) with
  | some schema =>
      refine .inl ⟨schema, known, ?_⟩
      simp only [introspect, outcome_bind, outcome_get, known, outcome_pure]
  | none =>
      refine .inr ⟨known, _, afterAsking_readTable setting (lowercase table) s, ?_⟩
      rcases run : (readTable setting (lowercase table)).outcome s with ⟨e | schema, t⟩
      · refine .inl ⟨e, ?_⟩
        simp only [introspect, outcome_bind, outcome_get, known, run]
      · refine .inr ⟨schema, run, ?_⟩
        simp only [introspect, outcome_bind, outcome_get, known, run, outcome_modify, outcome_pure]
        rfl

theorem sampleRow_cases (setting : Setting) (table : String) (s : Session) :
    (∃ row, s.catalog.samples.find? (lowercase table) = some row ∧
      (sampleRow setting table).outcome s = (.ok row, s)) ∨
    s.catalog.samples.find? (lowercase table) = none ∧
      ((∃ e t, (introspect setting table).outcome s = (.error e, t) ∧
          (sampleRow setting table).outcome s = (.error e, t)) ∨
        ∃ schema t, (introspect setting table).outcome s = (.ok schema, t) ∧
          let u : Session :=
            { t with asked := .sampleRow (lowercase table) setting.schema :: t.asked }
          ((∃ e, (sampleRow setting table).outcome s = (.error e, u)) ∨
            ∃ told, let row := sampleOf setting.now schema told
              (sampleRow setting table).outcome s = (.ok row, u.sampled (lowercase table) row))) := by
  have again : introspect setting (lowercase table) = introspect setting table := by
    simp only [introspect, lowercase_lowercase]
  cases known : s.catalog.samples.find? (lowercase table) with
  | some row =>
      refine .inl ⟨row, rfl, ?_⟩
      simp only [sampleRow, outcome_bind, outcome_get, known, outcome_pure]
  | none =>
      refine .inr ⟨rfl, ?_⟩
      rcases run : (introspect setting table).outcome s with ⟨e | schema, t⟩
      · refine .inl ⟨e, t, rfl, ?_⟩
        simp only [sampleRow, outcome_bind, outcome_get, known, again, run]
      · refine .inr ⟨schema, t, rfl, ?_⟩
        have asks := outcome_demand t setting (.sampleRow (lowercase table) setting.schema)
          (samplingFailure (lowercase table))
        cases answer : setting.database.answer t.asked (.sampleRow (lowercase table) setting.schema) with
        | error fault =>
            rw [answer] at asks
            refine .inl ⟨samplingFailure (lowercase table) fault, ?_⟩
            simp only [sampleRow, outcome_bind, outcome_get, known, again, run, asks]
            rfl
        | ok row =>
            rw [answer] at asks
            refine .inr ⟨row, ?_⟩
            simp only [sampleRow, outcome_bind, outcome_get, known, again, run, asks]
            rfl

/-- What is asked for a table is about this table. -/
theorem introspect_spares {kind : Question → Prop} {table : String}
    (apart : ∀ q, Question.Describes (lowercase table) q → ¬ kind q) (s : Session) :
    s.Spares kind ((introspect setting table).outcome s).2 := by
  rcases introspect_cases setting table s with ⟨schema, -, run⟩ | ⟨-, t, asked, ends⟩
  · rw [run]
    exact .refl _ s
  have spares := asked.spares apart
  obtain ⟨asked, rfl, -⟩ := asked
  rcases ends with ⟨e, run⟩ | ⟨schema, -, run⟩ <;>
    · rw [run]
      exact spares

theorem sampleRow_spares {kind : Question → Prop} {table : String}
    (apart : ∀ q, Question.Describes (lowercase table) q → ¬ kind q)
    (apart' : ∀ q, Question.Samples (lowercase table) q → ¬ kind q) (s : Session) :
    s.Spares kind ((sampleRow setting table).outcome s).2 := by
  have spares := @introspect_spares setting kind table apart s
  rcases sampleRow_cases setting table s with
    ⟨row, -, run⟩ | ⟨-, ⟨e, t, first, run⟩ | ⟨schema, t, first, ends⟩⟩
  · rw [run]
    exact .refl _ s
  · rw [first] at spares
    rw [run]
    exact spares
  · rw [first] at spares
    have asks : t.Spares kind
        { t with asked := .sampleRow (lowercase table) setting.schema :: t.asked } := by
      refine ⟨[_], rfl, ?_⟩
      rintro q mem
      exact apart' q ⟨setting.schema, List.mem_singleton.mp mem⟩
    rcases ends with ⟨e, run⟩ | ⟨row, run⟩ <;>
      · rw [run]
        exact spares.trans asks

variable {s t : Session} {table : String}

theorem known_of_introspect {schema : TableSchema}
    (given : Gives (introspect setting table) s schema t) : t.catalog.find? table = some schema := by
  rcases introspect_cases setting table s with
    ⟨found, known, run⟩ | ⟨-, u, -, ⟨e, run⟩ | ⟨found, -, run⟩⟩
  · obtain ⟨⟨⟩, rfl⟩ := Prod.mk.inj (run.symm.trans given)
    exact known
  · exact nomatch run.symm.trans given
  · obtain ⟨⟨⟩, rfl⟩ := Prod.mk.inj (run.symm.trans given)
    rw [Catalog.find?, Session.learned, Entries.find?_put, if_pos rfl]

theorem sampled_of_sampleRow {row : Entries Value}
    (given : Gives (sampleRow setting table) s row t) :
    t.catalog.samples.find? (lowercase table) = some row := by
  rcases sampleRow_cases setting table s with
    ⟨found, known, run⟩ | ⟨-, ⟨e, u, -, run⟩ | ⟨schema, u, -, ⟨e, run⟩ | ⟨found, run⟩⟩⟩
  · obtain ⟨⟨⟩, rfl⟩ := Prod.mk.inj (run.symm.trans given)
    exact known
  · exact nomatch run.symm.trans given
  · exact nomatch run.symm.trans given
  · obtain ⟨⟨⟩, rfl⟩ := Prod.mk.inj (run.symm.trans given)
    rw [Session.sampled, Entries.find?_put, if_pos rfl]

end Step

end IndexAdvisor
