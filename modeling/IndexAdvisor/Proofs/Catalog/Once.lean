import IndexAdvisor.Proofs.Catalog.Learned

/-! # Tables are asked for once

A catalog is used by introspecting and sampling tables and by looking up what is known. Once a table
is known no use asks for its metadata again, and once it is sampled, be it without a row, none asks
for a row. A use that fails forgets nothing and learns nothing, but that a table whose sample fails
may have become known before.
-/

namespace IndexAdvisor

open Text (lowercase lowercase_lowercase)

/-- A use of a catalog. Tables are named in any letter case. -/
inductive Lookup where
  | introspect (table : String)
  | sampleRow (table : String)
  | find (table : String)
  | has (table : String)
  deriving DecidableEq, Repr

abbrev Lookup.Found : Lookup → Type
  | .introspect _ => TableSchema
  | .sampleRow _ => Entries Value
  | .find _ => Option TableSchema
  | .has _ => Bool

def Lookup.step (setting : Setting) : (use : Lookup) → Step use.Found
  | .introspect table => Step.introspect setting table
  | .sampleRow table => Step.sampleRow setting table
  | .find table => do return (← get).catalog.find? table
  | .has table => do return (← get).catalog.has table

/-- The session after uses of its catalog, of which some may fail. -/
def Session.afterLookups (setting : Setting) (s : Session) (uses : List Lookup) : Session :=
  uses.foldl (fun s use => ((use.step setting).outcome s).2) s

/-- What each use keeps, all of them keep. -/
theorem Session.afterLookups_induction {setting : Setting} {P : Session → Prop}
    (step : ∀ use s, P s → P ((Lookup.step setting use).outcome s).2) {s : Session} (start : P s)
    (uses : List Lookup) : P (s.afterLookups setting uses) := by
  induction uses generalizing s with
  | nil => exact start
  | cons use rest ih => exact ih (step use s start)

/-! ## Metadata -/

section Tables

variable {setting : Setting} {name : String} {s : Session}

/-- A table that is known stays so, and its metadata is asked for no more. -/
theorem Step.introspect_known (setting : Setting) (known : (s.catalog.tables.find? name).isSome)
    (table : String) :
    let t := ((introspect setting table).outcome s).2
    (t.catalog.tables.find? name).isSome ∧ s.Spares (Question.Describes name) t := by
  rcases introspect_cases setting table s with ⟨schema, -, run⟩ | ⟨unknown, t, asked, ends⟩
  · rw [run]
    exact ⟨known, .refl _ s⟩
  -- what is asked is about a table that is not known, so about another one
  have other : lowercase table ≠ name := by
    rintro rfl
    exact Option.isSome_iff_ne_none.mp known unknown
  have spares : s.Spares (Question.Describes name) t := by
    refine asked.spares ?_
    rintro _ ⟨what, schema, rfl⟩ ⟨what', schema', same⟩
    exact other (Question.metadata.inj same).2.1
  obtain ⟨asked, rfl, -⟩ := asked
  rcases ends with ⟨e, run⟩ | ⟨schema, -, run⟩
  · rw [run]
    exact ⟨known, spares⟩
  · rw [run]
    refine ⟨?_, spares⟩
    rw [Session.learned, Entries.find?_put]
    split
    · rfl
    · exact known

theorem Step.sampleRow_known (known : (s.catalog.tables.find? name).isSome) (table : String) :
    let t := ((sampleRow setting table).outcome s).2
    (t.catalog.tables.find? name).isSome ∧ s.Spares (Question.Describes name) t := by
  have introspected := introspect_known setting known table
  rcases sampleRow_cases setting table s with ⟨row, -, run⟩ | ⟨-, ⟨e, t, first, run⟩ | sampling⟩
  · rw [run]
    exact ⟨known, .refl _ s⟩
  · rw [first] at introspected
    rw [run]
    exact introspected
  · obtain ⟨schema, t, first, ends⟩ := sampling
    rw [first] at introspected
    have asks : t.Spares (Question.Describes name)
        { t with asked := .sampleRow (lowercase table) setting.schema :: t.asked } :=
      ⟨[_], rfl, by rintro _ mem ⟨what, schema, rfl⟩; simp at mem⟩
    rcases ends with ⟨e, run⟩ | ⟨row, run⟩ <;>
      · rw [run]
        exact ⟨introspected.1, introspected.2.trans asks⟩

theorem Session.described_once (known : (s.catalog.tables.find? name).isSome)
    (uses : List Lookup) :
    s.Spares (Question.Describes name) (s.afterLookups setting uses) := by
  refine (afterLookups_induction (P := fun t => (t.catalog.tables.find? name).isSome ∧
    s.Spares (Question.Describes name) t) ?_ ⟨known, .refl _ s⟩ uses).2
  rintro use t ⟨known, spared⟩
  cases use with
  | introspect table => exact (Step.introspect_known setting known table).imp_right spared.trans
  | sampleRow table => exact (Step.sampleRow_known known table).imp_right spared.trans
  | find | has => exact ⟨known, spared⟩

end Tables

/-! ## Samples -/

section Samples

variable {setting : Setting} {name : String} {s : Session}

/-- Introspection leaves the samples alone and asks for no row. -/
theorem Step.introspect_samples (setting : Setting) (name table : String) (s : Session) :
    let t := ((introspect setting table).outcome s).2
    t.catalog.samples = s.catalog.samples ∧ s.Spares (Question.Samples name) t := by
  refine ⟨?_, introspect_spares ?_ s⟩
  · rcases introspect_cases setting table s with
      ⟨schema, -, run⟩ | ⟨-, t, ⟨asked, rfl, -⟩, ⟨e, run⟩ | ⟨schema, -, run⟩⟩
    · rw [run]
    · rw [run]
    · rw [run, Session.learned]
  · rintro _ ⟨what, schema, rfl⟩ ⟨schema', same⟩
    cases same

theorem Step.sampleRow_sampled (sampled : (s.catalog.samples.find? name).isSome) (table : String) :
    let t := ((sampleRow setting table).outcome s).2
    (t.catalog.samples.find? name).isSome ∧ s.Spares (Question.Samples name) t := by
  obtain ⟨samples, spares⟩ := introspect_samples setting name table s
  rcases sampleRow_cases setting table s with ⟨row, -, run⟩ | ⟨missing, ⟨e, t, first, run⟩ | sampling⟩
  · rw [run]
    exact ⟨sampled, .refl _ s⟩
  · rw [first] at samples spares
    rw [run]
    exact ⟨by rwa [samples], spares⟩
  · obtain ⟨schema, t, first, ends⟩ := sampling
    rw [first] at samples spares
    dsimp only at samples spares
    have other : lowercase table ≠ name := by
      rintro rfl
      exact Option.isSome_iff_ne_none.mp sampled missing
    have asks : t.Spares (Question.Samples name)
        { t with asked := .sampleRow (lowercase table) setting.schema :: t.asked } := by
      refine ⟨[_], rfl, ?_⟩
      rintro _ mem ⟨schema', rfl⟩
      exact other (Question.sampleRow.inj (List.mem_singleton.mp mem)).1.symm
    rcases ends with ⟨e, run⟩ | ⟨row, run⟩
    · rw [run]
      exact ⟨by rwa [samples], spares.trans asks⟩
    · rw [run]
      refine ⟨?_, spares.trans asks⟩
      rw [Session.sampled, Entries.find?_put]
      split
      · rfl
      · rwa [samples]

theorem Session.sampled_once (sampled : (s.catalog.samples.find? name).isSome)
    (uses : List Lookup) :
    s.Spares (Question.Samples name) (s.afterLookups setting uses) := by
  refine (afterLookups_induction (P := fun t => (t.catalog.samples.find? name).isSome ∧
    s.Spares (Question.Samples name) t) ?_ ⟨sampled, .refl _ s⟩ uses).2
  rintro use t ⟨sampled, spared⟩
  cases use with
  | introspect table =>
      obtain ⟨samples, spares⟩ := Step.introspect_samples setting name table t
      exact ⟨by rwa [Lookup.step, samples], spared.trans spares⟩
  | sampleRow table => exact (Step.sampleRow_sampled sampled table).imp_right spared.trans
  | find | has => exact ⟨sampled, spared⟩

end Samples

/-! ## Failures -/

namespace Step

variable {setting : Setting} {table : String} {s t : Session} {e : Failure}

theorem catalog_of_introspect_error (failed : (introspect setting table).outcome s = (.error e, t)) :
    t.catalog = s.catalog := by
  rcases introspect_cases setting table s with
    ⟨schema, -, run⟩ | ⟨-, u, ⟨asked, rfl, -⟩, ⟨e', run⟩ | ⟨schema, -, run⟩⟩
  · exact nomatch run.symm.trans failed
  · obtain ⟨-, rfl⟩ := Prod.mk.inj (run.symm.trans failed)
    rfl
  · exact nomatch run.symm.trans failed

/-- A sample that fails leaves the catalog as it was, or as introspection of its table left it. -/
theorem catalog_of_sampleRow_error (failed : (sampleRow setting table).outcome s = (.error e, t)) :
    t.catalog = s.catalog ∨ s.catalog.find? table = none ∧ ∃ schema u,
      Gives (introspect setting table) s schema u ∧
        t.catalog = { s.catalog with tables := s.catalog.tables.put (lowercase table) schema } := by
  rcases sampleRow_cases setting table s with
    ⟨row, -, run⟩ | ⟨-, ⟨e', u, first, run⟩ | ⟨schema, u, first, ⟨e', run⟩ | ⟨row, run⟩⟩⟩
  · exact nomatch run.symm.trans failed
  · obtain ⟨-, rfl⟩ := Prod.mk.inj (run.symm.trans failed)
    exact .inl (catalog_of_introspect_error first)
  · obtain ⟨-, rfl⟩ := Prod.mk.inj (run.symm.trans failed)
    rcases introspect_cases setting table s with
      ⟨known, -, told⟩ | ⟨unknown, v, ⟨asked, rfl, -⟩, ⟨e', told⟩ | ⟨learned, -, told⟩⟩
    · obtain ⟨-, rfl⟩ := Prod.mk.inj (told.symm.trans first)
      exact .inl rfl
    · exact nomatch told.symm.trans first
    · obtain ⟨⟨⟩, rfl⟩ := Prod.mk.inj (told.symm.trans first)
      exact .inr ⟨unknown, schema, _, first, rfl⟩
  · exact nomatch run.symm.trans failed

end Step

/-- In every session: a table that is introspected is never described again, whatever the later
    uses, and one that is sampled never sampled again; what is only looked up is not asked for; and
    of failures nothing is kept, but for a table that is known by the time its sample fails. -/
theorem asked_once (setting : Setting) (s : Session) (table : String) :
    (∀ schema t, Step.Gives (Step.introspect setting table) s schema t → ∀ uses,
      t.Spares (Question.Describes (lowercase table)) (t.afterLookups setting uses)) ∧
    (∀ row t, Step.Gives (Step.sampleRow setting table) s row t → ∀ uses,
      t.Spares (Question.Samples (lowercase table)) (t.afterLookups setting uses)) ∧
    (((Lookup.find table).step setting).outcome s = (.ok (s.catalog.find? table), s) ∧
      ((Lookup.has table).step setting).outcome s = (.ok (s.catalog.has table), s)) ∧
    (∀ e t, (Step.introspect setting table).outcome s = (.error e, t) → t.catalog = s.catalog) ∧
    ∀ e t, (Step.sampleRow setting table).outcome s = (.error e, t) →
      t.catalog = s.catalog ∨ s.catalog.find? table = none ∧ ∃ schema u,
        Step.Gives (Step.introspect setting table) s schema u ∧
          t.catalog
            = { s.catalog with tables := s.catalog.tables.put (lowercase table) schema } := by
  refine ⟨fun schema t given => ?_, fun row t given => ?_, ⟨rfl, rfl⟩, fun e t failed => ?_,
    fun e t failed => ?_⟩
  · exact Session.described_once (Option.isSome_of_eq_some (Step.known_of_introspect given))
  · exact Session.sampled_once (Option.isSome_of_eq_some (Step.sampled_of_sampleRow given))
  · exact Step.catalog_of_introspect_error failed
  · exact Step.catalog_of_sampleRow_error failed

end IndexAdvisor
