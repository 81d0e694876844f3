import IndexAdvisor.Proofs.Binding.Attribution
import IndexAdvisor.Proofs.Catalog.Listed

/-! # What binding reaches

Binding introspects the tables of a statement and then asks for nothing but samples of these tables.
So a statement that is bound adds its own tables to the catalog and no others, and none is executed
on the way, bound or not. Only an `INSERT` with placeholders is not supported.
-/

namespace IndexAdvisor

open Text (lowercase)

/-- The question executes a statement. -/
def Question.Executes (q : Question) : Prop := ∃ statement fetch, q = .execute statement fetch

/-! ## Tables that a statement is bound by -/

theorem StatementUsage.Within.mono {among among' : String → Prop} {usage : StatementUsage}
    (within : usage.Within among) (more : ∀ t, among t → among' t) : usage.Within among' where
  targets t mem := more t (within.targets t mem)
  sites site mem s column owner named owned :=
    more owner (within.sites site mem s column owner named owned)

/-- A statement is bound by its own tables. -/
theorem Outline.within_tables (o : Outline) : o.usage.Within (· ∈ o.usage.tables) where
  targets := (Walk.sound_outline o).targets
  sites site mem _ _ _ _ owned :=
    columnOwner_mem ((Walk.sound_outline o).parameters site mem) owned

namespace Step

variable {setting : Setting} {s t : Session}

theorem names_of_introspect {table : String} {schema : TableSchema}
    (given : Gives (introspect setting table) s schema t) (name : String) :
    name ∈ t.catalog.tables.names ↔ name ∈ s.catalog.tables.names ∨ name = lowercase table := by
  simp only [Entries.mem_names_iff]
  rcases introspect_cases setting table s with
    ⟨found, known, run⟩ | ⟨-, u, ⟨asked, rfl, -⟩, ⟨e, run⟩ | ⟨found, -, run⟩⟩
  · obtain ⟨-, rfl⟩ := Prod.mk.inj (run.symm.trans given)
    refine ⟨.inl, ?_⟩
    rintro (before | rfl)
    · exact before
    · exact Option.isSome_of_eq_some known
  · exact nomatch run.symm.trans given
  · obtain ⟨-, rfl⟩ := Prod.mk.inj (run.symm.trans given)
    rw [Session.learned, Entries.find?_put]
    split <;> simp [*]

theorem names_of_introspectAll {tables : List String}
    (given : Gives (introspectAll setting tables) s () t) (name : String) :
    name ∈ t.catalog.tables.names ↔
      name ∈ s.catalog.tables.names ∨ ∃ table ∈ tables, name = lowercase table := by
  induction tables generalizing s with
  | nil =>
      obtain ⟨-, rfl⟩ := Prod.mk.inj given
      simp
  | cons table rest ih =>
      obtain ⟨schema, u, first, later⟩ := gives_bind.mp given
      rw [ih later, names_of_introspect first, List.exists_mem_cons_iff, or_assoc]

/-- Known tables are used without learning of others. -/
theorem lasting_tables (setting : Setting) (tables : Entries TableSchema) :
    Lasting setting (fun table => lowercase table ∈ tables.names) (·.catalog.tables = tables) := by
  have known (table : String) (mem : lowercase table ∈ tables.names) (s : Session)
      (same : s.catalog.tables = tables) :
      ∃ schema, (introspect setting table).outcome s = (.ok schema, s) := by
    rcases introspect_cases setting table s with ⟨schema, -, run⟩ | ⟨unknown, -⟩
    · exact ⟨schema, run⟩
    · rw [Entries.mem_names_iff, ← same] at mem
      exact absurd unknown (Option.isSome_iff_ne_none.mp mem)
  refine ⟨fun table mem s same => ?_, fun table mem s same => ?_⟩
  · obtain ⟨schema, run⟩ := known table mem s same
    rw [run]
    exact same
  · obtain ⟨described, told⟩ := known table mem s same
    rcases sampleRow_cases setting table s with
      ⟨row, -, run⟩ | ⟨-, ⟨e, t, first, -⟩ | ⟨schema, t, first, ends⟩⟩
    · rw [run]
      exact same
    · exact nomatch told.symm.trans first
    · obtain ⟨-, rfl⟩ := Prod.mk.inj (told.symm.trans first)
      rcases ends with ⟨e, run⟩ | ⟨row, run⟩ <;>
        · rw [run]
          exact same

section Bound

variable {query : String} {parsed : Parsed} {result : BindResult}

/-- A statement that is bound adds its tables to those that are known. -/
theorem names_of_bind {text : String} (read : Parsed.read text = .ok parsed)
    (given : Gives (bind setting query parsed) s result t) (name : String) :
    name ∈ t.catalog.tables.names ↔ name ∈ s.catalog.tables.names ∨ name ∈ result.tables := by
  obtain ⟨o, u, outlined, introspected, bound⟩ := gives_bind_known given
  obtain ⟨o', outlined', facts⟩ := bound_of_bind given
  obtain rfl : o = o' := Except.ok.inj (outlined.symm.trans outlined')
  have small (table : String) (mem : table ∈ o.usage.tables) : lowercase table = table :=
    Outline.small_table ((Parsed.outline_of_read read).trans (congrArg some outlined)) mem
  have listed (table : String) (mem : table ∈ o.usage.tables) :
      lowercase table ∈ u.catalog.tables.names :=
    (names_of_introspectAll introspected _).mpr (.inr ⟨table, mem, rfl⟩)
  have kept : t.catalog.tables = u.catalog.tables := by
    have keeps := keeps_bindKnown (lasting_tables setting u.catalog.tables) (fun _ _ => id) query
      parsed (o.within_tables.mono listed)
    exact keeps.gives bound rfl
  rw [kept, names_of_introspectAll introspected, facts.tables]
  refine or_congr_right ⟨?_, fun mem => ⟨name, mem, (small name mem).symm⟩⟩
  rintro ⟨table, mem, rfl⟩
  rwa [small table mem]

theorem unsupported_iff (given : Gives (bind setting query parsed) s result t) :
    (∃ reason, result.binding = .unsupported reason) ↔
      result.kind = .insert ∧ parsed.hasPlaceholders := by
  obtain ⟨o, u, -, -, given⟩ := gives_bind_known given
  by_cases insert : o.usage.kind = .insert
  · obtain ⟨_, v, -, given⟩ := gives_bind.mp given
    simp only [insert] at given
    cases marked : parsed.hasPlaceholders <;>
      · rw [marked] at given
        obtain ⟨⟨⟩, -⟩ := Prod.mk.inj given
        simp
  · obtain ⟨targets, same⟩ := bindKnown_eq setting query parsed insert
    rw [same] at given
    obtain ⟨_, v, -, given⟩ := gives_bind.mp given
    obtain ⟨_, w, -, given⟩ := gives_bind.mp given
    obtain ⟨_, x, -, given⟩ := gives_bind.mp given
    split at given
    · obtain ⟨bound, y, -, given⟩ := gives_bind.mp given
      obtain ⟨⟨⟩, -⟩ := Prod.mk.inj given
      simp [insert]
    · obtain ⟨⟨⟩, -⟩ := Prod.mk.inj given
      simp [insert]

end Bound

/-! ## Questions -/

/-- Binding executes nothing, whether it succeeds or fails. -/
theorem keeps_bind_spares (s : Session) (query : String) (parsed : Parsed) :
    Keeps (s.Spares Question.Executes) (bind setting query parsed) := by
  have describes {table : String} (q : Question) (about : q.Describes table) : ¬ q.Executes := by
    obtain ⟨what, schema, rfl⟩ := about
    rintro ⟨statement, fetch, same⟩
    exact nomatch same
  have samples {table : String} (q : Question) (about : q.Samples table) : ¬ q.Executes := by
    obtain ⟨schema, rfl⟩ := about
    rintro ⟨statement, fetch, same⟩
    exact nomatch same
  refine keeps_bind_of_lasting ⟨fun table _ t spared => ?_, fun table _ t spared => ?_⟩
    (fun _ _ => id) (fun _ _ => id) query parsed
  · exact spared.trans (introspect_spares describes t)
  · exact spared.trans (sampleRow_spares describes samples t)

end Step

end IndexAdvisor
