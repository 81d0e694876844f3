import IndexAdvisor.Proofs.Binding.Kept
import IndexAdvisor.Proofs.Text.Ordered

/-! # Known tables in order

A catalog that is filled by introspection and sampling knows each table once, under the name that its
structure tells. So the known tables are listed by their names, in ascending order.
-/

namespace IndexAdvisor

open Text (lowercase)

namespace Entries

variable {α : Type} {entries : Entries α}

theorem mem_names_iff {name : String} : name ∈ entries.names ↔ (entries.find? name).isSome := by
  rw [find?, List.lookup_isSome_iff]
  simp only [names, List.mem_map, beq_iff_eq]
  exact exists_congr fun entry => and_congr_right fun _ => eq_comm

theorem nodup_put (distinct : entries.names.Nodup) (name : String) (value : α) :
    (entries.put name value).names.Nodup := by
  have added (entries : Entries α) (other : String) :
      other ∈ (entries.put name value).names ↔ other = name ∨ other ∈ entries.names := by
    rw [mem_names_iff, mem_names_iff, find?_put]
    split <;> simp [*]
  induction entries with
  | nil => simp [put, names]
  | cons entry rest ih =>
      obtain ⟨first, v⟩ := entry
      obtain ⟨unlisted, distinct⟩ := List.nodup_cons.mp distinct
      unfold put
      split
      · next same => exact List.nodup_cons.mpr ⟨same ▸ unlisted, distinct⟩
      · next other =>
          refine List.nodup_cons.mpr ⟨fun listed => ?_, ih distinct⟩
          exact ((added rest first).mp listed).elim other unlisted

end Entries

/-- Each table is known once, under the name that its structure tells. -/
structure Catalog.Proper (catalog : Catalog) : Prop where
  distinct : catalog.tables.names.Nodup
  named : ∀ name schema, catalog.tables.find? name = some schema → schema.name = name

theorem Catalog.proper_empty : Catalog.empty.Proper := ⟨List.nodup_nil, nofun⟩

theorem Catalog.Proper.names_sortedTables {catalog : Catalog} (proper : catalog.Proper) :
    catalog.sortedTables.map (·.name) = Text.sorted catalog.tables.names := by
  have found (names : List String) (known : ∀ name ∈ names, name ∈ catalog.tables.names) :
      (names.filterMap catalog.tables.find?).map (·.name) = names := by
    induction names with
    | nil => rfl
    | cons name rest ih =>
        obtain ⟨here, later⟩ := List.forall_mem_cons.mp known
        obtain ⟨schema, look⟩ := Option.isSome_iff_exists.mp (Entries.mem_names_iff.mp here)
        rw [List.filterMap_cons_some look, List.map_cons, ih later, proper.named name schema look]
  exact found _ fun name listed => Text.mem_sorted.mp listed

theorem Catalog.Proper.nodup_sortedTables {catalog : Catalog} (proper : catalog.Proper) :
    (catalog.sortedTables.map (·.name)).Nodup := by
  rw [proper.names_sortedTables]
  exact Text.nodup_sorted proper.distinct

namespace Step

variable {setting : Setting}

theorem keeps_introspect_proper (table : String) :
    Keeps (fun s => s.catalog.Proper) (introspect setting table) := by
  intro s proper
  rcases introspect_cases setting table s with
    ⟨schema, -, run⟩ | ⟨-, t, ⟨asked, rfl, -⟩, ⟨e, run⟩ | ⟨schema, read, run⟩⟩
  · rw [run]
    exact proper
  · rw [run]
    exact proper
  · rw [run]
    refine ⟨Entries.nodup_put proper.distinct _ _, fun name found look => ?_⟩
    rw [Session.learned, Entries.find?_put] at look
    split at look
    · next same => rw [← Option.some.inj look, name_of_readTable _ _ _ _ read, same]
    · exact proper.named name found look

theorem keeps_sampleRow_proper (table : String) :
    Keeps (fun s => s.catalog.Proper) (sampleRow setting table) := by
  intro s proper
  have introspected := @keeps_introspect_proper setting table s proper
  rcases sampleRow_cases setting table s with
    ⟨row, -, run⟩ | ⟨-, ⟨e, t, first, run⟩ | ⟨schema, t, first, ⟨e, run⟩ | ⟨row, run⟩⟩⟩
  · rw [run]
    exact proper
  all_goals
    rw [first] at introspected
    rw [run]
    exact ⟨introspected.distinct, introspected.named⟩

theorem lasting_proper : Lasting setting (fun _ => True) fun s => s.catalog.Proper :=
  ⟨fun table _ => keeps_introspect_proper table, fun table _ => keeps_sampleRow_proper table⟩

end Step

end IndexAdvisor
