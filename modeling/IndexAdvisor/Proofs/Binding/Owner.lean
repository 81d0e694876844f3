import IndexAdvisor.Binding
import IndexAdvisor.Proofs.Catalog.Faithful
import IndexAdvisor.Proofs.Usage.Aliases
import IndexAdvisor.Proofs.Usage.Moves
import Mathlib.Data.List.Find

/-! # Owners of columns

The owner of a column is the table that its qualifier stands for, if the statement reads it, and
otherwise the one it falls to by what the catalog knows. Two catalogs that both know the tables of
a statement from one database let a column fall to the same table.
-/

namespace IndexAdvisor

open Text (lowercase)

/-- The columns a statement refers to, each with the table at hand. -/
def StatementUsage.references (usage : StatementUsage) : List (ColumnName × Option String) :=
  usage.records.map (fun r => (r.column, r.table))
    ++ usage.parameters.filterMap fun p => p.column.map (·, p.table)

theorem StatementUsage.references_context (o : Outline) {column : ColumnName}
    {context : Option String} (mem : (column, context) ∈ o.usage.references) :
    ∀ t, context = some t → t ∈ o.usage.tables := by
  have sound := Walk.sound_outline o
  rcases List.mem_append.mp mem with recorded | marked
  · obtain ⟨r, listed, ⟨⟩⟩ := List.mem_map.mp recorded
    exact sound.records r listed
  · obtain ⟨p, listed, same⟩ := List.mem_filterMap.mp marked
    obtain ⟨c, -, ⟨⟩⟩ := Option.map_eq_some_iff.mp same
    exact sound.parameters p listed

/-- The table a column falls to when its qualifier tells nothing. -/
def fallenOwner (catalog : Catalog) (tables : List String) (name : String)
    (context : Option String) : Option String :=
  ((context.toList ++ tables).find? (catalog.hasColumn · name)).or context

theorem columnOwner_eq (session : Session) (tables : List String) (column : ColumnName)
    (context : Option String) :
    columnOwner session tables column context
      = ((column.qualifier.map session.aliases.resolve).filter tables.contains).or
          (fallenOwner session.catalog tables column.name context) := by
  simp only [columnOwner, fallenOwner, Option.or_assoc]

theorem columnOwner_mem {session : Session} {tables : List String} {column : ColumnName}
    {context : Option String} {owner : String} (read : ∀ t, context = some t → t ∈ tables)
    (owned : columnOwner session tables column context = some owner) : owner ∈ tables := by
  have either (t : String) (mem : t ∈ context.toList ++ tables) : t ∈ tables := by
    rcases List.mem_append.mp mem with here | listed
    · exact read t (Option.mem_toList.mp here)
    · exact listed
  simp only [columnOwner, Option.or_eq_some_iff, Option.filter_eq_some_iff] at owned
  rcases owned with (⟨-, listed⟩ | ⟨-, having⟩) | ⟨-, here⟩
  · exact List.contains_iff_mem.mp listed
  · exact either owner (List.mem_of_find?_eq_some having)
  · exact read owner here

/-- The owner that a column has if its qualifier stands for the given name. -/
def ownerBy (catalog : Catalog) (tables : List String) (column : String)
    (context : Option String) (name : String) : Option String :=
  if name ∈ tables then some name else fallenOwner catalog tables column context

theorem columnOwner_qualified (session : Session) (tables : List String) {column : ColumnName}
    {qualifier : String} (qualified : column.qualifier = some qualifier)
    (context : Option String) :
    columnOwner session tables column context
      = ownerBy session.catalog tables column.name context (session.aliases.resolve qualifier) := by
  rw [columnOwner_eq, qualified, ownerBy]
  by_cases listed : session.aliases.resolve qualifier ∈ tables <;> simp [Option.filter, listed]

theorem columnOwner_unqualified (session : Session) (tables : List String) {column : ColumnName}
    (unqualified : column.qualifier = none) (context : Option String) :
    columnOwner session tables column context
      = fallenOwner session.catalog tables column.name context := by
  rw [columnOwner_eq, unqualified]
  rfl

/-- The catalog is faithful and knows the tables. -/
structure Catalog.Covers (setting : Setting) (tables : List String) (catalog : Catalog) : Prop where
  faithful : catalog.Faithful setting
  known : ∀ t ∈ tables, catalog.has t

namespace Catalog.Covers

variable {setting : Setting} {tables : List String} {catalog other : Catalog}

theorem find? (covers : catalog.Covers setting tables) {table : String} (mem : table ∈ tables) :
    ∃ schema, catalog.find? table = some schema ∧
      Step.described setting (lowercase table) = .ok schema := by
  obtain ⟨schema, found⟩ := Option.isSome_iff_exists.mp (covers.known table mem)
  exact ⟨schema, found, covers.faithful.tables _ _ found⟩

theorem find?_eq (covers : catalog.Covers setting tables) (covers' : other.Covers setting tables)
    {table : String} (mem : table ∈ tables) : catalog.find? table = other.find? table := by
  obtain ⟨schema, found, answer⟩ := covers.find? mem
  obtain ⟨schema', found', answer'⟩ := covers'.find? mem
  rw [found, found', Except.ok.inj (answer.symm.trans answer')]

theorem fallenOwner_eq (covers : catalog.Covers setting tables)
    (covers' : other.Covers setting tables) (name : String) {context : Option String}
    (read : ∀ t, context = some t → t ∈ tables) :
    fallenOwner catalog tables name context = fallenOwner other tables name context := by
  have same (t : String) (mem : t ∈ context.toList ++ tables) :
      catalog.hasColumn t name = other.hasColumn t name := by
    rcases List.mem_append.mp mem with here | listed
    · rw [hasColumn, hasColumn, covers.find?_eq covers' (read t (Option.mem_toList.mp here))]
    · rw [hasColumn, hasColumn, covers.find?_eq covers' listed]
  rw [fallenOwner, fallenOwner, List.find?_congr same]

theorem learns {s s' : Session} (covers : s.catalog.Covers setting tables)
    (learns : s.Learns setting s') : s'.catalog.Covers setting tables :=
  ⟨learns.faithful, fun t mem => learns.has (covers.known t mem)⟩

end Catalog.Covers

end IndexAdvisor
