import IndexAdvisor.Usage.Walk

/-! # Moves of the usage walk

Whatever a walk goes through, it gets from one state to another by a few kinds of move. `Moves` is
the relation that these moves generate, so that a property of all walks is proved move by move.
The first such property: the table at hand is always one of the tables found, and so is every target
and the table of every record, placeholder and alias.
-/

namespace IndexAdvisor.Walk

open Outline

/-- Meets a table in a `FROM` clause. -/
def meetTable (t : Table) (w : Walk) : Walk :=
  if w.cteNames.contains t.name then w
  else { (w.addTable t).2 with table := some t.name }

theorem source_table (assigned : List String) (t : Table) (w : Walk) :
    source assigned (.table t) w = w.meetTable t := by
  simp only [source, meetTable, addTable]
  by_cases named : w.cteNames.contains t.name = true
  · rw [if_pos named, if_pos named]
  · rw [if_neg named, if_neg named]

/-- What a walk may get to. -/
inductive Moves : Walk → Walk → Prop
  | stay {w} : Moves w w
  | column {w v} (assigned : List String) (inList : Bool) (clause : Clause) (c : ColumnName) :
      Moves w v → Moves w (v.meetColumn assigned inList clause c)
  | parameter {w v} (clause : Clause) (number : Nat) :
      Moves w v → Moves w (v.meetParameter clause number)
  | hold {w v} (c : Option ColumnName) : Moves w v → Moves w { v with column := c }
  | table {w v} (t : Table) : Moves w v → Moves w (v.meetTable t)
  | cte {w v} (name : String) : Moves w v → Moves w { v with cteNames := v.cteNames ++ [name] }
  | limit {w v} (hasLimit : Bool) : Moves w v → Moves w { v with hasLimit }
  /-- A nested query, after which the table and the column are those from before it. -/
  | nested {w v u} : Moves w v → Moves v u → Moves w (v.leaving u)

namespace Moves

theorem trans {u v w : Walk} (first : Moves u v) (second : Moves v w) : Moves u w := by
  induction second with
  | stay => exact first
  | column assigned inList clause c _ ih => exact .column assigned inList clause c (ih first)
  | parameter clause number _ ih => exact .parameter clause number (ih first)
  | hold c _ ih => exact .hold c (ih first)
  | table t _ ih => exact .table t (ih first)
  | cte name _ ih => exact .cte name (ih first)
  | limit hasLimit _ ih => exact .limit hasLimit (ih first)
  | nested _ inner ih => exact .nested (ih first) inner

end Moves

mutual
theorem term_moves (assigned : List String) (clause : Clause) (t : Term) (w : Walk) :
    Moves w (term assigned clause t w) := by
  cases t with
  | column c => exact .column assigned false clause c .stay
  | parameter number => exact .parameter clause number .stay
  | membership c items =>
      exact .trans (.column assigned true clause c .stay) (terms_moves assigned .other items _)
  | comparison right operands =>
      exact .trans (.hold (some right) .stay) (terms_moves assigned clause operands _)
  | group parts => exact terms_moves assigned clause parts w
  | query q => exact .nested .stay (select_moves assigned false q w)
termination_by sizeOf t

theorem terms_moves (assigned : List String) (clause : Clause) (ts : List Term) (w : Walk) :
    Moves w (terms assigned clause ts w) := by
  cases ts with
  | nil => exact .stay
  | cons t ts =>
      exact (term_moves assigned clause t w).trans (terms_moves assigned clause ts _)
termination_by sizeOf ts

theorem option_moves (assigned : List String) (clause : Clause) (t : Option Term) (w : Walk) :
    Moves w (option assigned clause t w) := by
  cases t with
  | none => exact .stay
  | some t => exact term_moves assigned clause t w
termination_by sizeOf t

theorem apart_moves (assigned : List String) (clause : Clause) (t : Option Term) (w : Walk) :
    Moves w (apart assigned clause t w) := by
  cases t with
  | none => exact .stay
  | some t => exact .trans (.hold none .stay) (term_moves assigned clause t _)
termination_by sizeOf t

theorem select_moves (assigned : List String) (top : Bool) (q : Select) (w : Walk) :
    Moves w (select assigned top q w) := by
  obtain ⟨recursive, ctes, body, order, offset, limit⟩ := q
  have before := (((withTables_moves assigned ctes w).trans (bodyOf_moves assigned body _)).trans
    (terms_moves assigned .other order _)).trans (apart_moves assigned .offset offset _)
  rw [select]
  cases top with
  | true => exact .limit _ before
  | false => exact before.trans (apart_moves assigned .limit limit _)
termination_by sizeOf q

theorem bodyOf_moves (assigned : List String) (body : Body) (w : Walk) :
    Moves w (bodyOf assigned body w) := by
  cases body with
  | pair left right =>
      exact .nested (.nested .stay (select_moves assigned false left w))
        (select_moves assigned false right _)
  | rows rows => exact terms_moves assigned .other rows w
  | plain items targets condition group having =>
      exact ((((sources_moves assigned items w).trans (terms_moves assigned .select targets _)).trans
        (option_moves assigned .where condition _)).trans (terms_moves assigned .other group _)).trans
        (option_moves assigned .other having _)
termination_by sizeOf body

theorem source_moves (assigned : List String) (s : Source) (w : Walk) :
    Moves w (source assigned s w) := by
  cases s with
  | table t =>
      rw [source_table]
      exact .table t .stay
  | join left right condition =>
      exact ((source_moves assigned left w).trans (source_moves assigned right _)).trans
        (option_moves assigned .on condition _)
  | query q => exact .nested .stay (select_moves assigned false q w)
  | other => exact .stay
termination_by sizeOf s

theorem sources_moves (assigned : List String) (ss : List Source) (w : Walk) :
    Moves w (sources assigned ss w) := by
  cases ss with
  | nil => exact .stay
  | cons s ss => exact (source_moves assigned s w).trans (sources_moves assigned ss _)
termination_by sizeOf ss

theorem withTables_moves (assigned : List String) (ctes : List Cte) (w : Walk) :
    Moves w (withTables assigned ctes w) := by
  cases ctes with
  | nil => exact .stay
  | cons cte rest =>
      obtain ⟨name, query⟩ := cte
      cases query with
      | none => exact .trans (.cte name .stay) (withTables_moves assigned rest _)
      | some q =>
          exact .trans (.nested (.cte name .stay) (select_moves assigned false q _))
            (withTables_moves assigned rest _)
termination_by sizeOf ctes
end

/-! ## Tables of what is found -/

/-- The table at hand, each target, and the table of each record, placeholder and alias, is one of
    those found. -/
structure Sound (w : Walk) : Prop where
  table : ∀ t, w.table = some t → t ∈ w.tables
  targets : ∀ t, some t ∈ w.targets → t ∈ w.tables
  records : ∀ r ∈ w.records, ∀ t, r.table = some t → t ∈ w.tables
  parameters : ∀ p ∈ w.parameters, ∀ t, p.table = some t → t ∈ w.tables
  aliases : ∀ a ∈ w.aliases, a.table ∈ w.tables

/-- The second walk is sound and has lost no table of the first. -/
def Extends (w v : Walk) : Prop := v.Sound ∧ w.tables ⊆ v.tables

theorem Extends.trans {u v w : Walk} (first : u.Extends v) (second : v.Extends w) :
    u.Extends w :=
  ⟨second.1, List.Subset.trans first.2 second.2⟩

theorem sound_start : start.Sound :=
  ⟨nofun, nofun, nofun, nofun, nofun⟩

theorem mem_tables_addTable {w : Walk} {t : Table} {name : String} :
    name ∈ (w.addTable t).2.tables ↔
      name ∈ w.tables ∨ (t.name ∉ w.cteNames ∧ name = t.name) := by
  unfold addTable
  by_cases hidden : t.name ∈ w.cteNames
  · simp [hidden]
  · by_cases known : t.name ∈ w.tables
    · simp only [List.contains_iff_mem, hidden, known, if_true, if_false]
      exact ⟨.inl, fun found => found.elim id fun same => same.2 ▸ known⟩
    · simp [hidden, known]

theorem mem_aliases_addTable {w : Walk} {t : Table} {a : AliasBinding}
    (mem : a ∈ (w.addTable t).2.aliases) :
    a ∈ w.aliases ∨ (t.name ∉ w.cteNames ∧ a.table = t.name) := by
  unfold addTable at mem
  by_cases hidden : t.name ∈ w.cteNames
  · exact .inl (by simpa [hidden] using mem)
  · simp only [List.contains_iff_mem, hidden, if_false] at mem
    cases byname : t.byname with
    | none => exact .inl (by simpa [byname] using mem)
    | some other =>
        by_cases blank : other = ""
        · exact .inl (by simpa [byname, blank] using mem)
        · rcases (by simpa [byname, blank] using mem : a ∈ w.aliases ∨ a = ⟨other, t.name⟩)
            with old | new
          · exact .inl old
          · exact .inr ⟨hidden, new ▸ rfl⟩

theorem addTable_fst {w : Walk} {t : Table} {found : String}
    (named : (w.addTable t).1 = some found) : t.name ∉ w.cteNames ∧ found = t.name := by
  unfold addTable at named
  by_cases hidden : t.name ∈ w.cteNames
  · simp [hidden] at named
  · exact ⟨hidden, by simpa [hidden, eq_comm] using named⟩

/-- Naming a table changes what is found, but not the table at hand. -/
theorem addTable_kept (w : Walk) (t : Table) :
    (w.addTable t).2.table = w.table ∧ (w.addTable t).2.targets = w.targets ∧
      (w.addTable t).2.records = w.records ∧ (w.addTable t).2.parameters = w.parameters := by
  unfold addTable
  split <;> exact ⟨rfl, rfl, rfl, rfl⟩

theorem Sound.extends_addTable {w : Walk} (sound : w.Sound) (t : Table) :
    w.Extends (w.addTable t).2 ∧ ∀ found, (w.addTable t).1 = some found →
      found ∈ (w.addTable t).2.tables := by
  obtain ⟨table, targets, records, parameters⟩ := w.addTable_kept t
  have grown : w.tables ⊆ (w.addTable t).2.tables :=
    fun _ known => mem_tables_addTable.mpr (.inl known)
  refine ⟨⟨⟨?_, ?_, ?_, ?_, fun a mem => ?_⟩, grown⟩,
    fun found named => mem_tables_addTable.mpr (.inr (addTable_fst named))⟩
  · rw [table]
    exact fun found here => grown (sound.table found here)
  · rw [targets]
    exact fun found here => grown (sound.targets found here)
  · rw [records]
    exact fun r mem found here => grown (sound.records r mem found here)
  · rw [parameters]
    exact fun p mem found here => grown (sound.parameters p mem found here)
  · rcases mem_aliases_addTable mem with old | new
    · exact grown (sound.aliases a old)
    · exact mem_tables_addTable.mpr (.inr new)

theorem Sound.extends_meetTable {w : Walk} (sound : w.Sound) (t : Table) :
    w.Extends (w.meetTable t) := by
  obtain ⟨⟨added, grown⟩, named⟩ := sound.extends_addTable t
  unfold meetTable
  split
  · exact ⟨sound, fun _ => id⟩
  · next free =>
      refine ⟨⟨fun found here => ?_, added.targets, added.records, added.parameters,
        added.aliases⟩, grown⟩
      have same : t.name = found := Option.some.inj here
      exact same ▸ mem_tables_addTable.mpr (.inr ⟨fun mem => free (by simpa using mem), rfl⟩)

theorem Sound.extends_record {w : Walk} (sound : w.Sound) (use : Use) (column : ColumnName)
    {table : Option String} (known : ∀ t, table = some t → t ∈ w.tables) :
    w.Extends { w with records := w.records ++ [⟨use, column, table⟩] } := by
  refine ⟨⟨sound.table, sound.targets, fun r mem => ?_, sound.parameters, sound.aliases⟩,
    fun _ => id⟩
  rcases List.mem_append.mp mem with old | new
  · exact sound.records r old
  · rw [List.mem_singleton.mp new]
    exact known

theorem Sound.extends_meetColumn {w : Walk} (sound : w.Sound) (assigned : List String)
    (inList : Bool) (clause : Clause) (c : ColumnName) :
    w.Extends (w.meetColumn assigned inList clause c) := by
  have held : Sound { w with column := some c } :=
    ⟨sound.table, sound.targets, sound.records, sound.parameters, sound.aliases⟩
  unfold meetColumn
  split
  · exact held.extends_record _ c held.table
  · exact ⟨held, fun _ => id⟩

theorem Sound.extends_meetParameter {w : Walk} (sound : w.Sound) (clause : Clause)
    (number : Nat) : w.Extends (w.meetParameter clause number) := by
  refine ⟨⟨sound.table, sound.targets, sound.records, fun p mem => ?_, sound.aliases⟩,
    fun _ => id⟩
  rcases List.mem_append.mp mem with old | new
  · exact sound.parameters p old
  · rw [List.mem_singleton.mp new]
    exact sound.table

theorem Moves.extends {w v : Walk} (moves : Moves w v) (sound : w.Sound) : w.Extends v := by
  induction moves with
  | stay => exact ⟨sound, fun _ => id⟩
  | column assigned inList clause c _ ih =>
      exact (ih sound).trans ((ih sound).1.extends_meetColumn assigned inList clause c)
  | parameter clause number _ ih =>
      exact (ih sound).trans ((ih sound).1.extends_meetParameter clause number)
  | hold c _ ih =>
      obtain ⟨held, grown⟩ := ih sound
      exact ⟨⟨held.table, held.targets, held.records, held.parameters, held.aliases⟩, grown⟩
  | table t _ ih => exact (ih sound).trans ((ih sound).1.extends_meetTable t)
  | cte name _ ih | limit hasLimit _ ih =>
      obtain ⟨before, grown⟩ := ih sound
      exact ⟨⟨before.table, before.targets, before.records, before.parameters, before.aliases⟩,
        grown⟩
  | nested _ _ outer inner =>
      -- of the outer walk only the table at hand comes back
      obtain ⟨before, grown⟩ := outer sound
      obtain ⟨within, more⟩ := inner before
      exact ⟨⟨fun t here => more (before.table t here), within.targets, within.records,
        within.parameters, within.aliases⟩, List.Subset.trans grown more⟩

theorem Sound.extends_addTarget {w : Walk} (sound : w.Sound) (t : Table) :
    w.Extends (w.addTarget t).2 ∧ ∀ found, (w.addTarget t).1 = some found →
      found ∈ (w.addTarget t).2.tables := by
  obtain ⟨⟨added, grown⟩, named⟩ := sound.extends_addTable t
  refine ⟨⟨⟨named, fun found mem => ?_, added.records, added.parameters, added.aliases⟩, grown⟩,
    named⟩
  rcases List.mem_append.mp mem with old | new
  · exact added.targets found old
  · exact named found (List.mem_singleton.mp new).symm

theorem Sound.extends_assignments (columns : List String) {table : Option String}
    (assigned : List (String × Assigned)) {w : Walk} (sound : w.Sound)
    (known : ∀ t, table = some t → t ∈ w.tables) :
    w.Extends (assignments columns table assigned w) := by
  induction assigned generalizing w with
  | nil => exact ⟨sound, fun _ => id⟩
  | cons first rest ih =>
      obtain ⟨name, value⟩ := first
      have recorded := sound.extends_record .assignment ⟨none, name⟩ known
      have held := recorded.trans ((Moves.hold (some ⟨none, name⟩) .stay).extends recorded.1)
      cases value with
      | told => exact held.trans (ih held.1 fun t here => held.2 (known t here))
      | value t =>
          have told := held.trans ((term_moves columns .set t _).extends held.1)
          exact told.trans (ih told.1 fun t here => told.2 (known t here))

/-- A known table may be taken to hand. -/
theorem Sound.extends_resume {w : Walk} (sound : w.Sound) {table : Option String}
    (known : ∀ t, table = some t → t ∈ w.tables) : w.Extends { w with table := table } :=
  ⟨⟨known, sound.targets, sound.records, sound.parameters, sound.aliases⟩, fun _ => id⟩

theorem sound_outline (o : Outline) : (outline o start).Sound := by
  cases o with
  | select q => exact ((select_moves [] true q start).extends sound_start).1
  | update ctes target assigned items condition returning =>
      have declared := (withTables_moves [] ctes start).extends sound_start
      obtain ⟨targeted, named⟩ := declared.1.extends_addTarget target
      have set := targeted.1.extends_assignments (assigned.map (·.1)) assigned named
      have read := set.trans ((sources_moves (assigned.map (·.1)) items _).extends set.1)
      have resumed := read.1.extends_resume fun t here => read.2 (named t here)
      have parted := (Moves.hold none .stay).extends resumed.1
      have filtered := (option_moves (assigned.map (·.1)) .where condition _).extends parted.1
      exact ((terms_moves (assigned.map (·.1)) .other returning _).extends filtered.1).1
  | delete ctes target items condition returning =>
      have declared := (withTables_moves [] ctes start).extends sound_start
      obtain ⟨targeted, named⟩ := declared.1.extends_addTarget target
      have read := (sources_moves [] items _).extends targeted.1
      have resumed := read.1.extends_resume fun t here => read.2 (named t here)
      have filtered := (option_moves [] .where condition _).extends resumed.1
      exact ((terms_moves [] .other returning _).extends filtered.1).1
  | insert ctes target rows =>
      have declared := (withTables_moves [] ctes start).extends sound_start
      obtain ⟨targeted, -⟩ := declared.1.extends_addTarget target
      cases rows with
      | none => exact targeted.1
      | some q =>
          exact ((Moves.nested .stay (select_moves [] false q _)).extends targeted.1).1

end IndexAdvisor.Walk
