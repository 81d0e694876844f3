import IndexAdvisor.Proofs.Batch.Turns
import IndexAdvisor.Proofs.Catalog.Once
import IndexAdvisor.Proofs.Catalog.WellFormed
import IndexAdvisor.Proofs.Sql.Leftover

/-! # Normal catalogs

Whatever the database answers, a catalog knows a table under one name, and tells all of it in small
letters. An index lists each of its columns once, in the order in which the database named them. A
table is sampled only if its structure is known, and of its sample nothing is null but what is no
column.
-/

namespace IndexAdvisor

open Sql (SqlType bind_ok)
open Text (lowercase lowercase_lowercase)

/-! ## First occurrences -/

/-- The members of a list, each once, in the order in which they come first. -/
structure FirstsOf (items found : List String) : Prop where
  nodup : found.Nodup
  members : ∀ item, item ∈ found ↔ item ∈ items
  order : found.Pairwise fun a b => items.idxOf a < items.idxOf b

theorem idxOf_lt_of_filter {keep : String → Bool} {items : List String} {a b : String} (kept : keep a)
    (kept' : keep b) (before : (items.filter keep).idxOf a < (items.filter keep).idxOf b) :
    items.idxOf a < items.idxOf b := by
  induction items with
  | nil => exact before
  | cons item rest ih =>
      cases keeps : keep item with
      | true =>
          rw [List.filter_cons_of_pos keeps] at before
          by_cases here : item = a <;> by_cases there : item = b <;>
            simp_all [List.idxOf_cons]
      | false =>
          rw [List.filter_cons_of_neg (by simp [keeps])] at before
          have apart : item ≠ a := by rintro rfl; simp [keeps] at kept
          have apart' : item ≠ b := by rintro rfl; simp [keeps] at kept'
          rw [List.idxOf_cons_ne rest apart, List.idxOf_cons_ne rest apart']
          exact Nat.succ_lt_succ (ih before)

theorem order_eraseDups (items : List String) :
    items.eraseDups.Pairwise fun a b => items.idxOf a < items.idxOf b := by
  cases items with
  | nil => exact .nil
  | cons item rest =>
      have apart {other : String} (mem : other ∈ (rest.filter fun other => !other == item).eraseDups) :
          item ≠ other := by
        rintro rfl
        simp [List.mem_eraseDups] at mem
      rw [List.eraseDups_cons, List.pairwise_cons]
      refine ⟨fun other mem => ?_, (order_eraseDups _).imp_of_mem fun {a b} memA memB before => ?_⟩
      · rw [List.idxOf_cons_self, List.idxOf_cons_ne rest (apart mem)]
        exact Nat.succ_pos _
      · rw [List.idxOf_cons_ne rest (apart memA), List.idxOf_cons_ne rest (apart memB)]
        refine Nat.succ_lt_succ (idxOf_lt_of_filter ?_ ?_ before)
        · simpa using (apart memA).symm
        · simpa using (apart memB).symm
termination_by items.length
decreasing_by
  have fewer := List.length_filter_le (fun other => !other == item) rest
  simp only [List.length_cons]
  omega

theorem firstsOf_eraseDups (items : List String) : FirstsOf items items.eraseDups :=
  ⟨Text.nodup_eraseDups items, fun _ => List.mem_eraseDups, order_eraseDups items⟩

/-! ## Rows -/

namespace Entries

variable {α : Type} {entry : String × α}

theorem mem_put {entries : Entries α} {name : String} {value : α}
    (mem : entry ∈ entries.put name value) : entry = (name, value) ∨ entry ∈ entries := by
  induction entries with
  | nil => exact .inl (List.mem_singleton.mp mem)
  | cons first rest ih =>
      obtain ⟨other, v⟩ := first
      unfold put at mem
      split at mem
      · exact (List.mem_cons.mp mem).imp_right (List.mem_cons_of_mem _)
      · rcases List.mem_cons.mp mem with rfl | later
        · exact .inr List.mem_cons_self
        · exact (ih later).imp_right (List.mem_cons_of_mem _)

theorem mem_ofPairs {pairs : List (String × α)} (mem : entry ∈ ofPairs pairs) : entry ∈ pairs := by
  have all : ∀ entry ∈ ofPairs pairs, entry ∈ pairs := by
    refine List.foldlRecOn (motive := fun entries : Entries α => ∀ entry ∈ entries, entry ∈ pairs)
      pairs _ nofun ?_
    intro entries kept pair listed entry mem
    rcases mem_put mem with rfl | earlier
    · exact listed
    · exact kept entry earlier
  exact all entry mem

end Entries

theorem foldlM_invariant {α β ε : Type} {f : β → α → Except ε β} {P : β → Prop} {as : List α}
    (step : ∀ a ∈ as, ∀ b c, f b a = .ok c → P b → P c) {b c : β} (run : as.foldlM f b = .ok c)
    (start : P b) : P c := by
  induction as generalizing b with
  | nil =>
      cases run
      exact start
  | cons a as ih =>
      obtain ⟨first, later⟩ := List.forall_mem_cons.mp step
      rw [List.foldlM_cons] at run
      obtain ⟨d, made, run⟩ := bind_ok.mp run
      exact ih later run (first b d made start)

theorem Value.small_asName (v : Value) : lowercase v.asName = v.asName := lowercase_lowercase _

theorem small_of_readColumns {rows : List Value} {columns : Entries SqlType}
    (read : readColumns rows = .ok columns) : ∀ name ∈ columns.names, lowercase name = name := by
  refine List.forall_mem_map.mpr ?_
  refine foldlM_invariant (P := fun columns : Entries SqlType => ∀ column ∈ columns,
    lowercase column.1 = column.1) ?_ read nofun
  intro row _ before after made small column mem
  obtain ⟨fields, -, made⟩ := bind_ok.mp made
  split at made
  · cases made
    rcases Entries.mem_put mem with rfl | earlier
    · exact Value.small_asName _
    · exact small column earlier
  · cases made

/-- The row tells of an index its columns. -/
def Value.TellsIndex (row : Value) (index : String × List String) : Prop :=
  ∃ name columns members, row.elements? = some [name, columns] ∧ columns.elements? = some members ∧
    index.1 = name.asName ∧ FirstsOf (members.map Value.asName) index.2

theorem told_of_readIndexes {rows : List Value} {indexes : Entries (List String)}
    (read : readIndexes rows = .ok indexes) : ∀ index ∈ indexes, ∃ row ∈ rows, row.TellsIndex index := by
  refine foldlM_invariant (P := fun indexes : Entries (List String) => ∀ index ∈ indexes,
    ∃ row ∈ rows, row.TellsIndex index) ?_ read nofun
  intro row listed before after made told index mem
  obtain ⟨fields, split, made⟩ := bind_ok.mp made
  split at made
  · next name columns =>
      obtain ⟨members, list, made⟩ := bind_ok.mp made
      cases made
      rcases Entries.mem_put mem with rfl | earlier
      · refine ⟨row, listed, name, columns, members, ?_, ?_, rfl, firstsOf_eraseDups _⟩
        · unfold Value.rowFields at split
          cases elements : row.elements? <;> simp_all
        · unfold Value.members at list
          cases elements : columns.elements? <;> simp_all
      · exact told index earlier
  · cases made

def ForeignKey.names (key : ForeignKey) : List String :=
  [key.name, key.table, key.column, key.parentTable, key.parentColumn]

theorem small_of_readForeignKeys {rows : List Value} {keys : List ForeignKey}
    (read : readForeignKeys rows = .ok keys) :
    ∀ key ∈ keys, ∀ name ∈ key.names, lowercase name = name := by
  induction rows generalizing keys with
  | nil =>
      cases read
      exact nofun
  | cons row rest ih =>
      rw [readForeignKeys, List.mapM_cons] at read
      obtain ⟨key, here, read⟩ := bind_ok.mp read
      obtain ⟨others, there, ends⟩ := bind_ok.mp read
      cases ends
      obtain ⟨fields, -, made⟩ := bind_ok.mp here
      refine List.forall_mem_cons.mpr ⟨?_, ih there⟩
      split at made
      · cases made
        simp [ForeignKey.names, Value.small_asName]
      · cases made

/-! ## Tables -/

/-- All names that the structure of a table tells. -/
def TableSchema.identifiers (table : TableSchema) : List String :=
  table.name :: (table.columns.names ++ table.primaryKey ++ table.indexes.names
    ++ table.indexes.values.flatten ++ (table.exportedKeys ++ table.importedKeys).flatMap ForeignKey.names)

/-- The names of a table are in small letters, and its indexes are those that the database told when
    it was asked for them. -/
structure TableSchema.Normal (setting : Setting) (asked : List Question) (table : TableSchema) :
    Prop where
  small : ∀ name ∈ table.identifiers, lowercase name = name
  indexed : ∃ earlier rows, .metadata .indexes table.name setting.schema :: earlier <:+ asked ∧
    setting.database.answer earlier (.metadata .indexes table.name setting.schema) = .ok rows ∧
    ∀ index ∈ table.indexes, ∃ row ∈ rows, row.TellsIndex index

theorem TableSchema.Normal.mono {setting : Setting} {asked later : List Question} {table : TableSchema}
    (normal : table.Normal setting asked) (more : asked <:+ later) : table.Normal setting later := by
  obtain ⟨earlier, rows, before, told⟩ := normal.indexed
  exact ⟨normal.small, earlier, rows, before.trans more, told⟩

/-- A catalog after some questions. -/
structure Session.Normal (setting : Setting) (s : Session) : Prop where
  tables : ∀ name schema, (name, schema) ∈ s.catalog.tables →
    lowercase name = name ∧ schema.name = name ∧ schema.Normal setting s.asked
  samples : ∀ name row, (name, row) ∈ s.catalog.samples →
    lowercase name = name ∧ ∃ schema, s.catalog.find? name = some schema ∧
      ∀ key value, (key, value) ∈ row →
        lowercase key = key ∧ (value.isNull → key ∉ schema.columns.names)

theorem Session.normal_of_empty {setting : Setting} {s : Session} (empty : s.catalog = .empty) :
    s.Normal setting := by
  refine ⟨fun name schema mem => ?_, fun name row mem => ?_⟩ <;>
    · rw [empty] at mem
      cases mem

theorem Session.Normal.later {setting : Setting} {s t : Session} (normal : s.Normal setting)
    (same : t.catalog = s.catalog) (more : s.asked <:+ t.asked) : t.Normal setting := by
  refine ⟨fun name schema mem => ?_, fun name row mem => ?_⟩
  · rw [same] at mem
    obtain ⟨small, named, normal⟩ := normal.tables name schema mem
    exact ⟨small, named, normal.mono more⟩
  · rw [same] at mem ⊢
    exact normal.samples name row mem

namespace Step

variable {setting : Setting} {s t : Session} {table : String}

theorem gives_metadata {what : Metadata} {rows : List Value}
    (given : Gives (metadata setting what table) s rows t) :
    setting.database.answer s.asked (.metadata what table setting.schema) = .ok rows ∧
      t = { s with asked := .metadata what table setting.schema :: s.asked } := by
  refine ⟨gives_demand given, ?_⟩
  have run := outcome_demand s setting (.metadata what table setting.schema) (introspectionFailure table)
  exact congrArg Prod.snd (Eq.trans (Eq.symm given) run)

theorem normal_of_readTable {schema : TableSchema} (small : lowercase table = table)
    (given : Gives (readTable setting table) s schema t) : schema.Normal setting t.asked := by
  obtain ⟨columnRows, u, -, given⟩ := gives_bind.mp given
  dsimp only at given
  split at given
  · cases given
  obtain ⟨columns, _, required, given⟩ := gives_bind.mp given
  obtain ⟨readColumns, rfl⟩ := gives_require.mp required
  obtain ⟨indexRows, v, asked, given⟩ := gives_bind.mp given
  obtain ⟨answered, indexesAsked⟩ := gives_metadata asked
  obtain ⟨indexes, _, required, given⟩ := gives_bind.mp given
  obtain ⟨readIndexes, rfl⟩ := gives_require.mp required
  obtain ⟨keyRows, w, asked, given⟩ := gives_bind.mp given
  have keyAsked := (gives_metadata asked).2
  obtain ⟨exportedRows, x, asked, given⟩ := gives_bind.mp given
  have exportedAsked := (gives_metadata asked).2
  obtain ⟨exported, _, required, given⟩ := gives_bind.mp given
  obtain ⟨readExported, rfl⟩ := gives_require.mp required
  obtain ⟨importedRows, y, asked, given⟩ := gives_bind.mp given
  have importedAsked := (gives_metadata asked).2
  obtain ⟨imported, _, required, ends⟩ := gives_bind.mp given
  obtain ⟨readImported, rfl⟩ := gives_require.mp required
  obtain ⟨⟨⟩, rfl⟩ := Prod.mk.inj ends
  have told := told_of_readIndexes readIndexes
  -- three more answers are asked for after that of the indexes
  have before : .metadata .indexes table setting.schema :: u.asked <:+ y.asked := by
    rw [importedAsked, exportedAsked, keyAsked, indexesAsked]
    exact ⟨[_, _, _], rfl⟩
  refine ⟨?_, u.asked, indexRows, before, answered, told⟩
  simp only [TableSchema.identifiers, List.forall_mem_cons, List.forall_mem_append]
  refine ⟨small, ⟨⟨⟨small_of_readColumns readColumns, ?_⟩, ?_⟩, ?_⟩, ?_⟩
  · exact List.forall_mem_map.mpr fun v _ => v.small_asName
  · refine List.forall_mem_map.mpr fun index mem => ?_
    obtain ⟨row, -, name, columns, members, -, -, named, -⟩ := told index mem
    rw [named, Value.small_asName]
  · intro column within
    obtain ⟨listing, indexed, here⟩ := List.mem_flatten.mp within
    obtain ⟨index, mem, rfl⟩ := List.mem_map.mp indexed
    obtain ⟨row, -, name, columns, members, -, -, -, firsts⟩ := told index mem
    obtain ⟨v, -, rfl⟩ := List.mem_map.mp ((firsts.members column).mp here)
    exact v.small_asName
  · intro name mem
    obtain ⟨key, mem, here⟩ := List.mem_flatMap.mp mem
    rcases List.mem_append.mp mem with mem | mem
    · exact small_of_readForeignKeys readExported key mem name here
    · exact small_of_readForeignKeys readImported key mem name here

theorem keeps_introspect_normal (setting : Setting) (table : String) :
    Keeps (Session.Normal setting) (introspect setting table) := by
  intro s normal
  rcases introspect_cases setting table s with
    ⟨schema, -, run⟩ | ⟨unknown, t, asked, ends⟩
  · rw [run]
    exact normal
  obtain ⟨more, rfl, -⟩ := asked
  have later := normal.later (t := { s with asked := more ++ s.asked }) rfl ⟨more, rfl⟩
  rcases ends with ⟨e, run⟩ | ⟨schema, read, run⟩
  · rw [run]
    exact later
  · rw [run]
    refine ⟨fun name found mem => ?_, fun name row mem => ?_⟩
    · rcases Entries.mem_put mem with same | earlier
      · obtain ⟨rfl, rfl⟩ := Prod.mk.inj same
        exact ⟨lowercase_lowercase table, name_of_readTable _ _ _ _ read,
          normal_of_readTable (t := { s with asked := more ++ s.asked })
            (lowercase_lowercase table) read⟩
      · exact later.tables name found earlier
    · obtain ⟨small, found, known, fields⟩ := later.samples name row mem
      refine ⟨small, found, ?_, fields⟩
      rw [Catalog.find?, Session.learned, Entries.find?_put]
      split
      · next same =>
          rw [Catalog.find?, same] at known
          cases unknown.symm.trans known
      · exact known

theorem isNull_defaultValue (now : DateTime) (type : SqlType) : (type.defaultValue now).isNull = false := by
  cases type <;> rfl

theorem fields_of_sampleOf {now : DateTime} {schema : TableSchema} {told : List (String × Value)}
    {key : String} {value : Value} (mem : (key, value) ∈ sampleOf now schema told) :
    lowercase key = key ∧ (value.isNull → key ∉ schema.columns.names) := by
  obtain ⟨⟨name, field⟩, -, same⟩ := List.mem_map.mp (Entries.mem_ofPairs mem)
  dsimp only at same
  obtain rfl : lowercase name = key := by split at same <;> exact (Prod.mk.inj same).1
  refine ⟨lowercase_lowercase name, fun null listed => ?_⟩
  obtain ⟨type, typed⟩ := Option.isSome_iff_exists.mp (Entries.mem_names_iff.mp listed)
  have typed : schema.columnType? (lowercase name) = some type := by
    rw [TableSchema.columnType?, lowercase_lowercase, typed]
  rw [typed] at same
  cases field with
  | null =>
      obtain ⟨-, rfl⟩ := Prod.mk.inj same
      simp [isNull_defaultValue] at null
  | _ =>
      obtain ⟨-, rfl⟩ := Prod.mk.inj same
      cases null

theorem keeps_sampleRow_normal (setting : Setting) (table : String) :
    Keeps (Session.Normal setting) (sampleRow setting table) := by
  intro s normal
  have introspected := keeps_introspect_normal setting table s normal
  rcases sampleRow_cases setting table s with
    ⟨row, -, run⟩ | ⟨-, ⟨e, t, first, run⟩ | ⟨schema, t, first, ends⟩⟩
  · rw [run]
    exact normal
  · rw [first] at introspected
    rw [run]
    exact introspected
  · rw [first] at introspected
    have later := introspected.later
      (t := { t with asked := .sampleRow (lowercase table) setting.schema :: t.asked })
      rfl (List.suffix_cons _ _)
    rcases ends with ⟨e, run⟩ | ⟨told, run⟩
    · rw [run]
      exact later
    · rw [run]
      refine ⟨later.tables, fun name row mem => ?_⟩
      rcases Entries.mem_put mem with same | earlier
      · obtain ⟨rfl, rfl⟩ := Prod.mk.inj same
        refine ⟨lowercase_lowercase table, schema, ?_, fun key value => fields_of_sampleOf⟩
        rw [Catalog.find?, lowercase_lowercase]
        exact known_of_introspect (s := s) (t := t) first
      · exact later.samples name row earlier

end Step

/-! ## Catalogs that are reached -/

/-- A session that comes from one where nothing is known. Tables are looked up, and in between anything
    may happen that leaves the catalog as it is. -/
inductive Session.Reached (setting : Setting) : Session → Prop
  | start {s : Session} : s.catalog = .empty → Reached setting s
  | lookup {s : Session} (use : Lookup) :
      Reached setting s → Reached setting ((use.step setting).outcome s).2
  | between {s t : Session} :
      Reached setting s → t.catalog = s.catalog → s.asked <:+ t.asked → Reached setting t

/-- A catalog is normal at all times. -/
theorem Session.normal_of_reached {setting : Setting} {s : Session} (reached : s.Reached setting) :
    s.Normal setting := by
  induction reached with
  | start empty => exact normal_of_empty empty
  | lookup use _ normal =>
      cases use with
      | introspect table => exact Step.keeps_introspect_normal setting table _ normal
      | sampleRow table => exact Step.keeps_sampleRow_normal setting table _ normal
      | find | has => exact normal
  | between _ same more normal => exact normal.later same more

/-- A database of people that names columns in all letter cases, in an index also twice, and knows of
    none of them a name. -/
def Setting.people : Setting where
  database :=
    { Setting.shop.database with
      answer := fun asked question => match question with
        | .metadata .columns .. => .ok [.list [.text "ID", .text "int4"], .list [.text "Name", .text "varchar"]]
        | .metadata .indexes .. =>
          .ok [.list [.text "IX_Name", .list [.text "Name", .text "ID", .text "Name"]]]
        | .sampleRow .. => .ok [("Nick", .null), ("NAME", .null)]
        | other => Setting.shop.database.answer asked other }
  schema := "public"
  now := Setting.shop.now

theorem Session.normal_of_reached_people :
    ∃ s : Session, s.Reached .people ∧ s.Normal .people ∧
      (s.catalog.find? "people").map (·.indexes) = some [("ix_name", ["name", "id"])] ∧
      (s.catalog.samples.find? "people").map (·.map fun field => (field.1, field.2.isNull))
        = some [("nick", true), ("name", false)] := by
  let s := Session.start.afterLookups .people [.introspect "People", .sampleRow "PEOPLE"]
  have reached : s.Reached .people := .lookup (.sampleRow "PEOPLE") (.lookup (.introspect "People") (.start rfl))
  exact ⟨s, reached, normal_of_reached reached, by decide +kernel, by decide +kernel⟩

/-! ## Runs -/

namespace Step

variable {setting : Setting}

theorem lasting_reached : Lasting setting (fun _ => True) (Session.Reached setting) :=
  ⟨fun table _ _ reached => reached.lookup (.introspect table),
    fun table _ _ reached => reached.lookup (.sampleRow table)⟩

theorem keeps_analyse_reached (options : BatchOptions) (id query : String) :
    Keeps (Session.Reached setting) (analyse setting options id query) := by
  have binds : Keeps (Session.Reached setting) (bindText setting id query) := by
    refine keeps_bind (keeps_require _ _) fun parsed => keeps_bind ?_ fun _ => keeps_pure _
    refine keeps_bind_of_lasting lasting_reached ?_ ?_ id parsed <;>
      exact fun _ _ reached => reached.between rfl (List.suffix_refl _)
  rw [analyse_eq]
  refine keeps_bind binds fun read => keeps_analyseBound (fun _ _ reached => ?_) (fun _ _ reached => ?_) ?_
  · exact reached.between rfl (List.suffix_cons _ _)
  · exact reached.between rfl (List.suffix_refl _)
  · exact fun table _ => lasting_reached.introspect table trivial

end Step

/-- The catalog of a run is one that is reached. -/
theorem Run.reached_ofQueries {setting : Setting} {s : Session} (reached : s.Reached setting)
    (options : BatchOptions) (queries : List (String × String)) :
    (ofQueries setting options queries s).2.Reached setting := by
  induction queries generalizing s with
  | nil => exact reached
  | cons first rest ih =>
      obtain ⟨id, query⟩ := first
      have analysed := Step.keeps_analyse_reached options id query s reached
      rcases run : (Step.analyse setting options id query).outcome s with ⟨e | result, t⟩
      · rw [run] at analysed
        rw [ofQueries_error run]
        exact analysed.between rfl (List.suffix_refl _)
      · rw [run] at analysed
        rw [ofQueries_ok run]
        exact ih analysed

end IndexAdvisor
