import IndexAdvisor.Inspection
import IndexAdvisor.Proofs.Catalog.Faithful
import IndexAdvisor.Proofs.Session.Slips

/-! # Well-formed databases

A well-formed database answers questions about the structure of a table with rows that can be read, and
its only faults are a lost connection and a failed statement. Asked about tables and for plans, such a
database never makes a step slip.
-/

namespace IndexAdvisor

/-- The row has as many fields as are read of it; of an index the second field is a list. -/
def Metadata.Fits (row : Value) : Metadata → Prop
  | .columns => ∃ name type, row.elements? = some [name, type]
  | .indexes => ∃ name columns, row.elements? = some [name, columns] ∧ columns.elements?.isSome
  | .primaryKey => True
  | .exportedKeys | .importedKeys => ∃ fields, row.elements? = some fields ∧ fields.length = 5

structure Database.WellFormed (database : Database) : Prop where
  faults : ∀ asked question fault, database.answer asked question = .error fault →
    fault.kind = .connection ∨ fault.kind = .runtime
  rows : ∀ asked what table schema rows, database.answer asked (.metadata what table schema) = .ok rows →
    ∀ row ∈ rows, what.Fits row

/-! ## Rows that can be read -/

section Rows

variable {α β ε : Type}

/-- A fold succeeds if each of its steps does. -/
theorem foldlM_ok {f : β → α → Except ε β} {as : List α} (steps : ∀ a ∈ as, ∀ b, ∃ c, f b a = .ok c)
    (b : β) : ∃ c, as.foldlM f b = .ok c := by
  induction as generalizing b with
  | nil => exact ⟨b, rfl⟩
  | cons a as ih =>
      obtain ⟨first, later⟩ := List.forall_mem_cons.mp steps
      obtain ⟨c, step⟩ := first b
      obtain ⟨d, rest⟩ := ih later c
      exact ⟨d, by rw [List.foldlM_cons, step]; exact rest⟩

theorem rowFields_of_elements {row : Value} {fields : List Value} (elements : row.elements? = some fields) :
    row.rowFields = .ok fields := by
  rw [Value.rowFields, elements]

variable {rows : List Value}

theorem readColumns_ok (fit : ∀ row ∈ rows, Metadata.columns.Fits row) :
    ∃ columns, readColumns rows = .ok columns := by
  refine foldlM_ok (fun row mem columns => ?_) []
  obtain ⟨name, type, elements⟩ := fit row mem
  rw [rowFields_of_elements elements]
  exact ⟨_, rfl⟩

theorem readIndexes_ok (fit : ∀ row ∈ rows, Metadata.indexes.Fits row) :
    ∃ indexes, readIndexes rows = .ok indexes := by
  refine foldlM_ok (fun row mem indexes => ?_) []
  obtain ⟨name, columns, elements, list⟩ := fit row mem
  obtain ⟨members, list⟩ := Option.isSome_iff_exists.mp list
  rw [rowFields_of_elements elements]
  have read : columns.members = .ok members := by rw [Value.members, list]
  refine ⟨Entries.put indexes name.asName (members.map Value.asName).eraseDups, ?_⟩
  dsimp only [Bind.bind, Except.bind]
  rw [read]
  rfl

theorem readForeignKeys_ok (fit : ∀ row ∈ rows, Metadata.importedKeys.Fits row) :
    ∃ keys, readForeignKeys rows = .ok keys := by
  induction rows with
  | nil => exact ⟨[], rfl⟩
  | cons row rows ih =>
      obtain ⟨⟨fields, elements, count⟩, later⟩ := List.forall_mem_cons.mp fit
      obtain ⟨keys, rest⟩ := ih later
      obtain ⟨name, table, column, parentTable, parentColumn, rfl⟩ : ∃ a b c d e, fields = [a, b, c, d, e] := by
        match fields, count with
        | [a, b, c, d, e], _ => exact ⟨a, b, c, d, e, rfl⟩
      let key : ForeignKey :=
        ⟨name.asName, table.asName, column.asName, parentTable.asName, parentColumn.asName⟩
      have read : readForeignKey row = .ok key := by
        rw [readForeignKey, rowFields_of_elements elements]
        rfl
      refine ⟨key :: keys, ?_⟩
      rw [readForeignKeys, List.mapM_cons, read]
      rw [readForeignKeys] at rest
      rw [rest]
      rfl

end Rows

namespace Step

/-! ## Questions about tables -/

section Tables

variable {setting : Setting} (wellFormed : setting.database.WellFormed) {s : Session}

include wellFormed

theorem not_slips_metadata (what : Metadata) (table : String) : ¬Slips (metadata setting what table) s := by
  rw [metadata, slips_demand]
  rintro ⟨fault, answered, unforeseen⟩
  rcases wellFormed.faults _ _ _ answered with kind | kind <;>
    exact unforeseen (by simp [introspectionFailure, kind, Failure.isForeseen])

/-- What is read of the rows for a table can be read. -/
theorem not_slips_read {α β : Type} (what : Metadata) {table : String} {read : List Value → Except RowError α}
    (ok : ∀ rows, (∀ row ∈ rows, what.Fits row) → ∃ found, read rows = .ok found) {rest : α → Step β}
    (later : ∀ found t, ¬Slips (rest found) t) :
    ¬Slips (do let rows ← metadata setting what table; let found ← require (read rows) .row; rest found) s := by
  refine not_slips_bind (not_slips_metadata wellFormed what table) fun rows t given => ?_
  obtain ⟨found, made⟩ := ok rows (wellFormed.rows _ what table _ rows (gives_demand given))
  exact not_slips_bind (by simp [made]) fun found t _ => later found t

theorem not_slips_readTable (table : String) : ¬Slips (readTable setting table) s := by
  refine not_slips_bind (not_slips_metadata wellFormed .columns table) fun rows t given => ?_
  obtain ⟨columns, made⟩ := readColumns_ok (wellFormed.rows _ .columns table _ rows (gives_demand given))
  dsimp only
  split
  · simp [Failure.isForeseen]
  refine not_slips_bind (by simp [made]) fun columns u _ => ?_
  refine not_slips_read wellFormed .indexes (fun rows fit => readIndexes_ok fit) fun indexes u => ?_
  refine not_slips_bind (not_slips_metadata wellFormed .primaryKey table) fun keyRows u _ => ?_
  refine not_slips_read wellFormed .exportedKeys (fun rows fit => readForeignKeys_ok fit) fun exported u => ?_
  refine not_slips_read wellFormed .importedKeys (fun rows fit => readForeignKeys_ok fit) fun imported u => ?_
  exact slips_pure _

theorem not_slips_introspect (table : String) : ¬Slips (introspect setting table) s := by
  rw [introspect, slips_get]
  cases s.catalog.tables.find? (Text.lowercase table) with
  | some known => exact slips_pure _
  | none =>
      refine not_slips_bind (not_slips_readTable wellFormed _) fun found t _ => ?_
      exact not_slips_bind (slips_modify _) fun _ u _ => slips_pure _

theorem not_slips_sampleRow (table : String) : ¬Slips (sampleRow setting table) s := by
  rw [sampleRow, slips_get]
  cases s.catalog.samples.find? (Text.lowercase table) with
  | some row => exact slips_pure _
  | none =>
      have asks {t : Session} : ¬Slips (demand setting (.sampleRow (Text.lowercase table) setting.schema)
          (samplingFailure (Text.lowercase table))) t := by
        rw [slips_demand]
        rintro ⟨fault, answered, unforeseen⟩
        rcases wellFormed.faults _ _ _ answered with kind | kind <;>
          exact unforeseen (by simp [samplingFailure, kind, FaultKind.endsQuestion, Failure.isForeseen])
      refine not_slips_bind (not_slips_introspect wellFormed _) fun described t _ => ?_
      refine not_slips_bind asks fun row u _ => ?_
      exact not_slips_bind (slips_modify _) fun _ v _ => slips_pure _

/-! ## Plans -/

theorem not_slips_execute (statement : String) (fetch : Bool) :
    ¬Slips (demand setting (.execute statement fetch) .fault) s := by
  rw [slips_demand]
  rintro ⟨fault, answered, unforeseen⟩
  rcases wellFormed.faults _ _ _ answered with kind | kind <;>
    exact unforeseen (by simp [kind, FaultKind.endsQuestion, Failure.isForeseen])

theorem not_slips_explainFor (tables : List String) : ¬Slips (explainFor setting tables) s := by
  induction tables generalizing s with
  | nil => exact slips_pure _
  | cons table rest ih =>
      refine not_slips_bind (not_slips_introspect wellFormed table) fun schema t _ => ?_
      split
      · exact slips_pure _
      · exact ih

theorem not_slips_warmUp (statement : String) (runs : Nat) : ¬Slips (warmUp setting statement runs) s := by
  induction runs generalizing s with
  | zero => exact slips_pure _
  | succ runs ih => exact not_slips_bind (not_slips_execute wellFormed statement false) fun _ t _ => ih

theorem not_slips_inspect (warmUps : Nat) (sql : String) (tables : List String) :
    ¬Slips (inspect setting warmUps sql tables) s := by
  have leaves (lines : List String) {t : Session} : ¬Slips (leaveUnreadable lines) t := by
    induction lines generalizing t with
    | nil => exact slips_pure _
    | cons line rest ih => exact not_slips_bind (slips_modify _) fun _ u _ => ih
  refine not_slips_bind (not_slips_explainFor wellFormed tables) fun explain t _ => ?_
  refine not_slips_bind (not_slips_warmUp wellFormed _ warmUps) fun _ u _ => ?_
  refine not_slips_bind (not_slips_execute wellFormed _ true) fun lines v _ => ?_
  exact not_slips_bind (leaves _) fun _ w _ => slips_pure _

end Tables

end Step

/-! ## Databases of tables -/

theorem Database.wellFormed_ofTables (tables : Entries (List (String × String) × List (String × Value))) :
    (Database.ofTables tables).WellFormed := by
  refine ⟨fun asked question fault failed => ?_, fun asked what table schema rows answered row mem => ?_⟩
  · cases question with
    | metadata what => cases what <;> exact nomatch failed
    | _ => exact nomatch failed
  · cases what with
    | columns =>
        obtain rfl := Except.ok.inj answered
        obtain ⟨⟨name, type⟩, -, rfl⟩ := List.mem_map.mp mem
        exact ⟨.text name, .text type, rfl⟩
    | _ =>
        obtain rfl := Except.ok.inj answered
        exact nomatch mem

end IndexAdvisor
