import IndexAdvisor.Proofs.Advice.Columns
import Mathlib

/-! # Names of advised indexes

The name of an index puts its table and its columns one after the other, with underscores between them.
As tables and columns may have underscores of their own, two indexes can have the same name. They do if
they are of one table and their columns differ only in where the underscores belong, or if the rest of a
longer table name is read as the first columns of a table with a shorter one.
-/

namespace IndexAdvisor

/-- The words of a name, between its underscores. -/
def nameWords (name : String) : List (List Char) := name.toList.splitOn '_'

theorem nameWords_inj {first second : String} : nameWords first = nameWords second ↔ first = second := by
  constructor
  · intro same
    have joined := congrArg (List.intercalate ['_']) same
    rw [nameWords, nameWords, List.intercalate_splitOn, List.intercalate_splitOn] at joined
    exact String.toList_inj.mp joined
  · intro same
    rw [same]

theorem nameWords_append (first second : String) :
    nameWords (first ++ "_" ++ second) = nameWords first ++ nameWords second := by
  have letters : (first ++ "_" ++ second).toList = first.toList ++ '_' :: second.toList := by simp
  rw [nameWords, letters]
  exact List.splitOnP_append_cons _ _ (by simp)

theorem nameWords_of_plain {name : String} (plain : '_' ∉ name.toList) : nameWords name = [name.toList] := by
  have single : ∀ word ∈ [name.toList], '_' ∉ word := by simpa using plain
  have joined := List.splitOn_intercalate '_' single (by simp)
  rwa [List.intercalate_singleton] at joined

theorem nameWords_join {columns : List String} (given : columns ≠ []) :
    nameWords ("_".intercalate columns) = columns.flatMap nameWords := by
  induction columns with
  | nil => exact absurd rfl given
  | cons column rest ih =>
      cases rest with
      | nil => simp
      | cons next rest =>
          have joined : "_".intercalate (column :: next :: rest)
              = column ++ "_" ++ "_".intercalate (next :: rest) := by
            simp [String.intercalate_cons_cons]
          rw [joined, nameWords_append, ih (by simp)]
          rfl

theorem flatMap_nameWords_inj {columns others : List String}
    (plain : ∀ column ∈ columns ++ others, '_' ∉ column.toList)
    (same : columns.flatMap nameWords = others.flatMap nameWords) : columns = others := by
  have words (columns : List String) (plain : ∀ column ∈ columns, '_' ∉ column.toList) :
      columns.flatMap nameWords = columns.map String.toList := by
    induction columns with
    | nil => rfl
    | cons column rest ih =>
        rw [List.flatMap_cons, nameWords_of_plain (plain column (by simp)),
          ih fun other mem => plain other (by simp [mem])]
        rfl
  rw [words columns fun column mem => plain column (by simp [mem]),
    words others fun column mem => plain column (by simp [mem])] at same
  exact List.map_injective_iff.mpr (fun _ _ => String.toList_inj.mp) same

namespace IndexAdvice

/-- Two different indexes whose tables and columns are the same words: either their tables are the same, or
    the name of the second table goes on behind that of the first one. -/
def Clashes (a b : IndexAdvice) : Prop :=
  (a.table = b.table ∧ a.columns ≠ b.columns ∧
    a.columns.flatMap nameWords = b.columns.flatMap nameWords) ∨
  ∃ rest, b.table = a.table ++ "_" ++ rest ∧
    a.columns.flatMap nameWords = nameWords rest ++ b.columns.flatMap nameWords

variable {a b : IndexAdvice}

/-- The text behind the underscore that follows the table. -/
def columnText (a : IndexAdvice) : String := "_".intercalate a.columns

theorem nameWords_columnText (given : a.columns ≠ []) :
    nameWords a.columnText = a.columns.flatMap nameWords := nameWords_join given

theorem toList_name (a : IndexAdvice) :
    a.name.toList = "idx_".toList ++ (a.table.toList ++ '_' :: a.columnText.toList) := by
  change ("idx_" ++ a.table ++ "_" ++ a.columnText).toList = _
  simp

/-- What goes on behind a table is nothing, or an underscore and the rest of a longer table. -/
theorem of_longer {first second text text' : String} {more : List Char}
    (table : second.toList = first.toList ++ more)
    (texts : '_' :: text.toList = more ++ '_' :: text'.toList) :
    (first = second ∧ text = text') ∨
      ∃ rest, second = first ++ "_" ++ rest ∧ text = rest ++ "_" ++ text' := by
  cases more with
  | nil =>
      left
      constructor
      · exact String.toList_inj.mp (by simpa using table.symm)
      · exact String.toList_inj.mp (List.cons.inj texts).2
  | cons c rest =>
      obtain ⟨rfl, behind⟩ := List.cons.inj texts
      right
      refine ⟨String.ofList rest, ?_, ?_⟩
      · apply String.toList_inj.mp
        simp [table]
      · apply String.toList_inj.mp
        simpa using behind

/-- Of two names that are the same, the table of one ends where that of the other does, or before an
    underscore in it. -/
theorem name_eq_iff_texts (a b : IndexAdvice) :
    a.name = b.name ↔ (a.table = b.table ∧ a.columnText = b.columnText) ∨
      (∃ rest, b.table = a.table ++ "_" ++ rest ∧ a.columnText = rest ++ "_" ++ b.columnText) ∨
      ∃ rest, a.table = b.table ++ "_" ++ rest ∧ b.columnText = rest ++ "_" ++ a.columnText := by
  constructor
  · intro same
    have letters := congrArg String.toList same
    rw [toList_name, toList_name] at letters
    cases List.append_eq_append_iff.mp (List.append_cancel_left letters) with
    | inl longer =>
        obtain ⟨more, table, texts⟩ := longer
        exact (of_longer table texts).imp_right .inl
    | inr shorter =>
        obtain ⟨more, table, texts⟩ := shorter
        exact (of_longer table texts).imp (fun same => ⟨same.1.symm, same.2.symm⟩) .inr
  · intro same
    apply String.toList_inj.mp
    rw [toList_name, toList_name]
    rcases same with ⟨table, text⟩ | ⟨rest, table, text⟩ | ⟨rest, table, text⟩ <;> simp [table, text]

theorem name_eq_iff (given : a.columns ≠ []) (given' : b.columns ≠ []) :
    a.name = b.name ↔ (a.table, a.columns) = (b.table, b.columns) ∨ a.Clashes b ∨ b.Clashes a := by
  have joined {c : IndexAdvice} (own : c.columns ≠ []) := nameWords_columnText own
  have text (rest : String) (c d : IndexAdvice) (own : c.columns ≠ []) (own' : d.columns ≠ []) :
      c.columnText = rest ++ "_" ++ d.columnText ↔
        c.columns.flatMap nameWords = nameWords rest ++ d.columns.flatMap nameWords := by
    rw [← nameWords_inj, nameWords_append, joined own, joined own']
  have texts : a.columnText = b.columnText ↔ a.columns.flatMap nameWords = b.columns.flatMap nameWords := by
    rw [← nameWords_inj, joined given, joined given']
  rw [name_eq_iff_texts, texts, Clashes, Clashes]
  simp only [text _ a b given given', text _ b a given' given, Prod.mk.injEq]
  constructor
  · rintro (⟨table, words⟩ | longer | shorter)
    · by_cases columns : a.columns = b.columns
      · exact .inl ⟨table, columns⟩
      · exact .inr (.inl (.inl ⟨table, columns, words⟩))
    · exact .inr (.inl (.inr longer))
    · exact .inr (.inr (.inr shorter))
  · rintro (⟨table, columns⟩ | (⟨table, -, words⟩ | longer) | (⟨table, -, words⟩ | shorter))
    · exact .inl ⟨table, by rw [columns]⟩
    · exact .inl ⟨table, words⟩
    · exact .inr (.inl longer)
    · exact .inl ⟨table.symm, words.symm⟩
    · exact .inr (.inr shorter)

/-- Indexes of one table clash only if a column has an underscore. -/
theorem Clashes.cause (clash : a.Clashes b) :
    (a.table = b.table ∧ ∃ column ∈ a.columns ++ b.columns, '_' ∈ column.toList) ∨
      (a.table ++ "_").toList <+: b.table.toList := by
  cases clash with
  | inl within =>
      obtain ⟨same, differ, words⟩ := within
      left
      constructor
      · exact same
      · by_contra plain
        push Not at plain
        exact differ (flatMap_nameWords_inj plain words)
  | inr beyond =>
      obtain ⟨rest, longer, -⟩ := beyond
      right
      simp [longer]

theorem not_clashes_self (a : IndexAdvice) : ¬a.Clashes a := by
  intro clash
  cases clash with
  | inl within => exact within.2.1 rfl
  | inr beyond =>
      obtain ⟨rest, longer, -⟩ := beyond
      have lengths := congrArg String.length longer
      have underscore : "_".length = 1 := by decide
      rw [String.length_append, String.length_append] at lengths
      omega

end IndexAdvice

/-! ## Indexes of one table -/

namespace TableSchema

variable {table : TableSchema} {usage : Tracker}

theorem trimUpdated_ne_nil {columns : List String} (given : columns ≠ []) (updated : List String) :
    trimUpdated columns updated ≠ [] := by
  cases columns with
  | nil => exact absurd rfl given
  | cons first rest => simp [trimUpdated]

theorem ne_nil_of_mem_advisedColumns {columns : List String} (mem : columns ∈ table.advisedColumns usage) :
    columns ≠ [] := by
  rw [advisedColumns, List.mem_eraseDups] at mem
  obtain ⟨candidate, kept, rfl⟩ := List.mem_map.mp (List.mem_of_mem_filter mem)
  have ranked := List.mem_mergeSort.mp (List.mem_of_mem_filter kept)
  rw [candidates, List.mem_eraseDups, List.mem_filter] at ranked
  exact trimUpdated_ne_nil (by simpa using ranked.2) _

theorem columns_indexAdvice (table : TableSchema) (usage : Tracker) :
    (table.indexAdvice usage).map (·.columns) = table.advisedColumns usage := by
  rw [indexAdvice, List.map_map]
  exact List.zipIdx_map_fst ..

theorem of_mem_indexes {index : IndexAdvice} (mem : index ∈ (table.advice usage).indexes) :
    index.table = table.name ∧ index.columns ≠ [] := by
  unfold advice at mem
  dsimp only at mem
  split at mem
  · obtain ⟨⟨columns, place⟩, numbered, rfl⟩ := List.mem_map.mp mem
    exact ⟨rfl, ne_nil_of_mem_advisedColumns (List.fst_mem_of_mem_zipIdx numbered)⟩
  · cases mem

theorem nodup_columns_indexes (table : TableSchema) (usage : Tracker) :
    ((table.advice usage).indexes.map (·.columns)).Nodup := by
  unfold advice
  dsimp only
  split
  · rw [columns_indexAdvice]
    exact Text.nodup_eraseDups _
  · exact List.nodup_nil

end TableSchema

end IndexAdvisor
