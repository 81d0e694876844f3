import IndexAdvisor.Proofs.Binding.Recordings
import IndexAdvisor.Proofs.Text.Ordered
import IndexAdvisor.Proofs.Usage.Occurrences

/-! # Updated columns

A column of a table counts as updated if a statement assigns it. But what an `UPDATE` compares is told
from what it assigns by the bare name of the column: a column of another table with the name of an
assigned column counts as updated too, and this is the only way for a column to do so unassigned.
-/

namespace IndexAdvisor

/-- An `UPDATE` of the table assigns the column. -/
def Outline.Assigns (o : Outline) (table column : String) : Prop :=
  o.target? = some table ∧ column ∈ o.assigned

theorem Outline.Assigns.kind {o : Outline} {table column : String} (assigns : o.Assigns table column) :
    o.kind = .update := by
  cases o with
  | update => rfl
  | select | delete | insert => exact nomatch assigns.2

/-- A column is read by an `UPDATE` that assigns a column of the same name, but of another table. -/
def Recording.Strays (n : Recording) (table column : String) : Prop :=
  n.outline.target? ≠ some table ∧ column ∈ n.outline.assigned ∧
    ∃ r ∈ n.outline.usage.records, r.use = .assignment ∧ r.column.name = column ∧
      n.owner r = some table ∧
      ∃ place ∈ n.outline.read, (place.clause = .where ∨ place.clause = .set) ∧
        place.column = r.column

namespace Recording

variable {n : Recording} {table column : String}

theorem owner_of_assigned (has : n.session.catalog.hasColumn table column) :
    n.owner ⟨.assignment, ⟨none, column⟩, some table⟩ = some table := by
  rw [owner, columnOwner_unqualified _ _ rfl]
  simp [fallenOwner, has]

theorem tells_updated : n.Tells (.updated ⟨table, column⟩) ↔
    ∃ r ∈ n.outline.usage.records, r.use = .assignment ∧ r.column.name = column ∧
      n.owner r = some table := by
  constructor
  · rintro ⟨r, mem, owner, owned, told⟩
    cases used : r.use with
    | join | membership | condition => simp [UsageRecord.fact, used] at told
    | assignment =>
        simp only [UsageRecord.fact, used, UsageFact.updated.injEq, ColumnUpdate.mk.injEq] at told
        obtain ⟨rfl, rfl⟩ := told
        exact ⟨r, n.outline.usage.noted_subset mem, used, rfl, owned⟩
  · rintro ⟨r, mem, used, rfl, owned⟩
    have updates : n.outline.usage.kind ≠ .insert := by
      have kind : n.outline.usage.kind = .update := n.outline.kind_of_assignment mem used
      simp [kind]
    refine ⟨r, n.outline.usage.noted_eq updates ▸ mem, table, owned, ?_⟩
    rw [UsageRecord.fact, used]

/-- What is recorded as updated is assigned, or strays there by its name. -/
theorem tells_updated_iff {setting : Setting} {parsed : Parsed} {s : Session}
    (given : Step.Gives (Step.reach setting n.query parsed) s n.outline n.session)
    (exist : ∀ t c, n.outline.Assigns t c → n.session.catalog.hasColumn t c) :
    n.Tells (.updated ⟨table, column⟩) ↔ n.outline.Assigns table column ∨ n.Strays table column := by
  rw [tells_updated]
  constructor
  · rintro ⟨r, mem, used, rfl, owned⟩
    have updates := n.outline.kind_of_assignment mem used
    obtain ⟨t, target, -, -, provenance⟩ :=
      n.outline.records_update updates (Step.named_of_reach given updates)
    rcases provenance r mem with ⟨name, listed, rfl⟩ | told | told
    · have assigns : n.outline.Assigns t name := ⟨target, listed⟩
      rw [owner_of_assigned (exist t name assigns)] at owned
      exact .inl (Option.some.inj owned ▸ assigns)
    · rw [used] at told
      exact nomatch (Outline.Occurrence.mem_recorded_assignment.mp told).1
    · rw [used] at told
      obtain ⟨listed, place⟩ := Outline.Occurrence.mem_recorded_assignment.mp told
      by_cases own : n.outline.target? = some table
      · exact .inl ⟨own, listed⟩
      · exact .inr ⟨own, listed, r, mem, used, rfl, owned, place⟩
  · rintro (assigns | ⟨-, -, r, mem, used, same, owned, -⟩)
    · obtain ⟨t, target, -, owns, -⟩ :=
        n.outline.records_update assigns.kind (Step.named_of_reach given assigns.kind)
      obtain rfl : t = table := Option.some.inj (target.symm.trans assigns.1)
      exact ⟨_, owns column assigns.2, rfl, rfl, owner_of_assigned (exist t column assigns)⟩
    · exact ⟨r, mem, used, same, owned⟩

end Recording

/-! ## Statements in turn -/

theorem Tracker.mem_updates {u : Tracker} {table column : String} :
    column ∈ u.updates table ↔ u.Has (.updated ⟨table, column⟩) := by
  rw [updates, Text.mem_sorted, List.mem_map]
  constructor
  · rintro ⟨fact, mem, rfl⟩
    obtain ⟨listed, same⟩ := List.mem_filter.mp mem
    exact of_decide_eq_true same ▸ listed
  · exact fun mem => ⟨_, List.mem_filter.mpr ⟨mem, decide_eq_true rfl⟩, rfl⟩

theorem Outline.target_mem_tables {o : Outline} (updates : o.kind = .update)
    (named : none ∉ o.usage.targets) {table : String} (changes : o.target? = some table) :
    table ∈ o.usage.tables := by
  obtain ⟨t, target, targets, -⟩ := o.records_update updates named
  obtain rfl : t = table := Option.some.inj (target.symm.trans changes)
  have listed : some t ∈ o.usage.targets := by
    rw [targets]
    exact List.mem_cons_self
  exact (Walk.sound_outline o).targets t listed

namespace Session

variable {setting : Setting} {statements : List (String × Parsed)}

/-- After statements whose assigned columns exist, a column of a table counts as updated exactly if a
    statement assigns it or a column of its name strays there; and every statement that is
    bound counts. -/
theorem mem_updates_iff (exist : ∀ n ∈ Session.recordings setting statements .start, ∀ t c,
      n.outline.Assigns t c → (Session.afterBinding setting statements).catalog.hasColumn t c) :
    (∀ table column, column ∈ (Session.afterBinding setting statements).usage.updates table ↔
      (∃ n ∈ Session.recordings setting statements .start, n.outline.Assigns table column) ∨
        ∃ n ∈ Session.recordings setting statements .start, n.Strays table column) ∧
    (∀ before query parsed after result t, statements = before ++ (query, parsed) :: after →
      Step.Gives (Step.bind setting query parsed) (Session.afterBinding setting before) result t →
        ∃ n ∈ Session.recordings setting statements .start,
          n.query = query ∧ parsed.outline = .ok n.outline) := by
  have follows := follows_afterBinding setting statements
  refine ⟨fun table column => ?_, ?_⟩
  · rw [Tracker.mem_updates, follows.has, or_iff_right nofun, ← exists_or]
    refine exists_congr fun n => ?_
    rw [← and_or_left]
    refine and_congr_right fun mem => ?_
    obtain ⟨before, parsed, after, -, given⟩ := mem_recordings.mp mem
    refine Recording.tells_updated_iff given fun t c assigns => ?_
    obtain ⟨known, more⟩ := follows.knew n mem
    have listed : t ∈ n.outline.usage.tables :=
      Outline.target_mem_tables assigns.kind (Step.named_of_reach given assigns.kind) assigns.1
    rw [← more.hasColumn_eq (known t listed)]
    exact exist n mem t c assigns
  · rintro before query parsed after result t rfl given
    exact recorded_of_bound given

theorem mem_updates_iff_shop :
    ∃ parsed, Parsed.read "UPDATE orders SET user_id = 2 WHERE id = 5" = .ok parsed ∧
      (∀ n ∈ Session.recordings .shop [("query.update.001", parsed)] .start, ∀ t c,
        n.outline.Assigns t c →
          (Session.afterBinding .shop [("query.update.001", parsed)]).catalog.hasColumn t c) ∧
      "user_id" ∈ (Session.afterBinding .shop [("query.update.001", parsed)]).usage.updates "orders" := by
  have runs : (Parsed.read "UPDATE orders SET user_id = 2 WHERE id = 5").toOption.any (fun parsed =>
      let moments := Session.recordings .shop [("query.update.001", parsed)] .start
      !moments.isEmpty &&
        moments.all (fun n => n.outline.target? = some "orders" && n.outline.assigned = ["user_id"]) &&
        (Session.afterBinding .shop [("query.update.001", parsed)]).catalog.hasColumn "orders"
          "user_id") := by
    decide +kernel
  obtain ⟨parsed, read, runs⟩ := Parsed.exists_of_any runs
  simp only [Bool.and_eq_true, List.all_eq_true, decide_eq_true_eq, Bool.not_eq_true'] at runs
  obtain ⟨⟨some_moment, all⟩, has⟩ := runs
  have exist : ∀ n ∈ Session.recordings .shop [("query.update.001", parsed)] .start, ∀ t c,
      n.outline.Assigns t c →
        (Session.afterBinding .shop [("query.update.001", parsed)]).catalog.hasColumn t c := by
    intro n mem t c assigns
    obtain ⟨target, assigned⟩ := all n mem
    obtain rfl := Option.some.inj (target.symm.trans assigns.1)
    obtain rfl : c = "user_id" := by simpa [assigned] using assigns.2
    exact has
  obtain ⟨n, mem⟩ := List.exists_mem_of_ne_nil _ (List.isEmpty_eq_false_iff.mp some_moment)
  obtain ⟨target, assigned⟩ := all n mem
  refine ⟨parsed, read, exist, ((mem_updates_iff exist).1 "orders" "user_id").mpr (.inl ⟨n, mem, target, ?_⟩)⟩
  rw [assigned]
  exact List.mem_cons_self

/-- The column of the subquery belongs to `users`, and only `orders` is updated. -/
theorem compared_column_updated :
    ∃ parsed result s, Parsed.read
        "UPDATE orders SET id = 2 WHERE user_id IN (SELECT id FROM users WHERE id = 1)" = .ok parsed ∧
      Step.Gives (Step.bind .shop "query.update.001" parsed) .start result s ∧
      (∀ o, parsed.outline = .ok o → o.target? = some "orders" ∧ ¬ o.Assigns "users" "id") ∧
      s.catalog.hasColumn "orders" "id" ∧ s.usage.updates "users" = ["id"] := by
  have runs : (Parsed.read
      "UPDATE orders SET id = 2 WHERE user_id IN (SELECT id FROM users WHERE id = 1)").toOption.any
      (fun parsed =>
        let ends := (Step.bind .shop "query.update.001" parsed).outcome .start
        ends.1.isOk && parsed.outline.toOption.all (·.target? = some "orders") &&
          ends.2.catalog.hasColumn "orders" "id" && ends.2.usage.updates "users" = ["id"]) := by
    decide +kernel
  obtain ⟨parsed, read, runs⟩ := Parsed.exists_of_any runs
  simp only [Bool.and_eq_true, decide_eq_true_eq] at runs
  obtain ⟨⟨⟨ok, target⟩, has⟩, updates⟩ := runs
  obtain ⟨result, given⟩ := Step.gives_of_isOk ok
  refine ⟨parsed, result, _, read, given, fun o outlined => ?_, has, updates⟩
  have changes : o.target? = some "orders" := by simpa [outlined, Except.toOption] using target
  exact ⟨changes, fun assigns => absurd (changes.symm.trans assigns.1) (by simp)⟩

end Session

end IndexAdvisor
