import IndexAdvisor.Proofs.Usage.Moves

/-! # Columns of a statement

Which columns a statement records as used, and how, does not depend on what the usage walk has at
hand: it is told by the clause that each column stands in, and by whether it is looked up in a list.
`ofTerm` and its companions list the columns of an outline so, in reading order, and the records of
the walk are read off this list. Only the table of a record comes from the walk.
-/

namespace IndexAdvisor

namespace Outline

/-- A column at a place of a statement. -/
structure Occurrence where
  clause : Clause
  /-- Whether the column is looked up in a list. -/
  listed : Bool
  column : ColumnName
  deriving DecidableEq, Repr

namespace Occurrence

mutual

def ofTerm (clause : Clause) : Term → List Occurrence
  | .column column => [⟨clause, false, column⟩]
  | .parameter _ => []
  | .membership column items => ⟨clause, true, column⟩ :: ofTerms .other items
  | .comparison _ operands => ofTerms clause operands
  | .group parts => ofTerms clause parts
  | .query query => ofSelect false query

def ofTerms (clause : Clause) : List Term → List Occurrence
  | [] => []
  | t :: ts => ofTerm clause t ++ ofTerms clause ts

def ofOption (clause : Clause) : Option Term → List Occurrence
  | none => []
  | some t => ofTerm clause t

/-- The limit of a whole statement is left out. -/
def ofSelect (top : Bool) : Select → List Occurrence
  | .mk _ ctes body order offset limit =>
    ofCtes ctes ++ ofBody body ++ ofTerms .other order ++ ofOption .offset offset
      ++ if top then [] else ofOption .limit limit

def ofBody : Body → List Occurrence
  | .pair left right => ofSelect false left ++ ofSelect false right
  | .rows rows => ofTerms .other rows
  | .plain items targets condition group having =>
    ofSources items ++ ofTerms .select targets ++ ofOption .where condition ++ ofTerms .other group
      ++ ofOption .other having

def ofSource : Source → List Occurrence
  | .table _ | .other => []
  | .join left right condition => ofSource left ++ ofSource right ++ ofOption .on condition
  | .query query => ofSelect false query

def ofSources : List Source → List Occurrence
  | [] => []
  | s :: ss => ofSource s ++ ofSources ss

def ofCtes : List Cte → List Occurrence
  | [] => []
  | .mk _ none :: rest => ofCtes rest
  | .mk _ (some query) :: rest => ofSelect false query ++ ofCtes rest

end

def ofAssigned : Assigned → List Occurrence
  | .value t => ofTerm .set t
  | .told => []

/-- What is recorded of the occurrence, given the columns that an `UPDATE` assigns. -/
def record? (assigned : List String) (o : Occurrence) : Option (Use × ColumnName) :=
  (Walk.useIn assigned o.listed o.clause o.column.name).map (·, o.column)

/-- What is recorded of occurrences. -/
def recorded (assigned : List String) (os : List Occurrence) : List (Use × ColumnName) :=
  os.filterMap (record? assigned)

theorem recorded_append (assigned : List String) (os ps : List Occurrence) :
    recorded assigned (os ++ ps) = recorded assigned os ++ recorded assigned ps :=
  List.filterMap_append

theorem mem_recorded_assignment {assigned : List String} {os : List Occurrence} {c : ColumnName} :
    (.assignment, c) ∈ recorded assigned os ↔
      c.name ∈ assigned ∧ ∃ o ∈ os, (o.clause = .where ∨ o.clause = .set) ∧ o.column = c := by
  simp only [recorded, List.mem_filterMap]
  constructor
  · rintro ⟨⟨clause, listed, column⟩, mem, noted⟩
    obtain ⟨use, used, same⟩ := Option.map_eq_some_iff.mp noted
    obtain ⟨rfl, rfl⟩ := Prod.mk.inj same
    cases clause <;> simp only [Walk.useIn, reduceCtorEq, Option.some.injEq] at used
    all_goals
      by_cases known : column.name ∈ assigned
      · exact ⟨known, _, mem, by simp, rfl⟩
      · cases listed <;> simp [known] at used
  · rintro ⟨known, ⟨clause, listed, column⟩, mem, either, rfl⟩
    refine ⟨_, mem, ?_⟩
    rcases either with rfl | rfl <;> simp [record?, Walk.useIn, known]

end Occurrence

end Outline

/-! ## Statements -/

namespace Outline

open Occurrence

/-- The columns that a statement assigns. -/
def assigned : Outline → List String
  | .update _ _ assigned _ _ _ => assigned.map (·.1)
  | .select _ | .delete .. | .insert .. => []

/-- The columns in the common table expressions of a changing statement, which are met before its
    assignments are known. -/
def declared : Outline → List Occurrence
  | .select _ => []
  | .update ctes .. | .delete ctes .. | .insert ctes .. => ofCtes ctes

/-- All other columns that a statement reads. -/
def read : Outline → List Occurrence
  | .select query => ofSelect true query
  | .update _ _ assigned items condition returning =>
    assigned.flatMap (fun a => ofAssigned a.2) ++ ofSources items ++ ofOption .where condition
      ++ ofTerms .other returning
  | .delete _ _ items condition returning =>
    ofSources items ++ ofOption .where condition ++ ofTerms .other returning
  | .insert _ _ none => []
  | .insert _ _ (some query) => ofSelect false query

end Outline

namespace Walk

open Outline
open Outline.Occurrence

/-- The records so far, without their tables. -/
def uses (w : Walk) : List (Use × ColumnName) := w.records.map fun r => (r.use, r.column)

theorem uses_leaving (w v : Walk) : uses (w.leaving v) = uses v := rfl

theorem uses_meetColumn (assigned : List String) (listed : Bool) (clause : Clause) (c : ColumnName)
    (w : Walk) :
    uses (w.meetColumn assigned listed clause c) = uses w ++ recorded assigned [⟨clause, listed, c⟩] := by
  simp only [meetColumn, recorded, record?, List.filterMap_cons, List.filterMap_nil]
  cases useIn assigned listed clause c.name with
  | none => simp [uses]
  | some use => simp [uses, record]

theorem uses_addTable (t : Table) (w : Walk) : uses (w.addTable t).2 = uses w := by
  unfold addTable
  split <;> rfl

theorem uses_source_table (assigned : List String) (t : Table) (w : Walk) :
    uses (source assigned (.table t) w) = uses w := by
  have kept := uses_addTable t w
  rw [source]
  split <;> next named =>
    rw [named] at kept
    exact kept

section Trees

variable (assigned : List String)

mutual
theorem uses_term (clause : Clause) (t : Term) (w : Walk) :
    uses (term assigned clause t w) = uses w ++ recorded assigned (ofTerm clause t) := by
  cases t with
  | column c => rw [term, ofTerm, uses_meetColumn]
  | parameter n => simp [term, ofTerm, recorded, uses, meetParameter]
  | membership c items =>
      rw [term, uses_terms, uses_meetColumn, List.append_assoc, ← recorded_append]
      rfl
  | comparison right operands =>
      rw [term, uses_terms, ofTerm]
      rfl
  | group parts => rw [term, uses_terms, ofTerm]
  | query q => rw [term, uses_leaving, uses_select, ofTerm]
termination_by sizeOf t

theorem uses_terms (clause : Clause) (ts : List Term) (w : Walk) :
    uses (terms assigned clause ts w) = uses w ++ recorded assigned (ofTerms clause ts) := by
  cases ts with
  | nil => simp [terms, ofTerms, recorded]
  | cons t ts => rw [terms, uses_terms, uses_term, ofTerms, recorded_append, List.append_assoc]
termination_by sizeOf ts

theorem uses_option (clause : Clause) (t : Option Term) (w : Walk) :
    uses (option assigned clause t w) = uses w ++ recorded assigned (ofOption clause t) := by
  cases t with
  | none => simp [option, ofOption, recorded]
  | some t => rw [option, uses_term, ofOption]
termination_by sizeOf t

theorem uses_apart (clause : Clause) (t : Option Term) (w : Walk) :
    uses (apart assigned clause t w) = uses w ++ recorded assigned (ofOption clause t) := by
  cases t with
  | none => simp [apart, ofOption, recorded]
  | some t =>
      rw [apart, uses_term, ofOption]
      rfl
termination_by sizeOf t

theorem uses_select (top : Bool) (q : Select) (w : Walk) :
    uses (select assigned top q w) = uses w ++ recorded assigned (ofSelect top q) := by
  obtain ⟨recursive, ctes, body, order, offset, limit⟩ := q
  rw [select, ofSelect]
  cases top with
  | true =>
      rw [if_pos rfl, if_pos rfl, List.append_nil]
      change uses (apart assigned .offset offset _) = _
      rw [uses_apart, uses_terms, uses_body, uses_withTables]
      simp only [recorded_append, List.append_assoc]
  | false =>
      rw [if_neg (by decide), if_neg (by decide), uses_apart, uses_apart, uses_terms, uses_body,
        uses_withTables]
      simp only [recorded_append, List.append_assoc]
termination_by sizeOf q

theorem uses_body (body : Body) (w : Walk) :
    uses (bodyOf assigned body w) = uses w ++ recorded assigned (ofBody body) := by
  cases body with
  | pair left right =>
      rw [bodyOf, uses_leaving, uses_select, uses_leaving, uses_select, ofBody, recorded_append,
        List.append_assoc]
  | rows rows => rw [bodyOf, uses_terms, ofBody]
  | plain items targets condition group having =>
      rw [bodyOf, uses_option, uses_terms, uses_option, uses_terms, uses_sources, ofBody]
      simp only [recorded_append, List.append_assoc]
termination_by sizeOf body

theorem uses_source (s : Source) (w : Walk) :
    uses (source assigned s w) = uses w ++ recorded assigned (ofSource s) := by
  cases s with
  | table t => simp [uses_source_table, ofSource, recorded]
  | join left right condition =>
      rw [source, uses_option, uses_source, uses_source, ofSource]
      simp only [recorded_append, List.append_assoc]
  | query q => rw [source, uses_leaving, uses_select, ofSource]
  | other => simp [source, ofSource, recorded]
termination_by sizeOf s

theorem uses_sources (ss : List Source) (w : Walk) :
    uses (sources assigned ss w) = uses w ++ recorded assigned (ofSources ss) := by
  cases ss with
  | nil => simp [sources, ofSources, recorded]
  | cons s ss => rw [sources, uses_sources, uses_source, ofSources, recorded_append, List.append_assoc]
termination_by sizeOf ss

theorem uses_withTables (ctes : List Cte) (w : Walk) :
    uses (withTables assigned ctes w) = uses w ++ recorded assigned (ofCtes ctes) := by
  cases ctes with
  | nil => simp [withTables, ofCtes, recorded]
  | cons cte rest =>
      obtain ⟨name, query⟩ := cte
      cases query with
      | none =>
          rw [withTables, uses_withTables, ofCtes]
          rfl
      | some q =>
          rw [withTables, uses_withTables, uses_leaving, uses_select, ofCtes, recorded_append,
            ← List.append_assoc]
          rfl
termination_by sizeOf ctes
end

end Trees

end Walk

/-! ## Records of a statement -/

namespace Walk

open Outline
open Outline.Occurrence

/-- A walk keeps its targets and what it has recorded. -/
theorem Moves.kept {w v : Walk} (moves : Moves w v) :
    v.targets = w.targets ∧ w.records <+: v.records := by
  induction moves with
  | stay => exact ⟨rfl, List.prefix_refl _⟩
  | column assigned inList clause c _ ih =>
      unfold meetColumn
      split
      · exact ⟨ih.1, ih.2.trans (List.prefix_append ..)⟩
      · exact ih
  | table t _ ih =>
      unfold meetTable
      split
      · exact ih
      · obtain ⟨-, targets, records, -⟩ := addTable_kept _ t
        exact ⟨targets.trans ih.1, ih.2.trans (records ▸ List.prefix_refl _)⟩
  | parameter _ _ _ ih | hold _ _ ih | cte _ _ ih | limit _ _ ih => exact ih
  | nested _ _ outer inner => exact ⟨inner.1.trans outer.1, outer.2.trans inner.2⟩

/-- A walk gets from the first state to the second and records the columns of some places. -/
structure Tells (assigned : List String) (os : List Occurrence) (w v : Walk) : Prop where
  targets : v.targets = w.targets
  earlier : w.records <+: v.records
  uses : uses v = uses w ++ recorded assigned os

namespace Tells

variable {assigned : List String} {os ps : List Occurrence} {u v w : Walk}

theorem of_moves (moves : Moves w v) (told : Walk.uses v = Walk.uses w ++ recorded assigned os) :
    Tells assigned os w v := ⟨moves.kept.1, moves.kept.2, told⟩

theorem trans (first : Tells assigned os u v) (second : Tells assigned ps v w) :
    Tells assigned (os ++ ps) u w where
  targets := second.targets.trans first.targets
  earlier := first.earlier.trans second.earlier
  uses := by rw [second.uses, first.uses, recorded_append, List.append_assoc]

theorem mem_records (tells : Tells assigned os w v) {r : UsageRecord} (mem : r ∈ v.records) :
    r ∈ w.records ∨ (r.use, r.column) ∈ recorded assigned os := by
  obtain ⟨new, split⟩ := tells.earlier
  have told := tells.uses
  rw [Walk.uses, Walk.uses, ← split, List.map_append, List.append_cancel_left_eq] at told
  rw [← split] at mem
  refine (List.mem_append.mp mem).imp_right fun added => ?_
  rw [← told]
  exact List.mem_map_of_mem added

end Tells

section Statements

variable (columns : List String) (table : Option String)

/-- Every assignment of an `UPDATE` is recorded with its table, and all else that is recorded comes
    from the assigned values. -/
theorem records_assignments (given : List (String × Assigned)) (w : Walk) :
    let v := assignments columns table given w
    v.targets = w.targets ∧ w.records ⊆ v.records ∧
      (∀ name ∈ given.map (·.1), ⟨.assignment, ⟨none, name⟩, table⟩ ∈ v.records) ∧
      ∀ r ∈ v.records, r ∈ w.records ∨
        (∃ name ∈ given.map (·.1), r = ⟨.assignment, ⟨none, name⟩, table⟩) ∨
          (r.use, r.column) ∈ recorded columns (given.flatMap fun a => ofAssigned a.2) := by
  induction given generalizing w with
  | nil => exact ⟨rfl, fun _ => id, nofun, fun _ => .inl⟩
  | cons first rest ih =>
      obtain ⟨name, value⟩ := first
      let own : UsageRecord := ⟨.assignment, ⟨none, name⟩, table⟩
      let noted : Walk := { w with records := w.records ++ [own], column := some ⟨none, name⟩ }
      -- an assignment is recorded before its value is walked through
      have next : ∃ v, assignments columns table ((name, value) :: rest) w
          = assignments columns table rest v ∧ Tells columns (ofAssigned value) noted v := by
        cases value with
        | told =>
            exact ⟨noted, by rw [assignments], rfl, List.prefix_refl _, by simp [ofAssigned, recorded]⟩
        | value t =>
            exact ⟨term columns .set t noted, by rw [assignments],
              .of_moves (term_moves columns .set t noted) (uses_term columns .set t noted)⟩
      obtain ⟨v, same, tells⟩ := next
      obtain ⟨targets, earlier, owns, provenance⟩ := ih v
      have kept : w.records ++ [own] ⊆ v.records := tells.earlier.subset
      rw [same]
      refine ⟨targets.trans tells.targets, fun r mem => ?_, fun other mem => ?_, fun r mem => ?_⟩
      · exact earlier (kept (List.mem_append_left _ mem))
      · rcases List.mem_cons.mp mem with rfl | later
        · exact earlier (kept (List.mem_append_right _ List.mem_cons_self))
        · exact owns other later
      · rw [List.map_cons, List.flatMap_cons, recorded_append, List.mem_append]
        rcases provenance r mem with before | ⟨other, listed, rfl⟩ | told
        · rcases tells.mem_records before with before | told
          · rcases List.mem_append.mp before with old | new
            · exact .inl old
            · exact .inr (.inl ⟨name, List.mem_cons_self, List.mem_singleton.mp new⟩)
          · exact .inr (.inr (.inl told))
        · exact .inr (.inl ⟨other, List.mem_cons_of_mem _ listed, rfl⟩)
        · exact .inr (.inr (.inr told))

/-- What an `UPDATE` reads after its assignments; its table is at hand again for the condition. -/
theorem tells_reading (items : List Source) (condition : Option Term) (returning : List Term)
    (w : Walk) :
    Tells columns (ofSources items ++ ofOption .where condition ++ ofTerms .other returning) w
      (terms columns .other returning (option columns .where condition
        { sources columns items w with table := table, column := none })) := by
  let back : Walk := { sources columns items w with table := table, column := none }
  have read : Tells columns (ofSources items) w (sources columns items w) :=
    .of_moves (sources_moves columns items w) (uses_sources columns items w)
  have read : Tells columns (ofSources items) w back := ⟨read.targets, read.earlier, read.uses⟩
  have compared : Tells columns (ofOption .where condition) back _ :=
    .of_moves (option_moves columns .where condition back) (uses_option columns .where condition back)
  exact (read.trans compared).trans (.of_moves (terms_moves ..) (uses_terms ..))

end Statements

end Walk

namespace Outline

open Occurrence

/-- The table that a statement changes. -/
def target? : Outline → Option String
  | .select _ => none
  | .update _ target .. | .delete _ target .. | .insert _ target _ => some target.name

/-- The target of a statement that changes rows, if no common table expression has its name. -/
def namedTarget (ctes : List Cte) (target : Table) : Option String :=
  ((Walk.withTables [] ctes Walk.start).addTarget target).1

theorem targets_addTarget (ctes : List Cte) (target : Table) :
    ((Walk.withTables [] ctes Walk.start).addTarget target).2.targets = [namedTarget ctes target] := by
  let w := Walk.withTables [] ctes Walk.start
  have declared : w.targets = [] := (Walk.withTables_moves [] ctes Walk.start).kept.1
  obtain ⟨-, targets, -, -⟩ := Walk.addTable_kept w target
  change (w.addTable target).2.targets ++ [(w.addTable target).1] = _
  rw [targets, declared]
  rfl

theorem targets_update (ctes : List Cte) (target : Table) (given : List (String × Assigned))
    (items : List Source) (condition : Option Term) (returning : List Term) :
    (Outline.update ctes target given items condition returning).usage.targets
      = [namedTarget ctes target] := by
  rw [← targets_addTarget]
  exact (Walk.tells_reading _ _ items condition returning _).targets.trans
    (Walk.records_assignments _ _ given _).1

theorem targets_delete (ctes : List Cte) (target : Table) (items : List Source)
    (condition : Option Term) (returning : List Term) :
    (Outline.delete ctes target items condition returning).usage.targets = [namedTarget ctes target] := by
  rw [← targets_addTarget]
  refine (Walk.terms_moves [] .other returning _).kept.1.trans ?_
  refine (Walk.option_moves [] .where condition _).kept.1.trans ?_
  exact (Walk.sources_moves [] items _).kept.1

/-- What an `UPDATE` records, unless a common table expression has the name of its target: each
    assignment for the target, and else the columns that it reads. -/
theorem records_update (o : Outline) (updates : o.kind = .update) (named : none ∉ o.usage.targets) :
    ∃ table, o.target? = some table ∧ o.usage.targets = [some table] ∧
      (∀ name ∈ o.assigned, ⟨.assignment, ⟨none, name⟩, some table⟩ ∈ o.usage.records) ∧
      ∀ r ∈ o.usage.records,
        (∃ name ∈ o.assigned, r = ⟨.assignment, ⟨none, name⟩, some table⟩) ∨
        (r.use, r.column) ∈ recorded [] o.declared ∨
        (r.use, r.column) ∈ recorded o.assigned o.read := by
  cases o with
  | select | delete | insert => cases updates
  | update ctes target given items condition returning =>
      let columns := given.map (·.1)
      let w := Walk.withTables [] ctes Walk.start
      let table := (w.addTarget target).1
      let changed := (w.addTarget target).2
      let v := Walk.assignments columns table given changed
      have first : Walk.Tells [] (ofCtes ctes) Walk.start w :=
        .of_moves (Walk.withTables_moves [] ctes _) (Walk.uses_withTables [] ctes _)
      obtain ⟨-, -, records, -⟩ := Walk.addTable_kept w target
      obtain ⟨-, earlier, owns, provenance⟩ := Walk.records_assignments columns table given changed
      have rest := Walk.tells_reading columns table items condition returning v
      have only := targets_update ctes target given items condition returning
      obtain ⟨t, here⟩ : ∃ t, table = some t := by
        refine Option.ne_none_iff_exists'.mp fun absent => named ?_
        rw [only, ← absent]
        exact List.mem_cons_self
      refine ⟨t, congrArg some (Walk.addTable_fst here).2.symm, here ▸ only, fun name mem => ?_,
        fun r mem => ?_⟩ <;> rw [← here]
      · exact rest.earlier.subset (owns name mem)
      · have whole : Outline.read (.update ctes target given items condition returning)
            = given.flatMap (fun a => ofAssigned a.2) ++ (ofSources items
              ++ ofOption .where condition ++ ofTerms .other returning) := by
          simp only [Outline.read, List.append_assoc]
        rw [whole, recorded_append, List.mem_append]
        rcases rest.mem_records mem with before | told
        · rcases provenance r before with earlier | own | told
          · rcases first.mem_records (records ▸ earlier) with none | told
            · exact nomatch none
            · exact .inr (.inl told)
          · exact .inl own
          · exact .inr (.inr (.inl told))
        · exact .inr (.inr (.inr told))

/-- What a statement without assignments records: the columns that it reads. -/
theorem uses_unassigned (o : Outline) (other : o.kind ≠ .update) :
    Walk.uses (Walk.outline o Walk.start) = recorded [] (o.declared ++ o.read) := by
  have none_yet : Walk.uses Walk.start = [] := rfl
  have target (t : Table) (w : Walk) : Walk.uses (w.addTarget t).2 = Walk.uses w :=
    Walk.uses_addTable t w
  cases o with
  | update => exact absurd rfl other
  | select q =>
      rw [Walk.outline, Walk.uses_select, none_yet]
      rfl
  | delete ctes t items condition returning =>
      simp only [Walk.outline]
      rw [Walk.uses_terms, Walk.uses_option]
      change Walk.uses (Walk.sources _ items _) ++ _ ++ _ = _
      rw [Walk.uses_sources, target, Walk.uses_withTables, none_yet]
      simp only [declared, read, recorded_append, List.nil_append, List.append_assoc]
  | insert ctes t rows =>
      simp only [Walk.outline]
      cases rows with
      | none => rw [target, Walk.uses_withTables, none_yet, declared, read, List.append_nil,
          List.nil_append]
      | some q =>
          change Walk.uses (Walk.leaving _ (Walk.select [] false q _)) = _
          rw [Walk.uses_leaving, Walk.uses_select, target, Walk.uses_withTables, none_yet, declared,
            read, recorded_append, List.nil_append]

/-- Only an `UPDATE` records an assignment. -/
theorem kind_of_assignment (o : Outline) {r : UsageRecord} (mem : r ∈ o.usage.records)
    (assigns : r.use = .assignment) : o.kind = .update := by
  refine Decidable.byContradiction fun other => ?_
  have listed : (r.use, r.column) ∈ Walk.uses (Walk.outline o Walk.start) := List.mem_map_of_mem mem
  rw [o.uses_unassigned other, assigns] at listed
  exact nomatch (mem_recorded_assignment.mp listed).1

end Outline

end IndexAdvisor
