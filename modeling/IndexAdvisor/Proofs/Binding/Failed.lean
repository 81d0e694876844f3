import IndexAdvisor.Proofs.Binding.Stages
import IndexAdvisor.Proofs.Scope.Tables

/-! # Bindings that fail

What a binding has recorded when it fails stays recorded. Why it failed tells how much that is:
nothing if the tables of the statement are not known, its aliases and touches if a changed table
cannot be sampled, and all that a success records if a placeholder gets no literal.
-/

namespace IndexAdvisor

namespace Failure

/-- Why the tables of a statement are not known. -/
inductive OfTables : Failure → Prop
  | assignment (cause : Outline.AssignmentError) : OfTables (.assignment cause)
  | missing (table schema : String) : OfTables (.schema (.missing table schema))
  | row (cause : RowError) : OfTables (.row cause)
  | fault (table : String) (fault : Fault) : OfTables (Step.introspectionFailure table fault)

/-- Why a changed table is not sampled. -/
inductive OfTarget : Failure → Prop
  | nameless : OfTarget .nameless
  | fault (table : String) (fault : Fault) : OfTarget (Step.samplingFailure table fault)

/-- Why literals are not put in. -/
inductive OfLiterals : Failure → Prop
  | binding (cause : BindingError) : OfLiterals (.binding cause)
  | unprintable : OfLiterals .unprintable
  | fault (table : String) (fault : Fault) : OfLiterals (Step.samplingFailure table fault)

end Failure

/-- The structure of some tables is known. -/
def Session.Knows (tables : List String) (s : Session) : Prop := ∀ t ∈ tables, s.catalog.has t

namespace Step

variable {setting : Setting} {tables : List String} {P : Session → Prop} {Q : Failure → Prop}

theorem lasting_knows (setting : Setting) (tables : List String) :
    Lasting setting (fun _ => True) (Session.Knows tables) where
  introspect table _ s known := (keeps_introspect table s (.refl s)).knows known
  sampleRow table _ s known := (keeps_sampleRow table s (.refl s)).knows known

/-! ## Why a step fails -/

theorem raises_readTable (table : String) :
    Raises (fun _ => True) Failure.OfTables (readTable setting table) := by
  have asks (what : Metadata) : Raises (fun _ => True) Failure.OfTables (metadata setting what table) :=
    raises_demand (.fault table)
  have keeps {α : Type} (x : Step α) : Keeps (fun _ => True) x := fun _ _ => trivial
  have reads {α : Type} (result : Except RowError α) :
      Raises (fun _ => True) Failure.OfTables (require result .row) :=
    raises_require fun cause _ => .row cause
  refine raises_bind (asks .columns) (keeps _) fun rows => ?_
  dsimp only
  split
  · exact raises_throw_bind (.missing table _) _
  refine raises_bind (reads _) (keeps _) fun columns => ?_
  refine raises_bind (asks .indexes) (keeps _) fun indexRows => ?_
  refine raises_bind (reads _) (keeps _) fun indexes => ?_
  refine raises_bind (asks .primaryKey) (keeps _) fun keyRows => ?_
  refine raises_bind (asks .exportedKeys) (keeps _) fun exportedRows => ?_
  refine raises_bind (reads _) (keeps _) fun exported => ?_
  refine raises_bind (asks .importedKeys) (keeps _) fun importedRows => ?_
  exact raises_bind (reads _) (keeps _) fun imported => raises_pure _

theorem raises_introspect (table : String) :
    Raises (fun _ => True) Failure.OfTables (introspect setting table) := by
  refine raises_get fun s _ => ?_
  cases s.catalog.tables.find? (Text.lowercase table) with
  | some known => exact raises_pure _
  | none =>
      refine raises_bind (raises_readTable _) (fun _ _ => trivial) fun found => ?_
      exact raises_bind (raises_modify _) (fun _ _ => trivial) fun _ => raises_pure _

theorem raises_introspectAll (tables : List String) :
    Raises (fun _ => True) Failure.OfTables (introspectAll setting tables) := by
  induction tables with
  | nil => exact raises_pure _
  | cons table rest ih => exact raises_bind (raises_introspect table) (fun _ _ => trivial) fun _ => ih

theorem raises_sampleRow {table : String} (described : Raises P Q (introspect setting table))
    (kept : Keeps P (introspect setting table))
    (asked : ∀ (s : Session) question, P s → P { s with asked := question :: s.asked })
    (faults : ∀ table fault, Q (samplingFailure table fault)) : Raises P Q (sampleRow setting table) := by
  refine raises_get fun s _ => ?_
  cases s.catalog.samples.find? (Text.lowercase table) with
  | some row => exact raises_pure _
  | none =>
      have again : introspect setting (Text.lowercase table) = introspect setting table := by
        simp only [introspect, Text.lowercase_lowercase]
      rw [again]
      refine raises_bind described kept fun schema => ?_
      refine raises_bind (raises_demand (faults _)) (keeps_demand asked _ _ _) fun row => ?_
      -- the sample is only put down now
      intro t _ e failed
      cases failed

/-- While a property of sessions holds, the introspection and sampling of some tables fail only in some
    way. -/
structure Limits (setting : Setting) (among : String → Prop) (P : Session → Prop) (Q : Failure → Prop) :
    Prop where
  lasting : Lasting setting among P
  introspect : ∀ table, among table → Raises P Q (introspect setting table)
  sampleRow : ∀ table, among table → Raises P Q (sampleRow setting table)

section Limits

variable {among : String → Prop} (limits : Limits setting among P Q)

include limits

theorem Limits.raises_targets (nameless : Q .nameless) {targets : List (Option String)}
    (listed : ∀ t, some t ∈ targets → among t) : Raises P Q (sampleTargets setting targets) := by
  induction targets with
  | nil => exact raises_pure _
  | cons target rest ih =>
      cases target with
      | none => exact raises_throw nameless
      | some table =>
          have mem := listed table List.mem_cons_self
          refine raises_bind (limits.sampleRow table mem) (limits.lasting.sampleRow table mem) fun _ => ?_
          exact ih fun t later => listed t (List.mem_cons_of_mem _ later)

theorem Limits.raises_value {table : String} (mem : among table) (column : String) (type : Sql.SqlType) :
    Raises P Q (columnValue setting table column type) := by
  refine raises_bind (limits.sampleRow table mem) (limits.lasting.sampleRow table mem) fun row => ?_
  split <;> exact raises_pure _

variable (flaws : ∀ cause, (∀ reason, cause ≠ .substitution reason) → Q (.binding cause))

include flaws

/-- A literal is not substituted yet when it is made. -/
theorem Limits.raises_literal {site : ParameterSite} (within : site.Within among tables) :
    Raises P Q (literalOf setting tables site) := by
  unfold literalOf
  cases beside : site.column with
  | none => cases site.clause <;> first | exact raises_pure _ | exact raises_throw (flaws _ nofun)
  | some column =>
      refine raises_get fun s _ => ?_
      cases owned : columnOwner s tables column site.table with
      | none => exact raises_throw (flaws _ nofun)
      | some table =>
          have mem := within s column table beside owned
          refine raises_bind (limits.introspect table mem) (limits.lasting.introspect table mem)
            fun schema => ?_
          cases schema.columnType? column.name with
          | none => exact raises_throw (flaws _ nofun)
          | some type =>
              refine raises_bind (limits.raises_value mem column.name type)
                (keeps_columnValue limits.lasting mem column.name type) fun value => ?_
              exact raises_bind (raises_require fun _ _ => flaws _ nofun) (keeps_require _ _) fun _ =>
                raises_pure _

theorem Limits.raises_literals {sites : List ParameterSite}
    (within : ∀ site ∈ sites, site.Within among tables) (known : List (Nat × Sql.SqlType × String)) : Raises P Q (literalsOf setting tables sites known) := by
  induction sites generalizing known with
  | nil => exact raises_pure _
  | cons site rest ih =>
      obtain ⟨first, later⟩ := List.forall_mem_cons.mp within
      rw [literalsOf]
      split
      · exact ih later known
      · exact raises_bind (limits.raises_literal flaws first) (keeps_literalOf limits.lasting first) fun _ =>
          ih later _

end Limits

/-- Tables that are known are introspected without failure. -/
theorem limits_knows (faults : ∀ table fault, Q (samplingFailure table fault)) :
    Limits setting (· ∈ tables) (Session.Knows tables) Q := by
  have lasting := lasting_knows setting tables
  have described (table : String) (mem : table ∈ tables) :
      Raises (Session.Knows tables) Q (introspect setting table) := by
    intro s known e failed
    rcases introspect_cases setting table s with ⟨schema, -, run⟩ | ⟨unknown, -⟩
    · rw [run] at failed
      exact nomatch failed
    · have found := known table mem
      rw [Catalog.has, unknown] at found
      exact nomatch found
  exact ⟨⟨fun table _ => lasting.introspect table trivial, fun table _ => lasting.sampleRow table trivial⟩,
    described, fun table mem =>
      raises_sampleRow (described table mem) (lasting.introspect table trivial) (fun _ _ => id) faults⟩

theorem raises_sampleTargets {targets : List (Option String)} (read : ∀ t, some t ∈ targets → t ∈ tables) :
    Raises (Session.Knows tables) Failure.OfTarget (sampleTargets setting targets) :=
  (limits_knows .fault).raises_targets .nameless read

theorem raises_finish (parsed : Parsed) (o : Outline) :
    Raises (Session.Knows o.usage.tables) Failure.OfLiterals (finish setting parsed o.usage) := by
  have lasting := lasting_knows setting o.usage.tables
  have sites (site : ParameterSite)
      (mem : site ∈ o.usage.parameters.mergeSort fun a b => a.number ≤ b.number) :
      site.Within (· ∈ o.usage.tables) o.usage.tables := fun _ _ _ _ =>
    columnOwner_mem ((Walk.sound_outline o).parameters site (List.mem_mergeSort.mp mem))
  have binds : Raises (Session.Knows o.usage.tables) Failure.OfLiterals
      (bindLiterals setting parsed o.usage) := by
    refine raises_bind ((limits_knows .fault).raises_literals (fun cause _ => .binding cause) sites _)
      (keeps_literalsOf lasting (fun site _ => site.within_all _) _) fun literals => ?_
    dsimp only
    split
    · exact raises_bind (raises_require fun _ _ => .binding _) (keeps_require _ _) fun _ => raises_pure _
    · exact raises_throw .unprintable
  unfold finish
  cases o.usage.kind with
  | insert =>
      dsimp only
      split <;> exact raises_pure _
  | select | update | delete =>
      dsimp only
      split
      · exact raises_bind binds (keeps_bindLiterals lasting parsed o.usage.within_all) fun _ =>
          raises_pure _
      · exact raises_pure _

/-! ## What a failure leaves behind -/

variable {query : String} {parsed : Parsed} {s s' : Session} {e : Failure}

end Step

end IndexAdvisor
