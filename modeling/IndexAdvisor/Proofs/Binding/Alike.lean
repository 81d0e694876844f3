import IndexAdvisor.Proofs.Binding.Owner
import IndexAdvisor.Proofs.Usage.Absorb

/-! # Sessions alike for a statement

Two sessions are alike for a statement if both know its tables, give the columns it refers to the
same owners, and the usage of the second is that of the first beside earlier usage. Every part of
binding that succeeds on the one succeeds on the other, with the same result. An `INSERT` asks for
no owners, so they do not matter there.
-/

namespace IndexAdvisor

/-- The sessions are alike for a statement, with earlier usage beside that of the first. -/
structure Session.Alike (setting : Setting) (usage : StatementUsage) (before : Tracker)
    (s t : Session) : Prop where
  left : s.catalog.Covers setting usage.tables
  right : t.catalog.Covers setting usage.tables
  owner : usage.kind ≠ .insert → ∀ column context, (column, context) ∈ usage.references →
    columnOwner t usage.tables column context = columnOwner s usage.tables column context
  usage : t.usage = before.absorb s.usage

namespace Step

variable {α : Type} {setting : Setting} {usage : StatementUsage} {before : Tracker}

section Learning

variable {s s' t t' : Session}

/-- What a session learns does not change the owners it gives. -/
theorem columnOwner_learns (covers : s.catalog.Covers setting usage.tables)
    (learns : s.Learns setting s') (column : ColumnName) {context : Option String}
    (read : ∀ found, context = some found → found ∈ usage.tables) :
    columnOwner s' usage.tables column context = columnOwner s usage.tables column context := by
  rw [columnOwner_eq, columnOwner_eq, learns.aliases,
    (covers.learns learns).fallenOwner_eq covers column.name read]

theorem alike_learns (contexts : ∀ column context, (column, context) ∈ usage.references →
      ∀ found, context = some found → found ∈ usage.tables)
    (alike : s.Alike setting usage before t) (first : s.Learns setting s')
    (second : t.Learns setting t') : s'.Alike setting usage before t' where
  left := alike.left.learns first
  right := alike.right.learns second
  owner kind column context mem := by
    have read := contexts column context mem
    rw [columnOwner_learns alike.left first column read,
      columnOwner_learns alike.right second column read, alike.owner kind column context mem]
  usage := by rw [first.usage, second.usage, alike.usage]

end Learning

section Parts

variable (contexts : ∀ column context, (column, context) ∈ usage.references →
  ∀ found, context = some found → found ∈ usage.tables)

include contexts

theorem carries_answers {x : Step α} {result : Except Failure α}
    (answers : Answers setting x result) : Carries (Session.Alike setting usage before) x := by
  intro s t a s' alike given
  obtain ⟨u, run, learns⟩ := answers s alike.left.faithful
  obtain ⟨v, run', learns'⟩ := answers t alike.right.faithful
  obtain ⟨rfl, rfl⟩ : result = .ok a ∧ u = s' := by simpa [Gives, run] using given
  exact ⟨v, run', alike_learns contexts alike learns learns'⟩

theorem carries_sampleTargets (fixed : setting.database.IsFixed) (targets : List (Option String)) :
    Carries (Session.Alike setting usage before) (sampleTargets setting targets) := by
  induction targets with
  | nil => exact carries_pure _
  | cons target rest ih =>
      cases target with
      | none => exact carries_throw _
      | some table =>
          exact carries_bind (carries_answers contexts (answers_sampleRow fixed table)) fun _ => ih

theorem carries_columnValue (fixed : setting.database.IsFixed) (table column : String)
    (type : Sql.SqlType) :
    Carries (Session.Alike setting usage before) (columnValue setting table column type) := by
  refine carries_bind (carries_answers contexts (answers_sampleRow fixed table)) fun row => ?_
  split <;> exact carries_pure _

theorem carries_literalOf (fixed : setting.database.IsFixed) (kind : usage.kind ≠ .insert)
    {site : ParameterSite} (mem : site ∈ usage.parameters) :
    Carries (Session.Alike setting usage before) (literalOf setting usage.tables site) := by
  unfold literalOf
  cases named : site.column with
  | none => cases site.clause <;> first | exact carries_pure _ | exact carries_throw _
  | some column =>
      have referred : (column, site.table) ∈ usage.references :=
        List.mem_append_right _ (List.mem_filterMap.mpr ⟨site, mem, by simp [named]⟩)
      refine carries_get (fun s t alike => ?_) fun s => ?_
      · rw [alike.owner kind column site.table referred]
      · cases columnOwner s usage.tables column site.table with
        | none => exact carries_throw _
        | some table =>
            refine carries_bind (carries_answers contexts (answers_introspect fixed table))
              fun schema => ?_
            cases schema.columnType? column.name with
            | none => exact carries_throw _
            | some type =>
                refine carries_bind (carries_columnValue contexts fixed table _ type) fun value => ?_
                exact carries_bind (carries_require _ _) fun literal => carries_pure _

theorem carries_literalsOf (fixed : setting.database.IsFixed) (kind : usage.kind ≠ .insert)
    {sites : List ParameterSite} (listed : ∀ site ∈ sites, site ∈ usage.parameters)
    (known : List (Nat × Sql.SqlType × String)) :
    Carries (Session.Alike setting usage before) (literalsOf setting usage.tables sites known) := by
  induction sites generalizing known with
  | nil => exact carries_pure _
  | cons site rest ih =>
      have later (site : ParameterSite) (mem : site ∈ rest) : site ∈ usage.parameters :=
        listed site (List.mem_cons_of_mem _ mem)
      rw [literalsOf]
      split
      · exact ih later known
      · exact carries_bind (carries_literalOf contexts fixed kind (listed site List.mem_cons_self))
          fun literal => ih later _

theorem carries_bindLiterals (fixed : setting.database.IsFixed) (kind : usage.kind ≠ .insert)
    (parsed : Parsed) :
    Carries (Session.Alike setting usage before) (bindLiterals setting parsed usage) := by
  refine carries_bind (carries_literalsOf contexts fixed kind (fun site mem => ?_) []) fun literals => ?_
  · exact List.mem_mergeSort.mp mem
  dsimp only
  split
  · exact carries_bind (carries_require _ _) fun sql => carries_pure _
  · exact carries_throw _

end Parts

/-! ## Usage -/

theorem alike_touch {s t : Session} (alike : s.Alike setting usage before t)
    (kind : StatementKind) (table : Option String) (query : String) :
    Session.Alike setting usage before { s with usage := s.usage.recordTouch kind table query }
      { t with usage := t.usage.recordTouch kind table query } :=
  ⟨alike.left, alike.right, alike.owner, by simp only [alike.usage, Tracker.absorb_recordTouch]⟩

theorem carries_registerTouches (query : String) :
    Carries (Session.Alike setting usage before) (registerTouches query usage) := by
  have folded (touched : List (Option String)) : ∀ s t : Session,
      s.Alike setting usage before t → Session.Alike setting usage before
        { s with usage := touched.foldl (fun u table => u.recordTouch usage.kind table query) s.usage }
        { t with usage := touched.foldl (fun u table => u.recordTouch usage.kind table query) t.usage } := by
    induction touched with
    | nil => exact fun s t alike => alike
    | cons table rest ih => exact fun s t alike => ih _ _ (alike_touch alike usage.kind table query)
  exact carries_modify (folded _)

theorem alike_recordUse {s t : Session} (alike : s.Alike setting usage before t)
    (kind : usage.kind ≠ .insert) (query : String) {record : UsageRecord} (mem : record ∈ usage.records)
    (contexts : ∀ found, record.table = some found → found ∈ usage.tables) :
    Session.Alike setting usage before
      { s with usage := recordUse s query usage.tables record }
      { t with usage := recordUse t query usage.tables record } := by
  refine ⟨alike.left, alike.right, alike.owner, ?_⟩
  have referred : (record.column, record.table) ∈ usage.references :=
    List.mem_append_left _ (List.mem_map.mpr ⟨record, mem, rfl⟩)
  simp only [recordUse, alike.owner kind _ _ referred]
  cases owned : columnOwner s usage.tables record.column record.table with
  | none => exact alike.usage
  | some owner =>
      have listed := columnOwner_mem contexts owned
      simp only [Option.filter, alike.left.known owner listed, alike.right.known owner listed,
        if_true, alike.usage]
      cases record.use with
      | join => exact Tracker.absorb_recordJoin ..
      | assignment => exact Tracker.absorb_recordUpdate ..
      | membership | condition => exact Tracker.absorb_recordFilter ..

theorem carries_recordUses (contexts : ∀ column context, (column, context) ∈ usage.references →
      ∀ found, context = some found → found ∈ usage.tables) (kind : usage.kind ≠ .insert)
    (query : String) :
    Carries (Session.Alike setting usage before) (recordUses query usage) := by
  have folded (records : List UsageRecord) (listed : ∀ r ∈ records, r ∈ usage.records) :
      ∀ s t : Session, s.Alike setting usage before t → Session.Alike setting usage before
        (records.foldl (fun s r => { s with usage := recordUse s query usage.tables r }) s)
        (records.foldl (fun s r => { s with usage := recordUse s query usage.tables r }) t) := by
    induction records with
    | nil => exact fun s t alike => alike
    | cons r rest ih =>
        intro s t alike
        have mem := listed r List.mem_cons_self
        refine ih (fun r later => listed r (List.mem_cons_of_mem _ later)) _ _ ?_
        exact alike_recordUse alike kind query mem (contexts r.column r.table
          (List.mem_append_left _ (List.mem_map.mpr ⟨r, mem, rfl⟩)))
  exact carries_modify (folded _ fun _ => id)

/-- A statement whose tables and aliases are known is bound in the same way on alike sessions. -/
theorem carries_bindKnown (contexts : ∀ column context, (column, context) ∈ usage.references →
      ∀ found, context = some found → found ∈ usage.tables) (fixed : setting.database.IsFixed)
    (query : String) (parsed : Parsed) :
    Carries (Session.Alike setting usage before) (bindKnown setting query parsed usage) := by
  refine carries_bind (carries_registerTouches query) fun _ => ?_
  cases kind : usage.kind with
  | insert => cases parsed.hasPlaceholders <;> exact carries_pure _
  | select | update | delete =>
      have other : usage.kind ≠ .insert := by simp [kind]
      refine carries_bind (carries_sampleTargets contexts fixed _) fun _ => ?_
      refine carries_bind (carries_recordUses contexts other query) fun _ => ?_
      cases parsed.hasPlaceholders with
      | false => exact carries_pure _
      | true =>
          exact carries_bind (carries_bindLiterals contexts fixed other parsed) fun _ => carries_pure _

end Step

end IndexAdvisor
