import IndexAdvisor.Proofs.Binding.Kept
import IndexAdvisor.Proofs.Binding.Owner
import IndexAdvisor.Proofs.Usage.Absorb

/-! # What binding goes by

Binding asks for the owner of a column at two places: when it records how the column is used, and
when it puts a literal in the place of a placeholder beside it. All of this goes by the owners that
the columns have in the session afterwards, whatever database there is.
-/

namespace IndexAdvisor

open Sql (SqlType)
open Text (lowercase)

/-! ## Owners while tables are known -/

namespace Step

variable {setting : Setting} {s s' : Session}

theorem gives_get {α : Type} {f : Session → Step α} {a : α} :
    Gives (get >>= f) s a s' ↔ Gives (f s) s a s' := by
  simp only [Gives, outcome_bind, outcome_get]

theorem known_of_introspectAll {tables : List String}
    (given : Gives (introspectAll setting tables) s () s') : ∀ t ∈ tables, s'.catalog.has t := by
  induction tables generalizing s with
  | nil => exact nofun
  | cons table rest ih =>
      obtain ⟨schema, t, first, later⟩ := gives_bind.mp given
      have grows := grows_of_keeps (keeps_introspectAll (lasting_grows t) fun _ _ => trivial) later
      refine List.forall_mem_cons.mpr ⟨?_, ih later⟩
      exact Option.isSome_iff_exists.mpr ⟨schema, grows.known _ _ (known_of_introspect first)⟩

end Step

/-- A session that has learned more knows the same tables. -/
theorem Session.Grows.knows {s s' : Session} (grows : s.Grows s') {tables : List String}
    (known : ∀ t ∈ tables, s.catalog.has t) : ∀ t ∈ tables, s'.catalog.has t := by
  intro t mem
  obtain ⟨schema, found⟩ := Option.isSome_iff_exists.mp (known t mem)
  exact Option.isSome_iff_exists.mpr ⟨schema, grows.known _ _ found⟩

/-- A session that has learned more gives a column of known tables no other owner. -/
theorem Session.Grows.columnOwner_eq {s s' : Session} (grows : s.Grows s') {tables : List String}
    (known : ∀ t ∈ tables, s.catalog.has t) (column : ColumnName) {context : Option String}
    (read : ∀ t, context = some t → t ∈ tables) :
    columnOwner s' tables column context = columnOwner s tables column context := by
  have same (t : String) (mem : t ∈ context.toList ++ tables) :
      s'.catalog.hasColumn t column.name = s.catalog.hasColumn t column.name := by
    have listed : t ∈ tables := by
      rcases List.mem_append.mp mem with here | listed
      · exact read t (Option.mem_toList.mp here)
      · exact listed
    obtain ⟨schema, found⟩ := Option.isSome_iff_exists.mp (known t listed)
    rw [Catalog.hasColumn, Catalog.hasColumn, found, Catalog.find?, grows.known _ schema found]
  rw [IndexAdvisor.columnOwner_eq, IndexAdvisor.columnOwner_eq, grows.aliases, fallenOwner,
    fallenOwner, List.find?_congr same]

/-! ## Records -/

/-- The fact that a column of an owner is used by a query. -/
def ColumnUse.IsOf (fact : ColumnUse) (owner : Option String) (query column : String) : Prop :=
  owner = some fact.table ∧ fact.query = query ∧ fact.column = column

section Records

variable {s : Session} {query : String} {tables : List String} {fact : ColumnUse}

theorem mem_filtered_recordUse {r : UsageRecord}
    (has : ∀ owner, columnOwner s tables r.column r.table = some owner → s.catalog.has owner) :
    fact ∈ (recordUse s query tables r).filtered ↔
      fact ∈ s.usage.filtered ∨ (r.use = .condition ∨ r.use = .membership) ∧
        fact.IsOf (columnOwner s tables r.column r.table) query r.column.name := by
  unfold recordUse
  cases owned : columnOwner s tables r.column r.table with
  | none => simp [ColumnUse.IsOf]
  | some owner =>
      obtain ⟨table, by', column⟩ := fact
      cases used : r.use <;>
        simp [Option.filter, has owner owned, Tracker.recordFilter, Tracker.recordJoin,
          Tracker.recordUpdate, mem_note, ColumnUse.IsOf, eq_comm, or_comm]

theorem mem_joined_recordUse {r : UsageRecord}
    (has : ∀ owner, columnOwner s tables r.column r.table = some owner → s.catalog.has owner) :
    fact ∈ (recordUse s query tables r).joined ↔
      fact ∈ s.usage.joined ∨ r.use = .join ∧
        fact.IsOf (columnOwner s tables r.column r.table) query r.column.name := by
  unfold recordUse
  cases owned : columnOwner s tables r.column r.table with
  | none => simp [ColumnUse.IsOf]
  | some owner =>
      obtain ⟨table, by', column⟩ := fact
      cases used : r.use <;>
        simp [Option.filter, has owner owned, Tracker.recordFilter, Tracker.recordJoin,
          Tracker.recordUpdate, mem_note, ColumnUse.IsOf, eq_comm, or_comm]

end Records

/-- The columns in conditions that the second session has recorded over the first are those of the
    records, each under its owner. -/
structure Session.Records (query : String) (tables : List String) (records : List UsageRecord)
    (s s' : Session) : Prop where
  filtered : ∀ fact, fact ∈ s'.usage.filtered ↔
    fact ∈ s.usage.filtered ∨ ∃ r ∈ records, (r.use = .condition ∨ r.use = .membership) ∧
      fact.IsOf (columnOwner s' tables r.column r.table) query r.column.name
  joined : ∀ fact, fact ∈ s'.usage.joined ↔
    fact ∈ s.usage.joined ∨ ∃ r ∈ records, r.use = .join ∧
      fact.IsOf (columnOwner s' tables r.column r.table) query r.column.name

/-- Recording changes nothing but the usage, so the owners stay. -/
theorem Session.records_foldl (s : Session) (query : String) {tables : List String}
    (records : List UsageRecord) (has : ∀ r ∈ records, ∀ owner,
      columnOwner s tables r.column r.table = some owner → s.catalog.has owner) :
    ∃ usage, records.foldl (fun s r => { s with usage := recordUse s query tables r }) s
        = { s with usage } ∧ s.Records query tables records { s with usage } := by
  induction records generalizing s with
  | nil => exact ⟨s.usage, rfl, ⟨by simp, by simp⟩⟩
  | cons r rest ih =>
      let recorded : Session := { s with usage := recordUse s query tables r }
      obtain ⟨usage, run, later⟩ := ih recorded fun r mem => has r (List.mem_cons_of_mem _ mem)
      have first := has r List.mem_cons_self
      refine ⟨usage, run, ⟨fun fact => ?_, fun fact => ?_⟩⟩
      · rw [later.filtered, mem_filtered_recordUse first, or_assoc]
        simp only [List.mem_cons, or_and_right, exists_or, exists_eq_left]
        rfl
      · rw [later.joined, mem_joined_recordUse first, or_assoc]
        simp only [List.mem_cons, or_and_right, exists_or, exists_eq_left]
        rfl

/-- What is learned later does not change what was recorded by owners. -/
theorem Session.Records.grows {query : String} {tables : List String} {records : List UsageRecord}
    {s t u v : Session} (recorded : t.Records query tables records u)
    (filtered : t.usage.filtered = s.usage.filtered) (joined : t.usage.joined = s.usage.joined)
    (grows : u.Grows v) (known : ∀ t ∈ tables, u.catalog.has t)
    (read : ∀ r ∈ records, ∀ t, r.table = some t → t ∈ tables) :
    s.Records query tables records v := by
  have same (r : UsageRecord) (mem : r ∈ records) :
      columnOwner v tables r.column r.table = columnOwner u tables r.column r.table :=
    grows.columnOwner_eq known r.column (read r mem)
  refine ⟨fun fact => ?_, fun fact => ?_⟩
  · rw [grows.usage, recorded.filtered, filtered]
    exact or_congr_right (exists_congr fun r => and_congr_right fun mem => by rw [same r mem])
  · rw [grows.usage, recorded.joined, joined]
    exact or_congr_right (exists_congr fun r => and_congr_right fun mem => by rw [same r mem])

/-! ## Literals -/

/-- The value of a column in a sampled row, or else the default of its type. -/
def sampledValue (now : DateTime) (row : Entries Value) (column : String) (type : SqlType) : Value :=
  match row.find? column with
  | none | some .null => type.defaultValue now
  | some value => value

/-- The literal is of the table that the column of a placeholder belongs to, and shows the value of
    that column in the sampled row. A placeholder without a column counts rows. -/
def Session.Backs (now : DateTime) (tables : List String) (s : Session) (site : ParameterSite)
    (literal : SqlType × String) : Prop :=
  match site.column with
  | none => literal = (.integer, "0") ∨ literal = (.integer, "1")
  | some column => ∃ table schema row, columnOwner s tables column site.table = some table ∧
      s.catalog.find? table = some schema ∧
      s.catalog.samples.find? (lowercase table) = some row ∧
      schema.columnType? column.name = some literal.1 ∧
      Sql.renderLiteral (sampledValue now row column.name literal.1) literal.1 = .ok literal.2

section Literals

variable {setting : Setting} {tables : List String} {s s' : Session}

theorem Session.Backs.grows {site : ParameterSite} {literal : SqlType × String}
    (backs : s.Backs setting.now tables site literal) (grows : s.Grows s')
    (known : ∀ t ∈ tables, s.catalog.has t) (read : ∀ t, site.table = some t → t ∈ tables) :
    s'.Backs setting.now tables site literal := by
  unfold Session.Backs at backs ⊢
  cases named : site.column with
  | none =>
      rw [named] at backs
      exact backs
  | some column =>
      rw [named] at backs
      obtain ⟨table, schema, row, owned, found, sampled, typed, rendered⟩ := backs
      refine ⟨table, schema, row, ?_, grows.known _ _ found, grows.sampled _ _ sampled, typed, rendered⟩
      rw [grows.columnOwner_eq known column read, owned]

namespace Step

theorem value_of_columnValue {table column : String} {type : SqlType} {value : Value}
    (given : Gives (columnValue setting table column type) s value s') :
    ∃ row, s'.catalog.samples.find? (lowercase table) = some row ∧
      value = sampledValue setting.now row column type := by
  obtain ⟨row, t, sampled, rest⟩ := gives_bind.mp given
  have found := sampled_of_sampleRow sampled
  refine ⟨row, ?_⟩
  unfold sampledValue
  split at rest <;> next look =>
    obtain ⟨⟨⟩, rfl⟩ := Prod.mk.inj rest
    simp_all

theorem backs_of_literalOf {site : ParameterSite} {literal : SqlType × String}
    (given : Gives (literalOf setting tables site) s literal s')
    (known : ∀ t ∈ tables, s.catalog.has t) (read : ∀ t, site.table = some t → t ∈ tables) :
    s'.Backs setting.now tables site literal := by
  have grows := grows_of_keeps (keeps_literalOf (lasting_grows s) (site.within_all tables)) given
  unfold literalOf at given
  unfold Session.Backs
  cases named : site.column with
  | none =>
      simp only [named] at given
      cases clause : site.clause <;> simp [clause, Gives] at given <;> simp [given.1]
  | some column =>
      simp only [named] at given
      replace given := gives_get.mp given
      cases owned : columnOwner s tables column site.table with
      | none => simp [owned, Gives] at given
      | some table =>
          simp only [owned] at given
          obtain ⟨schema, t, described, rest⟩ := gives_bind.mp given
          cases typed : schema.columnType? column.name with
          | none => simp [typed, Gives] at rest
          | some type =>
              simp only [typed] at rest
              obtain ⟨value, u, valued, last⟩ := gives_bind.mp rest
              obtain ⟨text, v, rendered, ends⟩ := gives_bind.mp last
              obtain ⟨⟨⟩, rfl⟩ := Prod.mk.inj ends
              obtain ⟨row, sampled, rfl⟩ := value_of_columnValue valued
              have learned := grows_of_keeps (keeps_columnValue (lasting_grows t) trivial _ type) valued
              obtain ⟨shown, rfl⟩ := gives_require.mp rendered
              exact ⟨table, schema, row, (grows.columnOwner_eq known column read).trans owned,
                learned.known _ _ (known_of_introspect described), sampled, typed, shown⟩

/-- From one session to another, the literal of the placeholder is made. -/
def Makes (setting : Setting) (tables : List String) (s s' : Session) (site : ParameterSite)
    (literal : SqlType × String) : Prop :=
  ∃ t t', s.Grows t ∧ Gives (literalOf setting tables site) t literal t' ∧ t'.Grows s'

theorem Makes.backs {site : ParameterSite} {literal : SqlType × String}
    (made : Makes setting tables s s' site literal) (known : ∀ t ∈ tables, s.catalog.has t)
    (read : ∀ t, site.table = some t → t ∈ tables) : s'.Backs setting.now tables site literal := by
  obtain ⟨t, t', before, step, after⟩ := made
  have learned := grows_of_keeps (keeps_literalOf (lasting_grows t) (site.within_all tables)) step
  have known := before.knows known
  exact (backs_of_literalOf step known read).grows after (learned.knows known) read

/-- The placeholders that literals are made for: the first of each number that has none yet. -/
def leaders (known : List Nat) : List ParameterSite → List ParameterSite
  | [] => []
  | site :: rest =>
    if site.number ∈ known then leaders known rest else site :: leaders (known ++ [site.number]) rest

/-- The literals are made one after the other, and what is learned for one of them lasts. -/
theorem gives_literalsOf {sites : List ParameterSite} {before literals : List (Nat × SqlType × String)}
    (given : Gives (literalsOf setting tables sites before) s literals s') :
    ∃ made : List (ParameterSite × SqlType × String),
      literals = before ++ made.map (fun (site, literal) => (site.number, literal)) ∧
      made.map (·.1) = leaders (before.map (·.1)) sites ∧
      ∀ pair ∈ made, pair.1 ∈ sites ∧ Makes setting tables s s' pair.1 pair.2 := by
  induction sites generalizing before s with
  | nil =>
      obtain ⟨⟨⟩, rfl⟩ := Prod.mk.inj given
      exact ⟨[], (List.append_nil _).symm, rfl, List.forall_mem_nil _⟩
  | cons site rest ih =>
      rw [literalsOf] at given
      rw [leaders]
      split at given
      · next again =>
          rw [if_pos (by simpa using again)]
          obtain ⟨made, same, leads, makes⟩ := ih given
          exact ⟨made, same, leads, fun pair mem => (makes pair mem).imp_left (List.mem_cons_of_mem _)⟩
      · next other =>
          obtain ⟨literal, t, here, given⟩ := gives_bind.mp given
          -- what is learned for this literal lasts while those after it are made
          have learned := grows_of_keeps (keeps_literalOf (lasting_grows s) (site.within_all tables)) here
          have grows := grows_of_keeps
            (keeps_literalsOf (lasting_grows t) (fun site _ => site.within_all tables) _) given
          obtain ⟨made, rfl, leads, makes⟩ := ih given
          rw [if_neg (by simpa using other)]
          refine ⟨(site, literal) :: made, List.append_assoc .., ?_, List.forall_mem_cons.mpr ⟨?_, ?_⟩⟩
          · rw [List.map_cons, leads, List.map_append]
            rfl
          · exact ⟨List.mem_cons_self, s, t, .refl s, here, grows⟩
          · intro pair mem
            obtain ⟨listed, u, u', between, step, after⟩ := makes pair mem
            exact ⟨List.mem_cons_of_mem _ listed, u, u', learned.trans between, step, after⟩

end Step

end Literals

/-! ## Statements -/

/-- The statement whose text is rewritten. -/
def Parsed.limited (parsed : Parsed) (usage : StatementUsage) : Sql.Statement :=
  if usage.kind = .select ∧ usage.hasLimit then parsed.statement.limitedToOne else parsed.statement

/-- The parameter of a limit that is put in. -/
def StatementUsage.imposed (usage : StatementUsage) : List (SqlType × String) :=
  if usage.kind = .select ∧ usage.hasLimit then [(.integer, "1")] else []

/-- The statement is printed with literals in the place of its placeholders, each of which is backed
    by the session. -/
def BoundStatement.Shows (now : DateTime) (parsed : Parsed) (usage : StatementUsage) (s : Session)
    (bound : BoundStatement) : Prop :=
  ∃ (literals : List (Nat × SqlType × String)) (text : String),
    (parsed.limited usage).text? = some text ∧
    Sql.substitute text (literals.map fun (number, _, literal) => (number, literal)) = .ok bound.sql ∧
    bound.parameters = literals.map (·.2) ++ usage.imposed ∧
    ∀ literal ∈ literals, ∃ site ∈ usage.parameters, site.number = literal.1 ∧
      s.Backs now usage.tables site literal.2

namespace Step

variable {setting : Setting} {query : String} {parsed : Parsed}

theorem shows_of_bindLiterals {usage : StatementUsage} {s s' : Session} {bound : BoundStatement}
    (given : Gives (bindLiterals setting parsed usage) s bound s')
    (known : ∀ t ∈ usage.tables, s.catalog.has t)
    (read : ∀ site ∈ usage.parameters, ∀ t, site.table = some t → t ∈ usage.tables) :
    bound.Shows setting.now parsed usage s' := by
  obtain ⟨literals, t, made, rest⟩ := gives_bind.mp given
  obtain ⟨pairs, rfl, -, makes⟩ := gives_literalsOf made
  rw [List.nil_append] at rest
  dsimp only at rest
  split at rest
  · next text printed =>
      obtain ⟨sql, u, substituted, last⟩ := gives_bind.mp rest
      obtain ⟨⟨⟩, rfl⟩ := Prod.mk.inj last
      obtain ⟨put, rfl⟩ := gives_require.mp substituted
      refine ⟨_, text, printed, put, rfl, List.forall_mem_map.mpr fun pair mem => ?_⟩
      obtain ⟨sorted, makes⟩ := makes pair mem
      have listed := List.mem_mergeSort.mp sorted
      exact ⟨pair.1, listed, rfl, makes.backs known (read pair.1 listed)⟩
  · simp [Gives] at rest

/-- Touches are recorded apart from conditions. -/
theorem conditions_of_registerTouches {usage : StatementUsage} {s s' : Session}
    (given : Gives (registerTouches query usage) s () s') :
    ∃ tracker, s' = { s with usage := tracker } ∧ tracker.filtered = s.usage.filtered ∧
      tracker.joined = s.usage.joined := by
  have folded (touched : List (Option String)) (tracker : Tracker) :
      let after := touched.foldl (fun u table => u.recordTouch usage.kind table query) tracker
      after.filtered = tracker.filtered ∧ after.joined = tracker.joined := by
    induction touched generalizing tracker with
    | nil => exact ⟨rfl, rfl⟩
    | cons table rest ih => exact ih (tracker.recordTouch usage.kind table query)
  obtain ⟨-, rfl⟩ := Prod.mk.inj given
  exact ⟨_, rfl, folded _ _⟩

/-- What a statement has come to that is bound. -/
structure Bound (setting : Setting) (query : String) (parsed : Parsed) (s : Session)
    (usage : StatementUsage) (result : BindResult) (s' : Session) : Prop where
  kind : result.kind = usage.kind
  tables : result.tables = usage.tables
  aliases : s'.aliases = s.aliases.withAll usage.aliases
  known : ∀ t ∈ usage.tables, s'.catalog.has t
  records : usage.kind ≠ .insert → s.Records query usage.tables usage.records s'
  shows : usage.kind ≠ .insert → parsed.hasPlaceholders →
    ∃ bound, result.binding = .bound bound ∧ bound.Shows setting.now parsed usage s'

/-- A statement that is no `INSERT` is sampled, recorded and rewritten. -/
theorem bindKnown_eq (setting : Setting) (query : String) (parsed : Parsed) {usage : StatementUsage} (kind : usage.kind ≠ .insert) :
    ∃ targets, bindKnown setting query parsed usage = (do
      registerTouches query usage
      sampleTargets setting targets
      recordUses query usage
      if parsed.hasPlaceholders then
        return ⟨usage.kind, usage.tables, .bound (← bindLiterals setting parsed usage)⟩
      else return ⟨usage.kind, usage.tables, .bound ⟨parsed.query, parsed.query, []⟩⟩) := by
  refine ⟨if usage.kind = .select then [] else usage.targets, ?_⟩
  unfold bindKnown
  split
  · next insert => exact absurd insert kind
  · rfl

/-- The uses of a statement's columns are recorded by owners, and what is learned later leaves aliases,
    tables and records as they are. -/
theorem records_of_recordUses {o : Outline} {targets : List (Option String)} {s t u v w x : Session}
    (same : t.usage = s.usage) (known : ∀ name ∈ o.usage.tables, t.catalog.has name)
    (touched : Gives (registerTouches query o.usage) t () u)
    (sampled : Gives (sampleTargets setting targets) u () v)
    (recorded : Gives (recordUses query o.usage) v () w) (later : w.Grows x) :
    x.aliases = t.aliases ∧ (∀ name ∈ o.usage.tables, x.catalog.has name) ∧
      s.Records query o.usage.tables o.usage.records x := by
  have sound := Walk.sound_outline o
  obtain ⟨tracker, rfl, filtered, joined⟩ := conditions_of_registerTouches touched
  have grows := grows_of_keeps (keeps_sampleTargets (lasting_grows _) fun _ _ => trivial) sampled
  have knownV : ∀ name ∈ o.usage.tables, v.catalog.has name := grows.knows known
  obtain ⟨usage, run, records⟩ := v.records_foldl query o.usage.records
    fun r mem owner owned => knownV owner (columnOwner_mem (sound.records r mem) owned)
  obtain ⟨-, rfl⟩ : _ ∧ { v with usage } = w := by
    rw [← run]
    exact Prod.mk.inj recorded
  have filtered' : v.usage.filtered = s.usage.filtered := by
    rw [grows.usage, filtered, same]
  have joined' : v.usage.joined = s.usage.joined := by
    rw [grows.usage, joined, same]
  exact ⟨later.aliases.trans grows.aliases, later.knows knownV,
    records.grows filtered' joined' later knownV sound.records⟩

theorem bound_of_bind {s s' : Session} {result : BindResult}
    (given : Gives (bind setting query parsed) s result s') :
    ∃ o, parsed.outline = .ok o ∧ Bound setting query parsed s o.usage result s' := by
  obtain ⟨o, t, outlined, introspected, given⟩ := gives_bind_known given
  refine ⟨o, outlined, ?_⟩
  have learned := grows_of_keeps (keeps_introspectAll (lasting_grows s) fun _ _ => trivial)
    introspected
  have known := known_of_introspectAll introspected
  have aliases : (aliased o.usage t).aliases = s.aliases.withAll o.usage.aliases :=
    congrArg (Aliases.withAll · o.usage.aliases) learned.aliases
  by_cases kind : o.usage.kind = .insert
  · -- of an `INSERT` only the touches are recorded
    obtain ⟨_, u, touched, given⟩ := gives_bind.mp given
    obtain ⟨tracker, rfl, -⟩ := conditions_of_registerTouches touched
    simp only [kind] at given
    have ends : result.kind = .insert ∧ result.tables = o.usage.tables ∧
        { aliased o.usage t with usage := tracker } = s' := by
      split at given <;>
        · obtain ⟨⟨⟩, rfl⟩ := Prod.mk.inj given
          exact ⟨rfl, rfl, rfl⟩
    obtain ⟨named, tables, rfl⟩ := ends
    exact ⟨named.trans kind.symm, tables, aliases, known, absurd kind, absurd kind⟩
  · obtain ⟨targets, same⟩ := bindKnown_eq setting query parsed kind
    rw [same] at given
    obtain ⟨_, u, touched, given⟩ := gives_bind.mp given
    obtain ⟨_, v, sampled, given⟩ := gives_bind.mp given
    obtain ⟨_, w, recorded, given⟩ := gives_bind.mp given
    have ended {x : Session} (later : w.Grows x) :=
      records_of_recordUses (t := aliased o.usage t) learned.usage known touched sampled recorded later
    split at given
    · next marked =>
        obtain ⟨bound, x, shown, given⟩ := gives_bind.mp given
        obtain ⟨⟨⟩, rfl⟩ := Prod.mk.inj given
        obtain ⟨kept, knownX, records⟩ := ended
          (grows_of_keeps (keeps_bindLiterals (lasting_grows w) parsed o.usage.within_all) shown)
        exact ⟨rfl, rfl, kept.trans aliases, knownX, fun _ => records, fun _ _ =>
          ⟨bound, rfl, shows_of_bindLiterals shown (ended (.refl w)).2.1 (Walk.sound_outline o).parameters⟩⟩
    · next unmarked =>
        obtain ⟨⟨⟩, rfl⟩ := Prod.mk.inj given
        obtain ⟨kept, knownW, records⟩ := ended (.refl w)
        exact ⟨rfl, rfl, kept.trans aliases, knownW, fun _ => records, fun _ marked => absurd marked unmarked⟩

end Step

end IndexAdvisor
