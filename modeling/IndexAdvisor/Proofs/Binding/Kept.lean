import IndexAdvisor.Binding
import IndexAdvisor.Proofs.Catalog.Learned
import IndexAdvisor.Proofs.Usage.Aliases

/-! # What binding keeps

A statement is bound in two parts: its tables are introspected and its aliases registered, and then
it is bound with both known. The second part changes no alias and forgets no table, whatever the
database answers and however the binding ends.
-/

namespace IndexAdvisor

/-- The table that the column of a placeholder belongs to is among some, whatever is known. -/
def ParameterSite.Within (among : String → Prop) (tables : List String) (site : ParameterSite) :
    Prop :=
  ∀ s column owner, site.column = some column →
    columnOwner s tables column site.table = some owner → among owner

/-- The tables that are sampled for a statement are among some. -/
structure StatementUsage.Within (among : String → Prop) (usage : StatementUsage) : Prop where
  targets : ∀ t, some t ∈ usage.targets → among t
  sites : ∀ site ∈ usage.parameters, site.Within among usage.tables

theorem ParameterSite.within_all (site : ParameterSite) (tables : List String) :
    site.Within (fun _ => True) tables := fun _ _ _ _ _ => trivial

theorem StatementUsage.within_all (usage : StatementUsage) : usage.Within fun _ => True :=
  ⟨fun _ _ => trivial, fun site _ => site.within_all _⟩

namespace Step

variable {setting : Setting}

/-- A property that introspection and sampling of some tables do not end. -/
structure Lasting (setting : Setting) (among : String → Prop) (P : Session → Prop) : Prop where
  introspect : ∀ table, among table → Keeps P (introspect setting table)
  sampleRow : ∀ table, among table → Keeps P (sampleRow setting table)

section Keeps

variable {among : String → Prop} {P : Session → Prop} (lasting : Lasting setting among P)

include lasting

theorem keeps_introspectAll {tables : List String} (listed : ∀ t ∈ tables, among t) :
    Keeps P (introspectAll setting tables) := by
  induction tables with
  | nil => exact keeps_pure _
  | cons table rest ih =>
      obtain ⟨first, later⟩ := List.forall_mem_cons.mp listed
      exact keeps_bind (lasting.introspect table first) fun _ => ih later

theorem keeps_sampleTargets {targets : List (Option String)}
    (listed : ∀ t, some t ∈ targets → among t) : Keeps P (sampleTargets setting targets) := by
  induction targets with
  | nil => exact keeps_pure _
  | cons target rest ih =>
      cases target with
      | none => exact keeps_throw _
      | some table =>
          refine keeps_bind (lasting.sampleRow table (listed table List.mem_cons_self)) fun _ => ?_
          exact ih fun t mem => listed t (List.mem_cons_of_mem _ mem)

theorem keeps_columnValue {table : String} (mem : among table) (column : String)
    (type : Sql.SqlType) : Keeps P (columnValue setting table column type) := by
  refine keeps_bind (lasting.sampleRow table mem) fun row => ?_
  split <;> exact keeps_pure _

theorem keeps_literalOf {tables : List String} {site : ParameterSite}
    (within : site.Within among tables) : Keeps P (literalOf setting tables site) := by
  unfold literalOf
  cases named : site.column with
  | none => cases site.clause <;> first | exact keeps_pure _ | exact keeps_throw _
  | some column =>
      refine keeps_get fun s _ => ?_
      cases owned : columnOwner s tables column site.table with
      | none => exact keeps_throw _
      | some table =>
          have mem := within s column table named owned
          refine keeps_bind (lasting.introspect table mem) fun schema => ?_
          cases schema.columnType? column.name with
          | none => exact keeps_throw _
          | some type =>
              exact keeps_bind (keeps_columnValue lasting mem column.name type) fun value =>
                keeps_bind (keeps_require _ _) fun _ => keeps_pure _

theorem keeps_literalsOf {tables : List String} {sites : List ParameterSite}
    (within : ∀ site ∈ sites, site.Within among tables)
    (known : List (Nat × Sql.SqlType × String)) :
    Keeps P (literalsOf setting tables sites known) := by
  induction sites generalizing known with
  | nil => exact keeps_pure _
  | cons site rest ih =>
      obtain ⟨first, later⟩ := List.forall_mem_cons.mp within
      rw [literalsOf]
      split
      · exact ih later known
      · exact keeps_bind (keeps_literalOf lasting first) fun _ => ih later _

theorem keeps_bindLiterals (parsed : Parsed) {usage : StatementUsage}
    (within : usage.Within among) : Keeps P (bindLiterals setting parsed usage) := by
  have sorted (site : ParameterSite)
      (mem : site ∈ usage.parameters.mergeSort fun a b => a.number ≤ b.number) :
      site.Within among usage.tables := within.sites site (List.mem_mergeSort.mp mem)
  refine keeps_bind (keeps_literalsOf lasting sorted _) fun literals => ?_
  dsimp only
  split
  · exact keeps_bind (keeps_require _ _) fun _ => keeps_pure _
  · exact keeps_throw _

theorem keeps_bindKnown (changes : ∀ s usage, P s → P { s with usage }) (query : String)
    (parsed : Parsed) {usage : StatementUsage} (within : usage.Within among) :
    Keeps P (bindKnown setting query parsed usage) := by
  have recorded (records : List UsageRecord) : ∀ s, P s →
      P (records.foldl (fun s r => { s with usage := recordUse s query usage.tables r }) s) := by
    induction records with
    | nil => exact fun s kept => kept
    | cons r rest ih => exact fun s kept => ih _ (changes s _ kept)
  refine keeps_bind (keeps_modify fun s kept => changes s _ kept) fun _ => ?_
  have targeted (kind : StatementKind) (t : String)
      (mem : some t ∈ if kind = .select then [] else usage.targets) : among t := by
    split at mem
    · exact nomatch mem
    · exact within.targets t mem
  cases usage.kind with
  | insert => cases parsed.hasPlaceholders <;> exact keeps_pure _
  | select | update | delete =>
      refine keeps_bind (keeps_sampleTargets lasting (targeted _)) fun _ => ?_
      refine keeps_bind (keeps_modify (recorded _)) fun _ => ?_
      cases parsed.hasPlaceholders with
      | false => exact keeps_pure _
      | true => exact keeps_bind (keeps_bindLiterals lasting parsed within) fun _ => keeps_pure _

end Keeps

theorem keeps_bind_of_lasting {P : Session → Prop} (lasting : Lasting setting (fun _ => True) P)
    (changes : ∀ s usage, P s → P { s with usage }) (named : ∀ s aliases, P s → P { s with aliases })
    (query : String) (parsed : Parsed) : Keeps P (bind setting query parsed) := by
  refine keeps_bind (keeps_require _ _) fun o => ?_
  refine keeps_bind (keeps_introspectAll lasting fun _ _ => trivial) fun _ => ?_
  refine keeps_bind (keeps_modify fun s => named s _) fun _ => ?_
  exact keeps_bindKnown lasting changes query parsed (StatementUsage.within_all _)

/-! ## Binding in two parts -/

section Parts

variable {query : String} {parsed : Parsed}

def aliased (usage : StatementUsage) (s : Session) : Session :=
  { s with aliases := s.aliases.withAll usage.aliases }

theorem outcome_bind_known {o : Outline} (outlined : parsed.outline = .ok o) {s s' : Session}
    (known : Gives (introspectAll setting o.usage.tables) s () s') :
    (bind setting query parsed).outcome s
      = (bindKnown setting query parsed o.usage).outcome (aliased o.usage s') := by
  have knows : (introspectAll setting o.usage.tables).outcome s = (.ok (), s') := known
  simp only [bind, registerAliases, outcome_bind, outcome_require, outlined, Except.mapError, knows,
    outcome_modify]
  rfl

theorem gives_bind_known {s s' : Session} {result : BindResult}
    (given : Gives (bind setting query parsed) s result s') :
    ∃ o t, parsed.outline = .ok o ∧ Gives (introspectAll setting o.usage.tables) s () t ∧
      Gives (bindKnown setting query parsed o.usage) (aliased o.usage t) result s' := by
  obtain ⟨o, _, required, rest⟩ := gives_bind.mp given
  obtain ⟨_, t, known, -⟩ := gives_bind.mp rest
  obtain ⟨outlined, rfl⟩ := gives_require.mp required
  have known : Gives (introspectAll setting o.usage.tables) s () t := known
  refine ⟨o, t, outlined, known, ?_⟩
  rw [Gives, ← outcome_bind_known outlined known]
  exact given

end Parts

end Step

/-! ## What is learned -/

/-- All that is known in the first catalog is known in the second. -/
def Catalog.Extends (c d : Catalog) : Prop :=
  ∀ name schema, c.tables.find? name = some schema → d.tables.find? name = some schema

theorem Catalog.Extends.refl (c : Catalog) : c.Extends c := fun _ _ => id

theorem Catalog.Extends.trans {c d e : Catalog} (first : c.Extends d) (second : d.Extends e) :
    c.Extends e :=
  fun name schema found => second name schema (first name schema found)

theorem Catalog.Extends.has {c d : Catalog} (more : c.Extends d) {table : String}
    (known : c.has table) : d.has table := by
  obtain ⟨schema, found⟩ := Option.isSome_iff_exists.mp known
  exact Option.isSome_of_eq_some (more _ schema found)

/-- A table that is known has the same columns when more is known. -/
theorem Catalog.Extends.hasColumn_eq {c d : Catalog} (more : c.Extends d) {table : String}
    (known : c.has table) (column : String) : d.hasColumn table column = c.hasColumn table column := by
  obtain ⟨schema, found⟩ := Option.isSome_iff_exists.mp known
  rw [Catalog.hasColumn, Catalog.hasColumn, found, Catalog.find?, more _ schema found]

/-- The second session knows all that the first knows, and differs in nothing else but notes and
    questions. -/
structure Session.Grows (s s' : Session) : Prop where
  aliases : s'.aliases = s.aliases
  usage : s'.usage = s.usage
  known : ∀ name schema, s.catalog.tables.find? name = some schema →
    s'.catalog.tables.find? name = some schema
  sampled : ∀ name row, s.catalog.samples.find? name = some row →
    s'.catalog.samples.find? name = some row

theorem Session.Grows.refl (s : Session) : s.Grows s := ⟨rfl, rfl, fun _ _ => id, fun _ _ => id⟩

theorem Session.Grows.trans {s t u : Session} (first : s.Grows t) (second : t.Grows u) :
    s.Grows u where
  aliases := second.aliases.trans first.aliases
  usage := second.usage.trans first.usage
  known name schema found := second.known name schema (first.known name schema found)
  sampled name row found := second.sampled name row (first.sampled name row found)

namespace Step

variable {setting : Setting} {u : Session}

theorem keeps_readTable (table : String) : Keeps u.Grows (readTable setting table) :=
  keeps_readTable_of_asks fun _ _ kept => ⟨kept.aliases, kept.usage, kept.known, kept.sampled⟩

theorem keeps_introspect (table : String) : Keeps u.Grows (introspect setting table) := by
  refine keeps_get fun s grown => ?_
  cases found : s.catalog.tables.find? (Text.lowercase table) with
  | some schema => exact keeps_pure _
  | none =>
      refine keeps_bind (keeps_readTable _) fun schema => keeps_bind (keeps_modify ?_) fun _ =>
        keeps_pure _
      intro t kept
      refine ⟨kept.aliases, kept.usage, fun name known look => ?_, kept.sampled⟩
      rw [Entries.find?_put]
      split
      · next same =>
          have both := found.symm.trans (same ▸ grown.known name known look)
          exact nomatch both
      · exact kept.known name known look

theorem keeps_sampleRow (table : String) : Keeps u.Grows (sampleRow setting table) := by
  refine keeps_get fun s grown => ?_
  cases found : s.catalog.samples.find? (Text.lowercase table) with
  | some row => exact keeps_pure _
  | none =>
      refine keeps_bind (keeps_introspect _) fun schema => ?_
      refine keeps_bind (keeps_demand
        (fun _ _ kept => ⟨kept.aliases, kept.usage, kept.known, kept.sampled⟩) _ _ _) fun row => ?_
      refine keeps_bind (keeps_modify fun t kept => ?_) fun _ => keeps_pure _
      refine ⟨kept.aliases, kept.usage, kept.known, fun name sample look => ?_⟩
      rw [Entries.find?_put]
      split
      · next same =>
          have both := found.symm.trans (same ▸ grown.sampled name sample look)
          exact nomatch both
      · exact kept.sampled name sample look

theorem lasting_grows (u : Session) : Lasting setting (fun _ => True) u.Grows :=
  ⟨fun table _ => keeps_introspect table, fun table _ => keeps_sampleRow table⟩

/-- What a step does that keeps what is learned. -/
theorem grows_of_keeps {α : Type} {x : Step α} {s s' : Session} {a : α}
    (keeps : Keeps s.Grows x) (given : Gives x s a s') : s.Grows s' :=
  keeps.gives given (.refl s)

end Step

end IndexAdvisor
