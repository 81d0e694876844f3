import IndexAdvisor.Proofs.Binding.Recorded
import IndexAdvisor.Proofs.Scope.Tables
import IndexAdvisor.Proofs.Text.Small

/-! # Tables that columns are attributed to

A qualifier denotes a table by the query around it, but binding resolves it by one map for the whole
statement, in which the last alias of a name counts. So a column is attributed to the table that its
qualifier denotes exactly if the last alias of that name in the statement is for the same table, or
there is none.
-/

namespace IndexAdvisor

open Outline
open Sql (Node Denotes)
open Sql.Node (Mention Meets Refers Holds)
open Text (lowercase lowercase_lowercase)

/-! ## Names in lower case -/

namespace Walk

/-- What is named is in lower case. -/
theorem small_mentions (n : Node) {visible : List String} {t : String} {byname : Option String}
    {real : Bool} (mem : .names t byname real ∈ n.mentions visible) :
    lowercase t = t ∧ ∀ other, byname = some other → lowercase other = other := by
  have other (name : Option String) (called : String) (same : Node.otherName name = some called) :
      lowercase called = called := by
    obtain ⟨found, -⟩ := Option.filter_eq_some_iff.mp same
    obtain ⟨_, -, rfl⟩ := Option.map_eq_some_iff.mp found
    exact lowercase_lowercase _
  rcases Node.mem_mentions.mp mem with here | ⟨p, place, there⟩
  · cases n with
    | source s =>
        cases s with
        | table only name byname =>
            obtain ⟨rfl, rfl, -⟩ := Mention.names.inj (List.mem_singleton.mp here)
            exact ⟨lowercase_lowercase _, other _⟩
        | _ => cases here
    | changed name byname =>
        obtain ⟨rfl, rfl, -⟩ := Mention.names.inj (List.mem_singleton.mp here)
        exact ⟨lowercase_lowercase _, other _⟩
    | cte => simp [Node.own] at here
    | _ => cases here
  · exact small_mentions p.node there
termination_by n.size
decreasing_by exact n.placesBelow_read p place

/-- Every alias met is one of a mention. -/
theorem mention_of_alias {ms : List Mention} {s : Seen} {a : AliasBinding}
    (mem : a ∈ (ms.foldl meet s).aliases) :
    a ∈ s.aliases ∨ ∃ real, .names a.table (some a.byname) real ∈ ms := by
  induction ms generalizing s with
  | nil => exact .inl mem
  | cons m ms ih =>
      rcases ih mem with before | ⟨real, later⟩
      · cases m with
        | declares name => exact .inl before
        | names table byname real =>
            simp only [meet] at before
            split at before
            · exact .inl before
            · rcases List.mem_append.mp before with old | new
              · exact .inl old
              · obtain ⟨called, rfl, rfl⟩ := Option.map_eq_some_iff.mp (Option.mem_toList.mp new)
                exact .inr ⟨real, List.mem_cons_self⟩
      · exact .inr ⟨real, List.mem_cons_of_mem _ later⟩

/-- The alias of a mention is met if no common table expression has the table's name. -/
theorem alias_of_mention {ms : List Mention} {s : Seen} {t called : String} {real : Bool}
    (mem : .names t (some called) real ∈ ms) (undeclared : .declares t ∉ ms) (free : t ∉ s.ctes) :
    ⟨called, t⟩ ∈ (ms.foldl meet s).aliases := by
  have kept (ms : List Mention) (s : Seen) : s.aliases ⊆ (ms.foldl meet s).aliases := by
    induction ms generalizing s with
    | nil => exact fun _ => id
    | cons m ms ih =>
        refine List.Subset.trans (fun a old => ?_) (ih (meet s m))
        unfold meet
        split
        · exact old
        · split
          · exact old
          · exact List.mem_append_left _ old
  -- the table stays `free` on the way to the mention, as no common table expression has its name
  induction ms generalizing s with
  | nil => exact nomatch mem
  | cons m ms ih =>
      rcases List.mem_cons.mp mem with rfl | later
      · refine kept ms _ ?_
        simp [meet, free]
      · refine ih later (fun late => undeclared (List.mem_cons_of_mem _ late)) ?_
        unfold meet
        split
        · next name =>
            have other : t ≠ name := fun same => undeclared (same ▸ List.mem_cons_self)
            simp [free, other]
        · split <;> exact free

end Walk

/-- The table was met under the name, which is its own or another one. -/
def StatementUsage.Knows (usage : StatementUsage) (called table : String) : Prop :=
  ⟨called, table⟩ ∈ usage.aliases ∨ (called = table ∧ table ∈ usage.tables)

namespace Outline

section Statements

variable {s : Sql.Statement} {o : Outline} (given : ofStatement? s = some (.ok o))

include given

theorem aliases_eq : o.usage.aliases = (s.mentions.foldl Walk.meet ⟨[], [], []⟩).aliases := by
  have read : o.usage.aliases = (Walk.met [] [⟨[], .statement s⟩] ⟨[], [], []⟩).aliases :=
    congrArg Walk.Seen.aliases (Walk.reads_outline given).seen
  rw [read, Walk.met, List.flatMap_cons, List.flatMap_nil, List.append_nil]
  rfl

theorem small_alias {a : AliasBinding} (mem : a ∈ o.usage.aliases) :
    lowercase a.byname = a.byname ∧ lowercase a.table = a.table := by
  rw [aliases_eq given] at mem
  obtain ⟨real, mentioned⟩ := (Walk.mention_of_alias mem).resolve_left nofun
  obtain ⟨table, byname⟩ := Walk.small_mentions _ mentioned
  exact ⟨byname _ rfl, table⟩

theorem small_table {t : String} (mem : t ∈ o.usage.tables) : lowercase t = t := by
  obtain ⟨before, byname, real, after, same, -⟩ := (mem_tables given t).mp mem
  have mentioned : .names t byname real ∈ (Node.statement s).mentions [] := by
    rw [← Sql.Statement.mentions, same]
    simp
  exact (Walk.small_mentions _ mentioned).1

/-- A table that is met is known by its name, unless a common table expression has the name of the
    table or it is overlooked. -/
theorem knows_of_meets {called t : String} (meets : Meets [] (.statement s) called t)
    (undeclared : .declares t ∉ s.mentions) (seen : ¬ Node.Overlooked [] (.statement s) t) :
    o.usage.Knows called t := by
  obtain ⟨byname, mentioned, rfl⟩ := meets.resolve_right seen
  cases byname with
  | none =>
      refine .inr ⟨rfl, (tables_of_undeclared given undeclared seen).mpr ?_⟩
      exact Node.names_of_mention _ mentioned
  | some other =>
      refine .inl ?_
      rw [aliases_eq given]
      exact Walk.alias_of_mention mentioned undeclared (by simp)

/-- The qualified columns a statement refers to are named in it. -/
theorem holds_of_reference {column : ColumnName} {context : Option String}
    (mem : (column, context) ∈ o.usage.references) (qualified : column.qualifier.isSome) :
    Holds (.statement s) column := by
  have taken : column ∈ (Walk.outline o Walk.start).columns := by
    rcases List.mem_append.mp mem with recorded | marked
    · obtain ⟨r, listed, ⟨⟩⟩ := List.mem_map.mp recorded
      exact List.mem_append_left _ (List.mem_append_left _ (List.mem_map_of_mem listed))
    · obtain ⟨p, listed, same⟩ := List.mem_filterMap.mp marked
      obtain ⟨c, named, ⟨⟩⟩ := Option.map_eq_some_iff.mp same
      exact List.mem_append_left _ (List.mem_append_right _ (List.mem_filterMap.mpr ⟨p, listed, named⟩))
  have fresh : column ∉ Walk.start.columns := by simp [Walk.columns, Walk.start]
  obtain ⟨p, listed, holds⟩ :=
    ((Walk.reads_outline given).columns column taken qualified).resolve_left fresh
  rwa [List.mem_singleton.mp listed] at holds

end Statements

theorem small_qualifier {e : Sql.Expr} {c : ColumnName} {qualifier : String}
    (named : columnOf? e = some c) (qualified : c.qualifier = some qualifier) :
    lowercase qualifier = qualifier := by
  unfold columnOf? columnOfPath? at named
  split at named
  · split at named
    · exact nomatch named
    · obtain rfl := Option.some.inj named
      exact nomatch qualified
    · obtain rfl := Option.some.inj named
      obtain rfl := Option.some.inj qualified
      exact lowercase_lowercase _
  · exact nomatch named

end Outline

theorem Sql.Node.Refers.small {visible : List String} {scopes found : List Sql.Scope} {n : Node}
    {c : ColumnName} (refers : Refers visible scopes n c found) {qualifier : String}
    (qualified : c.qualifier = some qualifier) : lowercase qualifier = qualifier := by
  induction refers with
  | here named => exact Outline.small_qualifier named qualified
  | within _ _ ih => exact ih qualified

/-! ## Attribution -/

section Attribution

variable {usage : StatementUsage} {name t : String}

/-- The last table of a name is that of one of its aliases, and there is one if there is an alias. -/
theorem alias_of_lastTable? (name : String) (small : ∀ a ∈ usage.aliases, lowercase a.byname = a.byname ∧
    lowercase a.table = a.table) :
    (∀ t, Aliases.lastTable? usage.aliases name = some t → ⟨name, t⟩ ∈ usage.aliases) ∧
      (Aliases.lastTable? usage.aliases name = none → ∀ t, ⟨name, t⟩ ∉ usage.aliases) := by
  constructor
  · intro t last
    obtain ⟨a, found, rfl⟩ := Option.map_eq_some_iff.mp last
    have mem := List.mem_reverse.mp (List.mem_of_find?_eq_some found)
    have called : lowercase a.byname = name := by simpa using List.find?_some found
    obtain ⟨byname, table⟩ := small a mem
    rw [table, ← called, byname]
    exact mem
  · intro last t mem
    have none := List.find?_eq_none.mp (Option.map_eq_none_iff.mp last) _ (List.mem_reverse.mpr mem)
    simp [(small _ mem).1] at none

/-- By its qualifier a column belongs to a table exactly if no other table has the name last, and the
    table was met under the name or the name tells nothing. -/
theorem ownerBy_last_iff (small : ∀ a ∈ usage.aliases, lowercase a.byname = a.byname ∧
      lowercase a.table = a.table) (listed : ∀ a ∈ usage.aliases, a.table ∈ usage.tables)
    (catalog : Catalog) (column : String) (context : Option String) :
    ownerBy catalog usage.tables column context
        ((Aliases.lastTable? usage.aliases name).getD name) = some t ↔
      (∀ other, Aliases.lastTable? usage.aliases name = some other → other = t) ∧
        (usage.Knows name t ∨
          name ∉ usage.tables ∧ fallenOwner catalog usage.tables column context = some t) := by
  obtain ⟨bound, unbound⟩ := alias_of_lastTable? name small
  cases last : Aliases.lastTable? usage.aliases name with
  | some other =>
      have mem := bound other last
      have read : other ∈ usage.tables := listed _ mem
      simp only [Option.getD_some, ownerBy, read, if_true, Option.some.injEq, forall_eq']
      refine ⟨?_, And.left⟩
      rintro rfl
      exact ⟨rfl, .inl (.inl mem)⟩
  | none =>
      have free := unbound last
      simp only [Option.getD_none, ownerBy, StatementUsage.Knows, free t, false_or, reduceCtorEq,
        false_imp_iff, implies_true, true_and]
      by_cases read : name ∈ usage.tables
      · simp only [read, if_true, Option.some.injEq, not_true, false_and, or_false]
        exact ⟨fun same => ⟨same, same ▸ read⟩, And.left⟩
      · simp only [read, if_false, not_false_eq_true, true_and]
        refine ⟨.inr, fun either => either.resolve_left ?_⟩
        rintro ⟨rfl, there⟩
        exact read there

end Attribution

namespace Step

variable {setting : Setting} {query text : String} {parsed : Parsed}

/-- What a fresh session records of a statement, and the literals it puts in, go by the owners of
    the columns. Every qualified column that is recorded or stands beside a placeholder is named
    somewhere in the statement, and where its qualifier denotes a table, the column is attributed to
    this table exactly if the last alias of that name in the statement, if there is one, is for the
    same table, and the table was met under the name or the column falls to it anyway. It was met
    under the name if no common table expression has the name of the table and it is not
    overlooked. -/
theorem attributed_in_scope_iff (read : Parsed.read text = .ok parsed) {result : BindResult}
    {fresh : Session} (given : Gives (bind setting query parsed) .start result fresh) :
    ∃ o, parsed.outline = .ok o ∧ Bound setting query parsed .start o.usage result fresh ∧
      (∀ column context, (column, context) ∈ o.usage.references → column.qualifier.isSome →
        ∃ scopes, Refers [] [] (.statement parsed.statement) column scopes) ∧
      ∀ column scopes qualifier table, Refers [] [] (.statement parsed.statement) column scopes →
        column.qualifier = some qualifier → Denotes scopes qualifier table →
        (∀ context, columnOwner fresh o.usage.tables column context = some table ↔
          (∀ other, Aliases.lastTable? o.usage.aliases qualifier = some other → other = table) ∧
            (o.usage.Knows qualifier table ∨ qualifier ∉ o.usage.tables ∧
              fallenOwner fresh.catalog o.usage.tables column.name context = some table)) ∧
        (.declares table ∉ parsed.statement.mentions →
          ¬ Node.Overlooked [] (.statement parsed.statement) table →
          o.usage.Knows qualifier table) := by
  obtain ⟨o, outlined, bound⟩ := bound_of_bind given
  have outline : Outline.ofStatement? parsed.statement = some (.ok o) :=
    (Parsed.outline_of_read read).trans (congrArg some outlined)
  refine ⟨o, outlined, bound, fun column context mem qualified => ?_, ?_⟩
  · exact (Outline.holds_of_reference outline mem qualified).refers [] []
  · intro column scopes qualifier table refers qualified denotes
    refine ⟨fun context => ?_, fun undeclared seen => ?_⟩
    · have resolved : fresh.aliases.resolve qualifier
          = (Aliases.lastTable? o.usage.aliases qualifier).getD qualifier := by
        rw [bound.aliases, Aliases.resolve_withAll, refers.small qualified]
        simp [Session.start, Entries.find?]
      rw [columnOwner_qualified fresh _ qualified, resolved]
      exact ownerBy_last_iff (fun _ => Outline.small_alias outline) (Walk.sound_outline o).aliases
        _ _ _
    · exact Outline.knows_of_meets outline (refers.meets_of_denotes denotes) undeclared seen

/-- The statement `SELECT … FROM table byname WHERE byname.column … AND …`. -/
def comparesAlias (table byname column : String) : Sql.Statement → Bool
  | .query (.mk false [] (.select _ _ _ _ [.table _ ⟨_, _, named⟩ (some ⟨other, _⟩)]
      (some (.chain _ (.binary _ (.column [qualifier, name] false) _ :: _))) _ _ _ _) _ _ _ _ _) =>
    named = table && other = byname && qualifier = byname && name = column
  | _ => false

theorem refers_of_comparesAlias {table byname column : String} {s : Sql.Statement}
    (compares : comparesAlias table byname column s) (small : lowercase table = table ∧
      lowercase byname = byname ∧ lowercase column = column) (given : byname ≠ "") :
    Refers [] [] (.statement s) ⟨some byname, column⟩ [[(byname, some table)]] := by
  unfold comparesAlias at compares
  split at compares
  · simp only [Bool.and_eq_true, decide_eq_true_eq] at compares
    obtain ⟨⟨⟨named, other⟩, qualifier⟩, called⟩ := compares
    obtain ⟨smallTable, smallByname, smallColumn⟩ := small
    have scope (only : Bool) (name : Sql.TableName) (columns : List String)
        (same : name.name = table) :
        Sql.declared [] [.table only name (some ⟨byname, columns⟩)] = [(byname, some table)] := by
      simp [Sql.declared, Sql.FromItem.declares, Node.otherName, Option.filter, same, smallTable,
        smallByname, given]
    refine .within (p := ⟨[], .body _⟩) (List.mem_append_right _ List.mem_cons_self) ?_
    refine .within (List.mem_map_of_mem (List.mem_append_left _ (List.mem_append_left _
      (List.mem_append_right _ List.mem_cons_self)))) ?_
    refine .within (p := ⟨[], .expr (.binary _ _ _)⟩) List.mem_cons_self ?_
    refine .within (p := ⟨[], .expr (.column _ _)⟩) List.mem_cons_self ?_
    change Refers _ [Sql.declared [] [_]] _ _ _
    rw [other, scope _ _ _ named]
    refine .here ?_
    simp [columnOf?, columnOfPath?, qualifier, called, smallByname, smallColumn]
  · cases compares

theorem small_users : lowercase "users" = "users" ∧ lowercase "x" = "x" ∧ lowercase "id" = "id" := by
  decide +kernel

theorem attributed_in_scope_iff_users :
    ∃ parsed result fresh o,
      Parsed.read "SELECT x.id FROM users x WHERE x.id = 1 AND x.id = 2" = .ok parsed ∧
      Gives (bind .shop "query.select.001" parsed) .start result fresh ∧ parsed.outline = .ok o ∧
      columnOwner fresh o.usage.tables ⟨some "x", "id"⟩ (some "users") = some "users" := by
  have runs : (Parsed.read "SELECT x.id FROM users x WHERE x.id = 1 AND x.id = 2").toOption.any
      (fun parsed => ((bind .shop "query.select.001" parsed).outcome .start).1.isOk &&
        comparesAlias "users" "x" "id" parsed.statement &&
        parsed.outline.toOption.all (·.usage.aliases = [⟨"x", "users"⟩])) := by decide +kernel
  obtain ⟨parsed, read, runs⟩ := Parsed.exists_of_any runs
  simp only [Bool.and_eq_true] at runs
  obtain ⟨⟨ok, compares⟩, aliases⟩ := runs
  obtain ⟨result, given⟩ := gives_of_isOk ok
  obtain ⟨o, outlined, -, -, attributed⟩ := attributed_in_scope_iff read given
  have aliases : o.usage.aliases = [⟨"x", "users"⟩] := by
    simpa [outlined, Except.toOption] using aliases
  refine ⟨parsed, result, _, o, read, given, outlined, ?_⟩
  refine ((attributed _ _ "x" "users" (refers_of_comparesAlias compares small_users (by simp))
    rfl rfl).1 _).mpr ⟨?_, .inl (.inl (by simp [aliases]))⟩
  simp [aliases, Aliases.lastTable?, small_users]

/-- The alias of the inner query is the last one, so the column of the outer query is taken for one
    of `orders`. -/
theorem inner_alias_takes_column :
    ∃ parsed result fresh o scopes, Parsed.read
        "SELECT 1 FROM users x WHERE x.id = 1 AND EXISTS (SELECT 1 FROM orders x)" = .ok parsed ∧
      Gives (bind .shop "query.select.001" parsed) .start result fresh ∧ parsed.outline = .ok o ∧
      (⟨some "x", "id"⟩, some "users") ∈ o.usage.references ∧
      Refers [] [] (.statement parsed.statement) ⟨some "x", "id"⟩ scopes ∧
      Denotes scopes "x" "users" ∧
      columnOwner fresh o.usage.tables ⟨some "x", "id"⟩ (some "users") = some "orders" ∧
      fresh.usage.filtered = [⟨"orders", "query.select.001", "id"⟩] := by
  have runs : (Parsed.read
        "SELECT 1 FROM users x WHERE x.id = 1 AND EXISTS (SELECT 1 FROM orders x)").toOption.any
      (fun parsed =>
        let ends := (bind .shop "query.select.001" parsed).outcome .start
        ends.1.isOk && comparesAlias "users" "x" "id" parsed.statement &&
        parsed.outline.toOption.all (fun o =>
          o.usage.references.contains (⟨some "x", "id"⟩, some "users") &&
          columnOwner ends.2 o.usage.tables ⟨some "x", "id"⟩ (some "users") = some "orders") &&
        ends.2.usage.filtered = [⟨"orders", "query.select.001", "id"⟩]) := by decide +kernel
  obtain ⟨parsed, read, runs⟩ := Parsed.exists_of_any runs
  simp only [Bool.and_eq_true, decide_eq_true_eq] at runs
  obtain ⟨⟨⟨ok, compares⟩, owned⟩, filtered⟩ := runs
  obtain ⟨result, given⟩ := gives_of_isOk ok
  obtain ⟨o, -, outlined, -⟩ := gives_bind_known given
  rw [outlined] at owned
  simp only [Except.toOption, Option.all_some, Bool.and_eq_true, decide_eq_true_eq,
    List.contains_iff_mem] at owned
  exact ⟨parsed, result, _, o, _, read, given, outlined, owned.1,
    refers_of_comparesAlias compares small_users (by simp), rfl, owned.2, filtered⟩

end Step

end IndexAdvisor
