import IndexAdvisor.Proofs.Binding.Alike
import IndexAdvisor.Proofs.Binding.Kept
import IndexAdvisor.Proofs.Scope.Tables

/-! # Binding after other statements

A session carries what earlier statements left behind: a catalog, samples, usage and aliases. The
first three do no harm. An alias of an earlier statement does, if a column of the statement at hand
has it for a qualifier and the statement does not bind it itself. `Misleads` says when the owner of
a column changes by this, and a statement without such a column is bound as in a fresh session.
-/

namespace IndexAdvisor

open Text (lowercase)

/-! ## Owners under earlier aliases -/

/-- An alias of an earlier statement takes a column away from its owner. -/
def Aliases.Misleads (earlier : Aliases) (catalog : Catalog) (usage : StatementUsage)
    (column : ColumnName) (context : Option String) : Prop :=
  ∃ qualifier table, column.qualifier = some qualifier ∧
    Aliases.lastTable? usage.aliases (lowercase qualifier) = none ∧
    Entries.find? earlier (lowercase qualifier) = some table ∧
    ownerBy catalog usage.tables column.name context table
      ≠ ownerBy catalog usage.tables column.name context (lowercase qualifier)

section Owners

variable {setting : Setting} {usage : StatementUsage} {s t : Session}

theorem ownerBy_eq (covers : s.catalog.Covers setting usage.tables)
    (covers' : t.catalog.Covers setting usage.tables) (column : String) {context : Option String}
    (read : ∀ found, context = some found → found ∈ usage.tables) (name : String) :
    ownerBy s.catalog usage.tables column context name
      = ownerBy t.catalog usage.tables column context name := by
  rw [ownerBy, ownerBy, covers.fallenOwner_eq covers' column read]

theorem misleads_congr (covers : s.catalog.Covers setting usage.tables)
    (covers' : t.catalog.Covers setting usage.tables) {earlier : Aliases} {column : ColumnName}
    {context : Option String} (read : ∀ found, context = some found → found ∈ usage.tables) :
    earlier.Misleads s.catalog usage column context
      ↔ earlier.Misleads t.catalog usage column context := by
  simp only [Aliases.Misleads, ownerBy_eq covers covers' column.name read]

/-- Beside earlier aliases a column keeps its owner exactly if none of them misleads it. -/
theorem columnOwner_eq_iff (covers : s.catalog.Covers setting usage.tables)
    (covers' : t.catalog.Covers setting usage.tables) {earlier : Aliases}
    (alone : s.aliases = Aliases.withAll [] usage.aliases)
    (beside : t.aliases = earlier.withAll usage.aliases) (column : ColumnName)
    {context : Option String} (read : ∀ found, context = some found → found ∈ usage.tables) :
    columnOwner t usage.tables column context = columnOwner s usage.tables column context
      ↔ ¬ earlier.Misleads s.catalog usage column context := by
  cases qualified : column.qualifier with
  | none =>
      rw [columnOwner_unqualified t _ qualified, columnOwner_unqualified s _ qualified,
        covers.fallenOwner_eq covers' column.name read]
      exact ⟨fun _ ⟨_, _, named, _⟩ => (nomatch qualified.symm.trans named), fun _ => rfl⟩
  | some qualifier =>
      rw [columnOwner_qualified t _ qualified, columnOwner_qualified s _ qualified,
        ← ownerBy_eq covers covers' column.name read, alone, beside, Aliases.resolve_withAll,
        Aliases.resolve_withAll]
      constructor
      · rintro same ⟨other, table, named, unbound, found, differ⟩
        obtain rfl : qualifier = other := Option.some.inj (qualified.symm.trans named)
        simp only [unbound, found, Option.none_or, Option.getD_some] at same
        exact differ same
      · intro clear
        cases bound : Aliases.lastTable? usage.aliases (lowercase qualifier) with
        | some own => simp
        | none =>
            cases found : Entries.find? earlier (lowercase qualifier) with
            | none => simp [Entries.find?]
            | some table =>
                by_contra differ
                exact clear ⟨qualifier, table, qualified, bound, found, differ⟩

end Owners

/-! ## What binding leaves behind -/

namespace Step

variable {setting : Setting}

/-- A property of sessions that is about faithful catalogs and aliases. -/
structure Settled (setting : Setting) (P : Session → Prop) : Prop where
  faithful : ∀ s, P s → s.catalog.Faithful setting
  learns : ∀ s s', P s → s.Learns setting s' → P s'

theorem keeps_answers {α : Type} {P : Session → Prop} (settled : Settled setting P) {x : Step α}
    {result : Except Failure α} (answers : Answers setting x result) : Keeps P x := by
  intro s kept
  obtain ⟨s', run, learns⟩ := answers s (settled.faithful s kept)
  rw [run]
  exact settled.learns s s' kept learns

theorem Settled.lasting {P : Session → Prop} (settled : Settled setting P)
    (fixed : setting.database.IsFixed) : Lasting setting (fun _ => True) P where
  introspect table _ := keeps_answers settled (answers_introspect fixed table)
  sampleRow table _ := keeps_answers settled (answers_sampleRow fixed table)

theorem settled_faithful : Settled setting fun s => s.catalog.Faithful setting :=
  ⟨fun _ => id, fun _ _ _ learns => learns.faithful⟩

/-- A statement leaves the catalog faithful, bound or not. -/
theorem keeps_bind_faithful (fixed : setting.database.IsFixed) (query : String)
    (parsed : Parsed) :
    Keeps (fun s => s.catalog.Faithful setting) (bind setting query parsed) :=
  keeps_bind_of_lasting (settled_faithful.lasting fixed) (fun _ _ => id) (fun _ _ => id) query parsed

/-- Introspection that succeeds on one faithful catalog does on each, which then knows the
    tables. -/
theorem gives_introspectAll (fixed : setting.database.IsFixed) {tables : List String}
    {s s' : Session} (faithful : s.catalog.Faithful setting)
    (given : Gives (introspectAll setting tables) s () s') (t : Session)
    (faithful' : t.catalog.Faithful setting) :
    ∃ t', Gives (introspectAll setting tables) t () t' ∧ t.Learns setting t' ∧
      t'.catalog.Covers setting tables := by
  induction tables generalizing s t with
  | nil => exact ⟨t, rfl, .refl faithful', faithful', nofun⟩
  | cons table rest ih =>
      obtain ⟨schema, u, first, later⟩ := gives_bind.mp given
      obtain ⟨_, run, learns, -⟩ := outcome_introspect fixed table faithful
      obtain ⟨answer, rfl⟩ := Prod.mk.inj (run.symm.trans first)
      obtain ⟨v, run', learns', found⟩ := outcome_introspect fixed table faithful'
      obtain ⟨t', after, more, covers⟩ := ih learns.faithful later v learns'.faithful
      refine ⟨t', gives_bind.mpr ⟨schema, v, run'.trans (by rw [answer]), after⟩,
        learns'.trans more, covers.faithful, fun name mem => ?_⟩
      rcases List.mem_cons.mp mem with here | there
      · exact here ▸ more.has (Option.isSome_iff_exists.mpr ⟨schema, found schema answer⟩)
      · exact covers.known name there

end Step

/-- The session after statements were bound one after the other, some perhaps in vain. -/
def Session.afterBinding (setting : Setting) (earlier : List (String × Parsed)) : Session :=
  earlier.foldl (fun s (query, parsed) => ((Step.bind setting query parsed).outcome s).2) .start

theorem Session.faithful_afterBinding {setting : Setting} (fixed : setting.database.IsFixed)
    (earlier : List (String × Parsed)) :
    (Session.afterBinding setting earlier).catalog.Faithful setting := by
  have folded (s : Session) (faithful : s.catalog.Faithful setting) : (earlier.foldl
      (fun s (query, parsed) => ((Step.bind setting query parsed).outcome s).2) s).catalog.Faithful
        setting := by
    induction earlier generalizing s with
    | nil => exact faithful
    | cons first rest ih => exact ih _ (Step.keeps_bind_faithful fixed first.1 first.2 s faithful)
  exact folded .start (Catalog.faithful_empty setting)

/-! ## Two sessions -/

namespace Step

variable {setting : Setting} {query : String} {parsed : Parsed}

/-- A known statement is bound without another change of the aliases, or of what is known. -/
theorem keeps_bindKnown_known (fixed : setting.database.IsFixed) (query : String) (parsed : Parsed)
    (usage : StatementUsage) (aliases : Aliases) :
    Keeps (fun s => s.catalog.Covers setting usage.tables ∧ s.aliases = aliases)
      (bindKnown setting query parsed usage) := by
  refine keeps_bindKnown (Settled.lasting ⟨fun _ kept => kept.1.faithful, ?_⟩ fixed)
    (fun _ _ => id) query parsed usage.within_all
  exact fun _ _ kept learns => ⟨kept.1.learns learns, learns.aliases.trans kept.2⟩

/-- A statement that is bound in a fresh session is bound after others with the same result and
    the same records, unless an earlier alias misleads one of its columns; and a column has the
    same owner in both sessions exactly if no earlier alias misleads it. -/
theorem bind_after_others (fixed : setting.database.IsFixed) (earlier : List (String × Parsed))
    {result : BindResult} {fresh : Session}
    (given : Gives (bind setting query parsed) .start result fresh) :
    ∃ o, parsed.outline = .ok o ∧
      let before := Session.afterBinding setting earlier
      let used := (bind setting query parsed).outcome before
      (∀ column context, (column, context) ∈ o.usage.references →
        (columnOwner used.2 o.usage.tables column context
            = columnOwner fresh o.usage.tables column context ↔
          ¬ before.aliases.Misleads fresh.catalog o.usage column context)) ∧
      ((o.kind = .insert ∨ ∀ column context, (column, context) ∈ o.usage.references →
          ¬ before.aliases.Misleads fresh.catalog o.usage column context) →
        used.1 = .ok result ∧ used.2.usage = before.usage.absorb fresh.usage) := by
  obtain ⟨o, s, outlined, known, bound⟩ := gives_bind_known given
  refine ⟨o, outlined, ?_⟩
  intro before used
  have start := Catalog.faithful_empty setting
  obtain ⟨s', known', learns, covers⟩ := gives_introspectAll fixed start known .start start
  obtain rfl : s = s' := (Prod.mk.inj (known.symm.trans known')).2
  obtain ⟨t, knownUsed, learnsUsed, coversUsed⟩ := gives_introspectAll fixed start known before
    (Session.faithful_afterBinding fixed earlier)
  have run : used = (bindKnown setting query parsed o.usage).outcome (aliased o.usage t) :=
    outcome_bind_known outlined knownUsed
  have final := keeps_bindKnown_known fixed query parsed o.usage
  have aloneKnown : (aliased o.usage s).aliases = Aliases.withAll [] o.usage.aliases := by
    rw [aliased, learns.aliases]
    rfl
  have besideKnown : (aliased o.usage t).aliases = before.aliases.withAll o.usage.aliases := by
    rw [aliased, learnsUsed.aliases]
  have runFresh : (bindKnown setting query parsed o.usage).outcome (aliased o.usage s)
    = (.ok result, fresh) := bound
  have freshEnd := final _ (aliased o.usage s) ⟨covers, aloneKnown⟩
  have usedEnd := final _ (aliased o.usage t) ⟨coversUsed, besideKnown⟩
  rw [runFresh] at freshEnd
  rw [← run] at usedEnd
  obtain ⟨coversFresh, alone⟩ := freshEnd
  obtain ⟨coversAfter, beside⟩ := usedEnd
  have owners (column : ColumnName) (context : Option String)
      (mem : (column, context) ∈ o.usage.references) :=
    columnOwner_eq_iff coversFresh coversAfter alone beside column
      (StatementUsage.references_context o mem)
  refine ⟨owners, fun clear => ?_⟩
  have alike : (aliased o.usage s).Alike setting o.usage before.usage (aliased o.usage t) := by
    refine ⟨covers, coversUsed, fun kind column context mem => ?_, ?_⟩
    · have read := StatementUsage.references_context o mem
      refine (columnOwner_eq_iff (s := aliased o.usage s) (t := aliased o.usage t) covers coversUsed
        aloneKnown besideKnown column read).mpr fun misled => ?_
      have misled := (misleads_congr (s := aliased o.usage s) covers coversFresh read).mp misled
      exact (clear.resolve_left kind) column context mem misled
    · simp only [aliased, learns.usage, learnsUsed.usage]
      rfl
  obtain ⟨after, gives, alikeAfter⟩ := carries_bindKnown
    (fun column context mem => StatementUsage.references_context o mem) fixed query parsed alike bound
  have ends : used = (.ok result, after) := run.trans gives
  rw [ends]
  exact ⟨rfl, alikeAfter.usage⟩

theorem bind_after_others_shop :
    ∃ first second result fresh, Parsed.read "SELECT 1 FROM users u" = .ok first ∧
      Parsed.read "SELECT 1 FROM orders WHERE orders.user_id = 1" = .ok second ∧
      Gives (bind .shop "query.select.002" second) .start result fresh ∧
      ((bind .shop "query.select.002" second).outcome
        (Session.afterBinding .shop [("query.select.001", first)])).1 = .ok result := by
  have runs : (Parsed.read "SELECT 1 FROM users u").toOption.any (fun first =>
      (Parsed.read "SELECT 1 FROM orders WHERE orders.user_id = 1").toOption.any fun second =>
        ((bind .shop "query.select.002" second).outcome .start).1.isOk &&
        second.outline.toOption.all (·.usage.references.all (·.1.qualifier = some "orders")) &&
        (Session.afterBinding .shop [("query.select.001", first)]).aliases = [("u", "users")]) := by
    decide +kernel
  obtain ⟨first, readFirst, runs⟩ := Parsed.exists_of_any runs
  obtain ⟨second, readSecond, runs⟩ := Parsed.exists_of_any runs
  simp only [Bool.and_eq_true, decide_eq_true_eq] at runs
  obtain ⟨⟨ok, own⟩, aliases⟩ := runs
  obtain ⟨result, given⟩ := gives_of_isOk ok
  have fixed : Setting.shop.database.IsFixed := Database.isFixed_ofTables _
  obtain ⟨o, outlined, -, same⟩ :=
    bind_after_others fixed [("query.select.001", first)] given
  refine ⟨first, second, result, _, readFirst, readSecond, given, (same (.inr ?_)).1⟩
  rintro column context mem ⟨qualifier, table, named, -, found, -⟩
  have orders : column.qualifier = some "orders" := by
    rw [outlined] at own
    simpa using List.all_eq_true.mp own _ mem
  obtain rfl := Option.some.inj (orders.symm.trans named)
  have small : lowercase "orders" = "orders" := by decide +kernel
  rw [aliases, small] at found
  simp [Entries.find?, List.lookup] at found

/-- The alias of the first statement takes the column of the second from `users` to `orders`. -/
theorem alias_outlives_statement :
    ∃ first second result fresh,
      Parsed.read "SELECT users.id FROM orders users WHERE users.id = 1" = .ok first ∧
      Parsed.read "SELECT orders.id FROM orders, users WHERE users.id = 1" = .ok second ∧
      Gives (bind .shop "query.select.002" second) .start result fresh ∧
      fresh.usage.filtered = [⟨"users", "query.select.002", "id"⟩] ∧
      ((bind .shop "query.select.002" second).outcome
          (Session.afterBinding .shop [("query.select.001", first)])).2.usage.filtered
        = [⟨"orders", "query.select.002", "id"⟩, ⟨"orders", "query.select.001", "id"⟩] := by
  have runs : (Parsed.read "SELECT users.id FROM orders users WHERE users.id = 1").toOption.any
      (fun first =>
        (Parsed.read "SELECT orders.id FROM orders, users WHERE users.id = 1").toOption.any
          fun second =>
            let fresh := (bind .shop "query.select.002" second).outcome .start
            let used := (bind .shop "query.select.002" second).outcome
              (Session.afterBinding .shop [("query.select.001", first)])
            fresh.1.isOk && fresh.2.usage.filtered = [⟨"users", "query.select.002", "id"⟩] &&
              used.2.usage.filtered
                = [⟨"orders", "query.select.002", "id"⟩, ⟨"orders", "query.select.001", "id"⟩]) := by
    decide +kernel
  obtain ⟨first, readFirst, runs⟩ := Parsed.exists_of_any runs
  obtain ⟨second, readSecond, runs⟩ := Parsed.exists_of_any runs
  simp only [Bool.and_eq_true, decide_eq_true_eq] at runs
  obtain ⟨⟨ok, fresh⟩, used⟩ := runs
  obtain ⟨result, given⟩ := gives_of_isOk ok
  exact ⟨first, second, result, _, readFirst, readSecond, given, fresh, used⟩

end Step

end IndexAdvisor
