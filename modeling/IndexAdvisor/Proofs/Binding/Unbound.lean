import IndexAdvisor.Proofs.Binding.Failed
import IndexAdvisor.Proofs.Binding.Slipping

/-! # Parameters without a literal

Binding makes literals for the parameters that the usage walk has met, and puts them in the place of the
marks in the printed statement. The walk passes over some places that may hold a parameter, so a mark
may be left without a literal.
-/

namespace IndexAdvisor

open Sql (SqlType)

/-! ## Substitution that fails -/

namespace Sql

variable {literals : List (Nat × String)} {mark : List Char}

def IsMarkOf (mark : List Char) (number : Nat) : Prop := mark ≠ ['?'] ∧ markNumber mark = .ok number

theorem literalFor_of_number {number : Nat} (numbered : IsMarkOf mark number) :
    literalFor literals mark = match literals.lookup number with
      | some literal => .ok literal
      | none => .error (.unbound (String.ofList mark)) := by
  cases found : literals.lookup number <;> simp [literalFor, numbered.1, numbered.2, found]

theorem lookup_eq_none_iff {number : Nat} :
    literals.lookup number = none ↔ number ∉ literals.map Prod.fst := by
  rw [List.lookup_eq_none_iff]
  simp only [List.mem_map, not_exists, not_and, bne_iff_ne, ne_comm]

theorem literalFor_ok_iff : (∃ literal, literalFor literals mark = .ok literal) ↔
    ∃ number ∈ literals.map Prod.fst, IsMarkOf mark number := by
  constructor
  · rintro ⟨literal, found⟩
    unfold literalFor at found
    split at found
    · exact nomatch found
    next numbered =>
    split at found
    · exact nomatch found
    next number value =>
    refine ⟨number, ?_, numbered, value⟩
    by_contra absent
    rw [lookup_eq_none_iff.mpr absent] at found
    exact nomatch found
  · rintro ⟨number, listed, numbered⟩
    rw [literalFor_of_number numbered]
    cases found : literals.lookup number with
    | none => exact absurd listed (lookup_eq_none_iff.mp found)
    | some literal => exact ⟨literal, rfl⟩

theorem literalFor_unbound_iff {shown : String} : literalFor literals mark = .error (.unbound shown) ↔
    shown = String.ofList mark ∧ ∃ number ∉ literals.map Prod.fst, IsMarkOf mark number := by
  constructor
  · intro failed
    unfold literalFor at failed
    split at failed
    · exact nomatch failed
    next numbered =>
    split at failed
    · exact nomatch failed
    next number value =>
    split at failed
    · exact nomatch failed
    next absent =>
    obtain rfl := SubstitutionError.unbound.inj (Except.error.inj failed)
    exact ⟨rfl, number, lookup_eq_none_iff.mp absent, numbered, value⟩
  · rintro ⟨rfl, number, absent, numbered⟩
    rw [literalFor_of_number numbered, lookup_eq_none_iff.mpr absent]

/-- Substitution fails at the first mark that has no literal. -/
theorem substitutePieces_error_iff {ps : List Piece} {e : SubstitutionError} :
    substitutePieces literals ps = .error e ↔ ∃ before mark after, marksIn ps = before ++ mark :: after ∧
      (∀ m ∈ before, ∃ literal, literalFor literals m = .ok literal) ∧
        literalFor literals mark = .error e := by
  induction ps with
  | nil => simp [substitutePieces, marksIn]
  | cons p ps ih =>
      cases p with
      | copied cs =>
          rw [show marksIn (.copied cs :: ps) = marksIn ps from rfl, ← ih, substitutePieces]
          cases substitutePieces literals ps <;> simp [Bind.bind, Except.bind, Pure.pure, Except.pure]
      | mark m =>
          rw [marksIn_mark, substitutePieces]
          cases found : literalFor literals m with
          | error cause =>
              constructor
              · intro failed
                cases failed
                exact ⟨[], m, marksIn ps, rfl, nofun, found⟩
              · rintro ⟨before, mark, after, same, told, failed⟩
                cases before with
                | nil =>
                    obtain ⟨rfl, -⟩ := List.cons.inj same
                    obtain rfl := Except.error.inj (found.symm.trans failed)
                    rfl
                | cons first before =>
                    obtain ⟨rfl, -⟩ := List.cons.inj same
                    obtain ⟨literal, first⟩ := told _ List.mem_cons_self
                    exact nomatch found.symm.trans first
          | ok literal =>
              -- a mark with a literal only goes before the one that fails
              have rest : substitutePieces literals ps = .error e ↔ (do
                    let text ← substitutePieces literals ps
                    pure (literal.toList ++ text)) = .error e := by
                cases substitutePieces literals ps <;> simp [Bind.bind, Except.bind, Pure.pure, Except.pure]
              refine rest.symm.trans (ih.trans ?_)
              constructor
              · rintro ⟨before, mark, after, same, told, failed⟩
                exact ⟨m :: before, mark, after, by rw [same, List.cons_append],
                  List.forall_mem_cons.mpr ⟨⟨literal, found⟩, told⟩, failed⟩
              · rintro ⟨before, mark, after, same, told, failed⟩
                cases before with
                | nil =>
                    obtain ⟨rfl, -⟩ := List.cons.inj same
                    exact nomatch found.symm.trans failed
                | cons first before =>
                    obtain ⟨rfl, later⟩ := List.cons.inj same
                    exact ⟨before, mark, after, later, (List.forall_mem_cons.mp told).2, failed⟩

/-- The first mark in the text that has none of the numbers is as shown; it has another one. -/
def FirstUntold (numbers : List Nat) (text shown : String) : Prop :=
  ∃ before mark after, marks text = before ++ mark :: after ∧
    (∀ m ∈ before, ∃ number ∈ numbers, IsMarkOf m number) ∧
    shown = String.ofList mark ∧ ∃ number ∉ numbers, IsMarkOf mark number

theorem substitute_unbound_iff {text shown : String} :
    substitute text literals = .error (.unbound shown) ↔ FirstUntold (literals.map Prod.fst) text shown := by
  have pieces : substitute text literals = .error (.unbound shown) ↔
      substitutePieces literals (pieces text) = .error (.unbound shown) := by
    unfold substitute
    cases substitutePieces literals (pieces text) <;> simp [Bind.bind, Except.bind, Pure.pure, Except.pure]
  rw [pieces, substitutePieces_error_iff]
  simp only [literalFor_ok_iff, literalFor_unbound_iff]
  rfl

/-- Only the set of the numbers matters. -/
theorem FirstUntold.congr {numbers others : List Nat} (same : ∀ number, number ∈ numbers ↔ number ∈ others)
    {text shown : String} : FirstUntold numbers text shown ↔ FirstUntold others text shown := by
  simp only [FirstUntold, same]

end Sql

/-! ## Literals of a statement -/

/-- The sites of a statement have the numbers of the parameters that the walk meets, in reading order. -/
theorem Outline.numbers_sites {s : Sql.Statement} {o : Outline}
    (given : Outline.ofStatement? s = some (.ok o)) : o.usage.parameters.map (·.number) = s.numbers := by
  have noted := (Walk.reads_outline given).numbers
  rw [List.flatMap_cons, List.flatMap_nil, List.append_nil] at noted
  exact noted

namespace Step

variable {setting : Setting} {query : String} {parsed : Parsed} {tables : List String} {s t : Session}

theorem numbers_leaders (known : List Nat) (sites : List ParameterSite) (number : Nat) :
    number ∈ known ∨ number ∈ (leaders known sites).map (·.number) ↔
      number ∈ known ∨ number ∈ sites.map (·.number) := by
  induction sites generalizing known with
  | nil => rfl
  | cons site rest ih =>
      rw [leaders, List.map_cons, List.mem_cons]
      split
      · next listed =>
          rw [ih]
          refine or_congr_right' fun absent => (or_iff_right ?_).symm
          rintro rfl
          exact absent listed
      · have later := ih (known ++ [site.number])
        simp only [List.mem_append, List.mem_singleton, or_assoc] at later
        rw [List.map_cons, List.mem_cons, later]

/-- Literals are made for the numbers of the placeholders. -/
theorem numbers_of_literalsOf {sites : List ParameterSite} {known found : List (Nat × SqlType × String)}
    (given : Gives (literalsOf setting tables sites known) s found t) (number : Nat) :
    number ∈ found.map (·.1) ↔ number ∈ known.map (·.1) ∨ number ∈ sites.map (·.number) := by
  obtain ⟨made, rfl, leads, -⟩ := gives_literalsOf given
  rw [← numbers_leaders, ← leads]
  simp

/-! ## Failures before the substitution -/

/-- The failure is one of putting in literals. -/
def OfSubstitution (e : Failure) : Prop := ∃ cause, e = .binding (.substitution cause)

theorem not_ofSubstitution_introspection (table : String) (fault : Fault) :
    ¬OfSubstitution (introspectionFailure table fault) := by
  rintro ⟨cause, same⟩
  unfold introspectionFailure at same
  split at same <;> exact nomatch same

theorem not_ofSubstitution_sampling (table : String) (fault : Fault) :
    ¬OfSubstitution (samplingFailure table fault) := by
  rintro ⟨cause, same⟩
  unfold samplingFailure at same
  split at same <;> exact nomatch same

theorem not_ofSubstitution_of_tables {e : Failure} (tables : e.OfTables) : ¬OfSubstitution e := by
  cases tables with
  | fault table fault => exact not_ofSubstitution_introspection table fault
  | _ => exact nofun

theorem limits_all (setting : Setting) :
    Limits setting (fun _ => True) (fun _ => True) fun e => ¬OfSubstitution e := by
  have described (table : String) :
      Raises (fun _ => True) (fun e => ¬OfSubstitution e) (introspect setting table) :=
    fun s holds e failed => not_ofSubstitution_of_tables (raises_introspect table s holds e failed)
  have kept {α : Type} (x : Step α) : Keeps (fun _ => True) x := fun _ _ => trivial
  exact ⟨⟨fun _ _ => kept _, fun _ _ => kept _⟩, fun table _ => described table, fun table _ =>
    raises_sampleRow (described table) (kept _) (fun _ _ => id) not_ofSubstitution_sampling⟩

theorem raises_reach :
    Raises (fun _ => True) (fun e => ¬OfSubstitution e) (reach setting query parsed) := by
  have kept {α : Type} (x : Step α) : Keeps (fun _ => True) x := fun _ _ => trivial
  refine raises_bind (raises_require fun _ _ => nofun) (kept _) fun o => ?_
  refine raises_bind ?_ (kept _) fun _ => ?_
  · exact fun s holds e failed => not_ofSubstitution_of_tables (raises_introspectAll _ s holds e failed)
  · refine raises_bind (raises_modify _) (kept _) fun _ => raises_bind (raises_modify _) (kept _) fun _ => ?_
    refine raises_bind ?_ (kept _) fun _ => raises_pure _
    exact (limits_all setting).raises_targets nofun fun _ _ => trivial

theorem raises_literalsOf (sites : List ParameterSite) (known : List (Nat × SqlType × String)) :
    Raises (fun _ => True) (fun e => ¬OfSubstitution e) (literalsOf setting tables sites known) := by
  refine (limits_all setting).raises_literals ?_ (fun site _ => site.within_all tables) known
  rintro cause other ⟨reason, ⟨⟩⟩
  exact other reason rfl

/-! ## Marks without a literal -/

/-- The failure tells that a mark has no literal. -/
def IsUnbound (shown : String) (e : Failure) : Prop := e = .binding (.substitution (.unbound shown))

theorem not_unbound {α : Type} {x : Step α}
    (before : Raises (fun _ => True) (fun e => ¬OfSubstitution e) x) (shown : String) :
    ¬Fails (IsUnbound shown) x s := by
  rintro ⟨e, t, run, rfl⟩
  exact before s trivial _ (by rw [run]) ⟨_, rfl⟩

theorem unbound_putLiterals_iff {usage : StatementUsage} {found : List (Nat × SqlType × String)}
    {shown : String} :
    Fails (IsUnbound shown) (putLiterals parsed usage found) s ↔
      ∃ text, (parsed.limited usage).text? = some text ∧ Sql.FirstUntold (found.map (·.1)) text shown := by
  unfold putLiterals
  cases (parsed.limited usage).text? with
  | none =>
      refine iff_of_false ?_ ?_
      · intro fails
        cases (fails_throw _).mp fails
      · rintro ⟨_, printed, -⟩
        cases printed
  | some text =>
      dsimp only
      rw [fails_bind_of_rest fun _ _ => fails_pure _, fails_require]
      constructor
      · rintro ⟨cause, failed, unbound⟩
        obtain rfl := BindingError.substitution.inj (Failure.binding.inj unbound)
        have untold := Sql.substitute_unbound_iff.mp failed
        rw [List.map_map] at untold
        exact ⟨text, rfl, untold⟩
      · rintro ⟨_, ⟨⟩, untold⟩
        refine ⟨_, Sql.substitute_unbound_iff.mpr ?_, rfl⟩
        rw [List.map_map]
        exact untold

theorem unbound_bindLiterals_iff {usage : StatementUsage} {shown : String} :
    Fails (IsUnbound shown) (bindLiterals setting parsed usage) s ↔
      ∃ found t, Gives (literalsOf setting usage.tables usage.sites []) s found t ∧
        ∃ text, (parsed.limited usage).text? = some text ∧
          Sql.FirstUntold (found.map (·.1)) text shown := by
  rw [bindLiterals_eq, fails_bind_of_not (not_unbound (raises_literalsOf _ _) shown)]
  simp only [unbound_putLiterals_iff]

theorem unbound_finish_iff {usage : StatementUsage} (kind : usage.kind ≠ .insert) {shown : String} :
    Fails (IsUnbound shown) (finish setting parsed usage) s ↔
      parsed.hasPlaceholders ∧ Fails (IsUnbound shown) (bindLiterals setting parsed usage) s := by
  have puts (result : BindResult) : Fails (IsUnbound shown) (do
        if parsed.hasPlaceholders then
          return { result with binding := .bound (← bindLiterals setting parsed usage) }
        else return result) s ↔
      parsed.hasPlaceholders ∧ Fails (IsUnbound shown) (bindLiterals setting parsed usage) s := by
    split
    · next given => rw [and_iff_right given, fails_bind_of_rest fun _ _ => fails_pure _]
    · next none => exact iff_of_false (fails_pure _) fun why => none why.1
  unfold finish
  cases named : usage.kind with
  | insert => exact absurd named kind
  | select | update | delete => exact puts _

/-- Binding comes to put in the literals, and then the mark shown is the first in the printed statement of
    which the usage walk has not met the number. -/
inductive LacksLiteral (setting : Setting) (query : String) (parsed : Parsed) (s : Session)
    (shown : String) : Prop
  | of {o : Outline} {t u : Session} {found : List (Nat × SqlType × String)} {text : String} :
      Gives (reach setting query parsed) s o t → parsed.hasPlaceholders →
      Gives (literalsOf setting o.usage.tables o.usage.sites []) (t.noted query o.usage) found u →
      (parsed.limited o.usage).text? = some text → Sql.FirstUntold parsed.statement.numbers text shown →
      LacksLiteral setting query parsed s shown

theorem unbound_bind_iff (given : Outline.ofStatement? parsed.statement = some parsed.outline)
    (kind : ∀ o, parsed.outline = .ok o → o.kind ≠ .insert) {shown : String} :
    Fails (IsUnbound shown) (bind setting query parsed) s ↔
      LacksLiteral setting query parsed s shown := by
  have told {o : Outline} {v u : Session} {found : List (Nat × SqlType × String)}
      (outlined : parsed.outline = .ok o)
      (literals : Gives (literalsOf setting o.usage.tables o.usage.sites []) v found u) (number : Nat) :
      number ∈ found.map (·.1) ↔ number ∈ parsed.statement.numbers := by
    rw [outlined] at given
    rw [numbers_of_literalsOf literals, ← Outline.numbers_sites given]
    simp [StatementUsage.sites, List.mem_mergeSort]
  rw [bind_eq, fails_bind_of_not (not_unbound raises_reach shown)]
  simp only [fails_modify_bind]
  constructor
  · rintro ⟨o, t, reached, fails⟩
    obtain ⟨outlined, -⟩ := gives_reach reached
    obtain ⟨marked, fails⟩ := (unbound_finish_iff (kind o outlined)).mp fails
    obtain ⟨found, u, literals, text, printed, untold⟩ := unbound_bindLiterals_iff.mp fails
    have untold := (Sql.FirstUntold.congr (told outlined literals)).mp untold
    exact .of reached marked literals printed untold
  · rintro ⟨reached, marked, literals, printed, untold⟩
    obtain ⟨outlined, -⟩ := gives_reach reached
    have untold := (Sql.FirstUntold.congr (told outlined literals)).mpr untold
    have fails := unbound_bindLiterals_iff.mpr ⟨_, _, literals, _, printed, untold⟩
    exact ⟨_, _, reached, (unbound_finish_iff (kind _ outlined)).mpr ⟨marked, fails⟩⟩

/-- Each parameter of a selection or a change, but for those in the limit of the whole, has a site exactly
    if no row is too short and the walk also meets elsewhere what stands at the places it passes over.
    Binding misses the value of a mark exactly if it comes to put in the literals and the mark is
    the first in the printed statement of which the walk has not met the number. -/
theorem sites_complete_iff {text : String} (read : Parsed.read text = .ok parsed)
    (kind : parsed.kind ≠ .insert) :
    ((∃ o, parsed.outline = .ok o ∧
        ∀ number, parsed.statement.Asks number → ∃ site ∈ o.usage.parameters, site.number = number) ↔
      ¬parsed.statement.AssignsShortRow ∧
        ∀ number, parsed.statement.Hides number → number ∈ parsed.statement.numbers) ∧
    ∀ (setting : Setting) (query : String) (s : Session) (shown : String),
      (∃ t, (bind setting query parsed).outcome s = (.error (.binding (.substitution (.unbound shown))), t)) ↔
        LacksLiteral setting query parsed s shown := by
  have given := Parsed.outline_of_read read
  constructor
  · rw [← Outline.error_iff given]
    cases outlined : parsed.outline with
    | error cause => exact iff_of_false nofun fun met => met.1 ⟨cause, rfl⟩
    | ok o =>
        rw [outlined] at given
        have sites (number : Nat) :
            (∃ site ∈ o.usage.parameters, site.number = number) ↔ number ∈ parsed.statement.numbers := by
          rw [← Outline.numbers_sites given, List.mem_map]
        simp only [Except.ok.injEq, exists_eq_left', sites, Sql.Statement.asks_iff, reduceCtorEq,
          exists_false, not_false_eq_true, true_and]
        exact forall_congr' fun number => ⟨fun all hidden => all (.inr hidden), fun all => Or.rec id all⟩
  · intro setting query s shown
    rw [← unbound_bind_iff given fun o outlined => Parsed.kind_of_outline read outlined ▸ kind]
    constructor
    · rintro ⟨t, run⟩
      exact ⟨_, t, run, rfl⟩
    · rintro ⟨_, t, run, rfl⟩
      exact ⟨t, run⟩

/-- The statement `SELECT DISTINCT ON ($1) …`. -/
def distinctByParameter : Sql.Statement → Bool
  | .query (.mk _ _ (.select _ (.parameter 1 :: _) _ _ _ _ _ _ _ _) _ _ _ _ _) => true
  | _ => false

def endsUnbound (shown : String) : Except Failure BindResult → Bool
  | .error (.binding (.substitution (.unbound mark))) => mark = shown
  | _ => false

theorem eq_unbound {shown : String} {ends : Except Failure BindResult} (unbound : endsUnbound shown ends) :
    ends = .error (.binding (.substitution (.unbound shown))) := by
  unfold endsUnbound at unbound
  split at unbound
  · rw [of_decide_eq_true unbound]
  · cases unbound

theorem asks_of_distinctByParameter {statement : Sql.Statement} (distinct : distinctByParameter statement) :
    statement.Asks 1 := by
  unfold distinctByParameter at distinct
  split at distinct
  · refine ⟨⟨_, .body _⟩, List.mem_append_left _ (List.mem_append_right _ List.mem_cons_self), ?_⟩
    exact .within (p := ⟨[], .expr (.parameter 1)⟩) (List.mem_append_right _ List.mem_cons_self) .here
  · exact nomatch distinct

theorem not_assignsShortRow_of_distinct {statement : Sql.Statement}
    (distinct : distinctByParameter statement) : ¬statement.AssignsShortRow := by
  unfold distinctByParameter at distinct
  split at distinct
  · exact id
  · exact nomatch distinct

theorem bind_distinct_parameter :
    ∃ parsed o, Parsed.read "SELECT DISTINCT ON (?) id FROM users" = .ok parsed ∧ parsed.kind = .select ∧
      parsed.outline = .ok o ∧ distinctByParameter parsed.statement ∧ o.usage.parameters = [] ∧
      ∃ t, (bind .shop "query.select.001" parsed).outcome .start
        = (.error (.binding (.substitution (.unbound "$1"))), t) := by
  have runs : (Parsed.read "SELECT DISTINCT ON (?) id FROM users").toOption.any (fun parsed =>
      parsed.kind == .select && distinctByParameter parsed.statement &&
        parsed.outline.toOption.any (·.usage.parameters.isEmpty) &&
        endsUnbound "$1" ((bind .shop "query.select.001" parsed).outcome .start).1) := by
    decide +kernel
  obtain ⟨parsed, read, runs⟩ := Parsed.exists_of_any runs
  simp only [Bool.and_eq_true, beq_iff_eq] at runs
  obtain ⟨⟨⟨kind, distinct⟩, empty⟩, unbound⟩ := runs
  cases outlined : parsed.outline with
  | error e => simp [outlined, Except.toOption] at empty
  | ok o =>
      refine ⟨parsed, o, read, kind, outlined, distinct, ?_, _, Prod.ext (eq_unbound unbound) rfl⟩
      simpa [outlined, Except.toOption] using empty

theorem sites_complete_iff_distinct :
    ∃ parsed, Parsed.read "SELECT DISTINCT ON (?) id FROM users" = .ok parsed ∧ parsed.kind ≠ .insert ∧
      (∃ number, parsed.statement.Hides number ∧ number ∉ parsed.statement.numbers) ∧
      LacksLiteral .shop "query.select.001" parsed .start "$1" := by
  obtain ⟨parsed, o, read, kind, outlined, distinct, empty, unbound⟩ := bind_distinct_parameter
  have changes : parsed.kind ≠ .insert := by
    rw [kind]
    exact nofun
  obtain ⟨complete, misses⟩ := sites_complete_iff read changes
  refine ⟨parsed, read, changes, ?_, (misses _ _ _ _).mp unbound⟩
  by_contra met
  obtain ⟨o', outlined', all⟩ := complete.mpr ⟨not_assignsShortRow_of_distinct distinct, fun number hidden =>
    by_contra fun absent => met ⟨number, hidden, absent⟩⟩
  obtain ⟨site, listed, -⟩ := all 1 (asks_of_distinctByParameter distinct)
  obtain rfl := Except.ok.inj (outlined.symm.trans outlined')
  rw [empty] at listed
  exact nomatch listed

/-- A parameter of `DISTINCT ON` has no site, and no value is bound for it. -/
theorem distinct_parameter_unbound :
    ∃ parsed o, Parsed.read "SELECT DISTINCT ON (?) id FROM users" = .ok parsed ∧ parsed.kind = .select ∧
      parsed.outline = .ok o ∧ parsed.statement.Asks 1 ∧ (¬∃ site ∈ o.usage.parameters, site.number = 1) ∧
      ∃ t, (bind .shop "query.select.001" parsed).outcome .start
        = (.error (.binding (.substitution (.unbound "$1"))), t) := by
  obtain ⟨parsed, o, read, kind, outlined, distinct, empty, unbound⟩ := bind_distinct_parameter
  exact ⟨parsed, o, read, kind, outlined, asks_of_distinctByParameter distinct, by simp [empty], unbound⟩

end Step

end IndexAdvisor
