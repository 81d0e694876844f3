import IndexAdvisor.Proofs.Binding.Refused
import IndexAdvisor.Proofs.Catalog.WellFormed

/-! # Bindings that slip

On a well-formed database a statement that is read is bound, or it is told why not, unless a row or a
target of it was not foreseen, or its literals cannot be put in: a value has no bytes, a part of the
statement has no text, or a mark in its text has too many digits.
-/

namespace IndexAdvisor

open Sql (SqlType)

/-- Only in a column of bytes a value may have no literal. -/
theorem Sql.renderLiteral_error_iff {v : Value} {type : SqlType} :
    (∃ cause, renderLiteral v type = .error cause) ↔
      type.family = .binary ∧ ∃ cause, bytesOf v = .error cause := by
  unfold renderLiteral
  cases type.family with
  | binary => cases bytesOf v <;> simp [Bind.bind, Except.bind, Pure.pure, Except.pure]
  | number => cases v <;> simp
  | _ => simp

/-- The placeholders of a statement in the order of their numbers. -/
def StatementUsage.sites (usage : StatementUsage) : List ParameterSite :=
  usage.parameters.mergeSort fun a b => a.number ≤ b.number

namespace Step

variable {setting : Setting} {tables : List String} {site : ParameterSite} {s : Session}

/-- The column beside the placeholder is one of bytes, and the value sampled for it has none. -/
inductive LacksBytes (setting : Setting) (tables : List String) (site : ParameterSite) (s : Session) : Prop
  | of {column : ColumnName} {table : String} {schema : TableSchema} {type : SqlType} {value : Value}
      {t u : Session} {cause : Sql.BytesError} :
      site.column = some column → columnOwner s tables column site.table = some table →
      Gives (introspect setting table) s schema t → schema.columnType? column.name = some type →
      Gives (columnValue setting table column.name type) t value u → type.family = .binary →
      Sql.bytesOf value = .error cause → LacksBytes setting tables site s

/-- Why literals cannot be put in, though each placeholder stands beside a known column. -/
inductive LiteralSlip (setting : Setting) (parsed : Parsed) (usage : StatementUsage) (s : Session) : Prop
  /-- The first placeholder of a number has no literal. -/
  | value {before after : List ParameterSite} {site : ParameterSite}
      {found : List (Nat × SqlType × String)} {t : Session} :
      usage.sites = before ++ site :: after →
      Gives (literalsOf setting usage.tables before []) s found t →
      (¬∃ literal ∈ found, literal.1 = site.number) →
      LacksBytes setting usage.tables site t → LiteralSlip setting parsed usage s
  /-- A part of the statement has no printed form. -/
  | print {found : List (Nat × SqlType × String)} {t : Session} :
      Gives (literalsOf setting usage.tables usage.sites []) s found t →
      (parsed.limited usage).text? = none → LiteralSlip setting parsed usage s
  /-- The number of a mark in the printed form is not read. -/
  | mark {found : List (Nat × SqlType × String)} {t : Session} {text : String}
      {cause : Number.WholeError} :
      Gives (literalsOf setting usage.tables usage.sites []) s found t →
      (parsed.limited usage).text? = some text →
      Sql.substitute text (found.map fun (number, _, text) => (number, text)) = .error (.number cause) →
      LiteralSlip setting parsed usage s

/-- Puts literals in the place of placeholders. -/
def putLiterals (parsed : Parsed) (usage : StatementUsage) (found : List (Nat × SqlType × String)) :
    Step BoundStatement :=
  match (parsed.limited usage).text? with
  | none => throw .unprintable
  | some text => do
    let texts := found.map fun (number, _, text) => (number, text)
    let sql ← require (Sql.substitute text texts) fun e => .binding (.substitution e)
    return ⟨parsed.query, sql, found.map (·.2) ++ usage.imposed⟩

theorem bindLiterals_eq (setting : Setting) (parsed : Parsed) (usage : StatementUsage) :
    bindLiterals setting parsed usage
      = literalsOf setting usage.tables usage.sites [] >>= putLiterals parsed usage := by
  rw [bindLiterals]
  refine congrArg _ (funext fun found => ?_)
  have limits : (if usage.kind = .select ∧ usage.hasLimit then parsed.statement.limitedToOne
      else parsed.statement) = parsed.limited usage := rfl
  dsimp only [putLiterals]
  rw [limits]
  cases (parsed.limited usage).text? <;> rfl

theorem literalsOf_append (before after : List ParameterSite) (known : List (Nat × SqlType × String)) :
    literalsOf setting tables (before ++ after) known
      = literalsOf setting tables before known >>= literalsOf setting tables after := by
  induction before generalizing known with
  | nil => rw [List.nil_append, literalsOf, pure_bind]
  | cons site before ih =>
      rw [List.cons_append, literalsOf, literalsOf]
      split
      · exact ih known
      · simp only [bind_assoc, ih]

section WellFormed

variable (wellFormed : setting.database.WellFormed)

include wellFormed

/-! ## Literals -/

theorem not_slips_columnValue (table column : String) (type : SqlType) :
    ¬Slips (columnValue setting table column type) s := by
  refine not_slips_bind (not_slips_sampleRow wellFormed table) fun row t _ => ?_
  split <;> exact slips_pure _

theorem slips_literalOf : Slips (literalOf setting tables site) s ↔ LacksBytes setting tables site s := by
  unfold literalOf
  constructor
  · intro slips
    -- on the way to the literal every other failure is foreseen
    cases beside : site.column with
    | none =>
        simp only [beside] at slips
        cases clause : site.clause <;> simp [clause, Failure.isForeseen] at slips
    | some column =>
        simp only [beside] at slips
        rw [slips_get] at slips
        cases owned : columnOwner s tables column site.table with
        | none => simp [owned, Failure.isForeseen] at slips
        | some table =>
            simp only [owned] at slips
            obtain ⟨schema, t, described, slips⟩ :=
              (slips_bind_of_not (not_slips_introspect wellFormed table)).mp slips
            cases typed : schema.columnType? column.name with
            | none => simp [typed, Failure.isForeseen] at slips
            | some type =>
                simp only [typed] at slips
                obtain ⟨value, u, sampled, slips⟩ :=
                  (slips_bind_of_not (not_slips_columnValue wellFormed table _ type)).mp slips
                rcases slips_bind.mp slips with slips | ⟨_, _, _, slips⟩
                · obtain ⟨cause, failed, -⟩ := slips_require.mp slips
                  obtain ⟨binary, cause, none⟩ := Sql.renderLiteral_error_iff.mp ⟨cause, failed⟩
                  exact .of beside owned described typed sampled binary none
                · exact absurd slips (slips_pure _)
  · rintro ⟨beside, owned, described, typed, sampled, binary, none⟩
    obtain ⟨cause, failed⟩ := Sql.renderLiteral_error_iff.mpr ⟨binary, _, none⟩
    simp only [beside]
    rw [slips_get]
    simp only [owned]
    refine slips_bind.mpr (.inr ⟨_, _, described, ?_⟩)
    simp only [typed]
    refine slips_bind.mpr (.inr ⟨_, _, sampled, slips_bind.mpr (.inl ?_)⟩)
    exact slips_require.mpr ⟨cause, failed, Bool.false_ne_true⟩

theorem slips_literalsOf {sites : List ParameterSite} {known : List (Nat × SqlType × String)} :
    Slips (literalsOf setting tables sites known) s ↔
      ∃ before site after found t, sites = before ++ site :: after ∧
        Gives (literalsOf setting tables before known) s found t ∧
        (¬∃ literal ∈ found, literal.1 = site.number) ∧ LacksBytes setting tables site t := by
  have repeated (site : ParameterSite) (known : List (Nat × SqlType × String)) :
      (known.any (·.1 = site.number)) ↔ ∃ literal ∈ known, literal.1 = site.number := by simp
  constructor
  · intro slips
    -- the literals before the one that fails are made, and those after it are never come to
    induction sites generalizing known s with
    | nil => exact absurd slips (slips_pure _)
    | cons site rest ih =>
        rw [literalsOf] at slips
        split at slips
        · next again =>
            obtain ⟨before, other, after, found, t, rfl, given, lacks⟩ := ih slips
            refine ⟨site :: before, other, after, found, t, rfl, ?_, lacks⟩
            rw [literalsOf, if_pos again]
            exact given
        · next new =>
            rcases slips_bind.mp slips with slips | ⟨literal, t, first, slips⟩
            · refine ⟨[], site, rest, known, s, rfl, rfl, ?_, (slips_literalOf wellFormed).mp slips⟩
              rwa [← repeated]
            · obtain ⟨before, other, after, found, u, rfl, given, lacks⟩ := ih slips
              refine ⟨site :: before, other, after, found, u, rfl, ?_, lacks⟩
              rw [literalsOf, if_neg new]
              exact gives_bind.mpr ⟨literal, t, first, given⟩
  · rintro ⟨before, site, after, found, t, rfl, given, new, lacks⟩
    rw [literalsOf_append]
    refine slips_bind.mpr (.inr ⟨found, t, given, ?_⟩)
    rw [literalsOf, if_neg (mt (repeated site found).mp new)]
    exact slips_bind.mpr (.inl ((slips_literalOf wellFormed).mpr lacks))

theorem slips_bindLiterals {parsed : Parsed} {usage : StatementUsage} :
    Slips (bindLiterals setting parsed usage) s ↔ LiteralSlip setting parsed usage s := by
  rw [bindLiterals_eq]
  constructor
  · intro slips
    rcases slips_bind.mp slips with slips | ⟨found, t, given, slips⟩
    · obtain ⟨before, site, after, found, t, same, given, new, lacks⟩ := (slips_literalsOf wellFormed).mp slips
      exact .value same given new lacks
    · unfold putLiterals at slips
      cases printed : (parsed.limited usage).text? with
      | none => exact .print given printed
      | some text =>
          simp only [printed] at slips
          rcases slips_bind.mp slips with slips | ⟨_, _, -, slips⟩
          · obtain ⟨cause, failed, unforeseen⟩ := slips_require.mp slips
            cases cause with
            | number cause => exact .mark given printed failed
            | _ => exact absurd rfl unforeseen
          · exact absurd slips (slips_pure _)
  · rintro (⟨same, given, new, lacks⟩ | ⟨given, printed⟩ | ⟨given, printed, failed⟩)
    · exact slips_bind.mpr (.inl ((slips_literalsOf wellFormed).mpr ⟨_, _, _, _, _, same, given, new, lacks⟩))
    · refine slips_bind.mpr (.inr ⟨_, _, given, ?_⟩)
      simp only [putLiterals, printed]
      exact (slips_throw _).mpr Bool.false_ne_true
    · refine slips_bind.mpr (.inr ⟨_, _, given, ?_⟩)
      simp only [putLiterals, printed]
      exact slips_bind.mpr (.inl (slips_require.mpr ⟨_, failed, Bool.false_ne_true⟩))

/-! ## Stages -/

theorem not_slips_introspectAll (tables : List String) : ¬Slips (introspectAll setting tables) s := by
  induction tables generalizing s with
  | nil => exact slips_pure _
  | cons table rest ih => exact not_slips_bind (not_slips_introspect wellFormed table) fun _ t _ => ih

theorem not_slips_sampleTargets (tables : List String) :
    ¬Slips (sampleTargets setting (tables.map some)) s := by
  induction tables generalizing s with
  | nil => exact slips_pure _
  | cons table rest ih => exact not_slips_bind (not_slips_sampleRow wellFormed table) fun _ t _ => ih

variable {query : String} {parsed : Parsed}

/-- Before the uses of columns are recorded, only a row or a target can make the binding slip. -/
theorem slips_reach (given : Outline.ofStatement? parsed.statement = some parsed.outline) :
    Slips (reach setting query parsed) s ↔
      parsed.statement.AssignsShortRow ∨ parsed.statement.ChangesExpression ∧
        ∃ o t, parsed.outline = .ok o ∧ Gives (introspectAll setting o.usage.tables) s () t := by
  rw [← Outline.error_iff given, reach]
  cases outlined : parsed.outline with
  | error cause => exact iff_of_true (slips_bind.mpr (.inl (by simp [Failure.isForeseen]))) (.inl ⟨cause, rfl⟩)
  | ok o =>
      rw [outlined] at given
      have samples (t : Session) : Slips (sampleTargets setting (sampledFirst o.usage)) t ↔
          parsed.statement.ChangesExpression := by
        rcases sampledFirst_cases given with ⟨changes, first⟩ | ⟨named, tables, first⟩
        · rw [first]
          exact iff_of_true ((slips_throw _).mpr Bool.false_ne_true) changes
        · rw [first]
          exact iff_of_false (not_slips_sampleTargets wellFormed tables) named
      have later (t : Session) : Slips (do
            registerAliases o.usage
            registerTouches query o.usage
            sampleTargets setting (sampledFirst o.usage)
            return o) t ↔ parsed.statement.ChangesExpression := by
        rw [registerAliases, slips_modify_bind, registerTouches, slips_modify_bind,
          slips_bind_of_rest fun _ _ => slips_pure _, samples]
      have known : require (.ok o) Failure.assignment = pure o := rfl
      rw [known, pure_bind, slips_bind_of_not (not_slips_introspectAll wellFormed _)]
      simp only [later]
      constructor
      · rintro ⟨⟨⟩, t, described, changes⟩
        exact .inr ⟨changes, o, t, rfl, described⟩
      · rintro (⟨cause, ⟨⟩⟩ | ⟨changes, _, t, ⟨⟩, described⟩)
        exact ⟨(), t, described, changes⟩

theorem slips_finish (usage : StatementUsage) :
    Slips (finish setting parsed usage) s ↔
      usage.kind ≠ .insert ∧ parsed.hasPlaceholders ∧ LiteralSlip setting parsed usage s := by
  have puts (result : BindResult) : Slips (do
        if parsed.hasPlaceholders then
          return { result with binding := .bound (← bindLiterals setting parsed usage) }
        else return result) s ↔ parsed.hasPlaceholders ∧ LiteralSlip setting parsed usage s := by
    rw [← slips_bindLiterals wellFormed]
    split
    · next given => rw [slips_bind_of_rest fun _ _ => slips_pure _, and_iff_right given]
    · next none => exact iff_of_false (slips_pure _) fun why => none why.1
  unfold finish
  cases usage.kind with
  | insert =>
      refine iff_of_false ?_ (fun why => why.1 rfl)
      dsimp only
      split <;> exact slips_pure _
  | select | update | delete =>
      refine (puts _).trans ?_
      simp

theorem slips_bound (given : Outline.ofStatement? parsed.statement = some parsed.outline) :
    Slips (bind setting query parsed) s ↔ parsed.statement.AssignsShortRow ∨
      (parsed.statement.ChangesExpression ∧
        ∃ o t, parsed.outline = .ok o ∧ Gives (introspectAll setting o.usage.tables) s () t) ∨
      ∃ o t, Gives (reach setting query parsed) s o t ∧ o.usage.kind ≠ .insert ∧ parsed.hasPlaceholders ∧
        LiteralSlip setting parsed o.usage (t.noted query o.usage) := by
  rw [bind_eq, slips_bind, slips_reach wellFormed given, or_assoc]
  simp only [slips_modify_bind, slips_finish wellFormed]

end WellFormed

end Step

end IndexAdvisor
