import IndexAdvisor.Proofs.Binding.Recorded
import IndexAdvisor.Proofs.Scope.Tables
import IndexAdvisor.Proofs.Sql.Settled

/-! # Marks of rewritten statements

A rewritten statement has no placeholders left if each stands apart from the text around it and each
value that is sampled for a column of numbers is a number. Any other value is put in as it is there,
and may be taken for a mark.
-/

namespace IndexAdvisor

open Sql (SqlType)
open Text (lowercase)

/-- Sampled rows have numbers in the columns of numbers, or nothing. -/
def Session.Numeric (s : Session) : Prop :=
  ∀ table schema row column type value, s.catalog.find? table = some schema →
    s.catalog.samples.find? (lowercase table) = some row →
    schema.columnType? column = some type → type.family = .number →
    row.find? column = some value → value.isNull ∨ Sql.isNumber value

section Literals

variable {now : DateTime} {tables : List String} {s : Session} {site : ParameterSite}
  {literal : SqlType × String}

/-- A literal is settled unless it shows what is no number in a column of numbers. -/
theorem Session.Backs.settled (backs : s.Backs now tables site literal)
    (number : literal.1.family = .number → s.Numeric) : Sql.Settled literal.2.toList := by
  unfold Session.Backs at backs
  cases named : site.column with
  | none =>
      rw [named] at backs
      rcases backs with rfl | rfl <;> exact Sql.settled_of_isCalm (by decide)
  | some column =>
      rw [named] at backs
      obtain ⟨table, schema, row, -, found, sampled, typed, rendered⟩ := backs
      refine Sql.settled_renderLiteral rendered fun family => ?_
      have numeric := number family table schema row column.name literal.1
      have default : Sql.isNumber (literal.1.defaultValue now) := by
        cases type : literal.1 <;> simp_all [SqlType.family, SqlType.defaultValue, Sql.isNumber]
      unfold sampledValue
      split
      · exact default
      · exact default
      · next value other look =>
          refine (numeric value found sampled typed family look).resolve_left fun null => ?_
          cases value <;> simp [Value.isNull] at null
          exact other rfl

end Literals

/-- The text of a statement that is bound. -/
def Binding.sql? : Binding → Option String
  | .bound statement => some statement.sql
  | .unsupported _ => none

/-- A database of things that have a price. -/
def Setting.market : Setting where
  database := .ofTables [("items", [("id", "int4"), ("price", "money")],
    [("id", .int 1), ("price", .text "$1,000.00")])]
  schema := "public"
  now := ⟨⟨2024, 1, 1⟩, ⟨0, 0, 0, 0, none⟩⟩

namespace Step

variable {setting : Setting} {query : String} {parsed : Parsed} {s s' : Session}
  {result : BindResult}

/-- Whether a bound statement has marks left is decided by the printed text and the literals. Where the
    marks stand apart in that text, only literals of columns of numbers can leave one. -/
theorem unmarked_iff (given : Gives (bind setting query parsed) s result s')
    (kind : result.kind ≠ .insert) (marked : parsed.hasPlaceholders) :
    ∃ o bound text, ∃ literals : List (Nat × SqlType × String),
      parsed.outline = .ok o ∧ result.binding = .bound bound ∧
      (parsed.limited o.usage).text? = some text ∧
      (∀ literal ∈ literals, ∃ site ∈ o.usage.parameters, site.number = literal.1 ∧
        s'.Backs setting.now o.usage.tables site literal.2) ∧
      let put := Sql.literalText (literals.map fun literal => (literal.1, literal.2.2))
      bound.sql = Sql.replaceMarks put text ∧
      (Sql.marks bound.sql = [] ↔ Sql.Clean put [] (Sql.pieces text)) ∧
      (Sql.isApart [] (Sql.pieces text) →
        (∀ literal ∈ literals, literal.2.1.family = .number → Sql.isClosed literal.2.2.toList) →
        (Sql.marks bound.sql = [] ↔
          ∀ m ∈ Sql.marks text, Sql.marksIn (Sql.piecesAfter [] (put m)) = [])) ∧
      (Sql.isApart [] (Sql.pieces text) → s'.Numeric → Sql.marks bound.sql = []) := by
  obtain ⟨o, outlined, binds⟩ := bound_of_bind given
  rw [binds.kind] at kind
  obtain ⟨bound, returned, literals, text, printed, put, -, backs⟩ := binds.shows kind marked
  obtain ⟨sql, found⟩ := Sql.substitute_ok put
  have settled : ∀ literal ∈ literals, (literal.2.1.family = .number → s'.Numeric) →
      Sql.Settled literal.2.2.toList := by
    intro literal mem
    obtain ⟨site, -, -, backed⟩ := backs literal mem
    exact backed.settled
  -- what is put in the place of a mark is one of the literals
  have each (P : List Char → Prop) (all : ∀ literal ∈ literals, P literal.2.2.toList) :
      ∀ m ∈ Sql.marks text, P (Sql.literalText
        (literals.map fun literal => (literal.1, literal.2.2)) m) := by
    intro m mem
    obtain ⟨number, shown, listed, same⟩ := found m mem
    obtain ⟨literal, mem, same'⟩ := List.mem_map.mp listed
    obtain ⟨-, rfl⟩ := Prod.mk.inj same'
    exact same ▸ all literal mem
  refine ⟨o, bound, text, literals, outlined, returned, printed, backs, sql,
    Sql.marks_substitute_iff put, fun apart closed => ?_, fun apart numeric => ?_⟩
  · refine Sql.marks_substitute_iff_of_isApart put apart
      (each (Sql.isClosed ·) fun literal mem => ?_)
    by_cases number : literal.2.1.family = .number
    · exact closed literal mem number
    · exact (settled literal mem (absurd · number)).1
  · have settled := each Sql.Settled fun literal mem => settled literal mem fun _ => numeric
    exact (Sql.marks_substitute_iff_of_isApart put apart fun m mem => (settled m mem).1).mpr
      fun m mem => (settled m mem).2

theorem unmarked_iff_shop :
    ∃ parsed result s o bound text put,
      Parsed.read "SELECT 1 FROM users WHERE id = ?" = .ok parsed ∧ parsed.outline = .ok o ∧
      Gives (bind .shop "query.select.001" parsed) .start result s ∧
      result.binding = .bound bound ∧ (parsed.limited o.usage).text? = some text ∧
      Sql.isApart [] (Sql.pieces text) ∧ bound.sql = Sql.replaceMarks put text ∧
      Sql.marks bound.sql = [] ∧ Sql.Clean put [] (Sql.pieces text) := by
  have runs : (Parsed.read "SELECT 1 FROM users WHERE id = ?").toOption.any (fun parsed =>
      let ends := (bind .shop "query.select.001" parsed).outcome .start
      parsed.hasPlaceholders && ends.1.isOk &&
        (parsed.outline.toOption.all fun o => (parsed.limited o.usage).text?.all fun text =>
          Sql.isApart [] (Sql.pieces text)) &&
        ends.1.toOption.all fun result =>
          result.kind ≠ .insert && result.binding.sql?.all (Sql.marks · = [])) := by
    decide +kernel
  obtain ⟨parsed, read, runs⟩ := Parsed.exists_of_any runs
  simp only [Bool.and_eq_true] at runs
  obtain ⟨⟨⟨marked, ok⟩, apart⟩, unmarked⟩ := runs
  obtain ⟨result, given⟩ := gives_of_isOk ok
  simp only [show ((bind .shop "query.select.001" parsed).outcome .start).1 = .ok result from
    congrArg Prod.fst given, Except.toOption, Option.all_some, Bool.and_eq_true,
    decide_eq_true_eq] at unmarked
  obtain ⟨o, bound, text, literals, outlined, returned, printed, -, sql, clean, -⟩ :=
    unmarked_iff given unmarked.1 marked
  have apart : Sql.isApart [] (Sql.pieces text) := by
    simpa [outlined, printed, Except.toOption] using apart
  have unmarked : Sql.marks bound.sql = [] := by
    simpa [returned, Binding.sql?] using unmarked.2
  exact ⟨parsed, result, _, o, bound, text, _, read, outlined, given, returned, printed, apart, sql,
    unmarked, clean.mp unmarked⟩

/-- A price that comes as a text is put in as it is, and begins like a mark. -/
theorem price_leaves_mark :
    ∃ parsed result s bound, Parsed.read "SELECT id FROM items WHERE price = ?" = .ok parsed ∧
      Gives (bind .market "query.select.001" parsed) .start result s ∧
      result.binding = .bound bound ∧
      bound.sql = "SELECT id FROM items WHERE price = $1,000.00" ∧
      Sql.marks bound.sql = [['$', '1']] := by
  have runs : (Parsed.read "SELECT id FROM items WHERE price = ?").toOption.any (fun parsed =>
      let ends := (bind .market "query.select.001" parsed).outcome .start
      ends.1.toOption.any fun result => result.binding.sql?.any fun sql =>
        sql = "SELECT id FROM items WHERE price = $1,000.00" && Sql.marks sql = [['$', '1']]) := by
    decide +kernel
  obtain ⟨parsed, read, runs⟩ := Parsed.exists_of_any runs
  rcases run : (bind .market "query.select.001" parsed).outcome .start with ⟨e | result, s⟩
  · simp [run, Except.toOption] at runs
  · simp only [run, Except.toOption, Option.any_some] at runs
    cases binding : result.binding with
    | unsupported reason => simp [binding, Binding.sql?] at runs
    | bound bound =>
        simp only [binding, Binding.sql?, Option.any_some, Bool.and_eq_true,
          decide_eq_true_eq] at runs
        exact ⟨parsed, result, s, bound, read, run, binding, runs⟩

end Step

end IndexAdvisor
