import IndexAdvisor.Proofs.Scope.Reading
import IndexAdvisor.Statement
import Mathlib.Logic.Basic
import Mathlib.Tactic.ByContra

/-! # Tables found in statements

The usage walk finds a table if a mention of it comes before any declaration of a common table
expression of its name. Scoping in SQL goes by nesting and not by reading order, so a real table is
lost when such an expression was declared elsewhere before, and one is invented when an expression
is used before it is declared, as `WITH RECURSIVE` allows.
-/

namespace IndexAdvisor

open Outline
open Sql (Node Place Expr)
open Sql.Node (Mention ofOption)
open Text (lowercase)

namespace Walk

/-! ## Mentions that are kept -/

/-- The mentions name a table before they declare a common table expression of its name. -/
def MetFirst (t : String) (ms : List Mention) : Prop :=
  ∃ before byname real after, ms = before ++ .names t byname real :: after ∧ .declares t ∉ before

theorem metFirst_declares {t name : String} {ms : List Mention} :
    MetFirst t (.declares name :: ms) ↔ name ≠ t ∧ MetFirst t ms := by
  constructor
  · rintro ⟨before, byname, real, after, same, free⟩
    cases before with
    | nil => exact nomatch same
    | cons first before =>
        obtain ⟨rfl, rfl⟩ := List.cons.inj same
        simp only [List.mem_cons, Mention.declares.injEq, not_or] at free
        exact ⟨Ne.symm free.1, before, byname, real, after, rfl, free.2⟩
  · rintro ⟨other, before, byname, real, after, rfl, free⟩
    refine ⟨.declares name :: before, byname, real, after, rfl, ?_⟩
    simp [free, Ne.symm other]

theorem metFirst_names {t name : String} {byname : Option String} {real : Bool}
    {ms : List Mention} : MetFirst t (.names name byname real :: ms) ↔ name = t ∨ MetFirst t ms := by
  constructor
  · rintro ⟨before, other, found, after, same, free⟩
    cases before with
    | nil =>
        obtain ⟨⟨⟩, -⟩ := List.cons.inj same
        exact .inl rfl
    | cons first before =>
        obtain ⟨rfl, rfl⟩ := List.cons.inj same
        exact .inr ⟨before, other, found, after, rfl, fun mem => free (List.mem_cons_of_mem _ mem)⟩
  · rintro (rfl | ⟨before, other, found, after, rfl, free⟩)
    · exact ⟨[], byname, real, ms, rfl, nofun⟩
    · exact ⟨.names name byname real :: before, other, found, after, rfl, by simpa using free⟩

/-- Of the mentions met after others, those of known common table expressions are lost. -/
theorem mem_tables_met {t : String} (ms : List Mention) (s : Seen) :
    t ∈ (ms.foldl meet s).tables ↔ t ∈ s.tables ∨ (t ∉ s.ctes ∧ MetFirst t ms) := by
  induction ms generalizing s with
  | nil => simp [MetFirst]
  | cons m ms ih =>
      cases m with
      | declares name =>
          rw [List.foldl_cons, meet, ih, metFirst_declares]
          simp only [List.mem_append, List.mem_singleton, not_or, and_assoc, ne_comm (a := t)]
      | names name byname real =>
          rw [List.foldl_cons, metFirst_names]
          -- a table whose name a common table expression has is not met
          by_cases hidden : name ∈ s.ctes
          · have same : meet s (.names name byname real) = s := by
              simp [meet, hidden]
            rw [same, ih]
            have other (free : t ∉ s.ctes) : name ≠ t := fun same => free (same ▸ hidden)
            exact or_congr_right (and_congr_right fun free => by simp [other free])
          · have added : t ∈ (meet s (.names name byname real)).tables ↔ t ∈ s.tables ∨ t = name := by
              by_cases known : name ∈ s.tables
              · simp only [meet, List.contains_iff_mem, hidden, known, if_true, if_false]
                exact ⟨.inl, fun either => either.elim id fun same => same ▸ known⟩
              · simp [meet, hidden, known]
            have kept : (meet s (.names name byname real)).ctes = s.ctes := by
              simp [meet, hidden]
            rw [ih, added, kept, or_assoc]
            refine or_congr_right ⟨?_, ?_⟩
            · rintro (rfl | ⟨free, later⟩)
              · exact ⟨hidden, .inl rfl⟩
              · exact ⟨free, .inr later⟩
            · rintro ⟨free, rfl | later⟩
              · exact .inl rfl
              · exact .inr ⟨free, later⟩

end Walk

/-! ## Tables of a statement -/

/-- A statement that is read keeps its text, and has a kind and an outline. -/
theorem Parsed.of_read {query : String} {p : Parsed} (read : Parsed.read query = .ok p) :
    p.query = query ∧ kindOf p.statement = .ok p.kind ∧
      Outline.ofStatement? p.statement = some p.outline := by
  simp only [Parsed.read, Bind.bind, Except.bind, Pure.pure, Except.pure, throw, throwThe,
    MonadExceptOf.throw] at read
  split at read
  · exact nomatch read
  split at read
  · exact nomatch read
  split at read
  · split at read
    · exact nomatch read
    split at read
    · split at read
      · exact nomatch read
      next statement _ _ _ named =>
      split at read
      · next outlined =>
          obtain rfl := Except.ok.inj read
          refine ⟨rfl, ?_, outlined⟩
          cases kind : kindOf statement with
          | error name => simp [kind, Except.mapError] at named
          | ok kind' => simpa [kind, Except.mapError] using named
      · exact nomatch read
    · exact nomatch read
  · exact nomatch read

theorem Parsed.outline_of_read {query : String} {p : Parsed} (read : Parsed.read query = .ok p) :
    Outline.ofStatement? p.statement = some p.outline := (of_read read).2.2

theorem Outline.kind_of_statement {statement : Sql.Statement} {o : Outline}
    (given : Outline.ofStatement? statement = some (.ok o)) : kindOf statement = .ok o.kind := by
  cases statement with
  | query q =>
      cases given
      rfl
  | insert clause ctes table byname columns overriding rows conflict returning =>
      cases given
      rfl
  | update clause ctes only table byname assigned sources condition returning =>
      obtain ⟨_, -, rfl⟩ := Walk.update_of_statement given
      rfl
  | delete clause ctes only table byname sources condition returning =>
      cases given
      rfl
  | other kind text => cases given

theorem Parsed.kind_of_outline {query : String} {p : Parsed} {o : Outline} (read : Parsed.read query = .ok p)
    (outlined : p.outline = .ok o) : o.kind = p.kind := by
  have given := Outline.kind_of_statement ((Parsed.outline_of_read read).trans (congrArg some outlined))
  exact Except.ok.inj (given.symm.trans (of_read read).2.1)

theorem Parsed.exists_of_any {query : String} {check : Parsed → Bool}
    (holds : (Parsed.read query).toOption.any check) :
    ∃ p, Parsed.read query = .ok p ∧ check p := by
  cases read : Parsed.read query with
  | error e => simp [read, Except.toOption] at holds
  | ok p => exact ⟨p, rfl, by simpa [read, Except.toOption] using holds⟩

/-- The mentions of a statement, in reading order. -/
def Sql.Statement.mentions (s : Sql.Statement) : List Mention := (Node.statement s).mentions []

theorem Outline.mem_tables {s : Sql.Statement} {o : Outline}
    (given : ofStatement? s = some (.ok o)) (t : String) :
    t ∈ o.usage.tables ↔ Walk.MetFirst t s.mentions := by
  have tables : o.usage.tables
      = (Walk.met [] [⟨[], .statement s⟩] ⟨[], [], []⟩).tables :=
    congrArg Walk.Seen.tables (Walk.reads_outline given).seen
  rw [tables, Walk.met, List.flatMap_cons, List.flatMap_nil, List.append_nil, Walk.mem_tables_met]
  simp [Sql.Statement.mentions]

/-- A real table is named, but the walk either does not come by it or has met a common table
    expression of its name by then. -/
def Sql.Statement.Loses (s : Sql.Statement) (t : String) : Prop :=
  ((∃ byname, .names t byname true ∈ s.mentions) ∨ Node.Overlooked [] (.statement s) t) ∧
    ∀ before byname real after, s.mentions = before ++ .names t byname real :: after →
      .declares t ∈ before

/-- Only a common table expression is named, and before the walk meets its declaration. -/
def Sql.Statement.Invents (s : Sql.Statement) (t : String) : Prop :=
  (∀ byname, .names t byname true ∉ s.mentions) ∧ ¬ Node.Overlooked [] (.statement s) t ∧
    ∃ before byname after, s.mentions = before ++ .names t byname false :: after ∧
      .declares t ∉ before

/-- The tables found are the real tables named, but for those that are lost or invented. -/
theorem tables_correct_iff {query : String} {p : Parsed} {o : Outline}
    (read : Parsed.read query = .ok p) (outlined : p.outline = .ok o) (t : String) :
    (t ∈ o.usage.tables ↔ Node.Names [] (.statement p.statement) t) ↔
      ¬ p.statement.Loses t ∧ ¬ p.statement.Invents t := by
  have given : Outline.ofStatement? p.statement = some (.ok o) :=
    (Parsed.outline_of_read read).trans (congrArg some outlined)
  have first : Walk.MetFirst t p.statement.mentions ↔
      ¬ ∀ before byname real after, p.statement.mentions = before ++ .names t byname real :: after →
        .declares t ∈ before := by
    simp only [Walk.MetFirst, not_forall, exists_prop]
  rw [Outline.mem_tables given, Node.names_iff]
  constructor
  · intro agree
    refine ⟨fun ⟨named, late⟩ => first.mp (agree.mpr named) late, ?_⟩
    rintro ⟨unnamed, seen, before, byname, after, same, free⟩
    rcases agree.mp ⟨before, byname, false, after, same, free⟩ with ⟨other, named⟩ | overlooked
    · exact unnamed other named
    · exact seen overlooked
  · rintro ⟨kept, genuine⟩
    constructor
    · rintro ⟨before, byname, real, after, same, free⟩
      by_contra unnamed
      obtain ⟨unmentioned, seen⟩ := not_or.mp unnamed
      cases real with
      | true =>
          rw [Sql.Statement.mentions] at same
          exact unmentioned ⟨byname, by simp [same]⟩
      | false => exact genuine ⟨not_exists.mp unmentioned, seen, before, byname, after, same, free⟩
    · intro named
      exact first.mpr fun late => kept ⟨named, late⟩

/-- The statement `WITH t AS (SELECT … FROM t) …`, in which the first mention of `t` is real. -/
def Sql.Statement.readsOwnName : Sql.Statement → Bool
  | .query (.mk false (.mk "t" _ _ (.query (.mk false [] (.select _ _ _ _
      (.table _ ⟨_, _, "t"⟩ _ :: _) _ _ _ _ _) _ _ _ _ _)) _ :: _) _ _ _ _ _ _) => true
  | _ => false

theorem Sql.Statement.names_of_readsOwnName {s : Sql.Statement} (own : s.readsOwnName) :
    Node.Names [] (.statement s) "t" := by
  unfold readsOwnName at own
  split at own
  · have small : lowercase "t" = "t" := by decide +kernel
    suffices named : Node.Names [] _ (lowercase "t") from small ▸ named
    refine .within (p := ⟨[], .cte _⟩) (List.mem_append_left _ List.mem_cons_self) ?_
    refine .within (p := ⟨[], .query _⟩) (List.mem_append_left _ List.mem_cons_self) ?_
    refine .within (p := ⟨[], .body _⟩) (List.mem_append_left _ List.mem_cons_self) ?_
    refine .within (p := ⟨[], .source _⟩) (List.mem_append_left _ List.mem_cons_self) ?_
    exact .item (.inr nofun)
  · exact nomatch own

theorem read_own_name :
    ∃ p o, Parsed.read "WITH t AS (SELECT id FROM t) SELECT id FROM t" = .ok p ∧
      p.outline = .ok o ∧ p.statement.readsOwnName ∧ o.usage.tables = [] := by
  have runs : (Parsed.read "WITH t AS (SELECT id FROM t) SELECT id FROM t").toOption.any (fun p =>
      p.statement.readsOwnName && p.outline.toOption.any (·.usage.tables.isEmpty)) := by
    decide +kernel
  obtain ⟨p, read, runs⟩ := Parsed.exists_of_any runs
  obtain ⟨own, empty⟩ := Bool.and_eq_true_iff.mp runs
  cases outlined : p.outline with
  | error e => simp [outlined, Except.toOption] at empty
  | ok o =>
      refine ⟨p, o, read, outlined, own, ?_⟩
      simpa [outlined, Except.toOption] using empty

theorem tables_correct_iff_own_name :
    ∃ p o, Parsed.read "WITH t AS (SELECT id FROM t) SELECT id FROM t" = .ok p ∧
      p.outline = .ok o ∧ p.statement.Loses "t" := by
  obtain ⟨p, o, read, outlined, own, empty⟩ := read_own_name
  have named := Sql.Statement.names_of_readsOwnName own
  refine ⟨p, o, read, outlined, ?_⟩
  by_contra kept
  have genuine : ¬ p.statement.Invents "t" := fun ⟨unnamed, seen, _⟩ =>
    (Node.names_iff.mp named).elim (fun ⟨byname, mentioned⟩ => unnamed byname mentioned) seen
  have found := ((tables_correct_iff read outlined "t").mpr ⟨kept, genuine⟩).mpr named
  simp [empty] at found

/-- The table that the common table expression `t` reads is a real one, but it is not found. -/
theorem own_name_lost :
    ∃ p o, Parsed.read "WITH t AS (SELECT id FROM t) SELECT id FROM t" = .ok p ∧
      p.outline = .ok o ∧ Node.Names [] (.statement p.statement) "t" ∧ "t" ∉ o.usage.tables := by
  obtain ⟨p, o, read, outlined, own, empty⟩ := read_own_name
  exact ⟨p, o, read, outlined, Sql.Statement.names_of_readsOwnName own, by simp [empty]⟩

/-- Without a common table expression of its name, a table is found if it is not overlooked. -/
theorem tables_of_undeclared {s : Sql.Statement} {o : Outline}
    (given : Outline.ofStatement? s = some (.ok o)) {t : String}
    (undeclared : .declares t ∉ s.mentions) (seen : ¬ Node.Overlooked [] (.statement s) t) :
    t ∈ o.usage.tables ↔ Node.Names [] (.statement s) t := by
  rw [Outline.mem_tables given, Node.names_iff, or_iff_left seen]
  constructor
  · rintro ⟨before, byname, real, after, same, -⟩
    have mem : .names t byname real ∈ (Node.statement s).mentions [] := by
      rw [← Sql.Statement.mentions, same]
      simp
    cases real with
    | true => exact ⟨byname, mem⟩
    | false =>
        rcases Node.declares_of_hidden _ mem with ⟨_, none, -⟩ | declared
        · exact nomatch none
        · exact absurd declared undeclared
  · rintro ⟨byname, mem⟩
    obtain ⟨before, after, same⟩ := List.append_of_mem mem
    refine ⟨before, byname, true, after, same, fun early => undeclared ?_⟩
    rw [Sql.Statement.mentions, same]
    exact List.mem_append_left _ early

end IndexAdvisor
