import IndexAdvisor.Proofs.Binding.Stages
import IndexAdvisor.Proofs.Scope.Tables
import IndexAdvisor.Proofs.Session.Slips
import IndexAdvisor.Proofs.Sql.Settled
import IndexAdvisor.Proofs.Usage.Occurrences

/-! # Statements that nobody foresaw

Most texts that are no statement are refused with an error that tells why. For three things in a text
there is no such error: a mark or a character that cannot be read, a row that is assigned to more columns
than it has elements, and a changed table that has the name of a common table expression.
-/

namespace IndexAdvisor

open Number (maxDigits)
open Outline (namedTarget)
open Sql (Node Piece)
open Sql.Node (Mention)
open Text (halfPair lowercase)

/-! ## Texts -/

namespace Sql

/-- The text has a mark of too many digits, or a character that cannot be encoded. -/
def Unreadable (query : String) : Prop :=
  (∃ mark ∈ marks query, maxDigits < (mark.drop 1).length) ∨ ¬Text.isEncodable query

theorem encodable_iff {sql : String} : Text.isEncodable sql ↔ halfPair ∉ sql.toList := by
  simp [Text.isEncodable]

/-- Nothing is wrong with a text of blanks. -/
theorem readable_of_blank {query : String} (blank : Text.isBlankText query) : ¬Unreadable query := by
  have blank : ∀ c ∈ query.toList, Text.isBlank c := List.all_eq_true.mp blank
  rintro (⟨mark, listed, -⟩ | strange)
  · obtain ⟨p, cut, found⟩ := List.mem_filterMap.mp listed
    cases p with
    | copied cs => exact nomatch found
    | mark cs =>
        obtain rfl := Option.some.inj found
        obtain ⟨c, head, sign⟩ := wellFormed_piecesAfter [] query.toList _ cut
        have among : c ∈ query.toList := by
          rw [← flatMap_chars_piecesAfter [] query.toList]
          exact List.mem_flatMap.mpr ⟨_, cut, List.mem_of_mem_head? head⟩
        have lit := blank c among
        rcases sign rfl with rfl | rfl <;> exact absurd lit (by decide)
  · rw [encodable_iff, not_not] at strange
    exact absurd (blank _ strange) (by decide)

/-- Marks are numbered unless one of them has too many digits, and what cannot be encoded stays. -/
theorem numberPieces_cases (count highest : Nat) (ps : List Piece) :
    (∃ cause, numberPieces count highest ps = .error cause ∧
      ∃ mark ∈ marksIn ps, maxDigits < (mark.drop 1).length) ∨
    ∃ text counts, numberPieces count highest ps = .ok (text, counts) ∧
      (∀ mark ∈ marksIn ps, ¬maxDigits < (mark.drop 1).length) ∧
      (halfPair ∈ text ↔ halfPair ∈ ps.flatMap Piece.chars) := by
  induction ps generalizing count highest with
  | nil => exact .inr ⟨[], (count, highest), rfl, nofun, Iff.rfl⟩
  | cons p ps ih =>
      cases p with
      | copied cs =>
          rcases ih count highest with ⟨cause, failed, long⟩ | ⟨text, counts, numbered, short, same⟩
          · refine .inl ⟨cause, ?_, long⟩
            rw [numberPieces, failed]
            rfl
          · refine .inr ⟨cs ++ text, counts, ?_, short, by simp [Piece.chars, same]⟩
            rw [numberPieces, numbered]
            rfl
      | mark cs =>
          rw [marksIn_mark, numberPieces]
          by_cases question : cs = ['?']
          · subst question
            -- what is put in for a question mark are digits, and no half of a pair is among them
            have digits : halfPair ∉ (toString (count + 1)).toList :=
              fun mem => absurd (isDigit_of_mem_toString mem) (by decide)
            have sign : halfPair ≠ '$' := by decide
            have mark : halfPair ≠ '?' := by decide
            rcases ih (count + 1) highest with
              ⟨cause, failed, long, listed, exceeds⟩ | ⟨text, counts, numbered, short, same⟩
            · refine .inl ⟨cause, ?_, long, List.mem_cons_of_mem _ listed, exceeds⟩
              rw [if_pos rfl, failed]
              rfl
            · refine .inr ⟨'$' :: (toString (count + 1)).toList ++ text, counts, ?_,
                List.forall_mem_cons.mpr ⟨by decide, short⟩, ?_⟩
              · rw [if_pos rfl, numbered]
                rfl
              · simp only [List.flatMap_cons, Piece.chars, List.cons_append, List.mem_cons, List.mem_append,
                  List.not_mem_nil, digits, sign, mark, false_or, same]
          · by_cases long : maxDigits < (cs.drop 1).length
            · refine .inl ⟨.tooLong (cs.drop 1).length, ?_, cs, List.mem_cons_self, long⟩
              rw [if_neg question, markNumber, if_pos long]
              rfl
            · have read : markNumber cs = .ok (Text.digitsValue (cs.drop 1)) := if_neg long
              rcases ih count (max highest (Text.digitsValue (cs.drop 1))) with
                ⟨cause, failed, mark, listed, exceeds⟩ | ⟨text, counts, numbered, short, same⟩
              · refine .inl ⟨cause, ?_, mark, List.mem_cons_of_mem _ listed, exceeds⟩
                rw [if_neg question, read]
                change (numberPieces _ _ _ >>= _) = _
                rw [failed]
                rfl
              · refine .inr ⟨cs ++ text, counts, ?_, List.forall_mem_cons.mpr ⟨long, short⟩,
                  by simp [Piece.chars, same]⟩
                rw [if_neg question, read]
                change (numberPieces _ _ _ >>= _) = _
                rw [numbered]
                rfl

theorem normalise_cases (query : String) :
    (∃ cause, normalise query = .error cause ∧ Unreadable query) ∨
    ∃ numbered, normalise query = .ok numbered ∧
      (Unreadable query ↔ ¬Text.isEncodable numbered.sql) := by
  rcases numberPieces_cases 0 0 (pieces query) with
    ⟨cause, failed, long⟩ | ⟨text, counts, numbered, short, same⟩
  · refine .inl ⟨cause, ?_, .inl long⟩
    rw [normalise, failed]
    rfl
  · refine .inr ⟨⟨.ofList text, max counts.1 counts.2⟩, ?_, ?_⟩
    · rw [normalise, numbered]
      rfl
    · rw [pieces, flatMap_chars_piecesAfter] at same
      rw [encodable_iff, String.toList_ofList, same, ← encodable_iff]
      refine or_iff_right ?_
      rintro ⟨mark, listed, long⟩
      exact short mark listed long

end Sql

theorem slips_read {query : String} {s : Session} :
    Step.Slips (Step.require (Parsed.read query) .statement) s ↔ Sql.Unreadable query := by
  rw [Step.slips_require, Parsed.read]
  by_cases blank : Text.isBlankText query
  · rw [if_pos blank]
    refine iff_of_false ?_ (Sql.readable_of_blank blank)
    rintro ⟨cause, ⟨⟩, unforeseen⟩
    exact unforeseen rfl
  rw [if_neg blank]
  rcases Sql.normalise_cases query with ⟨cause, failed, unreadable⟩ | ⟨numbered, normal, unreadable⟩
  · refine iff_of_true ⟨.number cause, ?_, Bool.false_ne_true⟩ unreadable
    simp only [failed]
    rfl
  · rw [unreadable]
    simp only [normal]
    by_cases encodable : Text.isEncodable numbered.sql
    · refine iff_of_false ?_ (not_not_intro encodable)
      rintro ⟨cause, failed, unforeseen⟩
      -- of what is left to check, every error is foreseen
      refine unforeseen ?_
      change (if _ then _ else _) = _ at failed
      rw [if_pos encodable] at failed
      cases parsed : Sql.Statement.readAll numbered.sql with
      | error e =>
          rw [parsed] at failed
          obtain rfl := Except.error.inj failed
          rfl
      | ok statements =>
          rw [parsed] at failed
          simp only [Except.mapError, Bind.bind, Except.bind, Pure.pure, Except.pure, throw, throwThe,
            MonadExceptOf.throw] at failed
          split at failed
          · next statement =>
              cases kind : kindOf statement with
              | error name =>
                  rw [kind] at failed
                  obtain rfl := Except.error.inj failed
                  rfl
              | ok kind' =>
                  rw [kind] at failed
                  dsimp only at failed
                  split at failed
                  · cases failed
                  · obtain rfl := Except.error.inj failed
                    rfl
          · obtain rfl := Except.error.inj failed
            rfl
    · refine iff_of_true ⟨.encoding, ?_, Bool.false_ne_true⟩ encodable
      change (if _ then _ else _) = _
      rw [if_neg encodable]
      rfl

/-! ## Rows -/

/-- A row is assigned that is empty or has fewer elements than there are columns. -/
def Sql.Assignment.IsShort : Sql.Assignment → Prop
  | .row targets (.row _ items) => items = [] ∨ items.length < targets.length
  | _ => False

/-- The statement assigns such a row. -/
def Sql.Statement.AssignsShortRow : Sql.Statement → Prop
  | .update _ _ _ _ _ assigned .. => ∃ a ∈ assigned, a.IsShort
  | _ => False

namespace Outline

theorem rowAssignments_error_iff {targets : List Sql.Destination} {value : Sql.Expr} :
    (∃ cause, rowAssignments targets value = .error cause) ↔ (Sql.Assignment.row targets value).IsShort := by
  unfold rowAssignments
  split
  · next explicit items =>
      rw [Sql.Assignment.IsShort]
      by_cases none : items = []
      · exact iff_of_true ⟨.emptyRow, if_pos (by simp [none])⟩ (.inl none)
      · rw [if_neg (by simpa using none), or_iff_right none]
        split
        · next short => exact iff_of_true ⟨_, rfl⟩ short
        · next long => exact iff_of_false nofun long
  · next whole =>
      have other : ¬(Sql.Assignment.row targets value).IsShort := by
        intro short
        cases value with
        | row explicit items => exact whole explicit items rfl
        | _ => exact short
      refine iff_of_false ?_ other
      cases targets <;> exact nofun

theorem assignments_error_iff {as : List Sql.Assignment} :
    (∃ cause, assignments as = .error cause) ↔ ∃ a ∈ as, a.IsShort := by
  induction as with
  | nil => simp [assignments]
  | cons a rest ih =>
      rw [List.exists_mem_cons_iff, ← ih]
      cases a with
      | single target value =>
          have single : ¬(Sql.Assignment.single target value).IsShort := id
          rw [assignments, or_iff_right single]
          cases assignments rest <;> simp [Bind.bind, Except.bind, Pure.pure, Except.pure]
      | row targets value =>
          rw [assignments, ← rowAssignments_error_iff]
          cases rowAssignments targets value <;> cases assignments rest <;>
            simp [Bind.bind, Except.bind, Pure.pure, Except.pure]

/-- A statement that is read has an outline unless it assigns a row that is too short. -/
theorem error_iff {s : Sql.Statement} {outlined : Except AssignmentError Outline}
    (given : ofStatement? s = some outlined) :
    (∃ cause, outlined = .error cause) ↔ s.AssignsShortRow := by
  cases s with
  | update recursive ctes only table byname assigned sources condition back =>
      obtain rfl := Option.some.inj given
      rw [Sql.Statement.AssignsShortRow, ← assignments_error_iff]
      cases assignments assigned <;> simp [Bind.bind, Except.bind, Pure.pure, Except.pure]
  | other => exact nomatch given
  | _ =>
      obtain rfl := Option.some.inj given
      exact iff_of_false nofun id

end Outline

/-! ## Targets -/

/-- The changed table has the name of a common table expression that is declared in the statement, at
    any depth. -/
def Sql.Statement.ChangesExpression : Sql.Statement → Prop
  | .update recursive ctes _ table .. | .delete recursive ctes _ table .. =>
    ∃ p ∈ Sql.ctePlaces recursive ctes, .declares (lowercase table.name) ∈ p.node.mentions p.visible
  | _ => False

namespace Walk

/-- Of common table expressions all names are kept. -/
theorem mem_ctes_met {name : String} (ms : List Mention) (s : Seen) :
    name ∈ (ms.foldl meet s).ctes ↔ name ∈ s.ctes ∨ .declares name ∈ ms := by
  induction ms generalizing s with
  | nil => simp
  | cons m ms ih =>
      rw [List.foldl_cons, ih]
      cases m with
      | declares other => simp [meet, or_assoc]
      | names table byname real =>
          have kept : (meet s (.names table byname real)).ctes = s.ctes := by
            rw [meet]
            split <;> rfl
          simp [kept]

theorem namedTarget_eq_none_iff (recursive : Bool) (ctes : List Sql.Cte) (table : Sql.TableName)
    (byname : Option String) :
    Outline.namedTarget (Outline.cteOutlines ctes) (Outline.tableOf table byname) = none ↔
      ∃ p ∈ Sql.ctePlaces recursive ctes, .declares (lowercase table.name) ∈ p.node.mentions p.visible := by
  let w := withTables [] (Outline.cteOutlines ctes) start
  have read : Reads [] (Sql.ctePlaces recursive ctes) start w := reads_ctes recursive ctes start
  have known : lowercase table.name ∈ w.seen.ctes ↔
      ∃ p ∈ Sql.ctePlaces recursive ctes, .declares (lowercase table.name) ∈ p.node.mentions p.visible := by
    rw [read.seen, met, mem_ctes_met, List.mem_flatMap]
    simp [seen, start]
  rw [← known, Outline.namedTarget, addTarget, addTable]
  by_cases hidden : lowercase table.name ∈ w.cteNames <;>
    simp [Outline.tableOf, seen, w, hidden]

end Walk

/-- Before the columns are recorded, either there is no name for what is to be sampled, or only tables
    that are named are sampled. -/
theorem Step.sampledFirst_cases {s : Sql.Statement} {o : Outline}
    (given : Outline.ofStatement? s = some (.ok o)) :
    s.ChangesExpression ∧ sampledFirst o.usage = [none] ∨
      ¬s.ChangesExpression ∧ ∃ tables : List String, sampledFirst o.usage = tables.map some := by
  have named (target : Option String) (changes : Prop) (same : target = none ↔ changes) :
      changes ∧ [target] = [none] ∨ ¬changes ∧ ∃ tables : List String, [target] = tables.map some := by
    rw [← same]
    cases target with
    | none => exact .inl ⟨rfl, rfl⟩
    | some table => exact .inr ⟨Option.some_ne_none table, [table], rfl⟩
  cases s with
  | query q | insert recursive ctes table byname columns overriding rows onConflict back =>
      obtain rfl := Except.ok.inj (Option.some.inj given)
      exact .inr ⟨id, [], rfl⟩
  | update recursive ctes only table byname as sources condition back =>
      obtain ⟨assigned, -, rfl⟩ := Walk.update_of_statement given
      have targets := Outline.targets_update (Outline.cteOutlines ctes) (Outline.tableOf table byname)
        assigned (Outline.sourceOutlines sources) (Outline.optionTerms condition).head?
        (Outline.returningTerms back)
      change _ ∧ StatementUsage.targets _ = _ ∨ _ ∧ ∃ tables : List String, StatementUsage.targets _ = _
      rw [targets]
      exact named _ _ (Walk.namedTarget_eq_none_iff recursive ctes table byname)
  | delete recursive ctes only table byname sources condition back =>
      obtain rfl := Except.ok.inj (Option.some.inj given)
      have targets := Outline.targets_delete (Outline.cteOutlines ctes) (Outline.tableOf table byname)
        (Outline.sourceOutlines sources) (Outline.optionTerms condition).head?
        (Outline.returningTerms back)
      change _ ∧ StatementUsage.targets _ = _ ∨ _ ∧ ∃ tables : List String, StatementUsage.targets _ = _
      rw [targets]
      exact named _ _ (Walk.namedTarget_eq_none_iff recursive ctes table byname)
  | other kind parts => cases given

end IndexAdvisor
