import IndexAdvisor.Proofs.Binding.Slipping
import IndexAdvisor.Proofs.Usage.Limit

/-! # Parameters of bound statements

A bound statement tells one parameter for each number that its placeholders have, in ascending order:
the type and the literal of the first placeholder with the number. Sorting keeps placeholders of one
number in the order in which they were found, so the first one of the sorted list is the first one of
the statement. Behind them stands the parameter of an imposed limit.
-/

namespace IndexAdvisor

open Sql (SqlType)
open Text (digitsValue)

/-! ## Placeholders of a text -/

namespace Sql

/-- A mark that calls for a parameter: parameters are numbered from one on. -/
def CallsParameter (mark : List Char) : Prop := mark = ['?'] ∨ 0 < digitsValue (mark.drop 1)

theorem pos_of_numberPieces {count highest : Nat} {ps : List Piece} {text : List Char} {counts : Nat × Nat}
    (numbered : numberPieces count highest ps = .ok (text, counts)) :
    0 < max counts.1 counts.2 ↔ 0 < max count highest ∨ ∃ m ∈ marksIn ps, CallsParameter m := by
  -- the counts only grow, so they are positive at the end once a mark has made them so
  induction ps generalizing count highest text with
  | nil =>
      obtain ⟨-, rfl⟩ := Prod.mk.inj (Except.ok.inj numbered)
      simp [marksIn]
  | cons p ps ih =>
      cases p with
      | copied cs =>
          obtain ⟨⟨rest, counts'⟩, later, ends⟩ := bind_ok.mp numbered
          obtain ⟨-, rfl⟩ := Prod.mk.inj (Except.ok.inj ends)
          exact ih later
      | mark cs =>
          rw [marksIn_mark]
          simp only [List.mem_cons, exists_eq_or_imp]
          rw [numberPieces] at numbered
          split at numbered
          · next question =>
              obtain ⟨⟨rest, counts'⟩, later, ends⟩ := bind_ok.mp numbered
              obtain ⟨-, rfl⟩ := Prod.mk.inj (Except.ok.inj ends)
              rw [ih later]
              have counted : 0 < max (count + 1) highest := by omega
              simp [counted, CallsParameter, question]
          · next numeral =>
              obtain ⟨n, read, numbered⟩ := bind_ok.mp numbered
              obtain ⟨⟨rest, counts'⟩, later, ends⟩ := bind_ok.mp numbered
              obtain ⟨-, rfl⟩ := Prod.mk.inj (Except.ok.inj ends)
              obtain rfl : digitsValue (cs.drop 1) = n := by
                simp only [markNumber] at read
                split at read
                · cases read
                · exact Except.ok.inj read
              rw [ih later, ← or_assoc]
              refine or_congr_left ?_
              simp only [CallsParameter, numeral, false_or]
              omega

end Sql

theorem Parsed.normalise_of_read {text : String} {p : Parsed} (read : Parsed.read text = .ok p) :
    Sql.normalise text = .ok ⟨p.sql, p.placeholderCount⟩ := by
  simp only [Parsed.read, Bind.bind, Except.bind, Pure.pure, Except.pure, throw, throwThe,
    MonadExceptOf.throw] at read
  split at read
  · cases read
  cases numbered : Sql.normalise text with
  | error cause => simp [numbered, Except.mapError] at read
  | ok found =>
      simp only [numbered, Except.mapError] at read
      repeat' split at read
      all_goals cases read
      rfl

/-- A text has placeholders if a mark in it calls for a parameter. -/
theorem Parsed.hasPlaceholders_iff {text : String} {p : Parsed} (read : Parsed.read text = .ok p) :
    p.hasPlaceholders ↔ ∃ m ∈ Sql.marks text, Sql.CallsParameter m := by
  obtain ⟨⟨_, counts⟩, numbered, ends⟩ := Sql.bind_ok.mp (Parsed.normalise_of_read read)
  have counted := (Sql.Numbered.mk.inj (Except.ok.inj ends)).2
  have called := Sql.pos_of_numberPieces numbered
  rw [Parsed.hasPlaceholders, decide_eq_true_iff, ← counted, Sql.marks_eq]
  simpa using called

/-! ## First placeholders -/

/-- Of each number among placeholders the first one, in ascending order. -/
structure FirstOfEach (sites found : List ParameterSite) : Prop where
  ascending : (found.map (·.number)).Pairwise (· < ·)
  numbers : ∀ number, number ∈ found.map (·.number) ↔ number ∈ sites.map (·.number)
  first : ∀ site ∈ found, sites.find? (·.number = site.number) = some site

namespace FirstOfEach

theorem nil : FirstOfEach [] [] := ⟨.nil, fun _ => Iff.rfl, nofun⟩

/-- The least placeholder comes first, and none of its number after it. -/
theorem cons {site : ParameterSite} {sites found : List ParameterSite}
    (rest : FirstOfEach (sites.filter (·.number ≠ site.number)) found)
    (least : ∀ other ∈ sites, site.number ≤ other.number) :
    FirstOfEach (site :: sites) (site :: found) := by
  have others (number : Nat) :
      number ∈ found.map (·.number) ↔ number ∈ sites.map (·.number) ∧ number ≠ site.number := by
    rw [rest.numbers]
    simp only [List.mem_map, List.mem_filter, decide_eq_true_eq]
    constructor
    · rintro ⟨other, ⟨mem, unequal⟩, rfl⟩
      exact ⟨⟨other, mem, rfl⟩, unequal⟩
    · rintro ⟨⟨other, mem, rfl⟩, unequal⟩
      exact ⟨other, ⟨mem, unequal⟩, rfl⟩
  refine ⟨?_, fun number => ?_, fun other mem => ?_⟩
  · refine List.pairwise_cons.mpr ⟨fun number mem => ?_, rest.ascending⟩
    obtain ⟨listed, unequal⟩ := (others number).mp mem
    obtain ⟨other, kept, rfl⟩ := List.mem_map.mp listed
    have below : site.number ≤ other.number := least other kept
    show site.number < other.number
    omega
  · rw [List.map_cons, List.mem_cons, others, List.map_cons, List.mem_cons]
    by_cases same : number = site.number <;> simp [same]
  · cases mem with
    | head => simp
    | tail _ mem =>
        have unequal := ((others other.number).mp (List.mem_map_of_mem mem)).2
        have found := rest.first other mem
        rw [List.find?_filter] at found
        rw [List.find?_cons_of_neg (by simpa using unequal.symm), ← found]
        refine List.find?_congr fun site' _ => ?_
        by_cases same : site'.number = other.number <;> simp [same, unequal]

theorem of_leaders {sites : List ParameterSite} (ascending : sites.Pairwise fun a b => a.number ≤ b.number)
    (known : List Nat) :
    FirstOfEach (sites.filter fun site => site.number ∉ known) (Step.leaders known sites) := by
  induction sites generalizing known with
  | nil => exact .nil
  | cons site rest ih =>
      obtain ⟨least, ascending⟩ := List.pairwise_cons.mp ascending
      rw [Step.leaders]
      split
      · next listed =>
          rw [List.filter_cons_of_neg (by simpa using listed)]
          exact ih ascending known
      · next unlisted =>
          rw [List.filter_cons_of_pos (by simpa using unlisted)]
          refine .cons ?_ fun other mem => least other (List.mem_filter.mp mem).1
          -- from here on the number of this placeholder is known, too
          have others : ∀ other ∈ rest, decide (other.number ∉ known ++ [site.number])
              = (decide (other.number ≠ site.number) && decide (other.number ∉ known)) := by
            intro other _
            by_cases same : other.number = site.number <;> simp [same]
          rw [List.filter_filter, ← List.filter_congr others]
          exact ih ascending _

end FirstOfEach

theorem ParameterSite.order_trans (a b c : ParameterSite) (first : decide (a.number ≤ b.number) = true)
    (second : decide (b.number ≤ c.number) = true) : decide (a.number ≤ c.number) = true := by
  simp only [decide_eq_true_eq] at first second ⊢
  omega

theorem ParameterSite.order_total (a b : ParameterSite) :
    (decide (a.number ≤ b.number) || decide (b.number ≤ a.number)) = true := by
  simp only [Bool.or_eq_true, decide_eq_true_eq]
  omega

/-- Sorting keeps the placeholders of one number as they are. -/
theorem StatementUsage.filter_sites (usage : StatementUsage) (number : Nat) :
    usage.sites.filter (·.number = number) = usage.parameters.filter (·.number = number) := by
  have alike : (usage.parameters.filter (·.number = number)).Pairwise
      fun a b => decide (a.number ≤ b.number) = true := by
    refine List.Pairwise.imp_of_mem ?_ (List.pairwise_of_forall fun _ _ => trivial)
    intro a b memA memB _
    have sameA := of_decide_eq_true (List.mem_filter.mp memA).2
    have sameB := of_decide_eq_true (List.mem_filter.mp memB).2
    exact decide_eq_true (by omega)
  -- the placeholders of one number are in order already, and a stable sort leaves such a part in place
  have kept : (usage.parameters.filter (·.number = number)).Sublist usage.sites :=
    List.sublist_mergeSort ParameterSite.order_trans ParameterSite.order_total alike List.filter_sublist
  have within := kept.filter (·.number = number)
  rw [List.filter_filter] at within
  simp only [Bool.and_self] at within
  refine (within.eq_of_length ?_).symm
  exact ((List.mergeSort_perm _ _).filter _).length_eq.symm

theorem StatementUsage.sites_ascending (usage : StatementUsage) :
    usage.sites.Pairwise fun a b => a.number ≤ b.number :=
  (List.pairwise_mergeSort ParameterSite.order_trans ParameterSite.order_total usage.parameters).imp
    fun below => of_decide_eq_true below

/-- The first placeholders of the sorted list are those of the statement. -/
theorem StatementUsage.firstOfEach_leaders (usage : StatementUsage) :
    FirstOfEach usage.parameters (Step.leaders [] usage.sites) := by
  have sorted := FirstOfEach.of_leaders usage.sites_ascending []
  simp only [List.not_mem_nil, not_false_eq_true, decide_true, List.filter_true] at sorted
  refine ⟨sorted.ascending, fun number => ?_, fun site mem => ?_⟩
  · rw [sorted.numbers]
    simp [StatementUsage.sites, List.mem_mergeSort]
  · have first := sorted.first site mem
    rw [← List.head?_filter] at first ⊢
    rw [← usage.filter_sites, first]

/-! ## Literals -/

/-- What is put in for a placeholder. Beside a column it is the literal that the session backs; where
    rows are skipped or counted beside no column it is a zero or a one. -/
def Session.Fills (now : DateTime) (tables : List String) (s : Session) (site : ParameterSite)
    (literal : SqlType × String) : Prop :=
  s.Backs now tables site literal ∧ (site.column = none →
    site.clause = .offset ∧ literal = (.integer, "0") ∨
    site.clause = .limit ∧ literal = (.integer, "1"))

namespace Step

variable {setting : Setting} {tables : List String} {query : String} {parsed : Parsed} {s s' : Session}
  {result : BindResult}

theorem Makes.fills {site : ParameterSite} {literal : SqlType × String}
    (made : Makes setting tables s s' site literal) (known : ∀ t ∈ tables, s.catalog.has t)
    (read : ∀ t, site.table = some t → t ∈ tables) : s'.Fills setting.now tables site literal := by
  refine ⟨made.backs known read, fun apart => ?_⟩
  obtain ⟨t, t', -, given, -⟩ := made
  simp only [literalOf, apart] at given
  cases clause : site.clause <;> simp [clause, Gives] at given
  · exact .inr ⟨rfl, given.1.symm⟩
  · exact .inl ⟨rfl, given.1.symm⟩

theorem finish_eq {usage : StatementUsage} (kind : usage.kind ≠ .insert) :
    finish setting parsed usage = if parsed.hasPlaceholders then do
        return ⟨usage.kind, usage.tables, .bound (← bindLiterals setting parsed usage)⟩
      else return ⟨usage.kind, usage.tables, .bound ⟨parsed.query, parsed.query, []⟩⟩ := by
  unfold finish
  split
  · next insert => exact absurd insert kind
  · rfl

theorem parameters_of_bindLiterals {usage : StatementUsage} {bound : BoundStatement}
    (given : Gives (bindLiterals setting parsed usage) s bound s')
    (known : ∀ t ∈ usage.tables, s.catalog.has t)
    (read : ∀ site ∈ usage.parameters, ∀ t, site.table = some t → t ∈ usage.tables) :
    ∃ sites literals, FirstOfEach usage.parameters sites ∧
      List.Forall₂ (s'.Fills setting.now usage.tables) sites literals ∧
      bound.parameters = literals ++ usage.imposed := by
  rw [bindLiterals_eq] at given
  obtain ⟨literals, t, made, rest⟩ := gives_bind.mp given
  obtain ⟨pairs, rfl, leads, makes⟩ := gives_literalsOf made
  unfold putLiterals at rest
  split at rest
  · cases rest
  · obtain ⟨sql, u, substituted, last⟩ := gives_bind.mp rest
    obtain ⟨-, rfl⟩ := gives_require.mp substituted
    obtain ⟨⟨⟩, rfl⟩ := Prod.mk.inj last
    have firsts : FirstOfEach usage.parameters (pairs.map (·.1)) := by
      rw [leads]
      exact usage.firstOfEach_leaders
    refine ⟨_, pairs.map (·.2), firsts, ?_, by simp⟩
    rw [List.forall₂_map_left_iff, List.forall₂_map_right_iff, List.forall₂_same]
    intro pair mem
    obtain ⟨sorted, makes⟩ := makes pair mem
    exact makes.fills known (read pair.1 (List.mem_mergeSort.mp sorted))

/-- What a bound statement tells of its parameters, and its text if it has none. -/
theorem parameters_of_bind {text : String} (read : Parsed.read text = .ok parsed)
    (given : Gives (bind setting query parsed) s result s') (kind : result.kind ≠ .insert) :
    ∃ o bound, parsed.outline = .ok o ∧ result.binding = .bound bound ∧
      (bound.parameters.map (·.1)).length = (bound.parameters.map (·.2)).length ∧
      (parsed.hasPlaceholders ↔ ∃ m ∈ Sql.marks text, Sql.CallsParameter m) ∧
      (¬parsed.hasPlaceholders → bound.parameters = [] ∧ bound.sql = text) ∧
      (parsed.hasPlaceholders → ∃ sites literals, FirstOfEach o.usage.parameters sites ∧
        List.Forall₂ (s'.Fills setting.now o.usage.tables) sites literals ∧
        bound.parameters
          = literals ++ if parsed.statement.limit?.isSome then [(.integer, "1")] else []) := by
  obtain ⟨original, -, outlines⟩ := Parsed.of_read read
  obtain ⟨o, outlined, binds⟩ := bound_of_bind given
  rw [binds.kind] at kind
  rcases bind_cases setting query parsed s with ⟨e, t, -, fails⟩ | ⟨o', t, reached, ends, -⟩
  · exact nomatch given.symm.trans fails
  obtain rfl : o' = o := Except.ok.inj ((gives_reach reached).1.symm.trans outlined)
  have ended : Gives (finish setting parsed o'.usage) (t.noted query o'.usage) result s' :=
    ends.symm.trans given
  have known : ∀ table ∈ o'.usage.tables, (t.noted query o'.usage).catalog.has table := by
    have same : (t.noted query o'.usage).catalog = t.catalog := by rw [Session.noted_eq]
    rw [same]
    exact known_of_reach reached
  have limited := Outline.limited_iff (outlined ▸ outlines)
  rw [finish_eq kind] at ended
  split at ended
  · next marked =>
      obtain ⟨bound, u, shown, last⟩ := gives_bind.mp ended
      obtain ⟨⟨⟩, rfl⟩ := Prod.mk.inj last
      obtain ⟨sites, literals, first, fills, same⟩ :=
        parameters_of_bindLiterals shown known (Walk.sound_outline o').parameters
      refine ⟨o', bound, outlined, rfl, by simp, Parsed.hasPlaceholders_iff read,
        absurd marked, fun _ => ⟨sites, literals, first, fills, ?_⟩⟩
      simp only [same, StatementUsage.imposed, limited]
  · next unmarked =>
      obtain ⟨⟨⟩, rfl⟩ := Prod.mk.inj ended
      exact ⟨o', _, outlined, rfl, rfl, Parsed.hasPlaceholders_iff read, fun _ => ⟨rfl, original⟩,
        fun marked => absurd marked unmarked⟩

theorem parameters_of_bind_users :
    ∃ parsed result s o bound sites literals,
      Parsed.read "SELECT name FROM users WHERE id = ? LIMIT 2" = .ok parsed ∧
      Gives (bind .shop "query.select.001" parsed) .start result s ∧ parsed.hasPlaceholders ∧
      parsed.outline = .ok o ∧ result.binding = .bound bound ∧
      FirstOfEach o.usage.parameters sites ∧
      List.Forall₂ (s.Fills Setting.shop.now o.usage.tables) sites literals ∧
      bound.parameters = literals ++ [(.integer, "1")] := by
  have runs : (Parsed.read "SELECT name FROM users WHERE id = ? LIMIT 2").toOption.any (fun parsed =>
      let ends := (bind .shop "query.select.001" parsed).outcome .start
      parsed.hasPlaceholders && parsed.statement.limit?.isSome && ends.1.isOk &&
        ends.1.toOption.all fun result => result.kind ≠ .insert) := by
    decide +kernel
  obtain ⟨parsed, read, runs⟩ := Parsed.exists_of_any runs
  simp only [Bool.and_eq_true] at runs
  obtain ⟨⟨⟨marked, limited⟩, ok⟩, kind⟩ := runs
  obtain ⟨result, given⟩ := gives_of_isOk ok
  simp only [show ((bind .shop "query.select.001" parsed).outcome .start).1 = .ok result from
    congrArg Prod.fst given, Except.toOption, Option.all_some, decide_eq_true_eq] at kind
  obtain ⟨o, bound, outlined, returned, -, -, -, told⟩ := parameters_of_bind read given kind
  obtain ⟨sites, literals, first, fills, same⟩ := told marked
  rw [if_pos limited] at same
  exact ⟨parsed, result, _, o, bound, sites, literals, read, given, marked, outlined, returned, first,
    fills, same⟩

end Step

end IndexAdvisor
