import IndexAdvisor.Proofs.Scope.Denoted
import IndexAdvisor.Proofs.Scope.Parameter
import IndexAdvisor.Usage.Walk

/-! # The usage walk over trees

Of the tables, the usage walk sees of a statement just its mentions, one after the other. It keeps
the tables found, their other names, and the names of common table expressions, which it never
forgets again. The columns it takes up are those of the statement, and its parameters are noted in
reading order. `Reads` says all this of a walk that goes through some places, and composes as walks do.
-/

namespace IndexAdvisor

open Outline
open Sql (Node Place Expr seeing)
open Sql.Node (Mention ofOption)
open Text (lowercase)

namespace Walk

/-! ## Mentions that are met -/

/-- What the walk keeps of mentions. -/
structure Seen where
  tables : List String
  /-- The names of common table expressions. -/
  ctes : List String
  aliases : List AliasBinding

def seen (w : Walk) : Seen := ⟨w.tables, w.cteNames, w.aliases⟩

/-- The step that a mention makes. -/
def meet (s : Seen) : Mention → Seen
  | .declares name => { s with ctes := s.ctes ++ [name] }
  | .names table byname _ =>
    if s.ctes.contains table then s
    else
      { s with
        tables := if s.tables.contains table then s.tables else s.tables ++ [table]
        aliases := s.aliases ++ (byname.map (⟨·, table⟩)).toList }

/-- The mentions of places, met one after the other. -/
def met (visible : List String) (places : List Place) (s : Seen) : Seen :=
  (places.flatMap fun p => p.node.mentions (p.visible ++ visible)).foldl meet s

theorem met_append (visible : List String) (places others : List Place) (s : Seen) :
    met visible (places ++ others) s = met visible others (met visible places s) := by
  simp only [met, List.flatMap_append, List.foldl_append]

/-- A node is met by what it is itself and what it reads. -/
theorem met_singleton (visible : List String) (p : Place) (s : Seen) :
    met visible [p] s
      = met (p.visible ++ visible) p.node.read
          ((p.node.own (p.visible ++ visible)).foldl meet s) := by
  simp only [met, List.flatMap_cons, List.flatMap_nil, List.append_nil]
  rw [Node.mentions_eq, List.foldl_append]

def columns (w : Walk) : List ColumnName :=
  w.records.map (·.column) ++ w.parameters.filterMap (·.column) ++ w.column.toList

/-! ## Reading -/

/-- The numbers of the parameters that the walk has met. -/
def numbers (w : Walk) : List Nat := w.parameters.map (·.number)

/-- From the first walk to the second the places are read: their mentions are met, no qualified
    column is taken up that is not named there, and their parameters are noted. -/
structure Reads (visible : List String) (places : List Place) (w v : Walk) : Prop where
  seen : v.seen = met visible places w.seen
  columns : ∀ c ∈ v.columns, c.qualifier.isSome → c ∈ w.columns ∨ ∃ p ∈ places, p.node.Holds c
  numbers : v.numbers = w.numbers ++ places.flatMap (·.node.numbers)

namespace Reads

variable {visible : List String} {places others : List Place} {p : Place} {n : Node} {w v u : Walk}

theorem refl (visible : List String) (w : Walk) : Reads visible [] w w :=
  ⟨rfl, fun _ mem _ => .inl mem, (List.append_nil _).symm⟩

theorem append (first : Reads visible places w v) (second : Reads visible others v u) :
    Reads visible (places ++ others) w u := by
  refine ⟨by rw [met_append, second.seen, first.seen], fun c mem qualified => ?_,
    by rw [second.numbers, first.numbers, List.flatMap_append, List.append_assoc]⟩
  rcases second.columns c mem qualified with before | ⟨p, listed, holds⟩
  · rcases first.columns c before qualified with earlier | ⟨p, listed, holds⟩
    · exact .inl earlier
    · exact .inr ⟨p, List.mem_append_left _ listed, holds⟩
  · exact .inr ⟨p, List.mem_append_right _ listed, holds⟩

theorem cons (first : Reads visible [p] w v) (second : Reads visible places v u) :
    Reads visible (p :: places) w u :=
  first.append second

/-- A node is read by meeting what it is itself and reading what is below it. -/
theorem mention (own : v.seen = (n.own visible).foldl meet w.seen) (same : v.columns = w.columns)
    (noted : v.numbers = w.numbers ++ n.ownNumbers) (read : Reads visible n.read v u) :
    Reads visible [⟨[], n⟩] w u := by
  refine ⟨?_, fun c mem qualified => ?_, ?_⟩
  · rw [met_singleton, List.nil_append, ← own]
    exact read.seen
  · refine (same ▸ read.columns c mem qualified).imp_right ?_
    exact fun ⟨p, listed, holds⟩ => ⟨_, List.mem_singleton_self _, .within listed holds⟩
  · rw [read.numbers, noted, List.flatMap_cons, List.flatMap_nil, List.append_nil, n.numbers_eq,
      List.append_assoc]

theorem node (own : n.own visible = []) (none : n.ownNumbers = []) (read : Reads visible n.read w v) :
    Reads visible [⟨[], n⟩] w v :=
  read.mention (by rw [own]; rfl) rfl (by rw [none, List.append_nil])

theorem seeing {names : List String} {nodes : List Node}
    (read : Reads (names ++ visible) (Sql.seeing [] nodes) w v) :
    Reads visible (Sql.seeing names nodes) w v := by
  refine ⟨?_, fun c mem qualified => (read.columns c mem qualified).imp_right ?_, ?_⟩
  · rw [read.seen]
    simp only [met, Sql.seeing, List.flatMap_map, List.nil_append]
  · rintro ⟨p, listed, holds⟩
    obtain ⟨n, among, rfl⟩ := List.mem_map.mp listed
    exact ⟨⟨names, n⟩, List.mem_map_of_mem among, holds⟩
  · rw [read.numbers]
    simp only [Sql.seeing, List.flatMap_map]

/-- The walk may first forget what it has at hand, or take up a column that is read. -/
theorem after (same : v.seen = w.seen) (noted : v.numbers = w.numbers)
    (fewer : ∀ c ∈ v.columns, c.qualifier.isSome → c ∈ w.columns ∨ ∃ p ∈ places, p.node.Holds c)
    (read : Reads visible places v u) : Reads visible places w u := by
  refine ⟨by rw [read.seen, same], fun c mem qualified => ?_, by rw [read.numbers, noted]⟩
  rcases read.columns c mem qualified with before | there
  · exact fewer c before qualified
  · exact .inr there

/-- The walk may afterwards turn to something else. -/
theorem turning (read : Reads visible places w v) (same : u.seen = v.seen) (noted : u.numbers = v.numbers)
    (fewer : ∀ c ∈ u.columns, c ∈ v.columns ∨ c ∈ w.columns) : Reads visible places w u := by
  refine ⟨same.trans read.seen, fun c mem qualified => ?_, noted.trans read.numbers⟩
  rcases fewer c mem with kept | earlier
  · exact read.columns c kept qualified
  · exact .inl earlier

theorem leaving (read : Reads visible places w v) : Reads visible places w (w.leaving v) := by
  refine read.turning rfl rfl fun c mem => ?_
  rcases List.mem_append.mp mem with kept | earlier
  · exact .inl (List.mem_append_left _ kept)
  · exact .inr (List.mem_append_right _ earlier)

end Reads

/-! ## Single steps -/

section Steps

variable (assigned : List String) (clause : Clause) {visible : List String}

theorem terms_append (ts us : List Term) (w : Walk) :
    terms assigned clause (ts ++ us) w = terms assigned clause us (terms assigned clause ts w) := by
  induction ts generalizing w with
  | nil => rfl
  | cons t ts ih => exact ih _

theorem columns_meetColumn {inList : Bool} {c other : ColumnName} {w : Walk}
    (mem : other ∈ (w.meetColumn assigned inList clause c).columns) :
    other ∈ w.columns ∨ other = c := by
  unfold meetColumn at mem
  cases use : useIn assigned inList clause c.name with
  | none =>
      simp only [use, columns, List.mem_append, Option.toList_some, List.mem_singleton] at mem ⊢
      exact mem.imp_left .inl
  | some use' =>
      simp only [use, columns, record, List.map_append, List.mem_append, List.map_cons,
        List.map_nil, Option.toList_some, List.mem_singleton] at mem ⊢
      rcases mem with ((recorded | new) | marked) | new
      · exact .inl (.inl (.inl recorded))
      · exact .inr new
      · exact .inl (.inl (.inr marked))
      · exact .inr new

theorem seen_meetColumn (inList : Bool) (c : ColumnName) (w : Walk) :
    seen (w.meetColumn assigned inList clause c) = seen w := by
  unfold meetColumn
  split <;> rfl

theorem numbers_meetColumn (inList : Bool) (c : ColumnName) (w : Walk) :
    (w.meetColumn assigned inList clause c).numbers = w.numbers := by
  unfold meetColumn
  split <;> rfl

theorem read_column (inList : Bool) {e : Expr} {c : ColumnName} (named : columnOf? e = some c)
    (w : Walk) : Reads visible [⟨[], .expr e⟩] w (w.meetColumn assigned inList clause c) := by
  refine ⟨?_, fun other mem _ => (columns_meetColumn assigned clause mem).imp_right ?_, ?_⟩
  · rw [seen_meetColumn, met_singleton]
    unfold columnOf? at named
    split at named
    · rfl
    · exact nomatch named
  · rintro rfl
    exact ⟨_, List.mem_singleton_self _, .here named⟩
  · rw [numbers_meetColumn, List.flatMap_cons, List.flatMap_nil, List.append_nil, Node.numbers_eq]
    unfold columnOf? at named
    split at named
    · exact (List.append_nil _).symm
    · exact nomatch named

theorem columns_meetParameter {number : Nat} {c : ColumnName} {w : Walk}
    (mem : c ∈ (w.meetParameter clause number).columns) : c ∈ w.columns := by
  simp only [columns, meetParameter, List.filterMap_append, List.mem_append, List.mem_filterMap,
    List.mem_singleton, Option.mem_toList] at mem ⊢
  rcases mem with (recorded | marked | ⟨p, rfl, named⟩) | held
  · exact .inl (.inl recorded)
  · exact .inl (.inr marked)
  · exact .inr named
  · exact .inr held

theorem read_parameter (number : Nat) (w : Walk) :
    Reads visible [⟨[], .expr (.parameter number)⟩] w (w.meetParameter clause number) := by
  refine ⟨?_, fun c mem _ => .inl (columns_meetParameter clause mem), ?_⟩
  · rw [met_singleton]
    rfl
  · rw [List.flatMap_cons, List.flatMap_nil, List.append_nil, Node.numbers_eq]
    exact List.map_append

theorem columns_withoutColumn {c : ColumnName} {w : Walk} (mem : c ∈ w.withoutColumn.columns) :
    c ∈ w.columns := by
  simp only [columns, withoutColumn, List.mem_append, Option.toList_none, List.not_mem_nil,
    or_false] at mem ⊢
  exact .inl mem

theorem read_operation (left : Option Expr) {right : Expr} {operands : List Term}
    {places : List Place} (among : ⟨[], .expr right⟩ ∈ places)
    (read : ∀ w, Reads visible places w (terms assigned clause operands w)) (w : Walk) :
    Reads visible places w (term assigned clause (operation left right operands) w) := by
  cases named : columnOf? right with
  | none =>
      simp only [operation, named]
      exact read w
  | some c =>
      let beside : Walk := { w with column := some c }
      have held : Reads visible places w (terms assigned clause operands beside) := by
        refine .after (v := beside) rfl rfl (fun other mem _ => ?_) (read beside)
        simp only [columns, beside, List.mem_append, Option.toList_some, List.mem_singleton] at mem ⊢
        rcases mem with before | rfl
        · exact .inl (.inl before)
        · exact .inr ⟨_, among, .here named⟩
      simp only [operation, named]
      split
      · next same _ =>
          obtain rfl := Option.some.inj same
          exact held
      · exact read w

theorem read_both {ts us : List Term} {nodes others : List Node}
    (first : ∀ w, Reads visible (seeing [] nodes) w (terms assigned clause ts w))
    (second : ∀ w, Reads visible (seeing [] others) w (terms assigned clause us w)) (w : Walk) :
    Reads visible (seeing [] (nodes ++ others)) w (terms assigned clause (ts ++ us) w) := by
  rw [terms_append, seeing, List.map_append]
  exact (first w).append (second _)

theorem read_lookup {left : Expr} {leftTerm : Term} {items : List Term} {places : List Place}
    (first : ∀ w, Reads visible [⟨[], .expr left⟩] w (term assigned clause leftTerm w))
    (rest : ∀ clause w, Reads visible places w (terms assigned clause items w)) (w : Walk) :
    Reads visible (⟨[], .expr left⟩ :: places) w
      (term assigned clause (lookup left leftTerm items) w) := by
  unfold lookup
  cases named : columnOf? left with
  | none => exact (first w).cons (rest clause _)
  | some c => exact (read_column assigned clause true named w).cons (rest .other _)

end Steps

/-- Naming a table is meeting a mention of it. -/
theorem seen_addTable (name : Sql.TableName) (byname : Option String) (real : Bool) (w : Walk) :
    seen (w.addTable (tableOf name byname)).2
      = meet (seen w) (.names (lowercase name.name) (Node.otherName byname) real) := by
  by_cases hidden : lowercase name.name ∈ w.cteNames
  · simp [addTable, tableOf, seen, meet, hidden]
  · cases byname with
    | none => simp [addTable, tableOf, seen, meet, hidden, Node.otherName]
    | some other =>
        by_cases blank : lowercase other = "" <;>
          simp [addTable, tableOf, seen, meet, hidden, Node.otherName, Option.filter, blank]

theorem columns_addTable (t : Table) (w : Walk) : (w.addTable t).2.columns = w.columns := by
  unfold addTable
  split <;> rfl

theorem numbers_addTable (t : Table) (w : Walk) : (w.addTable t).2.numbers = w.numbers := by
  unfold addTable
  split <;> rfl

theorem read_table (assigned : List String) (visible : List String) (only : Bool)
    (name : Sql.TableName) (byname : Option Sql.Alias) (w : Walk) :
    Reads visible [⟨[], .source (.table only name byname)⟩] w
      (source assigned (sourceOutline (.table only name byname)) w) := by
  let t := tableOf name (byname.map (·.name))
  have same : seen (source assigned (.table t) w) = seen (w.addTable t).2 ∧
      (source assigned (.table t) w).columns = w.columns ∧
      (source assigned (.table t) w).numbers = w.numbers := by
    rw [← columns_addTable t w, ← numbers_addTable t w]
    simp only [source]
    split <;> next named => rw [named]; exact ⟨rfl, rfl, rfl⟩
  have met := same.1.trans (seen_addTable name (byname.map (·.name))
    (name.schema.isSome || !visible.contains name.name) w)
  exact .mention met same.2.1 (same.2.2.trans (List.append_nil _).symm) (.refl visible _)

theorem nodes_sequentialCtes (names : List String) (ctes : List Sql.Cte) :
    (Sql.sequentialCtes names ctes).map Place.node = ctes.map .cte := by
  induction ctes generalizing names with
  | nil => rfl
  | cons c rest ih => rw [Sql.sequentialCtes, List.map_cons, ih, List.map_cons]

theorem nodes_ctePlaces (recursive : Bool) (ctes : List Sql.Cte) :
    (Sql.ctePlaces recursive ctes).map Place.node = ctes.map .cte := by
  cases recursive with
  | true => simp [Sql.ctePlaces]
  | false => exact nodes_sequentialCtes [] ctes

/-- The names in sight at the places do not matter to what the walk reads. -/
theorem read_withTables (assigned : List String) {ctes : List Sql.Cte}
    (each : ∀ c ∈ ctes, ∀ visible w,
      Reads visible [⟨[], .cte c⟩] w (withTables assigned (cteOutlines [c]) w))
    {visible : List String} {places : List Place} (same : places.map Place.node = ctes.map .cte)
    (w : Walk) : Reads visible places w (withTables assigned (cteOutlines ctes) w) := by
  induction ctes generalizing places w with
  | nil =>
      obtain rfl : places = [] := List.map_eq_nil_iff.mp same
      exact .refl visible w
  | cons c rest ih =>
      obtain ⟨p, later, rfl, first, others⟩ := List.map_eq_cons_iff.mp same
      have apart : withTables assigned (cteOutlines (c :: rest)) w
          = withTables assigned (cteOutlines rest) (withTables assigned (cteOutlines [c]) w) := by
        obtain ⟨name, columns, materialized, s, walk⟩ := c
        cases s <;> rfl
      have read : Reads visible [p] w (withTables assigned (cteOutlines [c]) w) := by
        change Reads visible (seeing p.visible [p.node]) w _
        refine .seeing ?_
        rw [first]
        exact each c List.mem_cons_self _ w
      rw [apart]
      exact read.cons (ih (fun c mem => each c (List.mem_cons_of_mem _ mem)) others _)

/-! ## Trees

The walk of each outline reads the tree it comes from. The induction is on the trees, as outlines
are made from them. -/

section Trees

variable (assigned : List String)

mutual
theorem reads_expr {visible : List String} (clause : Clause) (e : Expr) (w : Walk) :
    Reads visible [⟨[], .expr e⟩] w (term assigned clause (exprTerm e) w) := by
  cases e with
  | column names star =>
      rw [exprTerm]
      split
      · next named => exact read_column assigned clause false named w
      · exact .node rfl rfl (.refl visible w)
  | parameter number =>
      exact read_parameter clause number w
  | constant | keywordValue | default | cursorRow => exact .node rfl rfl (.refl visible w)
  | access e | negation e | nullTest _ e | truthTest _ _ e | documentTest e | cast e | collate e
  | named _ e => exact .node rfl rfl (reads_expr clause e w)
  | prefixed o e =>
      exact .node rfl rfl (read_operation assigned clause none (List.mem_singleton_self _)
        (reads_expr clause e) w)
  | binary o l r | quantified o q l r | distinctFrom n l r | nullIf l r =>
      refine .node rfl rfl (read_operation assigned clause (some l)
        (List.mem_cons_of_mem _ (List.mem_singleton_self _)) (fun w => ?_) w)
      exact (reads_expr clause l w).cons (reads_expr clause r _)
  | inList negated l items =>
      exact .node rfl rfl (read_lookup assigned clause (reads_expr clause l)
        (fun clause w => reads_exprs clause items w) w)
  | pattern form negated l r escape =>
      have whole (w : Walk) : Reads visible (seeing [] (.expr l :: .expr r :: ofOption escape)) w
          (terms assigned clause (exprTerm l :: exprTerm r :: optionTerms escape) w) :=
        (reads_expr clause l w).cons ((reads_expr clause r _).cons (reads_optionTerms clause escape _))
      cases escape with
      | some e => cases form <;> exact .node rfl rfl (whole w)
      | none =>
          cases form with
          | similar => exact .node rfl rfl (whole w)
          | like | ilike =>
              exact .node rfl rfl (read_operation assigned clause (some l)
                (List.mem_cons_of_mem _ (List.mem_singleton_self _)) whole w)
  | between symmetric negated e low high =>
      exact .node rfl rfl ((reads_expr clause e w).cons ((reads_expr clause low _).cons
        (reads_expr clause high _)))
  | chain _ items | row _ items | array items | coalesce items | extreme _ items | grouping items =>
      exact .node rfl rfl (reads_exprs clause items w)
  | call name form arguments order filter window =>
      exact .node rfl rfl (read_both assigned clause (read_both assigned clause
        (reads_exprs clause arguments) (reads_optionTerms clause filter)) (reads_sorts clause order) w)
  | case subject whens otherwise =>
      exact .node rfl rfl (read_both assigned clause (read_both assigned clause
        (reads_branches clause whens) (reads_optionTerms clause subject))
        (reads_optionTerms clause otherwise) w)
  | subquery q | existsQuery q | arrayQuery q => exact .node rfl rfl (reads_query q w).leaving
  | inQuery e q | quantifiedQuery _ _ e q =>
      exact .node rfl rfl ((reads_expr clause e w).cons (reads_query q _).leaving)
  | form parts => exact .node rfl rfl (reads_parts clause parts w)
termination_by sizeOf e

theorem reads_exprs {visible : List String} (clause : Clause) (es : List Expr) (w : Walk) :
    Reads visible (seeing [] (es.map .expr)) w (terms assigned clause (exprTerms es) w) := by
  cases es with
  | nil => exact .refl visible w
  | cons e es => exact (reads_expr clause e w).cons (reads_exprs clause es _)
termination_by sizeOf es

theorem reads_optionTerms {visible : List String} (clause : Clause) (e : Option Expr) (w : Walk) :
    Reads visible (seeing [] (ofOption e)) w (terms assigned clause (optionTerms e) w) := by
  cases e with
  | none => exact .refl visible w
  | some e => exact reads_expr clause e w
termination_by sizeOf e

theorem reads_branches {visible : List String} (clause : Clause) (whens : List Sql.When) (w : Walk) :
    Reads visible (seeing [] (whens.map .branch)) w (terms assigned clause (whenTerms whens) w) := by
  cases whens with
  | nil => exact .refl visible w
  | cons first rest =>
      obtain ⟨condition, value⟩ := first
      have read (w : Walk) : Reads visible [⟨[], .branch (.mk condition value)⟩] w
          (term assigned clause (exprTerm value) (term assigned clause (exprTerm condition) w)) :=
        .node rfl rfl ((reads_expr clause condition w).cons (reads_expr clause value _))
      exact (read w).cons (reads_branches clause rest _)
termination_by sizeOf whens

theorem reads_sorts {visible : List String} (clause : Clause) (keys : List Sql.SortKey) (w : Walk) :
    Reads visible (seeing [] (keys.map .sort)) w (terms assigned clause (sortTerms keys) w) := by
  cases keys with
  | nil => exact .refl visible w
  | cons first rest =>
      obtain ⟨key, direction, nulls⟩ := first
      have read : Reads visible [⟨[], .sort (.mk key direction nulls)⟩] w
          (term assigned clause (exprTerm key) w) := .node rfl rfl (reads_expr clause key w)
      exact read.cons (reads_sorts clause rest _)
termination_by sizeOf keys

theorem reads_parts {visible : List String} (clause : Clause) (parts : List Sql.Part) (w : Walk) :
    Reads visible (seeing [] (parts.map .part)) w (terms assigned clause (partTerms parts) w) := by
  cases parts with
  | nil => exact .refl visible w
  | cons first rest =>
      have silent {p : Sql.Part} (own : Node.partRead p = []) : Reads visible [⟨[], .part p⟩] w w :=
        .node rfl rfl (by rw [Node.read, own]; exact .refl visible w)
      cases first with
      | operand direct e =>
          cases direct with
          | true =>
              have read : Reads visible [⟨[], .part (.operand true e)⟩] w
                  (term assigned clause (exprTerm e) w) := .node rfl rfl (reads_expr clause e w)
              exact read.cons (reads_parts clause rest _)
          | false => exact (silent rfl).cons (reads_parts clause rest w)
      | list items | group items =>
          have read : Reads visible (seeing [] (items.map .part)) w _ := reads_parts clause items w
          rw [partTerms, terms_append]
          exact Reads.cons (.node rfl rfl read) (reads_parts clause rest _)
      | _ => exact (silent rfl).cons (reads_parts clause rest w)
termination_by sizeOf parts

theorem reads_targets {visible : List String} (clause : Clause) (targets : List Sql.Target)
    (w : Walk) : Reads visible (seeing [] (targets.map .target)) w
      (terms assigned clause (targetTerms targets) w) := by
  cases targets with
  | nil => exact .refl visible w
  | cons first rest =>
      obtain ⟨value, label⟩ := first
      have read : Reads visible [⟨[], .target (.mk value label)⟩] w
          (term assigned clause (exprTerm value) w) := .node rfl rfl (reads_expr clause value w)
      exact read.cons (reads_targets clause rest _)
termination_by sizeOf targets

theorem reads_groups {visible : List String} (clause : Clause) (keys : List Sql.GroupKey)
    (w : Walk) : Reads visible (seeing [] (keys.map .group)) w
      (terms assigned clause (groupTerms keys) w) := by
  cases keys with
  | nil => exact .refl visible w
  | cons first rest =>
      cases first with
      | key value =>
          have read : Reads visible [⟨[], .group (.key value)⟩] w
              (term assigned clause (exprTerm value) w) := .node rfl rfl (reads_expr clause value w)
          exact read.cons (reads_groups clause rest _)
      | _ => exact Reads.cons (.node rfl rfl (.refl visible w)) (reads_groups clause rest w)
termination_by sizeOf keys

theorem reads_rows {visible : List String} (clause : Clause) (rows : List (List Expr)) (w : Walk) :
    Reads visible (seeing [] (rows.flatten.map .expr)) w
      (terms assigned clause (rowTerms rows) w) := by
  cases rows with
  | nil => exact .refl visible w
  | cons first rest =>
      rw [List.flatten_cons, List.map_append, seeing, List.map_append]
      exact (reads_exprs clause first w).append (reads_rows clause rest _)
termination_by sizeOf rows

theorem reads_option {visible : List String} (clause : Clause) (e : Option Expr) (w : Walk) :
    Reads visible (seeing [] (ofOption e)) w (option assigned clause (optionTerms e).head? w) := by
  cases e with
  | none => exact .refl visible w
  | some e => exact reads_expr clause e w
termination_by sizeOf e

theorem reads_apart {visible : List String} (clause : Clause) (e : Option Expr) (w : Walk) :
    Reads visible (seeing [] (ofOption e)) w (apart assigned clause (optionTerms e).head? w) := by
  cases e with
  | none => exact .refl visible w
  | some e =>
      refine .after (v := w.withoutColumn) rfl rfl (fun c mem _ => ?_) (reads_expr clause e _)
      exact .inl (columns_withoutColumn mem)
termination_by sizeOf e

theorem reads_source {visible : List String} (s : Sql.FromItem) (w : Walk) :
    Reads visible [⟨[], .source s⟩] w (source assigned (sourceOutline s) w) := by
  cases s with
  | table only name byname => exact read_table assigned visible only name byname w
  | query lateral q byname => exact .node rfl rfl (reads_query q w).leaving
  | functions | sample | form => exact .node rfl rfl (.refl visible w)
  | join kind natural left right condition =>
      exact .node rfl rfl ((reads_source left w).cons ((reads_source right _).cons
        (reads_option .on condition _)))
termination_by sizeOf s

theorem reads_sources {visible : List String} (ss : List Sql.FromItem) (w : Walk) :
    Reads visible (seeing [] (ss.map .source)) w (sources assigned (sourceOutlines ss) w) := by
  cases ss with
  | nil => exact .refl visible w
  | cons s ss => exact (reads_source s w).cons (reads_sources ss _)
termination_by sizeOf ss

theorem reads_body {visible : List String} (b : Sql.QueryBody) (w : Walk) :
    Reads visible [⟨[], .body b⟩] w (bodyOf assigned (bodyOutline b) w) := by
  cases b with
  | select distinct on targets into items condition groupDistinct keys having windows =>
      refine .node rfl rfl ?_
      simp only [Node.read, Node.bodyRead, seeing, List.map_append]
      exact ((((reads_sources items w).append (reads_targets .select targets _)).append
        (reads_option .where condition _)).append (reads_groups .other keys _)).append
        (reads_option .other having _)
  | values rows => exact .node rfl rfl (reads_rows .other rows w)
  | defaults => exact .node rfl rfl (.refl visible w)
  | combined operator all left right =>
      exact .node rfl rfl ((reads_query left w).leaving.cons (reads_query right _).leaving)
termination_by sizeOf b

theorem reads_cte {visible : List String} (c : Sql.Cte) (w : Walk) :
    Reads visible [⟨[], .cte c⟩] w (withTables assigned (cteOutlines [c]) w) := by
  obtain ⟨name, columns, materialized, s, walk⟩ := c
  let known : Walk := { w with cteNames := w.cteNames ++ [lowercase name] }
  cases s with
  | query q => exact .mention (v := known) rfl rfl (List.append_nil _).symm (reads_query q known).leaving
  | _ => exact .mention (v := known) rfl rfl (List.append_nil _).symm (.refl visible known)
termination_by sizeOf c

theorem reads_eachCte (ctes : List Sql.Cte) : ∀ c ∈ ctes, ∀ visible w,
    Reads visible [⟨[], .cte c⟩] w (withTables assigned (cteOutlines [c]) w) := by
  cases ctes with
  | nil => exact nofun
  | cons c rest =>
      have first (visible : List String) (w : Walk) : Reads visible [⟨[], .cte c⟩] w
          (withTables assigned (cteOutlines [c]) w) := reads_cte c w
      exact List.forall_mem_cons.mpr ⟨first, reads_eachCte rest⟩
termination_by sizeOf ctes

theorem reads_query {visible : List String} (q : Sql.Query) (w : Walk) :
    Reads visible [⟨[], .query q⟩] w (select assigned false (queryOutline q) w) := by
  obtain ⟨recursive, ctes, b, order, limit, ties, offset, locks⟩ := q
  have declared : Reads visible (Sql.ctePlaces recursive ctes) w _ :=
    read_withTables assigned (reads_eachCte ctes) (nodes_ctePlaces recursive ctes) w
  refine .node rfl rfl (declared.append (.seeing ?_))
  simp only [seeing, List.map_append, List.map_cons, List.cons_append]
  exact (reads_body b _).cons (((reads_sorts .other order _).append
    (reads_apart .offset offset _)).append (reads_apart .limit limit _))
termination_by sizeOf q
end

end Trees

/-! ## Statements -/

section Statements

variable {visible : List String}

theorem assignments_append (columns : List String) (table : Option String)
    (first rest : List (String × Assigned)) (w : Walk) :
    assignments columns table (first ++ rest) w
      = assignments columns table rest (assignments columns table first w) := by
  induction first generalizing w with
  | nil => rfl
  | cons _ first ih => exact ih _

/-- The walk when it has come to an assignment. -/
def assigning (table : Option String) (name : String) (w : Walk) : Walk :=
  { w with
    records := w.records ++ [⟨.assignment, ⟨none, name⟩, table⟩], column := some ⟨none, name⟩ }

/-- What is assigned to has no qualifier. -/
theorem columns_assigning {table : Option String} {name : String} {c : ColumnName} {w : Walk}
    (mem : c ∈ (w.assigning table name).columns) (qualified : c.qualifier.isSome) :
    c ∈ w.columns := by
  simp only [columns, assigning, List.map_append, List.mem_append, List.map_cons, List.map_nil,
    Option.toList_some, List.mem_singleton] at mem ⊢
  rcases mem with ((recorded | rfl) | marked) | rfl
  · exact .inl (.inl recorded)
  · exact nomatch qualified
  · exact .inl (.inr marked)
  · exact nomatch qualified

theorem reads_told (columns : List String) (table : Option String) (names : List String) (w : Walk) :
    Reads visible [] w (assignments columns table (names.map fun name => (name, .told)) w) := by
  induction names generalizing w with
  | nil => exact .refl visible w
  | cons name rest ih =>
      exact .after (v := w.assigning table name) rfl rfl
        (fun c mem qualified => .inl (columns_assigning mem qualified)) (ih _)

theorem reads_assigned (columns : List String) (table : Option String) (name : String) (e : Expr)
    (w : Walk) :
    Reads visible [⟨[], .expr e⟩] w
      (assignments columns table [(name, .value (exprTerm e))] w) :=
  .after (v := w.assigning table name) rfl rfl
    (fun _ mem qualified => .inl (columns_assigning mem qualified)) (reads_expr columns .set e _)

theorem reads_row (columns : List String) (table : Option String) (targets : List Sql.Destination)
    (items : List Expr) (long : targets.length ≤ items.length) (w : Walk) :
    Reads visible (seeing [] ((items.take targets.length).map .expr)) w
      (assignments columns table ((targets.zip items).map fun (t, item) =>
        (assignedColumn t, .value (exprTerm item))) w) := by
  induction targets generalizing items w with
  | nil => exact .refl visible w
  | cons t rest ih =>
      cases items with
      | nil => simp at long
      | cons item items =>
          exact (reads_assigned columns table (assignedColumn t) item w).cons
            (ih items (by simpa using long) _)

/-- Of a row each place is given its element; any other value goes to the first place, as a whole. -/
theorem rowAssignments_cases {targets : List Sql.Destination} {value : Expr}
    {found : List (String × Assigned)} (given : rowAssignments targets value = .ok found) :
    (∃ explicit items, value = .row explicit items ∧ targets.length ≤ items.length ∧
      found = (targets.zip items).map fun (t, item) => (assignedColumn t, .value (exprTerm item))) ∨
    (∀ explicit items, value ≠ .row explicit items) ∧ (targets = [] ∧ found = [] ∨
      ∃ first rest, targets = first :: rest ∧ found = (assignedColumn first, .value (exprTerm value))
        :: rest.map fun t => (assignedColumn t, .told)) := by
  unfold rowAssignments at given
  split at given
  · next explicit items =>
      split at given
      · exact nomatch given
      split at given
      · exact nomatch given
      · next long =>
          exact .inl ⟨explicit, items, rfl, Nat.le_of_not_lt long, (Except.ok.inj given).symm⟩
  · next whole =>
      refine .inr ⟨fun explicit items same => whole explicit items same, ?_⟩
      cases targets with
      | nil => exact .inl ⟨rfl, (Except.ok.inj given).symm⟩
      | cons first rest => exact .inr ⟨first, rest, rfl, (Except.ok.inj given).symm⟩

theorem reads_rowAssignments (columns : List String) (table : Option String)
    (targets : List Sql.Destination) (value : Expr) {found : List (String × Assigned)}
    (given : rowAssignments targets value = .ok found) (w : Walk) :
    Reads visible [⟨[], .assignment (.row targets value)⟩] w
      (assignments columns table found w) := by
  rcases rowAssignments_cases given with ⟨explicit, items, rfl, enough, rfl⟩ | ⟨whole, places⟩
  · exact .node rfl rfl (reads_row columns table targets items enough w)
  · have read : Node.assignmentRead (.row targets value)
        = if targets.isEmpty then [] else [.expr value] := by
      cases value with
      | row explicit items => exact absurd rfl (whole explicit items)
      | _ => rfl
    refine .node rfl rfl ?_
    rw [Node.read, read]
    rcases places with ⟨rfl, rfl⟩ | ⟨first, rest, rfl, rfl⟩
    · exact .refl visible w
    · have told : Reads visible [] (assignments columns table
          [(assignedColumn first, .value (exprTerm value))] w) _ :=
        reads_told columns table (rest.map assignedColumn) _
      rw [List.map_map] at told
      exact (reads_assigned columns table _ value w).cons told

/-- Assignments are told one after the other. -/
theorem assignments_cons {a : Sql.Assignment} {rest : List Sql.Assignment} {found : List (String × Assigned)}
    (given : Outline.assignments (a :: rest) = .ok found) :
    ∃ first others, Outline.assignments [a] = .ok first ∧ Outline.assignments rest = .ok others ∧
      first ++ others = found := by
  cases later : Outline.assignments rest <;> cases a with
    | single target value =>
        simp_all [Outline.assignments, Bind.bind, Except.bind, Pure.pure, Except.pure]
    | row targets value =>
        cases row : rowAssignments targets value <;>
          simp_all [Outline.assignments, Bind.bind, Except.bind, Pure.pure, Except.pure]

theorem assignments_row (targets : List Sql.Destination) (value : Expr) :
    Outline.assignments [.row targets value] = rowAssignments targets value := by
  cases row : rowAssignments targets value <;>
    simp [Outline.assignments, row, Bind.bind, Except.bind, Pure.pure, Except.pure]

theorem reads_assignments (columns : List String) (table : Option String)
    {as : List Sql.Assignment} {found : List (String × Assigned)}
    (given : Outline.assignments as = .ok found) (w : Walk) :
    Reads visible (seeing [] (as.map .assignment)) w (assignments columns table found w) := by
  induction as generalizing found w with
  | nil =>
      obtain rfl := Except.ok.inj given
      exact .refl visible w
  | cons a rest ih =>
      obtain ⟨first, others, one, later, rfl⟩ := assignments_cons given
      rw [assignments_append]
      refine Reads.cons ?_ (ih later _)
      cases a with
      | single target value =>
          obtain rfl := Except.ok.inj one
          exact .node rfl rfl (reads_assigned columns table (assignedColumn target) value w)
      | row targets value =>
          rw [assignments_row] at one
          exact reads_rowAssignments columns table targets value one w

theorem reads_addTarget (name : Sql.TableName) (byname : Option String) (w : Walk) :
    Reads visible [⟨[], .changed name byname⟩] w (w.addTarget (tableOf name byname)).2 :=
  .mention (v := (w.addTarget (tableOf name byname)).2) (seen_addTable name byname true w)
    (columns_addTable (tableOf name byname) w)
    ((numbers_addTable (tableOf name byname) w).trans (List.append_nil _).symm) (.refl visible _)

theorem reads_returning (assigned : List String) (r : Sql.Returning) (w : Walk) :
    Reads visible [⟨[], .returning r⟩] w (terms assigned .other (returningTerms r) w) := by
  obtain ⟨names, targets⟩ := r
  exact .node rfl rfl (reads_targets assigned .other targets w)

theorem reads_ctes {visible : List String} (recursive : Bool) (ctes : List Sql.Cte) (w : Walk) :
    Reads visible (Sql.ctePlaces recursive ctes) w (withTables [] (cteOutlines ctes) w) :=
  read_withTables [] (reads_eachCte [] ctes) (nodes_ctePlaces recursive ctes) w

/-- An update has an outline only if each column of its rows has an element. -/
theorem update_of_statement {recursive only : Bool} {ctes : List Sql.Cte} {table : Sql.TableName}
    {byname : Option String} {as : List Sql.Assignment} {sources : List Sql.FromItem}
    {condition : Option Sql.Expr} {back : Sql.Returning} {o : Outline}
    (given : ofStatement? (.update recursive ctes only table byname as sources condition back)
      = some (.ok o)) :
    ∃ assigned, Outline.assignments as = .ok assigned ∧
      Outline.update (cteOutlines ctes) (tableOf table byname) assigned (sourceOutlines sources)
        (optionTerms condition).head? (returningTerms back) = o := by
  cases listed : Outline.assignments as <;>
    simp_all [ofStatement?, Bind.bind, Except.bind, Pure.pure, Except.pure]

/-- The walk of a statement reads the statement. -/
theorem reads_outline {s : Sql.Statement} {o : Outline} (given : ofStatement? s = some (.ok o)) :
    Reads [] [⟨[], .statement s⟩] start (outline o start) := by
  cases s with
  | query q =>
      obtain ⟨recursive, ctes, b, order, limit, ties, offset, locks⟩ := q
      obtain rfl := Except.ok.inj (Option.some.inj given)
      refine .node rfl rfl ((reads_ctes recursive ctes start).append (.seeing ?_))
      let declared := withTables [] (cteOutlines ctes) start
      let computed := bodyOf [] (bodyOutline b) declared
      let sorted := terms [] .other (sortTerms order) computed
      have body : Reads (ctes.map Sql.Cte.name ++ []) [⟨[], .body b⟩] declared computed :=
        reads_body [] b declared
      have read := body.cons
        ((reads_sorts [] .other order computed).append (reads_apart [] .offset offset sorted))
      rw [List.cons_append, seeing, List.map_cons, List.map_append]
      exact read.turning rfl rfl fun c mem => .inl mem
  | insert recursive ctes table byname columns overriding rows onConflict back =>
      obtain rfl := Except.ok.inj (Option.some.inj given)
      refine .node rfl rfl ((reads_ctes recursive ctes start).append (.seeing ?_))
      refine (reads_addTarget table byname (withTables [] (cteOutlines ctes) start)).cons ?_
      obtain ⟨recursive', ctes', b, order, limit, ties, offset, locks⟩ := rows
      cases b with
      | defaults => exact .refl _ _
      | _ => exact (reads_query [] _ _).leaving
  | update recursive ctes only table byname as sources condition back =>
      obtain ⟨assigned, listed, rfl⟩ := update_of_statement given
      refine .node rfl rfl ((reads_ctes recursive ctes start).append (.seeing ?_))
      -- the sources take their tables to hand; that of the statement comes back for the condition
      let columns := assigned.map (·.1)
      let declared := withTables [] (cteOutlines ctes) start
      let targeted := declared.addTarget (tableOf table byname)
      let set := assignments columns targeted.1 assigned targeted.2
      let read := Walk.sources columns (sourceOutlines sources) set
      let resumed : Walk := { read with table := targeted.1, column := none }
      have set' : Reads (ctes.map Sql.Cte.name ++ []) (seeing [] (as.map .assignment)) targeted.2 set :=
        reads_assignments columns targeted.1 listed targeted.2
      have changes := (set'.append (reads_sources columns sources set)).turning (u := resumed) rfl rfl
        fun c mem => .inl (columns_withoutColumn mem)
      simp only [seeing, List.map_append, List.map_cons, List.cons_append, List.map_nil]
      exact (reads_addTarget table byname declared).cons ((changes.append
        (reads_option columns .where condition _)).append (reads_returning columns back _))
  | delete recursive ctes only table byname sources condition back =>
      obtain rfl := Except.ok.inj (Option.some.inj given)
      refine .node rfl rfl ((reads_ctes recursive ctes start).append (.seeing ?_))
      let declared := withTables [] (cteOutlines ctes) start
      let targeted := declared.addTarget (tableOf table byname)
      let read := Walk.sources [] (sourceOutlines sources) targeted.2
      let resumed : Walk := { read with table := targeted.1 }
      have items : Reads (ctes.map Sql.Cte.name ++ []) (seeing [] (sources.map .source)) targeted.2
          read := reads_sources [] sources targeted.2
      have used := items.turning (u := resumed) rfl rfl fun c mem => .inl mem
      simp only [seeing, List.map_append, List.map_cons, List.cons_append, List.map_nil]
      exact (reads_addTarget table byname declared).cons ((used.append
        (reads_option [] .where condition _)).append (reads_returning [] back _))
  | other kind parts => exact nomatch given

end Statements

end Walk

end IndexAdvisor
