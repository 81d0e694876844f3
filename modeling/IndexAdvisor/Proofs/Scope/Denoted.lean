import IndexAdvisor.Proofs.Scope.Mention
import IndexAdvisor.Usage.Outline
import Mathlib

/-! # Tables that qualifiers denote

A query declares names for the items of its `FROM` clause, and a qualifier denotes the item of its
name in the innermost query around it that declares one. `Refers` goes down a statement to a column
and takes along what is declared on the way. Whatever real table is declared there, the usage walk
meets a mention of it by that name, unless it does not come by the item at all.
-/

namespace IndexAdvisor.Sql

open Text (lowercase)

/-- The names a query declares, in lower case, each with the real table that it is for, if any. -/
abbrev Scope := List (String × Option String)

/-! ## Declared names -/

/-- The names of an item of `FROM`, given the common table expressions in sight. -/
def FromItem.declares (visible : List String) : FromItem → Scope
  | .table _ name byname =>
    let called := (Node.otherName (byname.map (·.name))).getD (lowercase name.name)
    let isReal := name.schema.isSome || !visible.contains name.name
    [(called, if isReal then some (lowercase name.name) else none)]
  | .query _ _ byname | .functions _ _ _ _ byname _ | .form _ _ byname =>
    byname.toList.map fun other => (lowercase other.name, none)
  | .sample s .. => s.declares visible
  | .join _ _ left right _ _ sharedAlias byname =>
    match byname with
    | some other => [(lowercase other.name, none)]
    | none =>
      left.declares visible ++ right.declares visible
        ++ sharedAlias.toList.map fun shared => (lowercase shared, none)

/-- The names of the items of a `FROM` clause. -/
def declared (visible : List String) (items : List FromItem) : Scope :=
  items.flatMap (·.declares visible)

def QueryBody.items : QueryBody → List FromItem
  | .select _ _ _ _ sources .. => sources
  | _ => []

/-- The name of the table that a statement changes. -/
def targetScope (table : TableName) (byname : Option String) : Scope :=
  [((Node.otherName byname).getD (lowercase table.name), some (lowercase table.name))]

namespace Node

/-- The names that the node declares for what is below it. -/
def scope (visible : List String) : Node → Scope
  | body b => declared visible b.items
  | source (.join _ _ left right ..) => declared visible [left, right]
  | query (.mk _ ctes b ..) | statement (.query (.mk _ ctes b ..)) =>
    declared (ctes.map Cte.name ++ visible) b.items
  | statement (.update _ ctes _ table byname _ sources ..)
  | statement (.delete _ ctes _ table byname sources ..) =>
    targetScope table byname ++ declared (ctes.map Cte.name ++ visible) sources
  | _ => []

/-- The scopes at a node below, innermost first. A derived table sees the other items of its clause
    only if it is lateral, and the condition of a join sees just what is joined. -/
def inner (visible : List String) (outer : List Scope) (n below : Node) : List Scope :=
  match n, below with
  | source (.query false ..), _ => outer.tail
  | source (.join ..), source _ => outer
  | source (.join ..), _ => n.scope visible :: outer.tail
  | query _, cte _ | query _, body _ | statement _, cte _ | statement _, body _ => outer
  | statement (.insert ..), _ => outer
  | body _, _ | query _, _ | statement _, _ => n.scope visible :: outer
  | _, _ => outer

/-- A column is named at or below the node, at a place that the usage walk reads. -/
inductive Holds : Node → ColumnName → Prop
  | here {e : Expr} {c : ColumnName} : Outline.columnOf? e = some c → Holds (expr e) c
  | within {n : Node} {p : Place} {c : ColumnName} : p ∈ n.read → Holds p.node c → Holds n c

/-- A column is named at or below the node, in the scopes found there. -/
inductive Refers : List String → List Scope → Node → ColumnName → List Scope → Prop
  | here {visible : List String} {scopes : List Scope} {e : Expr} {c : ColumnName} :
      Outline.columnOf? e = some c → Refers visible scopes (expr e) c scopes
  | within {visible : List String} {scopes found : List Scope} {n : Node} {p : Place}
      {c : ColumnName} : p ∈ n.read →
      Refers (p.visible ++ visible) (n.inner visible scopes p.node) p.node c found →
      Refers visible scopes n c found

theorem Holds.refers {n : Node} {c : ColumnName} (holds : Holds n c) (visible : List String)
    (scopes : List Scope) : ∃ found, Refers visible scopes n c found := by
  induction holds generalizing visible scopes with
  | here named => exact ⟨scopes, .here named⟩
  | within mem _ ih =>
      obtain ⟨found, refers⟩ := ih _ _
      exact ⟨found, .within mem refers⟩

end Node

/-- The qualifier denotes a real table in the scopes. -/
def Denotes (scopes : List Scope) (qualifier table : String) : Prop :=
  scopes.flatten.lookup qualifier = some (some table)

/-! ## Declared tables are met -/

namespace Node

/-- The walk meets a mention of the real table by the name at or below the node, or overlooks the
    table there. -/
def Meets (visible : List String) (n : Node) (called table : String) : Prop :=
  (∃ byname, .names table byname true ∈ n.mentions visible ∧ byname.getD table = called) ∨
    Overlooked visible n table

variable {visible : List String} {called t : String}

theorem Meets.within {n : Node} {p : Place} (mem : p ∈ n.read)
    (meets : Meets (p.visible ++ visible) p.node called t) : Meets visible n called t := by
  rcases meets with ⟨byname, mentioned, same⟩ | overlooked
  · exact .inl ⟨byname, mem_mentions.mpr (.inr ⟨p, mem, mentioned⟩), same⟩
  · exact .inr (.within mem overlooked)

theorem Meets.names {n : Node} (meets : Meets visible n called t) : Names visible n t :=
  names_iff.mpr (meets.imp_left fun ⟨byname, mentioned, _⟩ => ⟨byname, mentioned⟩)

theorem meets_source (s : FromItem) (mem : (called, some t) ∈ s.declares visible) :
    Meets visible (source s) called t := by
  cases s with
  | table only name byname =>
      simp only [FromItem.declares, List.mem_singleton, Prod.mk.injEq] at mem
      obtain ⟨rfl, real⟩ := mem
      obtain ⟨isReal, ⟨⟩⟩ := Option.some_eq_ite_none_right.mp real
      refine .inl ⟨_, mem_mentions.mpr (.inl (List.mem_singleton.mpr ?_)), rfl⟩
      rw [isReal]
  | query | functions | form => simp [FromItem.declares] at mem
  | sample s =>
      simp only [FromItem.declares] at mem
      exact .inr (.here (p := ⟨[], source s⟩) List.mem_cons_self (meets_source s mem).names)
  | join kind natural left right condition shared sharedAlias byname =>
      simp only [FromItem.declares] at mem
      cases byname with
      | some other => simp at mem
      | none =>
          simp only [List.mem_append] at mem
          rcases mem with (first | second) | share
          · exact (meets_source left first).within (p := ⟨[], source left⟩) List.mem_cons_self
          · exact (meets_source right second).within (p := ⟨[], source right⟩)
              (List.mem_cons_of_mem _ List.mem_cons_self)
          · simp at share
termination_by sizeOf s

theorem meets_declared {items : List FromItem} (mem : (called, some t) ∈ declared visible items) :
    ∃ s ∈ items, Meets visible (source s) called t := by
  obtain ⟨s, listed, here⟩ := List.mem_flatMap.mp mem
  exact ⟨s, listed, meets_source s here⟩

theorem meets_target {table : TableName} {byname : Option String}
    (mem : (called, some t) ∈ targetScope table byname) :
    Meets visible (changed table byname) called t := by
  obtain ⟨rfl, ⟨⟩⟩ := Prod.mk.inj (List.mem_singleton.mp mem)
  exact .inl ⟨_, mem_mentions.mpr (.inl List.mem_cons_self), rfl⟩

theorem meets_changed {n : Node} {names : List String} {table : TableName} {byname : Option String}
    {items : List FromItem}
    (read : ∀ m ∈ changed table byname :: items.map source, ⟨names, m⟩ ∈ n.read)
    (mem : (called, some t) ∈ targetScope table byname ++ declared (names ++ visible) items) :
    Meets visible n called t := by
  rcases List.mem_append.mp mem with target | item
  · exact (meets_target target).within (read _ List.mem_cons_self)
  · obtain ⟨s, listed, meets⟩ := meets_declared item
    exact meets.within (read _ (List.mem_cons_of_mem _ (List.mem_map_of_mem listed)))

theorem meets_body {b : QueryBody} (mem : (called, some t) ∈ declared visible b.items) :
    Meets visible (body b) called t := by
  obtain ⟨s, listed, meets⟩ := meets_declared mem
  cases b with
  | select distinct on targets into sources =>
      refine meets.within (p := ⟨[], source s⟩) (List.mem_map_of_mem ?_)
      have among : source s ∈ sources.map source := List.mem_map_of_mem listed
      simp only [bodyRead, List.append_assoc]
      exact List.mem_append_left _ among
  | _ => cases listed

theorem meets_scope {n : Node} (mem : (called, some t) ∈ n.scope visible) :
    Meets visible n called t := by
  cases n with
  | body b => exact meets_body mem
  | source s =>
      cases s with
      | join kind natural left right =>
          obtain ⟨s, listed, meets⟩ := meets_declared mem
          refine meets.within (p := ⟨[], source s⟩) (List.mem_map_of_mem ?_)
          rcases List.mem_cons.mp listed with rfl | second
          · exact List.mem_cons_self
          · obtain rfl := List.mem_singleton.mp second
            exact List.mem_cons_of_mem _ List.mem_cons_self
      | _ => exact nomatch mem
  | query q =>
      obtain ⟨recursive, ctes, b, order, limit, ties, offset, locks⟩ := q
      refine (meets_body mem).within (p := ⟨ctes.map Cte.name, body b⟩) ?_
      exact List.mem_append_right _ List.mem_cons_self
  | statement s =>
      cases s with
      | query q =>
          obtain ⟨recursive, ctes, b, order, limit, ties, offset, locks⟩ := q
          refine (meets_body mem).within (p := ⟨ctes.map Cte.name, body b⟩) ?_
          exact List.mem_append_right _ List.mem_cons_self
      | update recursive ctes only table byname assigned sources condition back =>
          refine meets_changed (fun m listed => List.mem_append_right _ (List.mem_map_of_mem ?_)) mem
          rcases List.mem_cons.mp listed with rfl | item
          · exact List.mem_cons_self
          · simp [item]
      | delete recursive ctes only table byname sources condition back =>
          refine meets_changed (fun m listed => List.mem_append_right _ (List.mem_map_of_mem ?_)) mem
          exact List.mem_append_left _ (List.mem_append_left _ listed)
      | _ => exact nomatch mem
  | _ => exact nomatch mem

/-- The scopes below a node are that of the node and some of those around it. -/
theorem mem_inner {outer : List Scope} {n below : Node} {s : Scope}
    (mem : s ∈ n.inner visible outer below) : s = n.scope visible ∨ s ∈ outer := by
  unfold inner at mem
  split at mem <;>
    first
    | exact .inr mem
    | exact .inr (List.mem_of_mem_tail mem)
    | exact (List.mem_cons.mp mem).imp_right List.mem_of_mem_tail
    | exact List.mem_cons.mp mem

/-- What the scopes of a column declare is met in the statement, if that is so around it. -/
theorem Refers.meets {root n : Node} {outer found : List Scope} {c : ColumnName}
    (refers : Refers visible outer n c found)
    (within : ∀ called t, Meets visible n called t → Meets [] root called t)
    (around : ∀ s ∈ outer, ∀ called t, (called, some t) ∈ s → Meets [] root called t) :
    ∀ s ∈ found, ∀ called t, (called, some t) ∈ s → Meets [] root called t := by
  induction refers with
  | here => exact around
  | within mem _ ih =>
      refine ih (fun called t meets => within called t (meets.within mem)) fun s known called t declares => ?_
      rcases mem_inner known with rfl | outside
      · exact within called t (meets_scope declares)
      · exact around s outside called t declares

/-- What a qualifier denotes is met in the statement. -/
theorem Refers.meets_of_denotes {root : Node} {found : List Scope} {c : ColumnName}
    (refers : Refers [] [] root c found) (denotes : Denotes found called t) :
    Meets [] root called t := by
  obtain ⟨before, after, same, -⟩ := List.lookup_eq_some_iff.mp denotes
  have mem : (called, some t) ∈ found.flatten := by simp [same]
  obtain ⟨s, known, here⟩ := List.mem_flatten.mp mem
  exact refers.meets (fun _ _ => id) nofun s known called t here

end Node

end IndexAdvisor.Sql
