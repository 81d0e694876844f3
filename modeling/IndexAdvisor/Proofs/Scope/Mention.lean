import IndexAdvisor.Proofs.Scope.Node
import IndexAdvisor.Text.Lowercase

/-! # Tables that a statement names

`Names` is the scoping of SQL: an item of `FROM` names a real table unless its name, without a
schema, is that of a common table expression in sight, and a changed table is always a real one.
`mentions` lists what the usage walk meets of this in reading order, and `Overlooked` is what it
does not come by. A real table is named exactly if a mention names it or it is overlooked.
-/

namespace IndexAdvisor.Sql.Node

open Text (lowercase)

/-- The node names a real table, given the common table expressions in sight. The name is in lower
    case. -/
inductive Names : List String → Node → String → Prop
  | item {visible : List String} {only : Bool} {name : TableName} {byname : Option Alias} :
      name.schema.isSome ∨ name.name ∉ visible →
      Names visible (source (.table only name byname)) (lowercase name.name)
  | changed {visible : List String} {name : TableName} {byname : Option String} :
      Names visible (changed name byname) (lowercase name.name)
  | within {visible : List String} {n : Node} {p : Place} {t : String} :
      p ∈ n.read ++ n.unread → Names (p.visible ++ visible) p.node t → Names visible n t

/-- Something the usage walk meets. -/
inductive Mention
  /-- A common table expression, of which the name is known from here on. -/
  | declares (name : String)
  /-- A table's name, with its other name; `real` tells whether it is that of a real table here. -/
  | names (table : String) (byname : Option String) (real : Bool)
  deriving DecidableEq, Repr

/-- The other name of a table, in lower case. A blank one is none. -/
def otherName (byname : Option String) : Option String :=
  (byname.map lowercase).filter (· ≠ "")

/-- What the walk meets at the node itself. -/
def own (visible : List String) : Node → List Mention
  | source (.table _ name byname) =>
    [.names (lowercase name.name) (otherName (byname.map (·.name)))
      (name.schema.isSome || !visible.contains name.name)]
  | changed name byname => [.names (lowercase name.name) (otherName byname) true]
  | cte c => [.declares (lowercase c.name)]
  | _ => []

/-- What the walk meets at the node and below it, in reading order. -/
def mentions (visible : List String) (n : Node) : List Mention :=
  n.own visible ++ n.read.attach.flatMap fun p => p.1.node.mentions (p.1.visible ++ visible)
termination_by n.size
decreasing_by exact n.placesBelow_read p.1 p.2

theorem mentions_eq (visible : List String) (n : Node) :
    n.mentions visible
      = n.own visible ++ n.read.flatMap fun p => p.node.mentions (p.visible ++ visible) := by
  have attached := List.flatMap_map Subtype.val
    (fun p : Place => p.node.mentions (p.visible ++ visible)) n.read.attach
  rw [List.attach_map_subtype_val] at attached
  rw [mentions, attached]

theorem mem_mentions {visible : List String} {n : Node} {m : Mention} :
    m ∈ n.mentions visible ↔
      m ∈ n.own visible ∨ ∃ p ∈ n.read, m ∈ p.node.mentions (p.visible ++ visible) := by
  rw [mentions_eq, List.mem_append, List.mem_flatMap]

/-- A real table is named at a place that the walk does not come by. -/
inductive Overlooked : List String → Node → String → Prop
  | here {visible : List String} {n : Node} {p : Place} {t : String} :
      p ∈ n.unread → Names (p.visible ++ visible) p.node t → Overlooked visible n t
  | within {visible : List String} {n : Node} {p : Place} {t : String} :
      p ∈ n.read → Overlooked (p.visible ++ visible) p.node t → Overlooked visible n t

theorem Overlooked.names {visible : List String} {n : Node} {t : String}
    (overlooked : Overlooked visible n t) : Names visible n t := by
  induction overlooked with
  | here mem named => exact .within (List.mem_append_right _ mem) named
  | within mem _ ih => exact .within (List.mem_append_left _ mem) ih

theorem names_of_own {visible : List String} {n : Node} {t : String} {byname : Option String}
    (mem : Mention.names t byname true ∈ n.own visible) : Names visible n t := by
  cases n with
  | source s =>
      cases s with
      | table only name byname =>
          obtain ⟨rfl, -, real⟩ := Mention.names.inj (List.mem_singleton.mp mem)
          refine .item ?_
          simpa using real.symm
      | _ => simp [own] at mem
  | changed name byname =>
      obtain ⟨rfl, -, -⟩ := Mention.names.inj (List.mem_singleton.mp mem)
      exact .changed
  | _ => simp [own] at mem

theorem names_of_mention (n : Node) {visible : List String} {t : String} {byname : Option String}
    (mem : Mention.names t byname true ∈ n.mentions visible) : Names visible n t := by
  rcases mem_mentions.mp mem with here | ⟨p, place, there⟩
  · exact names_of_own here
  · exact .within (List.mem_append_left _ place) (names_of_mention p.node there)
termination_by n.size
decreasing_by exact n.placesBelow_read p place

theorem names_iff {visible : List String} {n : Node} {t : String} :
    Names visible n t ↔
      (∃ byname, Mention.names t byname true ∈ n.mentions visible) ∨ Overlooked visible n t := by
  constructor
  · intro named
    induction named with
    | @item visible only name byname real =>
        exact .inl ⟨otherName (byname.map (·.name)), mem_mentions.mpr (.inl (by simpa [own] using real))⟩
    | @changed visible name byname =>
        exact .inl ⟨otherName byname, mem_mentions.mpr (.inl (by simp [own]))⟩
    | within place named ih =>
        rcases List.mem_append.mp place with read | unread
        · rcases ih with ⟨byname, mentioned⟩ | overlooked
          · exact .inl ⟨byname, mem_mentions.mpr (.inr ⟨_, read, mentioned⟩)⟩
          · exact .inr (.within read overlooked)
        · exact .inr (.here unread named)
  · rintro (⟨byname, mentioned⟩ | overlooked)
    · exact names_of_mention n mentioned
    · exact overlooked.names

/-! ## Hidden names -/

theorem visible_sequential (ctes : List Cte) (visible : List String) {p : Place}
    (mem : p ∈ sequentialCtes visible ctes) :
    ∀ name ∈ p.visible, name ∈ visible ∨ ∃ c ∈ ctes, c.name = name := by
  induction ctes generalizing visible with
  | nil => simp [sequentialCtes] at mem
  | cons c rest ih =>
      rcases List.mem_cons.mp mem with rfl | later
      · exact fun name seen => .inl seen
      · intro name seen
        rcases ih _ later name seen with before | ⟨other, listed, called⟩
        · rcases List.mem_cons.mp before with rfl | before
          · exact .inr ⟨c, List.mem_cons_self, rfl⟩
          · exact .inl before
        · exact .inr ⟨other, List.mem_cons_of_mem _ listed, called⟩

theorem visible_ctePlaces {recursive : Bool} {ctes : List Cte} {p : Place}
    (mem : p ∈ ctePlaces recursive ctes) : ∀ name ∈ p.visible, ∃ c ∈ ctes, c.name = name := by
  intro name seen
  cases recursive with
  | true =>
      obtain ⟨c, -, rfl⟩ := List.mem_map.mp mem
      exact List.mem_map.mp seen
  | false => exact (visible_sequential ctes [] mem name seen).resolve_left (by simp)

theorem cte_mem_ctePlaces (recursive : Bool) {ctes : List Cte} {c : Cte} (mem : c ∈ ctes) :
    ∃ p ∈ ctePlaces recursive ctes, p.node = cte c := by
  have sequential (visible : List String) : ∃ p ∈ sequentialCtes visible ctes, p.node = cte c := by
    induction ctes generalizing visible with
    | nil => simp at mem
    | cons first rest ih =>
        rcases List.mem_cons.mp mem with rfl | later
        · exact ⟨_, List.mem_cons_self, rfl⟩
        · obtain ⟨p, listed, same⟩ := ih later (first.name :: visible)
          exact ⟨p, List.mem_cons_of_mem _ listed, same⟩
  cases recursive with
  | true => exact ⟨_, List.mem_map.mpr ⟨c, mem, rfl⟩, rfl⟩
  | false => exact sequential []

/-- Below common table expressions only their names come into sight. -/
theorem visible_below {recursive : Bool} {ctes : List Cte} {nodes : List Node} {p : Place}
    (mem : p ∈ ctePlaces recursive ctes ++ seeing (ctes.map Cte.name) nodes) :
    ∀ name ∈ p.visible, ∃ c ∈ ctes, c.name = name := by
  rcases List.mem_append.mp mem with declared | below
  · exact visible_ctePlaces declared
  · obtain ⟨n, -, rfl⟩ := List.mem_map.mp below
    exact fun name seen => List.mem_map.mp seen

/-- Names come into sight only below common table expressions. -/
theorem read_eq_of_visible {n : Node} {p : Place} (mem : p ∈ n.read) {name : String}
    (seen : name ∈ p.visible) :
    ∃ recursive ctes nodes, n.read = ctePlaces recursive ctes ++ seeing (ctes.map Cte.name) nodes := by
  have plain (nodes : List Node) (mem : p ∈ seeing [] nodes) : False := by
    obtain ⟨n, -, rfl⟩ := List.mem_map.mp mem
    exact nomatch seen
  cases n with
  | query q =>
      obtain ⟨recursive, ctes, b, order, limit, ties, offset, locks⟩ := q
      exact ⟨recursive, ctes, _, rfl⟩
  | statement s =>
      cases s with
      | query q =>
          obtain ⟨recursive, ctes, b, order, limit, ties, offset, locks⟩ := q
          exact ⟨recursive, ctes, _, rfl⟩
      | insert recursive ctes | update recursive ctes | delete recursive ctes =>
          exact ⟨recursive, ctes, _, rfl⟩
      | other => exact nomatch mem
  | branch w | sort w | target w =>
      obtain ⟨_, _⟩ := w
      exact (plain _ mem).elim
  | group k =>
      cases k with
      | key => exact (plain _ mem).elim
      | _ => exact nomatch mem
  | cte c =>
      obtain ⟨called, columns, materialized, s, walk⟩ := c
      cases s with
      | query => exact (plain _ mem).elim
      | _ => exact nomatch mem
  | expr | part | source | body | assignment | returning => exact (plain _ mem).elim
  | _ => exact nomatch mem

/-- A name that comes into sight at a node is declared there. -/
theorem declares_of_visible {n : Node} {p : Place} (mem : p ∈ n.read) {name : String}
    (seen : name ∈ p.visible) (visible : List String) :
    .declares (lowercase name) ∈ n.mentions visible := by
  obtain ⟨recursive, ctes, nodes, read⟩ := read_eq_of_visible mem seen
  obtain ⟨c, listed, rfl⟩ := visible_below (read ▸ mem) name seen
  obtain ⟨place, below, same⟩ := cte_mem_ctePlaces recursive listed
  refine mem_mentions.mpr (.inr ⟨place, read ▸ List.mem_append_left _ below, ?_⟩)
  rw [same]
  exact mem_mentions.mpr (.inl List.mem_cons_self)

/-- Where a name is hidden, a common table expression of its name is in sight or declared. -/
theorem declares_of_hidden (n : Node) {visible : List String} {t : String}
    {byname : Option String} (mem : .names t byname false ∈ n.mentions visible) :
    (∃ name ∈ visible, lowercase name = t) ∨ .declares t ∈ n.mentions visible := by
  rcases mem_mentions.mp mem with here | ⟨p, place, there⟩
  · cases n with
    | source s =>
        cases s with
        | table only name byname =>
            obtain ⟨rfl, -, real⟩ := Mention.names.inj (List.mem_singleton.mp here)
            refine .inl ⟨name.name, ?_, rfl⟩
            simpa using (Bool.or_eq_false_iff.mp real.symm).2
        | _ => exact nomatch here
    | changed | cte => simp [own] at here
    | _ => exact nomatch here
  · rcases declares_of_hidden p.node there with ⟨name, seen, rfl⟩ | declared
    · rcases List.mem_append.mp seen with inner | outer
      · exact .inr (declares_of_visible place inner visible)
      · exact .inl ⟨name, outer, rfl⟩
    · exact .inr (mem_mentions.mpr (.inr ⟨p, place, declared⟩))
termination_by n.size
decreasing_by exact n.placesBelow_read p place

end IndexAdvisor.Sql.Node
