import IndexAdvisor.Proofs.Scope.Node

/-! # Parameters of statements

A parameter may stand wherever a statement has an expression. The usage walk meets those at the places
that it reads, in reading order, and does not come by the others.
-/

namespace IndexAdvisor.Sql

namespace Node

/-- A parameter of the number stands at or below the node. -/
inductive Asks : Node → Nat → Prop
  | here {number : Nat} : Asks (expr (.parameter number)) number
  | within {n : Node} {p : Place} {number : Nat} : p ∈ n.read ++ n.unread → Asks p.node number → Asks n number

/-- The parameter that the node is. -/
def ownNumbers : Node → List Nat
  | expr (.parameter number) => [number]
  | _ => []

/-- The numbers of the parameters that the walk meets at and below the node, in reading order. -/
def numbers (n : Node) : List Nat :=
  n.ownNumbers ++ n.read.attach.flatMap fun p => p.1.node.numbers
termination_by n.size
decreasing_by exact n.placesBelow_read p.1 p.2

theorem numbers_eq (n : Node) : n.numbers = n.ownNumbers ++ n.read.flatMap (·.node.numbers) := by
  have attached := List.flatMap_map Subtype.val (fun p : Place => p.node.numbers) n.read.attach
  rw [List.attach_map_subtype_val] at attached
  rw [numbers, attached]

/-- A parameter of the number stands at a place that the walk does not come by. -/
inductive Hides : Node → Nat → Prop
  | here {n : Node} {p : Place} {number : Nat} : p ∈ n.unread → Asks p.node number → Hides n number
  | within {n : Node} {p : Place} {number : Nat} : p ∈ n.read → Hides p.node number → Hides n number

theorem Hides.asks {n : Node} {number : Nat} (hides : Hides n number) : Asks n number := by
  induction hides with
  | here mem asks => exact .within (List.mem_append_right _ mem) asks
  | within mem _ ih => exact .within (List.mem_append_left _ mem) ih

theorem asks_of_mem_numbers (n : Node) {number : Nat} (mem : number ∈ n.numbers) : Asks n number := by
  rw [numbers_eq] at mem
  rcases List.mem_append.mp mem with own | below
  · unfold ownNumbers at own
    split at own
    · obtain rfl := List.mem_singleton.mp own
      exact .here
    · exact nomatch own
  · obtain ⟨p, place, there⟩ := List.mem_flatMap.mp below
    exact .within (List.mem_append_left _ place) (asks_of_mem_numbers p.node there)
termination_by n.size
decreasing_by exact n.placesBelow_read p place

theorem asks_iff {n : Node} {number : Nat} : Asks n number ↔ number ∈ n.numbers ∨ Hides n number := by
  constructor
  · intro asks
    induction asks with
    | here =>
        left
        rw [numbers_eq]
        exact List.mem_append_left _ (List.mem_singleton_self _)
    | @within n p number place _ ih =>
        rcases List.mem_append.mp place with read | unread
        · refine ih.imp (fun met => ?_) (.within read)
          rw [numbers_eq]
          exact List.mem_append_right _ (List.mem_flatMap.mpr ⟨p, read, met⟩)
        · exact .inr (.here unread ‹_›)
  · rintro (met | hidden)
    · exact asks_of_mem_numbers n met
    · exact hidden.asks

end Node

namespace Statement

/-- The numbers of the parameters that the walk of a statement meets. -/
def numbers (s : Statement) : List Nat := (Node.statement s).numbers

/-- The places right below a statement that the walk passes over, but for the limit of a query, which
    binding replaces. -/
def omitted : Statement → List Place
  | .query _ => []
  | s => (Node.statement s).unread

/-- A parameter of the number stands in the statement, and not in the limit of the whole. -/
def Asks (s : Statement) (number : Nat) : Prop :=
  ∃ p ∈ (Node.statement s).read ++ s.omitted, p.node.Asks number

/-- Such a parameter stands at a place that the walk does not come by. -/
def Hides (s : Statement) (number : Nat) : Prop :=
  (∃ p ∈ (Node.statement s).read, p.node.Hides number) ∨ ∃ p ∈ s.omitted, p.node.Asks number

theorem asks_iff {s : Statement} {number : Nat} : s.Asks number ↔ number ∈ s.numbers ∨ s.Hides number := by
  have met : number ∈ s.numbers ↔ ∃ p ∈ (Node.statement s).read, number ∈ p.node.numbers := by
    rw [numbers, Node.numbers_eq, Node.ownNumbers, List.nil_append, List.mem_flatMap]
    nofun
  rw [met, Hides, ← or_assoc]
  simp only [← exists_or, ← and_or_left, ← Node.asks_iff]
  simp only [Asks, List.mem_append, or_and_right, exists_or]

end Statement

end IndexAdvisor.Sql
