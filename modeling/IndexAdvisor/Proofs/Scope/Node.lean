import IndexAdvisor.Sql.Tree

/-! # Nodes of statement trees

A node is any part of a statement that may hold queries. Its places are the nodes directly below
it, each with the common table expressions that come into sight on the way there. The usage walk
reads some places, in the order they are listed, and passes over the others.
-/

namespace IndexAdvisor.Sql

/-- A part of a statement. -/
inductive Node
  | expr (e : Expr)
  | part (p : Part)
  | step (s : Step)
  | branch (w : When)
  | type (t : TypeName)
  | sort (k : SortKey)
  | window (w : Window)
  | target (t : Target)
  | group (k : GroupKey)
  | result (c : ResultColumn)
  | call (c : SourceCall)
  | source (s : FromItem)
  | query (q : Query)
  | body (b : QueryBody)
  | cte (c : Cte)
  | destination (d : Destination)
  | assignment (a : Assignment)
  | indexKey (k : IndexKey)
  | conflict (c : Conflict)
  | returning (r : Returning)
  /-- The table that a statement changes, and its other name. -/
  | changed (t : TableName) (byname : Option String)
  | statement (s : Statement)

/-- A node below another, with the names that come into sight there. -/
structure Place where
  visible : List String
  node : Node

namespace Node

noncomputable def size : Node → Nat
  | expr e => sizeOf e
  | part p => sizeOf p
  | step s => sizeOf s
  | branch w => sizeOf w
  | type t => sizeOf t
  | sort k => sizeOf k
  | window w => sizeOf w
  | target t => sizeOf t
  | group k => sizeOf k
  | result c => sizeOf c
  | call c => sizeOf c
  | source s => sizeOf s
  | query q => sizeOf q
  | body b => sizeOf b
  | cte c => sizeOf c
  | destination d => sizeOf d
  | assignment a => sizeOf a
  | indexKey k => sizeOf k
  | conflict c => sizeOf c
  | returning r => sizeOf r
  | changed t _ => sizeOf t
  | statement s => sizeOf s

end Node

/-! ## Common table expressions -/

def Cte.name : Cte → String
  | .mk name .. => name

/-- Common table expressions of which each sees those before it. -/
def sequentialCtes (visible : List String) : List Cte → List Place
  | [] => []
  | c :: rest => ⟨visible, .cte c⟩ :: sequentialCtes (c.name :: visible) rest

/-- The places of common table expressions: with `RECURSIVE` each sees all, itself included. -/
def ctePlaces (recursive : Bool) (ctes : List Cte) : List Place :=
  if recursive then ctes.map fun c => ⟨ctes.map Cte.name, .cte c⟩ else sequentialCtes [] ctes

/-- Nodes at which the given names come into sight. -/
def seeing (visible : List String) (nodes : List Node) : List Place :=
  nodes.map fun n => ⟨visible, n⟩

theorem nodes_seeing (visible : List String) (nodes : List Node) :
    (seeing visible nodes).map (·.node) = nodes := by
  simp [seeing, Function.comp_def]

namespace Node

def ofOption (e : Option Expr) : List Node := e.toList.map .expr

/-! ## Places that are read -/

def exprRead : Expr → List Node
  | .column .. | .parameter _ | .constant _ | .keywordValue .. | .default | .cursorRow _ => []
  | .access e _ | .prefixed _ e | .negation e | .nullTest _ e | .truthTest _ _ e
  | .documentTest e | .cast e _ | .collate e _ | .named _ e => [expr e]
  | .binary _ l r | .quantified _ _ l r | .distinctFrom _ l r | .nullIf l r => [expr l, expr r]
  | .inList _ l items => expr l :: items.map expr
  | .pattern _ _ l r escape => expr l :: expr r :: ofOption escape
  | .between _ _ e low high => [expr e, expr low, expr high]
  | .chain _ items | .row _ items | .array items | .coalesce items | .extreme _ items
  | .grouping items => items.map expr
  | .call _ _ arguments order filter _ =>
    arguments.map expr ++ ofOption filter ++ order.map sort
  | .case subject whens otherwise =>
    whens.map branch ++ ofOption subject ++ ofOption otherwise
  | .subquery q | .existsQuery q | .arrayQuery q => [query q]
  | .inQuery e q | .quantifiedQuery _ _ e q => [expr e, query q]
  | .form parts => parts.map part

def partRead : Part → List Node
  | .operand true e => [expr e]
  | .list items | .group items => items.map part
  | _ => []

def sourceRead : FromItem → List Node
  | .query _ q _ => [query q]
  | .join _ _ left right condition _ _ _ => source left :: source right :: ofOption condition
  | _ => []

def bodyRead : QueryBody → List Node
  | .select _ _ targets _ sources condition _ keys having _ =>
    sources.map source ++ targets.map target ++ ofOption condition ++ keys.map group
      ++ ofOption having
  | .values rows => rows.flatten.map expr
  | .defaults => []
  | .combined _ _ left right => [query left, query right]

/-- The elements of an assigned row go to its columns; there is no column for more of them. -/
def assignmentRead : Assignment → List Node
  | .single _ value => [expr value]
  | .row targets (.row _ items) => (items.take targets.length).map expr
  | .row targets value => if targets.isEmpty then [] else [expr value]

def returningRead : Returning → List Node
  | .mk _ targets => targets.map target

/-- The query whose rows `INSERT` takes; one row of defaults is none. -/
def rowsRead : Query → List Node
  | .mk _ _ .defaults .. => []
  | q => [query q]

/-- The limit of a whole statement is only noted. -/
def statementRead : Statement → List Place
  | .query (.mk recursive ctes b order _ _ offset _) =>
    ctePlaces recursive ctes
      ++ seeing (ctes.map Cte.name) (body b :: order.map sort ++ ofOption offset)
  | .insert recursive ctes table byname _ _ rows _ _ =>
    ctePlaces recursive ctes ++ seeing (ctes.map Cte.name) (changed table byname :: rowsRead rows)
  | .update recursive ctes _ table byname assignments sources condition back =>
    ctePlaces recursive ctes ++ seeing (ctes.map Cte.name)
      (changed table byname :: assignments.map assignment ++ sources.map source ++ ofOption condition
        ++ [returning back])
  | .delete recursive ctes _ table byname sources condition back =>
    ctePlaces recursive ctes ++ seeing (ctes.map Cte.name)
      (changed table byname :: sources.map source ++ ofOption condition ++ [returning back])
  | .other .. => []

/-- The places below a node that the usage walk reads, in this order. -/
def read : Node → List Place
  | expr e => seeing [] (exprRead e)
  | part p => seeing [] (partRead p)
  | branch (.mk condition value) => seeing [] [expr condition, expr value]
  | sort (.mk key _ _) => seeing [] [expr key]
  | target (.mk value _) => seeing [] [expr value]
  | group (.key value) => seeing [] [expr value]
  | source s => seeing [] (sourceRead s)
  | query (.mk recursive ctes b order limit _ offset _) =>
    ctePlaces recursive ctes ++ seeing (ctes.map Cte.name)
      (body b :: order.map sort ++ ofOption offset ++ ofOption limit)
  | body b => seeing [] (bodyRead b)
  | cte (.mk _ _ _ (.query q) _) => seeing [] [query q]
  | assignment a => seeing [] (assignmentRead a)
  | returning r => seeing [] (returningRead r)
  | statement s => statementRead s
  | _ => []

/-! ## Places that are passed over -/

def exprUnread : Expr → List Node
  | .access _ steps => steps.map step
  | .cast _ t => [type t]
  | .call _ _ _ _ _ w => [window w]
  | _ => []

def partUnread : Part → List Node
  | .operand false e => [expr e]
  | .type t => [type t]
  | .query q => [query q]
  | .source s => [source s]
  | .window w => [window w]
  | .order keys => keys.map sort
  | .destinations targets => targets.map destination
  | .assignments assignments => assignments.map assignment
  | .returning r => [returning r]
  | _ => []

def stepUnread : Step → List Node
  | .index e => [expr e]
  | .slice low high => ofOption low ++ ofOption high
  | _ => []

def windowUnread : Window → List Node
  | .mk _ _ partition order _ start finish =>
    partition.map expr ++ order.map sort ++ ofOption start ++ ofOption finish
  | _ => []

def groupUnread : GroupKey → List Node
  | .cube items | .rollup items => items.map expr
  | .sets items => items.map group
  | _ => []

def sourceUnread : FromItem → List Node
  | .functions _ _ _ calls _ columns => calls.map call ++ columns.map result
  | .sample s _ arguments seed => source s :: arguments.map expr ++ ofOption seed
  | .form _ parts _ => parts.map part
  | _ => []

def bodyUnread : QueryBody → List Node
  | .select _ on _ _ _ _ _ _ _ windows => on.map expr ++ windows.map window
  | _ => []

def cteUnread : Cte → List Node
  | .mk _ _ _ (.query _) walk => walk.map part
  | .mk _ _ _ s walk => statement s :: walk.map part

def assignmentUnread : Assignment → List Node
  | .single place _ => [destination place]
  | .row targets (.row _ items) =>
    targets.map destination ++ (items.drop targets.length).map expr
  | .row targets value => targets.map destination ++ if targets.isEmpty then [expr value] else []

def conflictUnread : Conflict → List Node
  | .unspecified => []
  | .keep _ keys condition => keys.map indexKey ++ ofOption condition
  | .update _ keys condition assignments restriction =>
    keys.map indexKey ++ ofOption condition ++ assignments.map assignment ++ ofOption restriction

def rowsUnread : Query → List Node
  | .mk recursive ctes .defaults order limit ties offset locks =>
    [query (.mk recursive ctes .defaults order limit ties offset locks)]
  | _ => []

def statementUnread : Statement → List Place
  | .query (.mk _ ctes _ _ limit _ _ _) => seeing (ctes.map Cte.name) (ofOption limit)
  | .insert _ ctes _ _ columns _ rows onConflict back =>
    seeing (ctes.map Cte.name)
      (columns.map destination ++ rowsUnread rows ++ [conflict onConflict, returning back])
  | .other _ parts => seeing [] (parts.map part)
  | _ => []

/-- The places below a node that the usage walk passes over. -/
def unread : Node → List Place
  | expr e => seeing [] (exprUnread e)
  | part p => seeing [] (partUnread p)
  | step s => seeing [] (stepUnread s)
  | type (.mk _ _ modifiers _) => seeing [] (modifiers.map expr)
  | window w => seeing [] (windowUnread w)
  | group k => seeing [] (groupUnread k)
  | result (.mk _ t _) => seeing [] [type t]
  | call (.mk e columns) => seeing [] (expr e :: columns.map result)
  | source s => seeing [] (sourceUnread s)
  | body b => seeing [] (bodyUnread b)
  | cte c => seeing [] (cteUnread c)
  | destination (.mk _ steps) => seeing [] (steps.map step)
  | assignment a => seeing [] (assignmentUnread a)
  | indexKey (.mk value _ _ options _ _) => seeing [] (expr value :: options.map part)
  | conflict c => seeing [] (conflictUnread c)
  | statement s => statementUnread s
  | _ => []

/-! ## Sizes -/

def Below (bound : Nat) (nodes : List Node) : Prop := ∀ n ∈ nodes, n.size < bound

section Below

variable {bound : Nat}

@[simp]
theorem below_nil : Below bound [] := nofun

@[simp]
theorem below_cons {n : Node} {nodes : List Node} :
    Below bound (n :: nodes) ↔ n.size < bound ∧ Below bound nodes :=
  List.forall_mem_cons

@[simp]
theorem below_append {nodes others : List Node} :
    Below bound (nodes ++ others) ↔ Below bound nodes ∧ Below bound others :=
  List.forall_mem_append

theorem below_map {α : Type} [SizeOf α] {f : α → Node} (sized : ∀ a, (f a).size = sizeOf a)
    {items : List α} (within : sizeOf items ≤ bound) : Below bound (items.map f) := by
  intro n mem
  obtain ⟨a, listed, rfl⟩ := List.mem_map.mp mem
  rw [sized]
  exact Nat.lt_of_lt_of_le (List.sizeOf_lt_of_mem listed) within

theorem below_exprs {items : List Expr} (within : sizeOf items ≤ bound) :
    Below bound (items.map expr) :=
  below_map (fun _ => rfl) within

theorem below_parts {items : List Part} (within : sizeOf items ≤ bound) :
    Below bound (items.map part) :=
  below_map (fun _ => rfl) within

theorem below_sorts {items : List SortKey} (within : sizeOf items ≤ bound) :
    Below bound (items.map sort) :=
  below_map (fun _ => rfl) within

theorem below_branches {items : List When} (within : sizeOf items ≤ bound) :
    Below bound (items.map branch) :=
  below_map (fun _ => rfl) within

theorem below_targets {items : List Target} (within : sizeOf items ≤ bound) :
    Below bound (items.map target) :=
  below_map (fun _ => rfl) within

theorem below_groups {items : List GroupKey} (within : sizeOf items ≤ bound) :
    Below bound (items.map group) :=
  below_map (fun _ => rfl) within

theorem below_sources {items : List FromItem} (within : sizeOf items ≤ bound) :
    Below bound (items.map source) :=
  below_map (fun _ => rfl) within

theorem below_assignments {items : List Assignment} (within : sizeOf items ≤ bound) :
    Below bound (items.map assignment) :=
  below_map (fun _ => rfl) within

theorem below_ofOption {e : Option Expr} (within : sizeOf e ≤ bound) :
    Below bound (ofOption e) := by
  cases e with
  | none => exact below_nil
  | some e =>
      simp only [Option.some.sizeOf_spec] at within
      simp only [ofOption, Option.toList_some, List.map_cons, List.map_nil, below_cons, size]
      exact ⟨by omega, below_nil⟩

theorem below_flatten {rows : List (List Expr)} (within : sizeOf rows ≤ bound) :
    Below bound (rows.map (List.map expr)).flatten := by
  intro n mem
  rw [← List.map_flatten] at mem
  obtain ⟨e, listed, rfl⟩ := List.mem_map.mp mem
  obtain ⟨row, outer, inner⟩ := List.mem_flatten.mp listed
  have smaller := List.sizeOf_lt_of_mem outer
  have smallest := List.sizeOf_lt_of_mem inner
  simp only [size]
  omega

theorem below_take {items : List Expr} (count : Nat) (within : sizeOf items ≤ bound) :
    Below bound ((items.take count).map expr) := by
  intro n mem
  obtain ⟨e, listed, rfl⟩ := List.mem_map.mp mem
  exact Nat.lt_of_lt_of_le (List.sizeOf_lt_of_mem (List.mem_of_mem_take listed)) within

theorem below_exprRead (e : Expr) : Below (sizeOf e) (exprRead e) := by
  cases e <;>
    simp +arith [exprRead, size, below_exprs, below_ofOption, below_sorts, below_branches,
      below_parts]

theorem below_partRead (p : Part) : Below (sizeOf p) (partRead p) := by
  cases p with
  | operand direct e => cases direct <;> simp +arith [partRead, size]
  | list items | group items => exact below_parts (by simp +arith)
  | _ => exact below_nil

theorem below_sourceRead (s : FromItem) : Below (sizeOf s) (sourceRead s) := by
  cases s <;> simp +arith [sourceRead, size, below_ofOption]

theorem below_bodyRead (b : QueryBody) : Below (sizeOf b) (bodyRead b) := by
  cases b <;>
    simp +arith [bodyRead, size, below_sources, below_targets, below_ofOption, below_groups,
      below_flatten]

theorem below_assignmentRead (a : Assignment) : Below (sizeOf a) (assignmentRead a) := by
  cases a with
  | single place value => simp +arith [assignmentRead, size]
  | row targets value =>
      unfold assignmentRead
      split
      · next same => simp at same
      · next same =>
          obtain ⟨-, rfl⟩ := Assignment.row.inj same
          exact below_take _ (by simp +arith)
      · next same =>
          obtain ⟨-, rfl⟩ := Assignment.row.inj same
          split
          · exact below_nil
          · simp +arith [size]

theorem below_returningRead (r : Returning) : Below (sizeOf r) (returningRead r) := by
  obtain ⟨names, targets⟩ := r
  exact below_targets (by simp +arith)

theorem below_rowsRead {rows : Query} (within : sizeOf rows < bound) :
    Below bound (rowsRead rows) := by
  unfold rowsRead
  split
  · exact below_nil
  · simpa [size] using within

def PlacesBelow (bound : Nat) (places : List Place) : Prop := ∀ p ∈ places, p.node.size < bound

theorem placesBelow_seeing {visible : List String} {nodes : List Node} (below : Below bound nodes) :
    PlacesBelow bound (seeing visible nodes) := by
  intro p mem
  obtain ⟨n, listed, rfl⟩ := List.mem_map.mp mem
  exact below n listed

theorem placesBelow_append {places others : List Place} (first : PlacesBelow bound places)
    (second : PlacesBelow bound others) : PlacesBelow bound (places ++ others) :=
  List.forall_mem_append.mpr ⟨first, second⟩

theorem placesBelow_sequential (ctes : List Cte) (visible : List String)
    (within : sizeOf ctes ≤ bound) : PlacesBelow bound (sequentialCtes visible ctes) := by
  induction ctes generalizing visible with
  | nil => exact nofun
  | cons c rest ih =>
      simp only [List.cons.sizeOf_spec] at within
      refine List.forall_mem_cons.mpr ⟨?_, ih _ (by omega)⟩
      simp only [size]
      omega

theorem placesBelow_ctes (recursive : Bool) {ctes : List Cte} (within : sizeOf ctes ≤ bound) :
    PlacesBelow bound (ctePlaces recursive ctes) := by
  cases recursive with
  | true =>
      intro p mem
      obtain ⟨c, listed, rfl⟩ := List.mem_map.mp mem
      exact Nat.lt_of_lt_of_le (List.sizeOf_lt_of_mem listed) within
  | false => exact placesBelow_sequential ctes [] within

theorem placesBelow_statementRead (s : Statement) : PlacesBelow (sizeOf s) (statementRead s) := by
  cases s with
  | query q =>
      obtain ⟨recursive, ctes, b, order, limit, ties, offset, locks⟩ := q
      refine placesBelow_append (placesBelow_ctes recursive (by simp +arith)) (placesBelow_seeing ?_)
      simp +arith [size, below_sorts, below_ofOption]
  | insert recursive ctes table byname columns overriding rows =>
      refine placesBelow_append (placesBelow_ctes recursive (by simp +arith)) (placesBelow_seeing ?_)
      simp +arith [size, below_rowsRead]
  | update recursive ctes only table byname assignments sources condition back =>
      refine placesBelow_append (placesBelow_ctes recursive (by simp +arith)) (placesBelow_seeing ?_)
      simp +arith [size, below_assignments, below_sources, below_ofOption]
  | delete recursive ctes only table byname sources condition back =>
      refine placesBelow_append (placesBelow_ctes recursive (by simp +arith)) (placesBelow_seeing ?_)
      simp +arith [size, below_sources, below_ofOption]
  | other => exact nofun

end Below

theorem placesBelow_read (n : Node) : PlacesBelow n.size n.read := by
  cases n with
  | expr e => exact placesBelow_seeing (below_exprRead e)
  | part p => exact placesBelow_seeing (below_partRead p)
  | source s => exact placesBelow_seeing (below_sourceRead s)
  | body b => exact placesBelow_seeing (below_bodyRead b)
  | assignment a => exact placesBelow_seeing (below_assignmentRead a)
  | returning r => exact placesBelow_seeing (below_returningRead r)
  | statement s => exact placesBelow_statementRead s
  | branch w | sort w | target w =>
      obtain ⟨_, _⟩ := w
      exact placesBelow_seeing (by simp +arith [size])
  | group k =>
      cases k with
      | key value => exact placesBelow_seeing (by simp +arith [size])
      | _ => exact nofun
  | query q =>
      obtain ⟨recursive, ctes, b, order, limit, ties, offset, locks⟩ := q
      refine placesBelow_append (placesBelow_ctes recursive (by simp +arith [size]))
        (placesBelow_seeing ?_)
      simp +arith [size, below_sorts, below_ofOption]
  | cte c =>
      obtain ⟨name, columns, materialized, s, walk⟩ := c
      cases s with
      | query q => exact placesBelow_seeing (by simp +arith [size])
      | _ => exact nofun
  | _ => exact nofun

theorem below_read (n : Node) : Below n.size (n.read.map (·.node)) := by
  intro m mem
  obtain ⟨p, listed, rfl⟩ := List.mem_map.mp mem
  exact n.placesBelow_read p listed

end Node

end IndexAdvisor.Sql
