/-! # Entries by name

A collection of entries with distinct names. An entry that is put again keeps its place.
-/

namespace IndexAdvisor

/-- Entries with names, in the order in which the names first came. -/
abbrev Entries (α : Type) := List (String × α)

namespace Entries

variable {α : Type}

def names (entries : Entries α) : List String := entries.map (·.1)

def values (entries : Entries α) : List α := entries.map (·.2)

def find? (entries : Entries α) (name : String) : Option α := entries.lookup name

def has (entries : Entries α) (name : String) : Bool := (entries.find? name).isSome

/-- Puts a value in the place of its name, or at the end for a new name. -/
def put (entries : Entries α) (name : String) (value : α) : Entries α :=
  match entries with
  | [] => [(name, value)]
  | (other, v) :: rest =>
    if other = name then (name, value) :: rest else (other, v) :: put rest name value

theorem find?_put (entries : Entries α) (name other : String) (value : α) :
    (entries.put name value).find? other
      = if other = name then some value else entries.find? other := by
  induction entries with
  | nil => by_cases h : other = name <;> simp [put, find?, h]
  | cons entry rest ih =>
      obtain ⟨first, v⟩ := entry
      simp only [find?] at ih ⊢
      by_cases same : first = name
      · by_cases h : other = name
        · simp [put, same, h]
        · have unequal : (other == name) = false := beq_false_of_ne h
          simp [put, same, List.lookup_cons, unequal, h]
      · by_cases h : other = first
        · simp [put, same, h]
        · have unequal : (other == first) = false := beq_false_of_ne h
          simp [put, same, List.lookup_cons, unequal, ih]

/-- Entries from pairs, of which a later one overrides an earlier one with its name. -/
def ofPairs (pairs : List (String × α)) : Entries α :=
  pairs.foldl (fun entries pair => entries.put pair.1 pair.2) []

end Entries

end IndexAdvisor
