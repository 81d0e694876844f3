import IndexAdvisor.Usage.Alias
import IndexAdvisor.Usage.Record

/-! # Registered aliases

The aliases of a statement are registered one after the other over those of earlier statements.
A name then stands for the table of its last binding in the statement; only a name that the
statement does not bind may stand for the table of an earlier one.
-/

namespace IndexAdvisor.Aliases

open Text (lowercase)

/-- The aliases with those of a statement. -/
def withAll (aliases : Aliases) (bindings : List AliasBinding) : Aliases :=
  bindings.foldl (fun aliases binding => aliases.register binding.byname binding.table) aliases

/-- The table of the last binding of a name. -/
def lastTable? (bindings : List AliasBinding) (name : String) : Option String :=
  (bindings.reverse.find? fun b => lowercase b.byname = name).map fun b => lowercase b.table

theorem find?_withAll (aliases : Aliases) (bindings : List AliasBinding) (name : String) :
    Entries.find? (aliases.withAll bindings) name
      = (lastTable? bindings name).or (Entries.find? aliases name) := by
  induction bindings generalizing aliases with
  | nil => simp [withAll, lastTable?]
  | cons first rest ih =>
      have later := ih (aliases.register first.byname first.table)
      simp only [withAll, List.foldl_cons] at later ⊢
      rw [later, register, Entries.find?_put]
      simp only [lastTable?, List.reverse_cons, List.find?_append]
      cases rest.reverse.find? fun b => lowercase b.byname = name with
      | some found => simp
      | none =>
          by_cases same : lowercase first.byname = name
          · simp [same]
          · simp [same, Ne.symm same]

theorem resolve_withAll (aliases : Aliases) (bindings : List AliasBinding) (name : String) :
    (aliases.withAll bindings).resolve name
      = ((lastTable? bindings (lowercase name)).or
          (Entries.find? aliases (lowercase name))).getD (lowercase name) := by
  rw [resolve, find?_withAll]

end IndexAdvisor.Aliases
