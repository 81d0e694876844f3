import IndexAdvisor.Entries
import IndexAdvisor.Text.Lowercase

/-! # Aliases

The tables behind the aliases of all queries of an analysis, in lower case. A later query may
give an alias to another table.
-/

namespace IndexAdvisor

open Text (lowercase)

abbrev Aliases := Entries String

namespace Aliases

def register (aliases : Aliases) (byname table : String) : Aliases :=
  Entries.put aliases (lowercase byname) (lowercase table)

/-- The table behind a name, which is the name itself unless it is an alias. -/
def resolve (aliases : Aliases) (name : String) : String :=
  (Entries.find? aliases (lowercase name)).getD (lowercase name)

def knows (aliases : Aliases) (name : String) : Bool :=
  Entries.has aliases (lowercase name)

end Aliases

end IndexAdvisor
