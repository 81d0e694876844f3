/-! # Operator precedence

How tightly the operators of an expression bind; a larger number binds tighter. Reading and
printing expressions go by the same table.
-/

namespace IndexAdvisor.Sql.Precedence

def lowest : Nat := 0
def or : Nat := 1
def and : Nat := 2
def not : Nat := 3
/-- `IS` and its relatives, which do not associate. -/
def truth : Nat := 4
/-- The comparisons, which do not associate. -/
def comparison : Nat := 5
/-- `BETWEEN`, `IN` and the pattern matches, which do not associate. -/
def range : Nat := 6
/-- Every operator that has no precedence of its own. -/
def operator : Nat := 8
def sum : Nat := 9
def product : Nat := 10
def power : Nat := 11
def zone : Nat := 12
def collation : Nat := 13
def sign : Nat := 14
def atom : Nat := 15

def ofOperator (name : String) : Nat :=
  if ["<", ">", "=", "<=", ">=", "<>"].contains name then comparison
  else if name = "+" || name = "-" then sum
  else if ["*", "/", "%"].contains name then product
  else if name = "^" then power
  else operator

end IndexAdvisor.Sql.Precedence
