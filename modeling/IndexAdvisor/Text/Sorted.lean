/-! # Sorted texts

Texts in the order of their characters' code points.
-/

namespace IndexAdvisor.Text

def sorted (texts : List String) : List String :=
  texts.mergeSort fun a b => decide (a ≤ b)

def sortedDistinct (texts : List String) : List String :=
  sorted texts.eraseDups

end IndexAdvisor.Text
