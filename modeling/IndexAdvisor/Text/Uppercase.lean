import IndexAdvisor.Text.SmallTable

/-! # Capital letters

`uppercase` writes a text in capital letters by the full rules of Unicode. Some letters become
several characters, such as `ß`.
-/

namespace IndexAdvisor.Text

def capitals (c : Char) : List Char :=
  if c.toNat < 0x80 then [c.toUpper]
  else
    match longCapitals.lookup c.toNat with
    | some codes => codes.map Char.ofNat
    | none =>
      match smallRuns.findSome? (·.other? c.toNat) with
      | some code => [Char.ofNat code]
      | none => [c]

def uppercase (s : String) : String := String.ofList (s.toList.flatMap capitals)

end IndexAdvisor.Text
