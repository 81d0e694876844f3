/-! # Blank characters

The white space of Unicode text, and trimming by it. A statement, a property value or a
plan line is blank when nothing is left of it after trimming.
-/

namespace IndexAdvisor.Text

/-- White space: the control characters that separate words, lines and records, and the
    spaces of Unicode. -/
def isBlank (c : Char) : Bool :=
  let code := c.toNat
  (0x09 ≤ code && code ≤ 0x0d) || (0x1c ≤ code && code ≤ 0x20) || code == 0x85 || code == 0xa0
    || code == 0x1680 || (0x2000 ≤ code && code ≤ 0x200a) || code == 0x2028 || code == 0x2029
    || code == 0x202f || code == 0x205f || code == 0x3000

/-- White space of core's class is blank. -/
theorem isBlank_of_isWhitespace {c : Char} (h : c.isWhitespace = true) : isBlank c = true := by
  simp only [Char.isWhitespace, Bool.or_eq_true, decide_eq_true_eq] at h
  rcases h with ((h | h) | h) | h <;> subst h <;> decide

/-- Characters without the blanks before them. -/
def trimLeft (cs : List Char) : List Char :=
  cs.dropWhile isBlank

/-- Characters without the blanks after them. -/
def trimRight (cs : List Char) : List Char :=
  (cs.reverse.dropWhile isBlank).reverse

def trim (s : String) : String :=
  String.ofList (trimRight (trimLeft s.toList))

def isBlankText (s : String) : Bool :=
  s.toList.all isBlank

end IndexAdvisor.Text
