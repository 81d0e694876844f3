import IndexAdvisor.Text.Blank

/-! # Lines

The lines of a text, and a text brought on one line.
-/

namespace IndexAdvisor.Text

/-- Whether a character ends a line. -/
def breaksLine (c : Char) : Bool :=
  let n := c.toNat
  (0x0a ≤ n && n ≤ 0x0d) || (0x1c ≤ n && n ≤ 0x1e) || n == 0x85 || n == 0x2028 || n == 0x2029

/-- The lines of a text, of which the first has already begun; its characters stand in reverse. -/
def linesFrom (begun : List Char) : List Char → List String
  | [] => if begun.isEmpty then [] else [String.ofList begun.reverse]
  | '\r' :: '\n' :: rest => String.ofList begun.reverse :: linesFrom [] rest
  | c :: rest =>
    if breaksLine c then String.ofList begun.reverse :: linesFrom [] rest
    else linesFrom (c :: begun) rest

def lines (s : String) : List String := linesFrom [] s.toList

/-- A text of several lines on one, with single blanks between its words. -/
def onOneLine (s : String) : String :=
  if s.toList.contains '\n' then
    let runs := s.toList.splitBy fun a b => isBlank a = isBlank b
    let words := runs.filter fun run => !run.all isBlank
    " ".intercalate (words.map String.ofList)
  else s

end IndexAdvisor.Text
