import IndexAdvisor.Text.CaseTable

/-! # Small letters

`lowercase` writes a text in small letters by the full rules of Unicode, so that table and
column names compare without regard to case in every script. Two capitals are not simple:
`İ` becomes two characters, and a `Σ` that closes a word becomes `ς`.
-/

namespace IndexAdvisor.Text

/-- The small form of a character outside ASCII that is neither `İ` nor `Σ`. -/
def smallLetter (c : Char) : Char :=
  match capitalRuns.findSome? (·.other? c.toNat) with
  | some code => Char.ofNat code
  | none => c

/-- Whether the nearest character that is not skipped is a letter with case. -/
def startsCased : List Char → Bool
  | [] => false
  | c :: rest =>
    if inRanges caseIgnorableRanges c.toNat then startsCased rest
    else inRanges casedRanges c.toNat

/-- The small form of `c` between the characters `before` (nearest first) and `after`. -/
def lowercaseAt (before : List Char) (c : Char) (after : List Char) : List Char :=
  if c.toNat < 0x80 then [c.toLower]
  else if c = 'İ' then ['i', '\u0307']
  else if c = 'Σ' then [if startsCased before && !startsCased after then 'ς' else 'σ']
  else [smallLetter c]

/-- Small forms of a text whose earlier characters are `before`, nearest first. -/
def lowercaseFrom (before : List Char) : List Char → List Char
  | [] => []
  | c :: rest => lowercaseAt before c rest ++ lowercaseFrom (c :: before) rest

def lowercase (s : String) : String :=
  String.ofList (lowercaseFrom [] s.toList)

/-- A small letter of ASCII, alone, is unchanged by `lowercaseAt`. -/
theorem lowercaseAt_ascii {c : Char} (h : c.toNat < 0x80) (before after : List Char) :
    lowercaseAt before c after = [c.toLower] := by
  simp [lowercaseAt, h]

end IndexAdvisor.Text
