import IndexAdvisor.Number.Whole

/-! # Placeholders

A statement marks its parameters by `?` or by `$n`. Marks count only outside quoted texts,
quoted names, dollar-quoted bodies and comments, so a statement is first cut into pieces: the
marks, and everything between them. `pieces` is that cut; numbering the marks and replacing
them by literals are maps over it. No piece is lost: the pieces of a text, joined, are the text.
-/

namespace IndexAdvisor.Sql

open Number Text

/-- A part of a statement's text: copied as it stands, or a placeholder. -/
inductive Piece where
  | copied (cs : List Char)
  | mark (cs : List Char)
  deriving Repr, DecidableEq

def Piece.chars : Piece → List Char
  | .copied cs => cs
  | .mark cs => cs

/-- Characters after which a dollar sign belongs to a name. -/
def isNameChar (c : Char) : Bool :=
  c.isAlphanum || c = '_' || c = '$'

/-- The rest of a quoted section, closing quote included, and what follows it. A doubled quote
    does not close it; with `escapes`, neither does a quote after a backslash. -/
def splitQuoted (quote : Char) (escapes : Bool) : List Char → List Char × List Char
  | [] => ([], [])
  | [c] => ([c], [])
  | c :: d :: rest =>
    if escapes && c = '\\' then
      let (body, after) := splitQuoted quote escapes rest
      (c :: d :: body, after)
    else if c = quote then
      if d = quote then
        let (body, after) := splitQuoted quote escapes rest
        (c :: d :: body, after)
      else ([c], d :: rest)
    else
      let (body, after) := splitQuoted quote escapes (d :: rest)
      (c :: body, after)

/-- The text up to and including the first occurrence of `stop`, and what follows it. -/
def splitAfter (stop : List Char) : List Char → List Char × List Char
  | [] => ([], [])
  | c :: rest =>
    if stop.isPrefixOf (c :: rest) then
      (stop, (c :: rest).drop stop.length)
    else
      let (body, after) := splitAfter stop rest
      (c :: body, after)

/-- The name between the dollar signs of a dollar-quoted body, given what follows the first. -/
def dollarTag? (cs : List Char) : Option (List Char) :=
  let name := cs.takeWhile fun c => c.isAlphanum || c = '_'
  match cs.dropWhile fun c => c.isAlphanum || c = '_' with
  | '$' :: _ =>
    match name with
    | c :: _ => if c.isDigit then none else some name
    | [] => some []
  | _ => none

/-- The first piece of the text `c :: rest` that has the text `behind` before it, nearest
    character first, and what follows the piece. -/
def firstPiece (behind : List Char) (c : Char) (rest : List Char) : Piece × List Char :=
  let previous := behind.head?
  if c = '\'' then
    let escapes := (previous = some 'e' || previous = some 'E')
      && !((behind.drop 1).head?.any isNameChar)
    let (body, after) := splitQuoted '\'' escapes rest
    (.copied (c :: body), after)
  else if c = '"' then
    let (body, after) := splitQuoted '"' false rest
    (.copied (c :: body), after)
  else if c = '-' && rest.head? = some '-' then
    (.copied (c :: rest.takeWhile (· ≠ '\n')), rest.dropWhile (· ≠ '\n'))
  else if c = '/' && rest.head? = some '*' then
    let (body, after) := splitAfter ['*', '/'] rest.tail
    (.copied (c :: (rest.take 1 ++ body)), after)
  else if c = '$' && !previous.any isNameChar then
    let digits := rest.takeWhile isDecimalDigit
    if !digits.isEmpty then (.mark (c :: digits), rest.dropWhile isDecimalDigit)
    else
      match dollarTag? rest with
      | some name =>
        let (body, after) := splitAfter ('$' :: name ++ ['$']) (rest.drop (name.length + 1))
        (.copied (c :: (rest.take (name.length + 1) ++ body)), after)
      | none => (.copied [c], rest)
  else if c = '?' then (.mark [c], rest)
  else (.copied [c], rest)

/-- A quoted section and what follows it are the text it was cut from. -/
theorem splitQuoted_append (quote : Char) (escapes : Bool) (cs : List Char) :
    (splitQuoted quote escapes cs).1 ++ (splitQuoted quote escapes cs).2 = cs := by
  fun_induction splitQuoted quote escapes cs <;> simp_all

/-- The text up to a stop and what follows it are the text it was cut from. -/
theorem splitAfter_append (stop cs : List Char) :
    (splitAfter stop cs).1 ++ (splitAfter stop cs).2 = cs := by
  fun_induction splitAfter stop cs with
  | case1 => rfl
  | case2 c rest h => exact List.prefix_iff_eq_append.mp (List.isPrefixOf_iff_prefix.mp h)
  | case3 c rest h body after hs ih => simp_all

/-- The first piece and what follows it are the text they were cut from. -/
theorem firstPiece_append (behind : List Char) (c : Char) (rest : List Char) :
    (firstPiece behind c rest).1.chars ++ (firstPiece behind c rest).2 = c :: rest := by
  have hcut (n : Nat) (stop : List Char) :
      rest.take n ++ ((splitAfter stop (rest.drop n)).1 ++ (splitAfter stop (rest.drop n)).2)
        = rest := by
    rw [splitAfter_append, List.take_append_drop]
  have hcut1 := hcut 1 ['*', '/']
  rw [List.drop_one] at hcut1
  unfold firstPiece
  simp only []
  repeat' split
  all_goals simp [Piece.chars, splitQuoted_append, hcut, hcut1]

theorem firstPiece_ne_nil (behind : List Char) (c : Char) (rest : List Char) :
    (firstPiece behind c rest).1.chars ≠ [] := by
  unfold firstPiece
  simp only []
  repeat' split
  all_goals simp [Piece.chars]

theorem firstPiece_length (behind : List Char) (c : Char) (rest : List Char) :
    (firstPiece behind c rest).2.length < (c :: rest).length := by
  have happ := congrArg List.length (firstPiece_append behind c rest)
  have hpos := List.length_pos_iff.mpr (firstPiece_ne_nil behind c rest)
  rw [List.length_append] at happ
  omega

/-- The pieces of a text that has the text `behind` before it, nearest character first. -/
def piecesAfter (behind : List Char) : List Char → List Piece
  | [] => []
  | c :: rest =>
    let cut := firstPiece behind c rest
    cut.1 :: piecesAfter (cut.1.chars.reverse ++ behind) cut.2
termination_by cs => cs.length
decreasing_by exact firstPiece_length behind c rest

/-- The pieces of a statement. -/
def pieces (sql : String) : List Piece :=
  piecesAfter [] sql.toList

/-- The pieces of a text, joined, are the text. -/
theorem flatMap_chars_piecesAfter (behind cs : List Char) :
    (piecesAfter behind cs).flatMap Piece.chars = cs := by
  fun_induction piecesAfter behind cs with
  | case1 => rfl
  | case2 behind c rest cut ih => simp only [List.flatMap_cons, ih, cut, firstPiece_append]

/-- The number of a mark `$n`; digits of any script count. -/
def markNumber (mark : List Char) : Except WholeError Nat :=
  let digits := mark.drop 1
  if maxDigits < digits.length then .error (.tooLong digits.length)
  else .ok (digitsValue digits)

/-- The pieces with each mark replaced by the text that `f` gives for it. -/
def mapMarks (f : List Char → List Char) : List Piece → List Char
  | [] => []
  | .copied cs :: rest => cs ++ mapMarks f rest
  | .mark cs :: rest => f cs ++ mapMarks f rest

/-- A statement with each placeholder replaced by the text that `f` gives for it. -/
def replaceMarks (f : List Char → List Char) (sql : String) : String :=
  String.ofList (mapMarks f (pieces sql))

/-- The placeholders of a statement, in order. -/
def marks (sql : String) : List (List Char) :=
  (pieces sql).filterMap fun
    | .copied _ => none
    | .mark cs => some cs

/-- Numbers the `?` marks from `count + 1` on. The result holds the text, the number of `?`
    marks and the greatest number of a `$n` mark, both counted on from the arguments. -/
def numberPieces (count highest : Nat) :
    List Piece → Except WholeError (List Char × Nat × Nat)
  | [] => .ok ([], count, highest)
  | .copied cs :: rest => do
    let (text, counts) ← numberPieces count highest rest
    pure (cs ++ text, counts)
  | .mark cs :: rest =>
    if cs = ['?'] then do
      let (text, counts) ← numberPieces (count + 1) highest rest
      pure ('$' :: (toString (count + 1)).toList ++ text, counts)
    else do
      let n ← markNumber cs
      let (text, counts) ← numberPieces count (max highest n) rest
      pure (cs ++ text, counts)

/-- A statement whose placeholders are all numbered. -/
structure Numbered where
  sql : String
  /-- The number of parameters: the `?` marks, or the greatest `$n` if that is more. -/
  count : Nat
  deriving Repr, DecidableEq

/-- Numbers the `?` marks of a statement in order and keeps its `$n` marks. -/
def normalise (sql : String) : Except WholeError Numbered := do
  let (text, count, highest) ← numberPieces 0 0 (pieces sql)
  pure ⟨String.ofList text, max count highest⟩

/-- Why a placeholder gets no literal. -/
inductive SubstitutionError where
  /-- A `?` was not numbered. -/
  | unnumbered
  /-- No literal has the number of the mark. -/
  | unbound (mark : String)
  /-- The number of a mark is not read. -/
  | number (cause : WholeError)
  deriving Repr, DecidableEq

def SubstitutionError.message : SubstitutionError → String
  | .unnumbered => "Unnumbered placeholder left in statement"
  | .unbound mark => "No value bound for parameter " ++ mark
  | .number cause => cause.message

/-- The literal for a mark. -/
def literalFor (literals : List (Nat × String)) (mark : List Char) :
    Except SubstitutionError String :=
  if mark = ['?'] then .error .unnumbered
  else
    match markNumber mark with
    | .error cause => .error (.number cause)
    | .ok n =>
      match literals.lookup n with
      | some literal => .ok literal
      | none => .error (.unbound (String.ofList mark))

/-- The pieces with each mark replaced by its literal; literals are not looked into. -/
def substitutePieces (literals : List (Nat × String)) :
    List Piece → Except SubstitutionError (List Char)
  | [] => .ok []
  | .copied cs :: rest => do
    let text ← substitutePieces literals rest
    pure (cs ++ text)
  | .mark cs :: rest => do
    let literal ← literalFor literals cs
    let text ← substitutePieces literals rest
    pure (literal.toList ++ text)

/-- A statement with each placeholder replaced by its literal. -/
def substitute (sql : String) (literals : List (Nat × String)) :
    Except SubstitutionError String := do
  let text ← substitutePieces literals (pieces sql)
  pure (String.ofList text)

end IndexAdvisor.Sql
