import IndexAdvisor.Proofs.Replay.Number
import IndexAdvisor.Proofs.Sql.Segments

/-! # What stands between placeholders

Every text whatsoever is cut at its placeholders, closed or not: what stands before the first one, and
each placeholder with what stands behind it. All that is done with placeholders is done along this cut.
A replacement is given each of them once and in order, what it returns is put in its place and not looked
into again, and everything else is copied. So a text is lost nowhere, and literals can be put in exactly
if there is one for each placeholder.
-/

namespace IndexAdvisor.Sql

open Number Text

/-! ## Placeholders -/

/-- A placeholder: a question mark, or a dollar sign with digits. -/
inductive Mark
  | question
  | parameter (digits : List Char) (given : digits ≠ []) (decimal : ∀ c ∈ digits, isDecimalDigit c)

namespace Mark

def chars : Mark → List Char
  | question => ['?']
  | parameter digits .. => '$' :: digits

/-- There is no literal for the placeholder: it is not numbered, its number is too long to be read, or
    there is none of its number. -/
def Unbound (literals : List (Nat × String)) : Mark → Prop
  | question => True
  | parameter digits .. => maxDigits < digits.length ∨ literals.lookup (digitsValue digits) = none

theorem unbound_iff (literals : List (Nat × String)) (mark : Mark) :
    mark.Unbound literals ↔ ∃ e, literalFor literals mark.chars = .error e := by
  cases mark with
  | question =>
      have refused : literalFor literals ['?'] = .error .unnumbered := rfl
      exact iff_of_true trivial ⟨_, refused⟩
  | parameter digits given decimal =>
      have numbered : '$' :: digits ≠ ['?'] := by simp
      rw [Unbound, chars, literalFor, if_neg numbered, markNumber, List.drop_one, List.tail_cons]
      by_cases long : maxDigits < digits.length
      · rw [if_pos long]
        exact iff_of_true (.inl long) ⟨_, rfl⟩
      · rw [if_neg long, or_iff_right long]
        cases found : literals.lookup (digitsValue digits) <;> simp [found]

end Mark

/-- What is found as a placeholder is one. -/
theorem exists_mark {behind rest after m : List Char} {c : Char}
    (cut : firstPiece behind c rest = (.mark m, after)) : ∃ mark : Mark, mark.chars = m := by
  rcases firstPiece_mark cut with rfl | rfl
  · rw [firstPiece_dollar] at cut
    split at cut
    · simp at cut
    split at cut
    · next given =>
        cases cut
        exact ⟨.parameter _ given fun c mem => List.mem_takeWhile_imp mem, rfl⟩
    · split at cut <;> simp at cut
  · rw [firstPiece_plain _ _ (by decide), if_pos rfl] at cut
    cases cut
    exact ⟨.question, rfl⟩

/-! ## The cut -/

/-- A text cut at its placeholders. -/
structure Cut where
  before : List Char
  /-- Each placeholder with the text from there to the next one. -/
  marked : List (Mark × List Char)

namespace Cut

/-- The placeholders, in order. -/
def marks (cut : Cut) : List Mark := cut.marked.map Prod.fst

/-- The text with what `f` returns for each placeholder in its place. -/
def fill {m : Type → Type} [Monad m] (f : List Char → m (List Char)) (cut : Cut) : m (List Char) := do
  let filled ← cut.marked.mapM fun (mark, behind) => do return (← f mark.chars) ++ behind
  return cut.before ++ filled.flatten

/-- Text in front of everything. -/
def push (cs : List Char) (cut : Cut) : Cut := { cut with before := cs ++ cut.before }

/-- A placeholder in front of everything. -/
def pushMark (mark : Mark) (cut : Cut) : Cut := ⟨[], (mark, cut.before) :: cut.marked⟩

section Fill

variable {m : Type → Type} [Monad m] [LawfulMonad m]

theorem fill_push (f : List Char → m (List Char)) (cs : List Char) (cut : Cut) :
    (cut.push cs).fill f = do return cs ++ (← cut.fill f) := by
  simp [fill, push]

theorem fill_pushMark (f : List Char → m (List Char)) (mark : Mark) (cut : Cut) :
    (cut.pushMark mark).fill f = do return (← f mark.chars) ++ (← cut.fill f) := by
  simp [fill, pushMark]

end Fill

theorem error_bind_iff {ε α β : Type} {x : Except ε α} {f : α → Except ε β} :
    (∃ e, x >>= f = .error e) ↔ (∃ e, x = .error e) ∨ ∃ a, x = .ok a ∧ ∃ e, f a = .error e := by
  cases x <;> simp [Bind.bind, Except.bind]

theorem map_error_iff {ε α β : Type} {f : α → β} {x : Except ε α} {e : ε} :
    f <$> x = .error e ↔ x = .error e := by
  cases x <;> simp

theorem not_error_pure {ε α : Type} (a : α) : ¬∃ e, (pure a : Except ε α) = .error e := by
  simp [Pure.pure, Except.pure]

theorem mapM_error_iff {ε α β : Type} {f : α → Except ε β} {as : List α} :
    (∃ e, as.mapM f = .error e) ↔ ∃ a ∈ as, ∃ e, f a = .error e := by
  induction as with
  | nil => simp [not_error_pure]
  | cons a as ih =>
      rw [List.mapM_cons, error_bind_iff, List.exists_mem_cons_iff, ← ih]
      simp only [error_bind_iff, not_error_pure]
      cases f a <;> simp

/-- Filling fails exactly if the replacement fails for a placeholder. -/
theorem fill_error_iff {ε : Type} {f : List Char → Except ε (List Char)} {cut : Cut} :
    (∃ e, cut.fill f = .error e) ↔ ∃ mark ∈ cut.marks, ∃ e, f mark.chars = .error e := by
  simp only [fill, error_bind_iff, mapM_error_iff, not_error_pure, marks]
  simp

end Cut

/-! ## Cutting -/

/-- Pieces are cut at the marks among them, whatever is done with these. -/
theorem exists_cut (behind cs : List Char) :
    ∃ cut : Cut, cut.marks.map Mark.chars = marksIn (piecesAfter behind cs) ∧
      ∀ {m : Type → Type} [Monad m] [LawfulMonad m] (f : List Char → m (List Char)),
        rewritten f (piecesAfter behind cs) = cut.fill f := by
  fun_induction piecesAfter behind cs with
  | case1 => exact ⟨⟨[], []⟩, rfl, fun f => by simp [rewritten, Cut.fill]⟩
  | case2 behind c rest piece ih =>
      generalize piecesAfter (piece.1.chars.reverse ++ behind) piece.2 = ps at ih
      obtain ⟨cut, listed, filled⟩ := ih
      cases first : piece.1 with
      | copied cs =>
          refine ⟨cut.push cs, listed, fun f => ?_⟩
          rw [rewritten, filled, Cut.fill_push]
      | mark m =>
          obtain ⟨mark, rfl⟩ := exists_mark (Prod.ext first rfl)
          refine ⟨cut.pushMark mark, congrArg (mark.chars :: ·) listed, fun f => ?_⟩
          rw [rewritten, filled, Cut.fill_pushMark]

theorem mapMarks_id (ps : List Piece) : mapMarks id ps = ps.flatMap Piece.chars := by
  induction ps with
  | nil => rfl
  | cons p ps ih => cases p <;> simp [mapMarks, Piece.chars, ih]

/-- Every text is cut at its placeholders, and filling the cut is all that replacing, numbering and
    putting in literals do. With themselves in their places the text is as before, and literals
    cannot be put in exactly if a placeholder has none. -/
theorem filled_between (sql : String) : ∃ cut : Cut,
    cut.marks.map Mark.chars = marks sql ∧
    (cut.fill (m := Id) pure).run = sql.toList ∧ replaceMarks id sql = sql ∧
    (∀ {m : Type → Type} [Monad m] [LawfulMonad m] (f : List Char → m (List Char)),
      rewritten f (pieces sql) = cut.fill f) ∧
    (∀ f : List Char → List Char, replaceMarks f sql = .ofList (cut.fill (m := Id) f).run) ∧
    (∀ count highest, numberPieces count highest (pieces sql) = (cut.fill numberMark).run (count, highest)) ∧
    ∀ literals, substitute sql literals
        = String.ofList <$> cut.fill (fun mark => String.toList <$> literalFor literals mark) ∧
      ((∃ e, substitute sql literals = .error e) ↔ ∃ mark ∈ cut.marks, mark.Unbound literals) := by
  obtain ⟨cut, listed, filled⟩ := exists_cut [] sql.toList
  have filled : ∀ {m : Type → Type} [Monad m] [LawfulMonad m] (f : List Char → m (List Char)),
      rewritten f (pieces sql) = cut.fill f := filled
  have replaced (f : List Char → List Char) : replaceMarks f sql = .ofList (cut.fill (m := Id) f).run := by
    rw [replaceMarks, mapMarks_eq, filled]
  have same : replaceMarks id sql = sql := by
    rw [replaceMarks, mapMarks_id, pieces, flatMap_chars_piecesAfter, String.ofList_toList]
  refine ⟨cut, listed, ?_, same, filled, replaced, fun count highest => ?_, fun literals => ?_⟩
  · have whole := congrArg String.toList ((replaced id).symm.trans same)
    rw [String.toList_ofList] at whole
    exact whole
  · rw [numberPieces_eq, filled]
  · have put : substitute sql literals
        = String.ofList <$> cut.fill (fun mark => String.toList <$> literalFor literals mark) := by
      rw [substitute, substitutePieces_eq, filled, bind_pure_comp]
    refine ⟨put, ?_⟩
    simp only [put, Cut.map_error_iff, Cut.fill_error_iff, Mark.unbound_iff]

/-- A text with a quote that is not closed, in which a question mark stands. -/
theorem filled_between_open : LawfulMonad Id ∧ ∃ cut : Cut,
    cut.marks.map Mark.chars = [['?'], ['$', '2']] ∧
      (cut.fill (m := Id) fun _ => ['?', '5']).run = "a = ?5 OR b = ?5 -- 'c\n'd ?".toList := by
  obtain ⟨cut, listed, -, -, rewriting, -⟩ := filled_between "a = ? OR b = $2 -- 'c\n'd ?"
  have found : marks "a = ? OR b = $2 -- 'c\n'd ?" = [['?'], ['$', '2']] := by decide +kernel
  refine ⟨inferInstance, cut, listed.trans found, ?_⟩
  rw [← rewriting]
  decide +kernel

/-- Zeros and a one, one digit more than is read. -/
def longOne : List Char := List.replicate maxDigits '0' ++ ['1']

theorem pieces_parameter {digits : List Char} (given : digits ≠ []) (decimal : ∀ c ∈ digits, isDecimalDigit c) :
    pieces (.ofList ('$' :: digits)) = [.mark ('$' :: digits)] := by
  let segment := Segment.parameter digits given decimal
  have fresh : Segment.Fresh [] := rfl
  have scans : Scans [] [] segment.chars [.mark segment.chars] := Segment.scans_mark rfl fresh rfl
  have whole := scans.pieces
  rw [List.append_nil, piecesAfter, List.append_nil] at whole
  rw [pieces, String.toList_ofList]
  exact whole

/-- The only placeholder has the number one, for which there is a literal, but it is too long to be read. -/
theorem long_number_unbound :
    marks (.ofList ('$' :: longOne)) = ['$' :: longOne] ∧ digitsValue longOne = 1 ∧
      substitute (.ofList ('$' :: longOne)) [(1, "5")] = .error (.number (.tooLong (maxDigits + 1))) := by
  have given : longOne ≠ [] := by simp [longOne]
  have decimal : ∀ c ∈ longOne, isDecimalDigit c := by
    intro c mem
    rcases List.mem_append.mp mem with zero | one
    · rw [List.eq_of_mem_replicate zero]
      decide
    · rw [List.mem_singleton.mp one]
      decide
  have length : longOne.length = maxDigits + 1 := by simp [longOne]
  have only := pieces_parameter given decimal
  refine ⟨by rw [marks_eq, only]; rfl, ?_, ?_⟩
  · have zeros : ∀ c ∈ List.replicate maxDigits '0', decide (c = '0') := by
      intro c mem
      exact decide_eq_true (List.eq_of_mem_replicate mem)
    rw [← digitsValue_dropZeros, longOne, List.dropWhile_append_of_pos zeros]
    rfl
  · have unnumbered : '$' :: longOne ≠ ['?'] := by simp
    have refused : literalFor [(1, "5")] ('$' :: longOne) = .error (.number (.tooLong (maxDigits + 1))) := by
      have long : maxDigits < longOne.length := by omega
      rw [literalFor, if_neg unnumbered, markNumber, List.drop_one, List.tail_cons, if_pos long, length]
    rw [substitute, only, substitutePieces, refused]
    rfl

end IndexAdvisor.Sql
