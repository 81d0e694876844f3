import IndexAdvisor.Proofs.Sql.Scan

/-! # Marks that are left

The text that is put in the place of a mark is scanned like all other text, so it may bring marks of
its own, or leave a quote open and turn what follows inside out. A text that is closed does not do
the latter, if nothing beside the mark is read together with it.
-/

namespace IndexAdvisor.Sql

open Text

/-! ## Loose characters -/

/-- A character that nothing before it or after it is read together with. -/
def isLoose (c : Char) : Bool := !(isWordChar c || "-'\"/*?".toList.contains c)

section Loose

variable {x : Char} {p t behind other : List Char} {ps : List Piece}

theorem isLoose_iff : isLoose x ↔ isWordChar x = false ∧ x ∉ "-'\"/*?".toList := by
  simp only [isLoose, Bool.not_eq_true', Bool.or_eq_false_iff, List.contains_eq_mem,
    decide_eq_false_iff_not]

theorem fuses_loose {y : Char} (loose : isLoose x ∨ isLoose y) : fuses x y = false := by
  rw [isLoose_iff, isLoose_iff] at loose
  simp only [String.reduceToList, List.mem_cons, not_or] at loose
  by_cases same : x = y
  · subst same
    simp [fuses, (or_self_iff.mp loose)]
  · rcases loose with ⟨word, rest⟩ | ⟨word, rest⟩ <;> simp [fuses, word, same, rest]

theorem apart_of_last (loose : p.getLast?.all isLoose) : Apart p t := by
  intro x last y _
  rw [Option.mem_def.mp last] at loose
  exact fuses_loose (.inl loose)

theorem apart_of_first (loose : t.head?.all isLoose) : Apart p t := by
  intro x _ y first
  rw [Option.mem_def.mp first] at loose
  exact fuses_loose (.inr loose)

theorem contextOf_loose (loose : isLoose x) : contextOf (x :: behind) = contextOf [] := by
  have name : isNameChar x = false := (Bool.or_eq_false_iff.mp (isLoose_iff.mp loose).1).1
  have letter : x ≠ 'e' ∧ x ≠ 'E' := by
    constructor <;>
      · rintro rfl
        exact absurd loose (by decide)
  simp [contextOf, name, letter]

theorem contextOf_last (loose : p.getLast?.all isLoose) (clear : p = [] → contextOf behind = contextOf []) :
    contextOf (p.reverse ++ behind) = contextOf [] := by
  cases last : p.getLast? with
  | none =>
      obtain rfl := List.getLast?_eq_none_iff.mp last
      exact clear rfl
  | some x =>
      obtain ⟨before, rfl⟩ := List.getLast?_eq_some_iff.mp last
      rw [last] at loose
      rw [List.reverse_append]
      exact contextOf_loose loose

/-- A stretch that begins loosely is cut the same way behind every text. -/
theorem Scans.behind_loose (loose : p.head?.all isLoose) (scans : Scans t behind p ps) :
    Scans t other p ps := by
  cases scans with
  | nil => exact .nil
  | @cons _ body p piece ps c cut rest =>
      have loose : isLoose c := loose
      have plain := plain_of_kind (by decide) loose
      refine .cons ?_ (rest.behind_congr (contextOf_append ?_ _))
      · rw [firstPiece_plain _ _ plain] at cut ⊢
        exact cut
      · rw [contextOf_loose loose, contextOf_loose loose]

/-- What a text is cut into depends on the text before it only by what that tells of it. -/
theorem piecesAfter_congr (alike : contextOf behind = contextOf other ∨ p.head?.all isLoose) :
    piecesAfter behind p = piecesAfter other p := by
  have cut : piecesAfter behind (p ++ []) = piecesAfter behind p ++ [] := by simp
  have scans : Scans [] behind p (piecesAfter behind p) :=
    .of_pieces cut (flatMap_chars_piecesAfter behind p)
  have same : Scans [] other p (piecesAfter behind p) :=
    alike.elim (scans.behind_congr ·) (scans.behind_loose ·)
  have cut := same.pieces
  rw [List.append_nil, piecesAfter, List.append_nil] at cut
  exact cut.symm

end Loose

/-! ## Closed texts -/

def marksIn (ps : List Piece) : List (List Char) :=
  ps.filterMap fun
    | .copied _ => none
    | .mark cs => some cs

theorem marks_eq (sql : String) : marks sql = marksIn (pieces sql) := rfl

theorem marksIn_mark (m : List Char) (ps : List Piece) :
    marksIn (.mark m :: ps) = m :: marksIn ps := rfl

theorem marksIn_append (ps qs : List Piece) : marksIn (ps ++ qs) = marksIn ps ++ marksIn qs :=
  List.filterMap_append

/-- Whether a blank after a text is a piece of its own: no quote, comment or line is left open. -/
def isClosed (text : List Char) : Bool :=
  (piecesAfter [] (text ++ [' '])).getLast? = some (.copied [' '])

/-- A closed text is cut before all loose text as it is cut alone. -/
theorem scans_of_isClosed {text after : List Char} (closed : isClosed text)
    (loose : after.head?.all isLoose) : Scans after [] text (piecesAfter [] text) := by
  have last := of_decide_eq_true closed
  obtain ⟨ps, cut⟩ := List.getLast?_eq_some_iff.mp last
  have chars := flatMap_chars_piecesAfter [] (text ++ [' '])
  rw [cut, List.flatMap_append] at chars
  have scans := Scans.of_pieces cut (List.append_cancel_right chars)
  have blank : ∃ d ∈ [' '].head?, d ≠ '\n' := ⟨' ', rfl, by decide⟩
  have alone := (scans.before blank (u := []) (apart_of_first rfl)).pieces
  rw [List.append_nil, piecesAfter, List.append_nil] at alone
  rw [alone]
  exact scans.before blank (apart_of_first loose)

/-! ## Pieces of a text -/

/-- A mark begins with its sign. -/
theorem firstPiece_mark {behind rest after m : List Char} {c : Char}
    (cut : firstPiece behind c rest = (.mark m, after)) : c = '$' ∨ c = '?' := by
  by_cases plain : c ∈ "'\"-/$".toList
  · have forms : c = '\'' ∨ c = '"' ∨ c = '-' ∨ c = '/' ∨ c = '$' := by simpa using plain
    rcases forms with rfl | rfl | rfl | rfl | rfl
    · simp [firstPiece_quote] at cut
    · simp [firstPiece_name] at cut
    · rw [firstPiece_dash] at cut
      split at cut <;> simp at cut
    · rw [firstPiece_slash] at cut
      split at cut <;> simp at cut
    · exact .inl rfl
  · rw [firstPiece_plain _ _ plain] at cut
    split at cut
    · next mark => exact .inr mark
    · simp at cut

/-- No piece is empty, and marks begin with their sign. -/
def Piece.WellFormed (p : Piece) : Prop :=
  ∃ c, p.chars.head? = some c ∧ (p = .mark p.chars → c = '$' ∨ c = '?')

theorem wellFormed_piecesAfter (behind cs : List Char) :
    ∀ p ∈ piecesAfter behind cs, p.WellFormed := by
  fun_induction piecesAfter behind cs with
  | case1 => simp
  | case2 behind c rest cut ih =>
      refine List.forall_mem_cons.mpr ⟨⟨c, ?_, fun mark => ?_⟩, ih⟩
      · have whole := firstPiece_append behind c rest
        obtain ⟨d, body, chars⟩ := List.exists_cons_of_ne_nil (firstPiece_ne_nil behind c rest)
        rw [chars] at whole
        rw [chars, (List.cons.inj whole).1]
        rfl
      · exact firstPiece_mark (Prod.ext mark rfl)

/-! ## Marks that are replaced -/

/-- Whether a mark stands apart from the text on both sides. -/
def isPlaced (chunk : List Char) (rest : List Piece) : Bool :=
  chunk.getLast?.all isLoose && (rest.flatMap Piece.chars).head?.all isLoose

/-- Whether all marks stand apart; `chunk` is the text since the last one. -/
def isApart (chunk : List Char) : List Piece → Bool
  | [] => true
  | .copied cs :: rest => isApart (chunk ++ cs) rest
  | .mark _ :: rest => isPlaced chunk rest && isApart [] rest

/-- No mark is left by the texts that `f` puts in the place of marks. As long as the marks stand apart
    and the texts are closed this means that no text has a mark of its own, and then that scanning
    the remaining text meets none. -/
def Clean (f : List Char → List Char) (chunk : List Char) : List Piece → Prop
  | [] => True
  | .copied cs :: rest => Clean f (chunk ++ cs) rest
  | .mark m :: rest =>
    if isPlaced chunk rest ∧ isClosed (f m) then
      marksIn (piecesAfter [] (f m)) = [] ∧ Clean f [] rest
    else marksIn (piecesAfter [] (chunk ++ (f m ++ mapMarks f rest))) = []

section Replaced

variable {f : List Char → List Char}

/-- Behind a mark that stands apart, the text begins loosely even if marks are replaced in it. -/
theorem head?_mapMarks {ps : List Piece} (formed : ∀ p ∈ ps, p.WellFormed)
    (loose : (ps.flatMap Piece.chars).head?.all isLoose) : (mapMarks f ps).head?.all isLoose := by
  cases ps with
  | nil => rfl
  | cons p ps =>
      obtain ⟨c, head, mark⟩ := formed p List.mem_cons_self
      obtain ⟨body, chars⟩ := List.head?_eq_some_iff.mp head
      rw [List.flatMap_cons, chars] at loose
      cases p with
      | copied cs =>
          rw [mapMarks, show cs = c :: body from chars]
          exact loose
      | mark cs =>
          have loose : isLoose c := loose
          rcases mark rfl with rfl | rfl <;> exact absurd loose (by decide)

/-- Behind a stretch that ends loosely and before loose text, a closed text is cut as it is alone, and
    the stretch as it was cut before the mark. -/
theorem marksIn_closed {t behind other chunk text after : List Char} {acc : List Piece}
    (scans : Scans t behind chunk acc) (line : ∃ d ∈ t.head?, d ≠ '\n') (copied : marksIn acc = [])
    (alike : contextOf behind = contextOf other ∨ chunk.head?.all isLoose)
    (ends : chunk.getLast?.all isLoose) (clear : chunk = [] → contextOf other = contextOf [])
    (closed : isClosed text) (loose : after.head?.all isLoose) :
    marksIn (piecesAfter other (chunk ++ (text ++ after))) = marksIn (piecesAfter [] text) ++
      marksIn (piecesAfter (text.reverse ++ (chunk.reverse ++ other)) after) := by
  have first : Scans (text ++ after) other chunk acc :=
    alike.elim (scans.before line (apart_of_last ends) |>.behind_congr ·)
      (scans.before line (apart_of_last ends) |>.behind_loose ·)
  have second := (scans_of_isClosed closed loose).behind_congr (contextOf_last ends clear).symm
  rw [first.pieces, second.pieces, marksIn_append, marksIn_append, copied, List.nil_append]

/-- The text up to a mark is cut into the pieces before it, and what follows into those after it. -/
theorem scans_of_mark {behind chunk m : List Char} {acc ps : List Piece}
    (cut : piecesAfter behind (chunk ++ (m ++ ps.flatMap Piece.chars)) = acc ++ .mark m :: ps)
    (chars : acc.flatMap Piece.chars = chunk) :
    Scans (m ++ ps.flatMap Piece.chars) behind chunk acc ∧
      piecesAfter ((chunk ++ m).reverse ++ behind) (ps.flatMap Piece.chars) = ps := by
  refine ⟨.of_pieces cut chars, ?_⟩
  rw [← List.append_assoc, List.append_cons] at cut
  have both : Scans (ps.flatMap Piece.chars) behind (chunk ++ m) (acc ++ [.mark m]) :=
    .of_pieces cut (by simp [chars, Piece.chars])
  exact (List.append_cancel_left (cut.symm.trans both.pieces)).symm

theorem clean_iff {ps acc : List Piece} {behind other chunk : List Char}
    (cut : piecesAfter behind (chunk ++ ps.flatMap Piece.chars) = acc ++ ps)
    (chars : acc.flatMap Piece.chars = chunk) (copied : marksIn acc = [])
    (alike : contextOf behind = contextOf other ∧ contextOf other = contextOf [] ∨
      (chunk ++ ps.flatMap Piece.chars).head?.all isLoose) :
    marksIn (piecesAfter other (chunk ++ mapMarks f ps)) = [] ↔ Clean f chunk ps := by
  -- by induction on the pieces after the chunk, of which `acc` are the pieces; it was cut behind
  -- `behind` and is scanned again behind `other`
  induction ps generalizing acc behind other chunk with
  | nil =>
      rw [piecesAfter_congr (alike.imp And.left id)] at cut
      rw [mapMarks, ← List.flatMap_nil, cut, List.append_nil, copied, Clean]
      exact iff_of_true rfl trivial
  | cons p ps ih =>
      cases p with
      | copied cs =>
          rw [List.flatMap_cons, Piece.chars, ← List.append_assoc] at cut alike
          rw [mapMarks, Clean, ← List.append_assoc]
          rw [List.append_cons] at cut
          refine ih cut (by simp [chars, Piece.chars]) ?_ alike
          rw [marksIn_append, copied]
          rfl
      | mark m =>
          have formed := wellFormed_piecesAfter behind (chunk ++ (Piece.mark m :: ps).flatMap Piece.chars)
          rw [cut] at formed
          obtain ⟨c, head, sign⟩ := formed (.mark m) (by simp)
          obtain ⟨body, rfl⟩ : ∃ body, m = c :: body := List.head?_eq_some_iff.mp head
          have sign : c ≠ '\n' ∧ ¬isLoose c := by
            rcases sign rfl with rfl | rfl <;> decide
          rw [List.flatMap_cons, Piece.chars] at cut alike
          have begins : contextOf behind = contextOf other ∧ contextOf other = contextOf [] ∨
              chunk ≠ [] ∧ chunk.head?.all isLoose := by
            refine alike.imp_right fun loose => ?_
            cases chunk with
            | nil => exact absurd loose sign.2
            | cons d chunk => exact ⟨List.cons_ne_nil _ _, loose⟩
          rw [mapMarks, Clean]
          split
          · next placed =>
              obtain ⟨placed, closed⟩ := placed
              obtain ⟨before, after⟩ := Bool.and_eq_true_iff.mp placed
              obtain ⟨scans, rest⟩ := scans_of_mark cut chars
              have loose := head?_mapMarks (f := f) (fun p mem => formed p (by simp [mem])) after
              have line : ∃ d ∈ (c :: body ++ ps.flatMap Piece.chars).head?, d ≠ '\n' := ⟨c, rfl, sign.1⟩
              rw [marksIn_closed scans line copied (begins.imp And.left And.right) before
                (fun none => begins.elim And.right fun some => absurd none some.1) closed loose,
                List.append_eq_nil_iff]
              exact and_congr_right fun _ => @ih [] _ _ [] rest rfl rfl (.inr after)
          · next misplaced =>
              have alike : contextOf other = contextOf [] ∨
                  (chunk ++ (f (c :: body) ++ mapMarks f ps)).head?.all isLoose := by
                refine begins.imp And.right ?_
                rintro ⟨some, loose⟩
                cases chunk with
                | nil => exact absurd rfl some
                | cons d chunk => exact loose
              rw [piecesAfter_congr alike]

end Replaced

/-- Closed texts that are put in the place of marks that stand apart leave no mark exactly if they
    have none. -/
theorem clean_iff_of_isApart {f : List Char → List Char} {chunk : List Char} {ps : List Piece}
    (apart : isApart chunk ps) (closed : ∀ m ∈ marksIn ps, isClosed (f m)) :
    Clean f chunk ps ↔ ∀ m ∈ marksIn ps, marksIn (piecesAfter [] (f m)) = [] := by
  induction ps generalizing chunk with
  | nil => exact iff_of_true trivial nofun
  | cons p ps ih =>
      cases p with
      | copied cs => exact ih apart closed
      | mark m =>
          obtain ⟨placed, rest⟩ := Bool.and_eq_true_iff.mp apart
          rw [marksIn_mark, List.forall_mem_cons] at closed
          rw [Clean, if_pos ⟨placed, closed.1⟩, ih rest closed.2, marksIn_mark, List.forall_mem_cons]

/-! ## Substitution -/

theorem bind_ok {ε α β : Type} {x : Except ε α} {f : α → Except ε β} {b : β} :
    x >>= f = .ok b ↔ ∃ a, x = .ok a ∧ f a = .ok b := by
  cases x <;> simp [Bind.bind, Except.bind]

/-- The text that substitution puts in the place of a mark. -/
def literalText (literals : List (Nat × String)) (mark : List Char) : List Char :=
  (((literalFor literals mark).toOption).getD "").toList

theorem literalText_mem {literals : List (Nat × String)} {mark : List Char} {literal : String}
    (found : literalFor literals mark = .ok literal) :
    literalText literals mark = literal.toList ∧ ∃ number, (number, literal) ∈ literals := by
  refine ⟨by rw [literalText, found]; rfl, ?_⟩
  unfold literalFor at found
  split at found
  · exact nomatch found
  split at found
  · exact nomatch found
  next number _ =>
  split at found
  · next same =>
      obtain rfl := Except.ok.inj found
      obtain ⟨before, after, rfl, -⟩ := List.lookup_eq_some_iff.mp same
      exact ⟨number, by simp⟩
  · exact nomatch found

theorem substitutePieces_ok {literals : List (Nat × String)} {ps : List Piece} {cs : List Char}
    (put : substitutePieces literals ps = .ok cs) : cs = mapMarks (literalText literals) ps ∧
      ∀ m ∈ marksIn ps, ∃ number literal, (number, literal) ∈ literals ∧
        literalText literals m = literal.toList := by
  induction ps generalizing cs with
  | nil => exact ⟨(Except.ok.inj put).symm, nofun⟩
  | cons p ps ih =>
      cases p with
      | copied c =>
          obtain ⟨text, rest, last⟩ := bind_ok.mp put
          obtain rfl := Except.ok.inj last
          obtain ⟨rfl, here⟩ := ih rest
          exact ⟨rfl, here⟩
      | mark m =>
          obtain ⟨literal, found, put⟩ := bind_ok.mp put
          obtain ⟨text, rest, last⟩ := bind_ok.mp put
          obtain rfl := Except.ok.inj last
          obtain ⟨rfl, here⟩ := ih rest
          obtain ⟨same, number, listed⟩ := literalText_mem found
          rw [mapMarks, same]
          exact ⟨rfl, List.forall_mem_cons.mpr ⟨⟨number, literal, listed, same⟩, here⟩⟩

section Substitute

variable {text sql : String} {literals : List (Nat × String)}

theorem substitute_ok (put : substitute text literals = .ok sql) :
    sql = String.ofList (mapMarks (literalText literals) (pieces text)) ∧
      ∀ m ∈ marks text, ∃ number literal, (number, literal) ∈ literals ∧
        literalText literals m = literal.toList := by
  obtain ⟨cs, done, last⟩ := bind_ok.mp put
  obtain rfl := Except.ok.inj last
  obtain ⟨rfl, listed⟩ := substitutePieces_ok done
  exact ⟨rfl, listed⟩

/-- What a substitution leaves is decided by the text and the literals. -/
theorem marks_substitute_iff (put : substitute text literals = .ok sql) :
    marks sql = [] ↔ Clean (literalText literals) [] (pieces text) := by
  obtain ⟨rfl, -⟩ := substitute_ok put
  rw [marks_eq, pieces, String.toList_ofList]
  refine @clean_iff _ _ [] [] [] [] ?_ rfl rfl (.inl ⟨rfl, rfl⟩)
  simp [pieces, flatMap_chars_piecesAfter]

/-- Where all marks stand apart and all literals are closed, a mark is left exactly if a literal has
    one. -/
theorem marks_substitute_iff_of_isApart (put : substitute text literals = .ok sql)
    (apart : isApart [] (pieces text))
    (closed : ∀ m ∈ marks text, isClosed (literalText literals m)) :
    marks sql = [] ↔ ∀ m ∈ marks text, marksIn (piecesAfter [] (literalText literals m)) = [] :=
  (marks_substitute_iff put).trans (clean_iff_of_isApart apart closed)

end Substitute

end IndexAdvisor.Sql
