import IndexAdvisor.Proofs.Sql.Segments
import IndexAdvisor.Sql.Token.Lexer

/-! # Comments within comments

The tokens of a statement are read with block comments that nest: a comment ends where as many ends have
come as beginnings. Placeholders are looked for in a text that is cut without nesting, where a comment ends
at the first end that comes. Both cuts are one exactly if in every comment an end stands only at its end.
Where one stands before, the rest of the comment is read as if it were outside, marks and quotes included.
-/

namespace IndexAdvisor.Sql

open Text

/-! ## Cutting with comments that nest -/

/-- What follows the beginning of a block comment: the inside with its end, and what stands behind. A
    comment that does not end goes on to the end of the text. -/
def splitComment (cs : List Char) : List Char × List Char :=
  match Lexer.afterComment 0 cs with
  | some after => (cs.take (cs.length - after.length), after)
  | none => (cs, [])

/-- The first piece of a text, where comments nest, and what follows it. -/
def nestedPiece (behind : List Char) (c : Char) (rest : List Char) : Piece × List Char :=
  if c = '/' ∧ rest.head? = some '*' then
    (.copied (c :: (rest.take 1 ++ (splitComment rest.tail).1)), (splitComment rest.tail).2)
  else firstPiece behind c rest

theorem afterComment_suffix {depth : Nat} {cs after : List Char}
    (ends : Lexer.afterComment depth cs = some after) : ∃ inside, cs = inside ++ ('*' :: '/' :: after) := by
  fun_induction Lexer.afterComment depth cs with
  | case1 => exact nomatch ends
  | case2 => exact nomatch ends
  | case3 c d rest closes =>
      obtain ⟨rfl, rfl⟩ : c = '*' ∧ d = '/' := by simpa using closes
      obtain rfl := Option.some.inj ends
      exact ⟨[], rfl⟩
  | case4 c d rest closes outer ih =>
      obtain ⟨inside, rfl⟩ := ih ends
      exact ⟨c :: d :: inside, rfl⟩
  | case5 depth c d rest inner begins ih =>
      obtain ⟨inside, rfl⟩ := ih ends
      exact ⟨c :: d :: inside, rfl⟩
  | case6 depth c d rest inner plain ih =>
      obtain ⟨inside, same⟩ := ih ends
      exact ⟨c :: inside, congrArg (c :: ·) same⟩

/-- The inside ends by its end, or it goes on to the end of the text. -/
theorem splitComment_cases (cs : List Char) :
    (∃ p after, cs = p ++ ('*' :: '/' :: after) ∧ splitComment cs = (p ++ ['*', '/'], after)) ∨
      splitComment cs = (cs, []) := by
  unfold splitComment
  cases ends : Lexer.afterComment 0 cs with
  | none => exact .inr rfl
  | some after =>
      obtain ⟨p, rfl⟩ := afterComment_suffix ends
      have whole : p ++ ('*' :: '/' :: after) = (p ++ ['*', '/']) ++ after := by simp
      have length : (p ++ ('*' :: '/' :: after)).length - after.length = (p ++ ['*', '/']).length := by
        rw [whole, List.length_append]
        omega
      refine .inl ⟨p, after, rfl, ?_⟩
      simp only [length]
      rw [whole, List.take_left]

theorem splitComment_append (cs : List Char) : (splitComment cs).1 ++ (splitComment cs).2 = cs := by
  rcases splitComment_cases cs with ⟨p, after, whole, split⟩ | split
  · rw [split, whole]
    simp
  · rw [split, List.append_nil]

theorem nestedPiece_append (behind : List Char) (c : Char) (rest : List Char) :
    (nestedPiece behind c rest).1.chars ++ (nestedPiece behind c rest).2 = c :: rest := by
  unfold nestedPiece
  split
  · next begins =>
      obtain ⟨after, rfl⟩ := List.head?_eq_some_iff.mp begins.2
      simp [Piece.chars, splitComment_append]
  · exact firstPiece_append behind c rest

theorem nestedPiece_ne_nil (behind : List Char) (c : Char) (rest : List Char) :
    (nestedPiece behind c rest).1.chars ≠ [] := by
  unfold nestedPiece
  split
  · exact List.cons_ne_nil _ _
  · exact firstPiece_ne_nil behind c rest

theorem nestedPiece_length (behind : List Char) (c : Char) (rest : List Char) :
    (nestedPiece behind c rest).2.length < (c :: rest).length := by
  have whole := congrArg List.length (nestedPiece_append behind c rest)
  have some := List.length_pos_iff.mpr (nestedPiece_ne_nil behind c rest)
  rw [List.length_append] at whole
  omega

/-- The pieces of a text, where comments nest, that has the text `behind` before it. -/
def nestedAfter (behind : List Char) : List Char → List Piece
  | [] => []
  | c :: rest =>
    let cut := nestedPiece behind c rest
    cut.1 :: nestedAfter (cut.1.chars.reverse ++ behind) cut.2
termination_by cs => cs.length
decreasing_by exact nestedPiece_length behind c rest

/-- The pieces of a statement, where comments nest. -/
def nestedPieces (sql : String) : List Piece := nestedAfter [] sql.toList

/-- The inside of a block comment, with its end. -/
def Piece.inside? : Piece → Option (List Char)
  | .copied (c :: d :: inside) => if c = '/' ∧ d = '*' then some inside else none
  | _ => none

/-- The insides of the block comments among pieces. -/
def insides (ps : List Piece) : List (List Char) := ps.filterMap Piece.inside?

/-! ## Ends of comments -/

/-- The end of a comment stands only at the end of the text. -/
def ClosesOnce (inside : List Char) : Prop :=
  ∀ before after, inside = before ++ ('*' :: '/' :: after) → after = []

theorem splitAfter_cases (stop cs : List Char) :
    (∃ p after, splitAfter stop cs = (p ++ stop, after)) ∨ splitAfter stop cs = (cs, []) := by
  fun_induction splitAfter stop cs with
  | case1 => exact .inr rfl
  | case2 c rest found => exact .inl ⟨[], _, rfl⟩
  | case3 c rest missed body after split ih =>
      rw [split] at ih
      rcases ih with ⟨p, after, same⟩ | same
      · obtain ⟨rfl, rfl⟩ := Prod.mk.inj same
        exact .inl ⟨c :: p, _, rfl⟩
      · obtain ⟨rfl, rfl⟩ := Prod.mk.inj same
        exact .inr rfl

theorem closesOnce_splitAfter (cs : List Char) : ClosesOnce (splitAfter ['*', '/'] cs).1 := by
  fun_induction splitAfter ['*', '/'] cs with
  | case1 =>
      intro before after whole
      simp at whole
  | case2 c rest found =>
      intro before after whole
      have lengths := congrArg List.length whole
      simp only [List.length_append, List.length_cons, List.length_nil] at lengths
      exact List.eq_nil_of_length_eq_zero (by omega)
  | case3 c rest missed body after split ih =>
      rw [split] at ih
      intro before behind whole
      cases before with
      | nil =>
          obtain ⟨rfl, rfl⟩ := List.cons.inj whole
          have rejoined := splitAfter_append ['*', '/'] rest
          rw [split] at rejoined
          subst rejoined
          exact absurd rfl missed
      | cons d before =>
          obtain ⟨rfl, inner⟩ := List.cons.inj whole
          exact ih before behind inner

/-- The first end of a comment is its own exactly if there is no other in it. -/
theorem splitAfter_eq_iff (cs : List Char) :
    splitAfter ['*', '/'] cs = splitComment cs ↔ ClosesOnce (splitComment cs).1 := by
  constructor
  · intro same
    rw [← same]
    exact closesOnce_splitAfter cs
  · intro once
    rcases splitComment_cases cs with ⟨p, after, rfl, split⟩ | split
    · rw [split] at once ⊢
      have ends : EndsBy ['*', '/'] p := once
      exact ends.splitAfter (List.cons_ne_nil _ _)
    · rw [split] at once ⊢
      rcases splitAfter_cases ['*', '/'] cs with ⟨p, after, first⟩ | whole
      · have rejoined := splitAfter_append ['*', '/'] cs
        rw [first] at rejoined ⊢
        obtain rfl := once p after (by simp [← rejoined])
        simpa using rejoined
      · exact whole

/-! ## Both cuts -/

section Cuts

variable {behind : List Char} {c : Char} {rest : List Char}

theorem forall_mem_insides_cons {P : List Char → Prop} (p : Piece) (ps : List Piece) :
    (∀ inside ∈ insides (p :: ps), P inside) ↔
      (∀ inside ∈ p.inside?, P inside) ∧ ∀ inside ∈ insides ps, P inside := by
  rw [insides, List.filterMap_cons]
  cases p.inside? with
  | none => simp [insides]
  | some inside => simp [insides]

/-- A piece is a comment where one begins. -/
theorem begins_of_inside? {piece : Piece} {after inside : List Char} (found : piece.inside? = some inside)
    (whole : piece.chars ++ after = c :: rest) : c = '/' ∧ rest.head? = some '*' := by
  unfold Piece.inside? at found
  split at found
  · next d e text =>
      split at found
      · next begins =>
          obtain ⟨rfl, rfl⟩ := begins
          obtain ⟨rfl, rfl⟩ := List.cons.inj whole
          exact ⟨rfl, rfl⟩
      · exact nomatch found
  · exact nomatch found

theorem nestedPiece_comment (behind rest : List Char) : nestedPiece behind '/' ('*' :: rest)
    = (.copied ('/' :: '*' :: (splitComment rest).1), (splitComment rest).2) := rfl

theorem firstPiece_comment (behind rest : List Char) : firstPiece behind '/' ('*' :: rest)
    = (.copied ('/' :: '*' :: (splitAfter ['*', '/'] rest).1), (splitAfter ['*', '/'] rest).2) := by
  rw [firstPiece_slash]
  rfl

/-- The first pieces of both cuts are one exactly if the first is no comment, or one with a single end. -/
theorem firstPiece_eq_nestedPiece_iff : firstPiece behind c rest = nestedPiece behind c rest ↔
    ∀ inside ∈ (nestedPiece behind c rest).1.inside?, ClosesOnce inside := by
  by_cases begins : c = '/' ∧ rest.head? = some '*'
  · obtain ⟨rfl, head⟩ := begins
    obtain ⟨rest, rfl⟩ := List.head?_eq_some_iff.mp head
    have single : (∀ inside ∈ (nestedPiece behind '/' ('*' :: rest)).1.inside?, ClosesOnce inside) ↔
        ClosesOnce (splitComment rest).1 := by
      simp [nestedPiece_comment, Piece.inside?]
    rw [single, ← splitAfter_eq_iff, nestedPiece_comment, firstPiece_comment, Prod.ext_iff, Prod.ext_iff]
    simp
  · have same : nestedPiece behind c rest = firstPiece behind c rest := if_neg begins
    rw [same]
    refine iff_of_true rfl fun inside found => ?_
    exact absurd (begins_of_inside? found (firstPiece_append behind c rest)) begins

theorem piecesAfter_eq_nestedAfter_iff (behind cs : List Char) : piecesAfter behind cs = nestedAfter behind cs ↔
    ∀ inside ∈ insides (nestedAfter behind cs), ClosesOnce inside := by
  fun_induction nestedAfter behind cs with
  | case1 => exact iff_of_true (by rw [piecesAfter]) nofun
  | case2 behind c rest cut ih =>
      rw [forall_mem_insides_cons, ← firstPiece_eq_nestedPiece_iff, ← ih, piecesAfter]
      constructor
      · intro same
        obtain ⟨first, later⟩ := List.cons.inj same
        have pair : firstPiece behind c rest = nestedPiece behind c rest := by
          have whole := (firstPiece_append behind c rest).trans (nestedPiece_append behind c rest).symm
          rw [first] at whole
          exact Prod.ext first (List.append_cancel_left whole)
        rw [pair] at later
        exact ⟨pair, later⟩
      · rintro ⟨pair, later⟩
        rw [pair]
        exact congrArg (cut.1 :: ·) later

theorem flatMap_chars_nestedAfter (behind cs : List Char) :
    (nestedAfter behind cs).flatMap Piece.chars = cs := by
  fun_induction nestedAfter behind cs with
  | case1 => rfl
  | case2 behind c rest cut ih => simp only [List.flatMap_cons, ih, cut, nestedPiece_append]

/-- Behind comments with single ends, a comment is cut at the first end in it. -/
theorem piecesAfter_of_comment {behind cs head tail : List Char} {ps qs : List Piece}
    (cut : nestedAfter behind cs = ps ++ .copied ('/' :: '*' :: (head ++ '*' :: '/' :: tail)) :: qs)
    (once : ∀ inside ∈ insides ps, ClosesOnce inside) (first : EndsBy ['*', '/'] head) :
    piecesAfter behind cs = ps ++ .copied ('/' :: '*' :: (head ++ ['*', '/'])) ::
      piecesAfter [] (tail ++ qs.flatMap Piece.chars) := by
  induction ps generalizing behind cs with
  | nil =>
      have whole := flatMap_chars_nestedAfter behind cs
      rw [cut, List.nil_append, List.flatMap_cons, Piece.chars] at whole
      subst whole
      have split : splitAfter ['*', '/'] (head ++ '*' :: '/' :: (tail ++ qs.flatMap Piece.chars))
          = (head ++ ['*', '/'], tail ++ qs.flatMap Piece.chars) := first.splitAfter (List.cons_ne_nil _ _)
      have chars : '/' :: '*' :: (head ++ '*' :: '/' :: tail) ++ qs.flatMap Piece.chars
          = '/' :: '*' :: (head ++ '*' :: '/' :: (tail ++ qs.flatMap Piece.chars)) := by simp
      rw [chars, piecesAfter, firstPiece_comment, split]
      -- a comment ends in no character of a name, so what follows it is cut as at the beginning
      have clear : contextOf ((Piece.copied ('/' :: '*' :: (head ++ ['*', '/']))).chars.reverse ++ behind)
          = contextOf [] := by
        simp [Piece.chars, contextOf]
        decide
      rw [piecesAfter_congr (.inl clear)]
      rfl
  | cons p ps ih =>
      cases cs with
      | nil => simp [nestedAfter] at cut
      | cons c rest =>
          rw [nestedAfter] at cut
          obtain ⟨rfl, later⟩ := List.cons.inj cut
          rw [forall_mem_insides_cons] at once
          have same := firstPiece_eq_nestedPiece_iff.mpr once.1
          rw [piecesAfter, same]
          exact congrArg (_ :: ·) (ih later once.2)

end Cuts

/-- Placeholders are looked for outside of comments exactly if each comment has a single end. Then every
    replacement keeps each comment. Otherwise the first comment that has another end is cut there, and what
    is left of it is read as any other text. -/
theorem comments_kept_iff (sql : String) :
    (pieces sql = nestedPieces sql ↔ ∀ inside ∈ insides (nestedPieces sql), ClosesOnce inside) ∧
    ((∀ inside ∈ insides (nestedPieces sql), ClosesOnce inside) →
      ∀ ps comment qs, nestedPieces sql = ps ++ .copied comment :: qs →
        ∀ {m : Type → Type} [Monad m] [LawfulMonad m] (f : List Char → m (List Char)),
          rewritten f (pieces sql) = do return (← rewritten f ps) ++ (comment ++ (← rewritten f qs))) ∧
    ∀ ps head tail qs, nestedPieces sql = ps ++ .copied ('/' :: '*' :: (head ++ '*' :: '/' :: tail)) :: qs →
      (∀ inside ∈ insides ps, ClosesOnce inside) → EndsBy ['*', '/'] head →
        pieces sql = ps ++ .copied ('/' :: '*' :: (head ++ ['*', '/'])) ::
          piecesAfter [] (tail ++ qs.flatMap Piece.chars) := by
  have same := piecesAfter_eq_nestedAfter_iff [] sql.toList
  refine ⟨same, fun once ps comment qs cut m _ _ f => ?_, fun ps head tail qs cut once first => ?_⟩
  · rw [pieces, same.mpr once, ← nestedPieces, cut, rewritten_append]
    simp [rewritten]
  · exact piecesAfter_of_comment cut once first

/-- The first end in the comment is that of the comment within it. -/
theorem comments_kept_iff_inner : pieces "SELECT 1 /* a /* b */ ? */" =
    "SELECT 1 ".toList.map (fun c => .copied [c]) ++ .copied "/* a /* b */".toList ::
      piecesAfter [] " ? */".toList := by
  obtain ⟨-, -, cutAt⟩ := comments_kept_iff "SELECT 1 /* a /* b */ ? */"
  refine cutAt _ " a /* b ".toList " ? */".toList [] (by decide +kernel) ?_ (endsBy_of_absent ?_ ?_)
  · intro inside mem
    exact absurd mem List.not_mem_nil
  · decide
  · decide

/-- A comment within a comment, and a mark behind it that is in the outer one. -/
theorem inner_comment_rewritten :
    insides (nestedPieces "SELECT 1 /* a /* b */ ? */") = [" a /* b */ ? */".toList] ∧
      normalise "SELECT 1 /* a /* b */ ? */" = .ok ⟨"SELECT 1 /* a /* b */ $1 */", 1⟩ := by
  constructor <;> decide +kernel

end IndexAdvisor.Sql
