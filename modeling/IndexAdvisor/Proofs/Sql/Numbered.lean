import IndexAdvisor.Proofs.Sql.Settled

/-! # Numbering once

Numbering puts a dollar sign and digits in the place of each question mark. Behind a name the dollar sign is
part of it, and more is read together with digits than with a question mark: further digits, a dollar sign,
and the mark of escapes before a text. Where the question marks stand apart from all this, and only there,
the numbered text is cut as the text was, with each mark numbered, and numbering it again changes nothing.
-/

namespace IndexAdvisor.Sql

open Number Text

/-! ## Numbered pieces -/

/-- The mark of a number. -/
def numbered (n : Nat) : List Char := '$' :: (toString n).toList

/-- Pieces in which the question marks are numbered from `count + 1` on. -/
def numberMarks (count : Nat) : List Piece → List Piece
  | [] => []
  | p :: rest =>
    if p = .mark ['?'] then .mark (numbered (count + 1)) :: numberMarks (count + 1) rest
    else p :: numberMarks count rest

/-- Whether a quoted text that comes first ends at the same place if its backslashes are no escapes. -/
def endsUnescaped : List Piece → Bool
  | .copied ('\'' :: body) :: rest =>
    splitQuoted '\'' false (body ++ rest.flatMap Piece.chars) = (body, rest.flatMap Piece.chars)
  | _ => true

/-- Whether pieces are read behind digits as they are behind a question mark. -/
def followsDigits : List Piece → Bool
  | [] => true
  | .mark _ :: _ => false
  | .copied cs :: rest =>
    !cs.head?.any isDecimalDigit && (cs.head? ≠ some '$' || cs = ['$'])
      && (!(cs = ['e'] || cs = ['E']) || endsUnescaped rest)

/-- Whether every question mark stands apart; `named` tells whether a name or a number ends before the
    pieces. -/
def isSpaced (named : Bool) : List Piece → Bool
  | [] => true
  | p :: rest =>
    if p = .mark ['?'] then !named && followsDigits rest && isSpaced true rest
    else isSpaced (p.chars.getLast?.any isNameChar) rest

theorem followsDigits_copied {c : Char} {body : List Char} {ps : List Piece} :
    followsDigits (.copied (c :: body) :: ps) ↔ isDecimalDigit c = false ∧ (c = '$' → body = []) ∧
      (body = [] → c = 'e' ∨ c = 'E' → endsUnescaped ps) := by
  simp [followsDigits]
  grind

section Kept

variable {p : Piece} {ps : List Piece}

theorem numberMarks_question (count : Nat) : numberMarks count (.mark ['?'] :: ps)
    = .mark (numbered (count + 1)) :: numberMarks (count + 1) ps := if_pos rfl

theorem numberMarks_kept (kept : p ≠ .mark ['?']) (count : Nat) :
    numberMarks count (p :: ps) = p :: numberMarks count ps := if_neg kept

theorem numberMarks_copied (cs : List Char) (count : Nat) :
    numberMarks count (.copied cs :: ps) = .copied cs :: numberMarks count ps := by
  apply numberMarks_kept
  exact nofun

theorem isSpaced_question (named : Bool) :
    isSpaced named (.mark ['?'] :: ps) = (!named && followsDigits ps && isSpaced true ps) := if_pos rfl

theorem isSpaced_kept (kept : p ≠ .mark ['?']) (named : Bool) :
    isSpaced named (p :: ps) = isSpaced (p.chars.getLast?.any isNameChar) ps := if_neg kept

end Kept

/-! ## Pieces of their own text -/

/-- Behind the text `behind`, the pieces are those that their text is cut into. -/
def IsCut (behind : List Char) (ps : List Piece) : Prop :=
  piecesAfter behind (ps.flatMap Piece.chars) = ps

section IsCut

variable {behind other : List Char} {p : Piece} {ps : List Piece}

theorem isCut_iff_scans : IsCut behind ps ↔ Scans [] behind (ps.flatMap Piece.chars) ps := by
  constructor
  · intro cut
    have whole : piecesAfter behind (ps.flatMap Piece.chars ++ []) = ps ++ [] := by
      rwa [List.append_nil, List.append_nil]
    exact .of_pieces whole rfl
  · intro scans
    have cut := scans.pieces
    rwa [List.append_nil, piecesAfter, List.append_nil] at cut

theorem isCut_nil : IsCut behind [] := isCut_iff_scans.mpr .nil

theorem isCut_cons : IsCut behind (p :: ps) ↔ ∃ c body, p.chars = c :: body ∧
    firstPiece behind c (body ++ ps.flatMap Piece.chars) = (p, ps.flatMap Piece.chars) ∧
      IsCut (p.chars.reverse ++ behind) ps := by
  constructor
  · intro cut
    have scans := isCut_iff_scans.mp cut
    generalize whole : (p :: ps).flatMap Piece.chars = text at scans
    cases scans with
    | @cons _ body rest _ _ c first later =>
        have chars := chars_of_cut first
        rw [List.flatMap_cons, chars] at whole
        obtain rfl := List.append_cancel_left (List.cons.inj whole).2
        rw [List.append_nil] at first
        refine ⟨c, body, chars, first, isCut_iff_scans.mpr ?_⟩
        rwa [chars, List.reverse_cons, List.append_assoc]
  · rintro ⟨c, body, chars, first, later⟩
    rw [IsCut, List.flatMap_cons, chars, List.cons_append, piecesAfter, first]
    exact congrArg (p :: ·) later

theorem isCut_congr (same : contextOf behind = contextOf other) : IsCut behind ps ↔ IsCut other ps := by
  rw [IsCut, IsCut, piecesAfter_congr (.inl same)]

end IsCut

/-! ## The mark of a number -/

section Digits

variable {n : Nat}

theorem numbered_ne : numbered n ≠ ['?'] := by simp [numbered]

theorem digits_ne_nil : (toString n).toList ≠ [] := by
  rw [Nat.toString_eq_ofList_toDigits, String.toList_ofList]
  exact Nat.toDigits_ne_nil

theorem digitValue?_of_isDigit {c : Char} (digit : c.isDigit) : digitValue? c = some (c.toNat - '0'.toNat) := by
  have small : c.toNat < 0x80 := by
    simp only [Char.isDigit, Bool.and_eq_true, decide_eq_true_eq] at digit
    have bound : c.toNat ≤ '9'.toNat := digit.2
    exact Nat.lt_of_le_of_lt bound (by decide)
  simp [digitValue?, small, digit]

theorem decimal_toString : ∀ c ∈ (toString n).toList, isDecimalDigit c := by
  intro c mem
  rw [isDecimalDigit, digitValue?_of_isDigit (isDigit_of_mem_toString mem)]
  rfl

theorem numberFrom_digits {cs : List Char} (digits : ∀ c ∈ cs, c.isDigit) (acc : Nat) :
    numberFrom acc (cs.filterMap digitValue?) = Nat.ofDigitChars 10 cs acc := by
  induction cs generalizing acc with
  | nil => rfl
  | cons c cs ih =>
      obtain ⟨digit, later⟩ := List.forall_mem_cons.mp digits
      rw [List.filterMap_cons, digitValue?_of_isDigit digit, numberFrom, ih later, Nat.ofDigitChars_cons,
        Nat.mul_comm]

/-- Numbers of more than `maxDigits` digits are not read back. -/
theorem markNumber_numbered (n : Nat) :
    (markNumber (numbered n)).toOption = if n < 10 ^ maxDigits then some n else none := by
  have text : (toString n).toList = Nat.toDigits 10 n := by
    rw [Nat.toString_eq_ofList_toDigits, String.toList_ofList]
  have short : (toString n).toList.length ≤ maxDigits ↔ n < 10 ^ maxDigits := by
    rw [text]
    exact Nat.length_toDigits_le_iff (by decide) (by decide)
  have value : digitsValue (toString n).toList = n := by
    rw [digitsValue, numberFrom_digits (fun _ mem => isDigit_of_mem_toString mem), text]
    exact Nat.ofDigitChars_ten_toDigits
  rw [markNumber, numbered, List.drop_one, List.tail_cons, value]
  split
  · next long =>
      rw [if_neg (mt short.mpr (Nat.not_le.mpr long))]
      rfl
  · next fits =>
      rw [if_pos (short.mp (Nat.not_lt.mp fits))]
      rfl

/-- Behind a number a name goes on, and no mark of escapes is read. -/
theorem contextOf_numbered (behind : List Char) :
    contextOf ((numbered n).reverse ++ behind) = (true, false) := by
  obtain ⟨d, digits, reversed⟩ := List.exists_cons_of_ne_nil (mt List.reverse_eq_nil_iff.mp (digits_ne_nil (n := n)))
  have mem : d ∈ (toString n).toList := by
    rw [← List.mem_reverse, reversed]
    exact List.mem_cons_self
  have digit := isDigit_of_mem_toString mem
  have name : isNameChar d := by simp [isNameChar, Char.isAlphanum, digit]
  have other (x : Char) (letter : x.isDigit = false) : d ≠ x := by
    rintro rfl
    exact Bool.noConfusion (digit.symm.trans letter)
  have text : (numbered n).reverse ++ behind = d :: (digits ++ ['$'] ++ behind) := by
    rw [numbered, List.reverse_cons, reversed]
    simp
  rw [text, contextOf]
  simp [name, other 'e' (by decide), other 'E' (by decide)]

end Digits

/-! ## Texts that begin alike -/

/-- The texts begin alike, but that one may have a dollar sign where the other has a question mark. -/
def BeginsAlike (t u : List Char) : Prop :=
  u.head? = t.head? ∨ t.head? = some '?' ∧ u.head? = some '$'

section BeginsAlike

variable {t u : List Char}

theorem BeginsAlike.nil_iff (alike : BeginsAlike t u) : t = [] ↔ u = [] := by
  rw [← List.head?_eq_none_iff, ← List.head?_eq_none_iff (l := u)]
  rcases alike with same | ⟨question, dollar⟩
  · rw [same]
  · simp [question, dollar]

theorem BeginsAlike.head?_iff {x : Char} (alike : BeginsAlike t u) (other : x ≠ '$') (plain : x ≠ '?') :
    t.head? = some x ↔ u.head? = some x := by
  rcases alike with same | ⟨question, dollar⟩
  · rw [same]
  · simp [question, dollar, other.symm, plain.symm]

theorem BeginsAlike.ends {f : Char → Bool} (alike : BeginsAlike t u) (dollar : f '$' = false)
    (stops : ∀ d ∈ t.head?, f d = false) : ∀ d ∈ u.head?, f d = false := by
  rcases alike with same | ⟨-, first⟩
  · rwa [same]
  · intro d head
    obtain rfl := Option.some.inj (first.symm.trans head)
    exact dollar

/-- Of a dollar sign alone it must be known besides that no tag begins with it. -/
theorem BeginsAlike.endsAlike {piece : List Char} (alike : BeginsAlike t u)
    (tag : piece = ['$'] → dollarTag? t = none → dollarTag? u = none) : EndsAlike piece t u where
  nothing := alike.nil_iff.mp
  closing := by
    intro x quote _
    have other : x ≠ '$' ∧ x ≠ '?' := by
      constructor <;>
        · rintro rfl
          exact absurd quote (by decide)
    exact mt (alike.head?_iff other.1 other.2).mpr
  comment _ := mt (alike.head?_iff (by decide) (by decide)).mpr
  line := by
    intro ends d head
    rcases alike with same | ⟨question, -⟩
    · exact ends d (same ▸ head)
    · exact absurd (ends '?' question) (by decide)
  digits _ := alike.ends (by decide)
  tag := tag

end BeginsAlike

/-! ## What numbers change -/

section Numbers

variable {behind other text : List Char} {x : Char} {ps : List Piece} {count n : Nat}

/-- A number is read behind anything but a name, and up to what is no digit. -/
theorem firstPiece_numbered_iff : firstPiece behind '$' ((toString n).toList ++ text) = (.mark (numbered n), text) ↔
    behind.head?.any isNameChar = false ∧ ∀ d ∈ text.head?, isDecimalDigit d = false := by
  rw [firstPiece_dollar]
  cases named : behind.head?.any isNameChar with
  | true => simp
  | false =>
      rw [if_neg Bool.false_ne_true, List.takeWhile_append_of_pos decimal_toString,
        List.dropWhile_append_of_pos decimal_toString, if_pos (List.append_ne_nil_of_left_ne_nil digits_ne_nil _)]
      constructor
      · intro same
        obtain ⟨mark, rest⟩ := Prod.mk.inj same
        have none : text.takeWhile isDecimalDigit = [] := by simpa [numbered] using mark
        exact ⟨rfl, takeWhile_nil_iff.mp none⟩
      · rintro ⟨-, ends⟩
        have none := takeWhile_nil_iff.mpr ends
        have left := List.takeWhile_append_dropWhile (p := isDecimalDigit) (l := text)
        rw [none, List.nil_append] at left
        rw [none, left, List.append_nil, numbered]

theorem firstPiece_named (named : behind.head?.any isNameChar) (rest : List Char) :
    firstPiece behind '$' rest = (.copied ['$'], rest) := by
  rw [firstPiece_dollar, if_pos named]

theorem beginsAlike_numberMarks (cut : IsCut behind ps) (count : Nat) :
    BeginsAlike (ps.flatMap Piece.chars) ((numberMarks count ps).flatMap Piece.chars) := by
  cases ps with
  | nil => exact .inl rfl
  | cons p ps =>
      by_cases question : p = .mark ['?']
      · subst question
        rw [numberMarks_question]
        exact .inr ⟨rfl, rfl⟩
      · obtain ⟨c, body, chars, -, -⟩ := isCut_cons.mp cut
        rw [numberMarks_kept question, List.flatMap_cons, List.flatMap_cons, chars]
        exact .inl rfl

/-- Where question marks stand apart, none is read together with the characters of a tag before it. -/
theorem tag_numberMarks (cut : IsCut behind ps) (spaced : isSpaced true ps) (count : Nat) :
    ((numberMarks count ps).flatMap Piece.chars).takeWhile isTagChar = (ps.flatMap Piece.chars).takeWhile isTagChar ∧
      (((numberMarks count ps).flatMap Piece.chars).dropWhile isTagChar).head?
        = ((ps.flatMap Piece.chars).dropWhile isTagChar).head? := by
  induction ps generalizing behind with
  | nil => exact ⟨rfl, rfl⟩
  | cons p ps ih =>
      have kept : p ≠ .mark ['?'] := by
        rintro rfl
        simp [isSpaced_question] at spaced
      obtain ⟨c, body, chars, first, later⟩ := isCut_cons.mp cut
      rw [isSpaced_kept kept] at spaced
      rw [numberMarks_kept kept, List.flatMap_cons, List.flatMap_cons]
      cases tag : isTagChar c with
      | false => simp [chars, tag]
      | true =>
          -- a character of a tag is a piece of its own, and spaced like one of a name
          rw [firstPiece_plain _ _ (plain_of_kind (by decide) tag)] at first
          obtain rfl : body = [] := List.append_left_eq_self.mp (Prod.mk.inj first).2
          have name : isNameChar c := Bool.or_eq_true_iff.mpr (.inl tag)
          rw [chars, List.getLast?_singleton, Option.any_some, name] at spaced
          simp [chars, tag, ih later spaced]

theorem dollarTag?_numberMarks (cut : IsCut behind ps) (spaced : isSpaced true ps) (count : Nat) :
    dollarTag? ((numberMarks count ps).flatMap Piece.chars) = dollarTag? (ps.flatMap Piece.chars) := by
  obtain ⟨taken, left⟩ := tag_numberMarks cut spaced count
  rw [dollarTag?_eq, dollarTag?_eq, taken, left]

/-! ## Digits in the place of a question mark -/

/-- Of what stands before a stretch, two characters are known. -/
theorem contextOf_behind {p : List Char} (some : p ≠ []) :
    contextOf (p ++ x :: behind) = contextOf (p ++ x :: other) := by
  cases p with
  | nil => exact absurd rfl some
  | cons c p => cases p <;> rfl

theorem isCut_of_endsUnescaped (cut : IsCut (x :: behind) ps) (plain : (contextOf (x :: other)).2 = false)
    (ends : endsUnescaped ps) : IsCut (x :: other) ps := by
  cases ps with
  | nil => exact isCut_nil
  | cons p ps =>
      obtain ⟨c, body, chars, first, later⟩ := isCut_cons.mp cut
      refine isCut_cons.mpr ⟨c, body, chars, ?_, (isCut_congr (contextOf_behind ?_)).mp later⟩
      · by_cases quote : c = '\''
        · subst quote
          rw [firstPiece_quote] at first ⊢
          obtain ⟨rfl, -⟩ := Prod.mk.inj first
          have inner := (List.cons.inj chars).2
          rw [inner] at ends ⊢
          rw [plain, of_decide_eq_true ends]
        · refine Eq.trans ?_ first
          apply firstPiece_agree
          · intro _
            rfl
          · intro same
            exact absurd same quote
      · simp [chars]

theorem digits_of_follows (cut : IsCut behind ps) (follows : followsDigits ps) :
    ∀ d ∈ (ps.flatMap Piece.chars).head?, isDecimalDigit d = false := by
  cases ps with
  | nil => nofun
  | cons p ps =>
      obtain ⟨c, body, chars, -, -⟩ := isCut_cons.mp cut
      cases p with
      | mark cs => exact nomatch follows
      | copied cs =>
          obtain rfl : cs = c :: body := chars
          have other := (followsDigits_copied.mp follows).1
          simp [Piece.chars, other]

/-- What may follow digits is cut behind them as behind a question mark. -/
theorem isCut_behind_number (cut : IsCut behind ps) (before : contextOf behind = (false, false))
    (number : contextOf other = (true, false)) (follows : followsDigits ps) : IsCut other ps := by
  cases ps with
  | nil => exact isCut_nil
  | cons p ps =>
      cases p with
      | mark cs => exact nomatch follows
      | copied cs =>
          obtain ⟨c, body, chars, first, later⟩ := isCut_cons.mp cut
          obtain rfl : cs = c :: body := chars
          obtain ⟨-, dollar, unescaped⟩ := followsDigits_copied.mp follows
          refine isCut_cons.mpr ⟨c, body, rfl, ?_, ?_⟩
          · by_cases sign : c = '$'
            · subst sign
              obtain rfl := dollar rfl
              exact firstPiece_named (congrArg Prod.fst number) _
            · refine Eq.trans ?_ first
              apply firstPiece_agree
              · intro same
                exact absurd same sign
              · intro _
                rw [number, before]
          · -- a single character leaves what stands before the piece in view, but only a letter that may
            -- be a mark of escapes makes use of it
            cases body with
            | cons d body =>
                refine (isCut_congr ?_).mp later
                simpa [Piece.chars] using contextOf_behind (p := (d :: body).reverse) (by simp)
            | nil =>
                by_cases letter : c = 'e' ∨ c = 'E'
                · refine isCut_of_endsUnescaped later ?_ (unescaped rfl letter)
                  have named : other.head?.any isNameChar = true := congrArg Prod.fst number
                  simp [contextOf, named]
                · refine (isCut_congr ?_).mp later
                  obtain ⟨small, large⟩ := not_or.mp letter
                  simp [Piece.chars, contextOf, small, large]

/-- Behind a name or a number only a question mark is a mark. -/
theorem not_mark_of_named {c : Char} {rest after cs : List Char} (named : (contextOf other).1 = true)
    (first : firstPiece other c rest = (.mark cs, after)) : cs = ['?'] := by
  rcases firstPiece_mark first with rfl | rfl
  · rw [firstPiece_named named] at first
    exact nomatch first
  · rw [firstPiece_plain _ _ (by decide), if_pos rfl] at first
    obtain ⟨mark, -⟩ := Prod.mk.inj first
    exact (Piece.mark.inj mark).symm

theorem endsUnescaped_of_cut (cut : IsCut behind ps) (plain : (contextOf other).2 = false)
    (later : IsCut other (numberMarks count ps)) : endsUnescaped ps := by
  unfold endsUnescaped
  split
  · next body rest =>
      rw [numberMarks_copied] at later
      obtain ⟨c, inner, chars, first, -⟩ := isCut_cons.mp later
      obtain ⟨-, -, -, -, after⟩ := isCut_cons.mp cut
      have alike := beginsAlike_numberMarks after count
      obtain ⟨rfl, rfl⟩ := List.cons.inj chars
      rw [firstPiece_quote, plain] at first
      obtain ⟨same, left⟩ := Prod.mk.inj first
      have split : splitQuoted '\'' false (body ++ (numberMarks count rest).flatMap Piece.chars)
          = (body, (numberMarks count rest).flatMap Piece.chars) :=
        Prod.ext (List.cons.inj (Piece.copied.inj same)).2 left
      refine decide_eq_true ?_
      by_cases none : (numberMarks count rest).flatMap Piece.chars = []
      · rwa [none, ← alike.nil_iff.mpr none] at split
      · obtain ⟨-, apart, before⟩ := splitQuoted_cut split none
        exact before _ (mt (alike.head?_iff (by decide) (by decide)).mp apart)
  · rfl

/-- Only such text may follow digits. -/
theorem followsDigits_of_cut (cut : IsCut behind ps) (number : contextOf other = (true, false))
    (digits : ∀ d ∈ ((numberMarks count ps).flatMap Piece.chars).head?, isDecimalDigit d = false)
    (later : IsCut other (numberMarks count ps)) : followsDigits ps := by
  cases ps with
  | nil => rfl
  | cons p ps =>
      cases p with
      | mark cs =>
          exfalso
          by_cases question : cs = ['?']
          · subst question
            rw [numberMarks_question] at later
            obtain ⟨c, body, -, first, -⟩ := isCut_cons.mp later
            exact numbered_ne (not_mark_of_named (congrArg Prod.fst number) first)
          · rw [numberMarks_kept (mt Piece.mark.inj question)] at later
            obtain ⟨c, body, -, first, -⟩ := isCut_cons.mp later
            exact question (not_mark_of_named (congrArg Prod.fst number) first)
      | copied cs =>
          rw [numberMarks_copied] at later digits
          obtain ⟨c, body, chars, first, after⟩ := isCut_cons.mp later
          obtain ⟨-, -, -, -, tail⟩ := isCut_cons.mp cut
          obtain rfl : cs = c :: body := chars
          refine followsDigits_copied.mpr ⟨digits c rfl, ?_, ?_⟩
          · rintro rfl
            rw [firstPiece_named (congrArg Prod.fst number)] at first
            obtain ⟨same, -⟩ := Prod.mk.inj first
            exact (List.cons.inj (Piece.copied.inj same)).2.symm
          · rintro rfl -
            refine endsUnescaped_of_cut tail ?_ after
            have named := congrArg Prod.fst number
            simp_all [Piece.chars, contextOf]

/-- Behind what a text is cut into, numbering keeps the cut exactly if the question marks stand apart. -/
theorem isCut_numberMarks_iff (cut : IsCut behind ps) :
    IsCut behind (numberMarks count ps) ↔ isSpaced (behind.head?.any isNameChar) ps := by
  -- a number that is put in needs no name before it and no digits behind it; other pieces stay
  induction ps generalizing behind count with
  | nil => exact iff_of_true isCut_nil rfl
  | cons p ps ih =>
      obtain ⟨c, body, chars, first, later⟩ := isCut_cons.mp cut
      by_cases question : p = .mark ['?']
      · subst question
        have before : contextOf ('?' :: behind) = (false, false) := by simp [contextOf]; decide
        have number := contextOf_numbered (n := count + 1) behind
        have named : ((numbered (count + 1)).reverse ++ behind).head?.any isNameChar = true := congrArg Prod.fst number
        rw [isSpaced_question, numberMarks_question]
        constructor
        · intro whole
          obtain ⟨d, digits, text, mark, rest⟩ := isCut_cons.mp whole
          obtain ⟨rfl, rfl⟩ := List.cons.inj text
          obtain ⟨unnamed, ends⟩ := firstPiece_numbered_iff.mp mark
          have follows := followsDigits_of_cut later number ends rest
          have spaced := (ih (isCut_behind_number later before number follows)).mp rest
          rw [named] at spaced
          simp [unnamed, follows, spaced]
        · intro spaced
          simp only [Bool.and_eq_true, Bool.not_eq_true'] at spaced
          obtain ⟨⟨unnamed, follows⟩, spaced⟩ := spaced
          refine isCut_cons.mpr ⟨'$', _, rfl, firstPiece_numbered_iff.mpr ⟨unnamed, ?_⟩, ?_⟩
          · exact (beginsAlike_numberMarks later _).ends (by decide) (digits_of_follows later follows)
          · refine (ih (isCut_behind_number later before number follows)).mpr ?_
            rwa [named]
      · have last : (p.chars.reverse ++ behind).head? = p.chars.getLast? := by
          rw [List.head?_append_of_ne_nil _ (by simp [chars]), List.head?_reverse]
        rw [isSpaced_kept question, numberMarks_kept question, ← last]
        constructor
        · intro whole
          obtain ⟨-, -, -, -, rest⟩ := isCut_cons.mp whole
          exact (ih later).mp rest
        · intro spaced
          refine isCut_cons.mpr ⟨c, body, chars, ?_, (ih later).mpr spaced⟩
          refine firstPiece_alike first ((beginsAlike_numberMarks later count).endsAlike ?_)
          intro dollar none
          rw [chars, dollar] at spaced
          rwa [dollarTag?_numberMarks later spaced]

end Numbers

/-! ## Numbering again -/

/-- The number that a piece shows. -/
def Piece.number : Piece → Except WholeError Nat
  | .copied _ => .ok 0
  | .mark cs => markNumber cs

section Again

variable {count highest c h : Nat} {p : Piece} {ps : List Piece} {text : List Char}

theorem numberPieces_question : numberPieces count highest (.mark ['?'] :: ps) = (do
    let (text, counts) ← numberPieces (count + 1) highest ps
    pure (numbered (count + 1) ++ text, counts)) := by
  rw [numberPieces, if_pos rfl]
  rfl

theorem numberPieces_kept (kept : p ≠ .mark ['?']) : numberPieces count highest (p :: ps) = (do
    let n ← p.number
    let (text, counts) ← numberPieces count (max highest n) ps
    pure (p.chars ++ text, counts)) := by
  cases p with
  | copied cs =>
      rw [numberPieces]
      change _ = numberPieces count (max highest 0) ps >>= _
      rw [Nat.max_zero]
      rfl
  | mark cs =>
      rw [numberPieces, if_neg (mt (congrArg Piece.mark) kept)]
      rfl

theorem count_marksIn_kept (kept : p ≠ .mark ['?']) :
    (marksIn (p :: ps)).count ['?'] = (marksIn ps).count ['?'] := by
  cases p with
  | copied cs => rfl
  | mark cs =>
      rw [marksIn_mark]
      exact List.count_cons_of_ne (mt (congrArg Piece.mark) kept)

/-- The result is the text of the numbered pieces, and every question mark counts. -/
theorem text_of_numberPieces (read : numberPieces count highest ps = .ok (text, c, h)) :
    text = (numberMarks count ps).flatMap Piece.chars ∧ c = count + (marksIn ps).count ['?'] := by
  induction ps generalizing count highest text with
  | nil =>
      obtain ⟨rfl, rfl, rfl⟩ : [] = text ∧ count = c ∧ highest = h := by simpa [numberPieces] using read
      exact ⟨rfl, rfl⟩
  | cons p ps ih =>
      by_cases question : p = .mark ['?']
      · subst question
        rw [numberPieces_question] at read
        obtain ⟨⟨rest, counts⟩, later, ends⟩ := bind_ok.mp read
        obtain ⟨rfl, rfl⟩ := Prod.mk.inj (Except.ok.inj ends)
        obtain ⟨rfl, rfl⟩ := ih later
        rw [numberMarks_question, marksIn_mark, List.count_cons_self]
        refine ⟨rfl, ?_⟩
        omega
      · rw [numberPieces_kept question] at read
        obtain ⟨n, -, read⟩ := bind_ok.mp read
        obtain ⟨⟨rest, counts⟩, later, ends⟩ := bind_ok.mp read
        obtain ⟨rfl, rfl⟩ := Prod.mk.inj (Except.ok.inj ends)
        obtain ⟨rfl, rfl⟩ := ih later
        rw [numberMarks_kept question, count_marksIn_kept question]
        exact ⟨rfl, rfl⟩

/-- A piece whose number is read adds its text. -/
theorem toOption_numberPieces_kept {n : Nat} (kept : p ≠ .mark ['?']) (shown : p.number.toOption = some n) :
    (numberPieces count highest (p :: ps)).toOption
      = (numberPieces count (max highest n) ps).toOption.map fun found => (p.chars ++ found.1, found.2) := by
  rw [numberPieces_kept kept]
  cases number : p.number with
  | error cause =>
      rw [number] at shown
      exact nomatch shown
  | ok m =>
      rw [number] at shown
      obtain rfl := Option.some.inj shown
      cases later : numberPieces count (max highest m) ps <;> simp [Except.toOption, bind, Except.bind, later, pure, Except.pure]

/-- Numbered pieces are read again with the same numbers, as long as these are not too long. -/
theorem numberPieces_numberMarks (few : count < 10 ^ maxDigits)
    (read : numberPieces count highest ps = .ok (text, c, h)) :
    (numberPieces 0 (max count highest) (numberMarks count ps)).toOption
      = if c < 10 ^ maxDigits then some (text, 0, max c h) else none := by
  induction ps generalizing count highest text with
  | nil =>
      obtain ⟨rfl, rfl, rfl⟩ : [] = text ∧ count = c ∧ highest = h := by simpa [numberPieces] using read
      rw [if_pos few]
      rfl
  | cons p ps ih =>
      by_cases question : p = .mark ['?']
      · subst question
        have atLeast := (text_of_numberPieces read).2
        rw [marksIn_mark, List.count_cons_self] at atLeast
        rw [numberPieces_question] at read
        obtain ⟨⟨rest, counts⟩, later, ends⟩ := bind_ok.mp read
        obtain ⟨rfl, rfl⟩ := Prod.mk.inj (Except.ok.inj ends)
        have kept : Piece.mark (numbered (count + 1)) ≠ .mark ['?'] := mt Piece.mark.inj numbered_ne
        have shown : (Piece.mark (numbered (count + 1))).number.toOption = _ := markNumber_numbered (count + 1)
        rw [numberMarks_question]
        -- one number too long is enough for the text not to be read again
        by_cases more : count + 1 < 10 ^ maxDigits
        · have larger : max (max count highest) (count + 1) = max (count + 1) highest := by omega
          rw [if_pos more] at shown
          rw [toOption_numberPieces_kept kept shown, larger, ih more later]
          split <;> rfl
        · rw [if_neg more] at shown
          rw [if_neg (by omega), numberPieces_kept kept]
          cases number : (Piece.mark (numbered (count + 1))).number with
          | error cause => rfl
          | ok n =>
              rw [number] at shown
              exact nomatch shown
      · rw [numberPieces_kept question] at read
        obtain ⟨n, number, read⟩ := bind_ok.mp read
        obtain ⟨⟨rest, counts⟩, later, ends⟩ := bind_ok.mp read
        obtain ⟨rfl, rfl⟩ := Prod.mk.inj (Except.ok.inj ends)
        have shown : p.number.toOption = some n := congrArg Except.toOption number
        rw [numberMarks_kept question, toOption_numberPieces_kept question shown, max_assoc, ih few later]
        split <;> rfl

end Again

theorem pieces_ofList (cs : List Char) : pieces (String.ofList cs) = piecesAfter [] cs := by
  rw [pieces, String.toList_ofList]

/-- Exactly where the question marks stand apart, and their number is not too long to be read, the numbered
    text is cut as the text was, with each question mark numbered, and numbering it again changes nothing. -/
theorem numbered_once_iff {sql : String} {once : Numbered} (normalised : normalise sql = .ok once) :
    pieces once.sql = numberMarks 0 (pieces sql) ∧ normalise once.sql = .ok once ↔
      isSpaced false (pieces sql) ∧ (marks sql).count ['?'] < 10 ^ maxDigits := by
  obtain ⟨⟨text, c, h⟩, read, ends⟩ := bind_ok.mp normalised
  obtain rfl := Except.ok.inj ends
  obtain ⟨rfl, counted⟩ := text_of_numberPieces read
  have again := numberPieces_numberMarks (Nat.pow_pos (by decide)) read
  have spaced : piecesAfter [] ((numberMarks 0 (pieces sql)).flatMap Piece.chars) = numberMarks 0 (pieces sql) ↔
      isSpaced false (pieces sql) := by
    apply isCut_numberMarks_iff
    rw [IsCut, pieces, flatMap_chars_piecesAfter]
  rw [Nat.zero_add] at counted
  rw [marks_eq, ← counted, ← spaced]
  dsimp only
  rw [pieces_ofList]
  refine and_congr_right fun same => ?_
  rw [normalise, pieces_ofList, same]
  rw [Nat.max_zero] at again
  split at again
  · next few =>
      refine iff_of_true ?_ few
      cases found : numberPieces 0 0 (numberMarks 0 (pieces sql)) with
      | error cause =>
          rw [found] at again
          cases again
      | ok result =>
          rw [found] at again
          obtain rfl := Option.some.inj again
          change Except.ok _ = _
          rw [Nat.zero_max]
  · next many =>
      refine iff_of_false ?_ many
      intro normal
      obtain ⟨result, found, -⟩ := bind_ok.mp normal
      rw [found] at again
      cases again

/-- A question mark between blanks, beside a mark that has a number. -/
theorem numbered_once_iff_spaced : normalise "a = ? OR b = $2" = .ok ⟨"a = $1 OR b = $2", 2⟩ ∧
    pieces "a = $1 OR b = $2" = numberMarks 0 (pieces "a = ? OR b = $2") ∧
      normalise "a = $1 OR b = $2" = .ok ⟨"a = $1 OR b = $2", 2⟩ := by
  have normalised : normalise "a = ? OR b = $2" = .ok ⟨"a = $1 OR b = $2", 2⟩ := by decide +kernel
  have spaced : isSpaced false (pieces "a = ? OR b = $2") := by decide +kernel
  have single : (marks "a = ? OR b = $2").count ['?'] = 1 := by decide +kernel
  refine ⟨normalised, (numbered_once_iff normalised).mpr ⟨spaced, ?_⟩⟩
  rw [single]
  exact Nat.one_lt_pow (by decide) (by decide)

/-- A question mark behind a name is numbered, and the number is then part of the name. -/
theorem limit_number_unread : normalise "SELECT id FROM users LIMIT?" = .ok ⟨"SELECT id FROM users LIMIT$1", 1⟩ ∧
    normalise "SELECT id FROM users LIMIT$1" = .ok ⟨"SELECT id FROM users LIMIT$1", 0⟩ := by
  constructor <;> decide +kernel

end IndexAdvisor.Sql
