import IndexAdvisor.Sql.Placeholder
import Mathlib

/-! # Scanning in stretches

How a text is cut into pieces depends on what stands before it and on what stands after it, but on
both only by the next characters. `Scans t behind p ps` says that before the text `t` the stretch
`p` is cut into the pieces `ps`. The stretch is cut the same way before any other text, unless a
character there may be read together with the last one of the stretch.
-/

namespace IndexAdvisor.Sql

open Text

/-! ## What is read together -/

/-- Characters of names, numbers and marks. -/
def isWordChar (c : Char) : Bool := isNameChar c || isDecimalDigit c

/-- Whether the second character may be read together with the first. -/
def fuses (x y : Char) : Bool :=
  isWordChar x && isWordChar y || x = y && "-'\"".toList.contains x || x = '/' && y = '*'

/-- The end of a stretch and the text after it are not read together. -/
def Apart (p t : List Char) : Prop := ∀ x ∈ p.getLast?, ∀ y ∈ t.head?, fuses x y = false

theorem fuses_self {c : Char} (quote : c = '-' ∨ c = '\'' ∨ c = '"') : fuses c c = true := by
  rcases quote with rfl | rfl | rfl <;> decide

theorem fuses_of_word {x y : Char} (first : isWordChar x) (second : isWordChar y) :
    fuses x y = true := by
  simp [fuses, first, second]

theorem word_of_digit {c : Char} (digit : isDecimalDigit c) : isWordChar c := by
  simp [isWordChar, digit]

theorem no_digit {c : Char} (other : isWordChar c = false) : isDecimalDigit c = false :=
  (Bool.or_eq_false_iff.mp other).2

section Apart

variable {x : Char} {p q t u : List Char}

theorem Apart.of_append (apart : Apart (p ++ q) t) : Apart q t := by
  intro x last
  refine apart x ?_
  simp [List.getLast?_append, Option.mem_def.mp last]

/-- A stretch that is not empty decides what comes first. -/
theorem head?_append_eq (ne : p ≠ []) : (p ++ u).head? = (p ++ t).head? := by
  cases p with
  | nil => exact absurd rfl ne
  | cons x p => rfl

/-- No word goes on after a stretch that is one. -/
theorem Apart.no_word (apart : Apart (x :: p) u) (word : ∀ c ∈ x :: p, isWordChar c) :
    ∀ c ∈ u.head?, isWordChar c = false := by
  intro c head
  refine Bool.eq_false_iff.mpr fun goesOn => ?_
  have last := List.getLast?_eq_some_getLast (List.cons_ne_nil x p)
  have fused := fuses_of_word (word _ (List.getLast_mem (List.cons_ne_nil x p))) goesOn
  exact Bool.noConfusion ((apart _ last c head).symm.trans fused)

end Apart

/-! ## Parts of a cut -/

/-- A quoted section that ends before the end of the text ends by its quote. -/
theorem splitQuoted_cut {quote : Char} {escapes : Bool} {body t : List Char}
    (cut : splitQuoted quote escapes (body ++ t) = (body, t)) (more : t ≠ []) :
    body.getLast? = some quote ∧ t.head? ≠ some quote ∧
      ∀ u, u.head? ≠ some quote → splitQuoted quote escapes (body ++ u) = (body, u) := by
  generalize whole : body ++ t = cs at cut
  -- escaped characters and doubled quotes go on with the section, a single quote ends it
  fun_induction splitQuoted quote escapes cs generalizing body with
  | case1 => simp_all
  | case2 => simp_all
  | case3 c d rest escaped inner after split ih =>
      obtain ⟨rfl, rfl⟩ := Prod.mk.inj cut
      obtain ⟨last, first, other⟩ := ih (by simpa using whole) split
      refine ⟨by simp [List.getLast?_cons, last], first, fun u apart => ?_⟩
      simp [splitQuoted, escaped, other u apart]
  | case4 rest inner after split escaped ih =>
      obtain ⟨rfl, rfl⟩ := Prod.mk.inj cut
      obtain ⟨last, first, other⟩ := ih (by simpa using whole) split
      refine ⟨by simp [List.getLast?_cons, last], first, fun u apart => ?_⟩
      simp_all [splitQuoted]
  | case5 d rest opens escaped =>
      obtain ⟨rfl, rfl⟩ := Prod.mk.inj cut
      refine ⟨rfl, by simpa using opens, fun u apart => ?_⟩
      cases u with
      | nil => simp [splitQuoted]
      | cons e u => simp_all [splitQuoted]
  | case6 c d rest escaped opens inner after split ih =>
      obtain ⟨rfl, rfl⟩ := Prod.mk.inj cut
      obtain ⟨last, first, other⟩ := ih (by simpa using whole) split
      cases inner with
      | nil => simp at last
      | cons e inner =>
          obtain ⟨rfl, -⟩ : e = d ∧ inner ++ after = rest := by simpa using whole
          refine ⟨by simpa using last, first, fun u apart => ?_⟩
          have after := other u apart
          simp_all [splitQuoted]

/-- A section up to a stop ends by it if it ends before the end of the text. -/
theorem splitAfter_cut {stop body t : List Char} (cut : splitAfter stop (body ++ t) = (body, t))
    (more : t ≠ []) (given : stop ≠ []) :
    stop.length ≤ body.length ∧ ∀ u, splitAfter stop (body ++ u) = (body, u) := by
  generalize whole : body ++ t = cs at cut
  fun_induction splitAfter stop cs generalizing body with
  | case1 => simp_all
  | case2 c rest found =>
      obtain ⟨rfl, rfl⟩ := Prod.mk.inj cut
      refine ⟨Nat.le_refl _, fun u => ?_⟩
      cases stop with
      | nil => exact absurd rfl given
      | cons x stop => simp [splitAfter]
  | case3 c rest missed inner after split ih =>
      obtain ⟨rfl, rfl⟩ := Prod.mk.inj cut
      obtain ⟨long, other⟩ := ih (by simpa using whole) split
      refine ⟨Nat.le_succ_of_le long, fun u => ?_⟩
      have whole : inner ++ after = rest := by simpa using whole
      -- a stop that began here before another text would have been found before this one
      have missed' : stop.isPrefixOf (c :: (inner ++ u)) = false := by
        refine Bool.eq_false_iff.mpr fun found => missed ?_
        have short : stop <+: c :: inner := List.prefix_of_prefix_length_le
          (List.isPrefixOf_iff_prefix.mp found) (List.prefix_append (c :: inner) u)
          (Nat.le_succ_of_le long)
        rw [List.isPrefixOf_iff_prefix, ← whole]
        exact short.trans (List.prefix_append (c :: inner) after)
      simp [splitAfter, missed', other u]

/-- Characters between the dollar signs of a tag. -/
def isTagChar (c : Char) : Bool := c.isAlphanum || c = '_'

theorem word_of_tag {c : Char} (tag : isTagChar c) : isWordChar c := by
  simp only [isTagChar, Bool.or_eq_true] at tag
  simp only [isWordChar, isNameChar, Bool.or_eq_true, tag, true_or]

theorem no_tag {c : Char} (other : isWordChar c = false) : isTagChar c = false := by
  refine Bool.eq_false_iff.mpr fun tag => ?_
  rw [word_of_tag tag] at other
  exact nomatch other

theorem takeWhile_cut {f : Char → Bool} {body t : List Char} (inside : ∀ c ∈ body, f c)
    (stops : ∀ c ∈ t.head?, f c = false) :
    (body ++ t).takeWhile f = body ∧ (body ++ t).dropWhile f = t := by
  rw [List.takeWhile_append_of_pos inside, List.dropWhile_append_of_pos inside]
  cases t with
  | nil => simp
  | cons c t => simp [stops c rfl]

theorem takeWhile_nil_iff {f : Char → Bool} {cs : List Char} :
    cs.takeWhile f = [] ↔ ∀ c ∈ cs.head?, f c = false := by
  cases cs <;> simp [List.takeWhile_cons]

/-- A run of characters of one kind ends where another kind begins. -/
theorem while_ends {f : Char → Bool} {cs body t : List Char} (taken : cs.takeWhile f = body)
    (left : cs.dropWhile f = t) : (∀ c ∈ body, f c) ∧ ∀ c ∈ t.head?, f c = false := by
  refine ⟨fun c mem => List.mem_takeWhile_imp (taken ▸ mem), fun c head => ?_⟩
  have ends := List.head?_dropWhile_not f cs
  rw [left, Option.mem_def.mp head] at ends
  exact ends

/-- Where a stretch has a character of another kind, the text after it is not looked at. -/
theorem while_append {f : Char → Bool} {p : List Char} (stops : ¬∀ c ∈ p, f c) (t : List Char) :
    (p ++ t).takeWhile f = p.takeWhile f ∧ (p ++ t).dropWhile f = p.dropWhile f ++ t ∧
      p.dropWhile f ≠ [] := by
  have rest : p.dropWhile f ≠ [] := fun none => stops (List.dropWhile_eq_nil_iff.mp none)
  have short : (p.takeWhile f).length ≠ p.length := by
    intro same
    have cut := congrArg List.length (List.takeWhile_append_dropWhile (p := f) (l := p))
    rw [List.length_append, same] at cut
    exact rest (List.eq_nil_of_length_eq_zero (by omega))
  rw [List.takeWhile_append, List.dropWhile_append, if_neg short]
  simp [rest]

/-- A tag is a name that does not begin with a digit and has a dollar sign after it. -/
theorem dollarTag?_eq (cs : List Char) :
    dollarTag? cs = if (cs.dropWhile isTagChar).head? = some '$' ∧
        (cs.takeWhile isTagChar).head?.any Char.isDigit = false
      then some (cs.takeWhile isTagChar) else none := by
  have tagged : (fun c : Char => c.isAlphanum || decide (c = '_')) = isTagChar := rfl
  simp only [dollarTag?, tagged]
  split
  · next after dropped =>
      rw [dropped]
      cases cs.takeWhile isTagChar with
      | nil => simp
      | cons c name => cases digit : c.isDigit <;> simp [digit]
  · next other =>
      rw [if_neg]
      rintro ⟨head, -⟩
      obtain ⟨after, same⟩ := List.head?_eq_some_iff.mp head
      exact other after same

/-- A tag is read from what stands before its second dollar sign. -/
theorem dollarTag?_some {cs name : List Char} (tag : dollarTag? cs = some name) :
    ∃ rest, cs = name ++ '$' :: rest ∧ ∀ u, dollarTag? (name ++ '$' :: u) = some name := by
  rw [dollarTag?_eq] at tag
  split at tag
  · next found =>
      obtain ⟨dollar, digit⟩ := found
      obtain rfl := Option.some.inj tag
      obtain ⟨rest, same⟩ := List.head?_eq_some_iff.mp dollar
      refine ⟨rest, ?_, fun u => ?_⟩
      · rw [← same, List.takeWhile_append_dropWhile]
      · have cut : ∀ c ∈ ('$' :: u).head?, isTagChar c = false := by simp [isTagChar]
        have inside : ∀ c ∈ cs.takeWhile isTagChar, isTagChar c :=
          fun _ mem => List.mem_takeWhile_imp mem
        obtain ⟨taken, left⟩ := takeWhile_cut inside cut
        rw [dollarTag?_eq, taken, left, if_pos ⟨rfl, digit⟩]
  · exact nomatch tag

/-- No tag begins where a name ends that no tag begins with. -/
theorem dollarTag?_none {p t u : List Char} (none : dollarTag? (p ++ t) = none)
    (apart : Apart ('$' :: p) u) : dollarTag? (p ++ u) = Option.none := by
  rw [dollarTag?_eq] at none ⊢
  by_cases tag : ∀ c ∈ p, isTagChar c
  · have stops := apart.no_word (List.forall_mem_cons.mpr
      ⟨by decide, fun c mem => word_of_tag (tag c mem)⟩)
    obtain ⟨-, left⟩ := takeWhile_cut tag fun c first => no_tag (stops c first)
    rw [left, if_neg]
    rintro ⟨head, -⟩
    exact absurd (stops _ head) (by decide)
  · obtain ⟨taken, left, more⟩ := while_append tag t
    obtain ⟨taken', left', -⟩ := while_append tag u
    rw [taken, left, head?_append_eq more] at none
    rw [taken', left']
    exact none

/-! ## Pieces -/

/-- What the text before a piece tells of it: whether a name ends there, and whether a mark of
    escapes does. -/
def contextOf (behind : List Char) : Bool × Bool :=
  (behind.head?.any isNameChar,
    (behind.head? = some 'e' || behind.head? = some 'E') && !(behind.drop 1).head?.any isNameChar)

/-- Only a dollar sign asks for the name before it, and only a quote for the escapes. -/
theorem firstPiece_agree {behind other : List Char} {c : Char}
    (names : c = '$' → (contextOf behind).1 = (contextOf other).1)
    (escapes : c = '\'' → (contextOf behind).2 = (contextOf other).2) (rest : List Char) :
    firstPiece behind c rest = firstPiece other c rest := by
  simp only [contextOf] at names escapes
  by_cases quote : c = '\''
  · simp only [firstPiece, quote, escapes quote]
    rfl
  · by_cases dollar : c = '$'
    · simp only [firstPiece, dollar, names dollar]
      rfl
    · simp [firstPiece, quote, dollar]

theorem firstPiece_congr {behind other : List Char} (same : contextOf behind = contextOf other)
    (c : Char) (rest : List Char) : firstPiece behind c rest = firstPiece other c rest :=
  firstPiece_agree (fun _ => congrArg Prod.fst same) (fun _ => congrArg Prod.snd same) rest

theorem contextOf_append {behind other : List Char} (same : contextOf behind = contextOf other)
    (p : List Char) : contextOf (p ++ behind) = contextOf (p ++ other) := by
  cases p with
  | nil => exact same
  | cons c p =>
      cases p with
      | nil =>
          have name := (Prod.mk.inj same).1
          simp [contextOf, name]
      | cons d p => rfl

section Forms

variable (behind : List Char) (rest : List Char)

theorem firstPiece_quote : firstPiece behind '\'' rest =
    let cut := splitQuoted '\'' (contextOf behind).2 rest
    (.copied ('\'' :: cut.1), cut.2) := rfl

theorem firstPiece_name : firstPiece behind '"' rest =
    let cut := splitQuoted '"' false rest
    (.copied ('"' :: cut.1), cut.2) := rfl

theorem firstPiece_dash : firstPiece behind '-' rest =
    if rest.head? = some '-' then
      (.copied ('-' :: rest.takeWhile (· ≠ '\n')), rest.dropWhile (· ≠ '\n'))
    else (.copied ['-'], rest) := by
  simp [firstPiece]

theorem firstPiece_slash : firstPiece behind '/' rest =
    if rest.head? = some '*' then
      (.copied ('/' :: (rest.take 1 ++ (splitAfter ['*', '/'] rest.tail).1)),
        (splitAfter ['*', '/'] rest.tail).2)
    else (.copied ['/'], rest) := by
  simp [firstPiece]

theorem firstPiece_dollar : firstPiece behind '$' rest =
    if behind.head?.any isNameChar then (.copied ['$'], rest)
    else if rest.takeWhile isDecimalDigit ≠ [] then
      (.mark ('$' :: rest.takeWhile isDecimalDigit), rest.dropWhile isDecimalDigit)
    else match dollarTag? rest with
      | some name =>
        let cut := splitAfter ('$' :: name ++ ['$']) (rest.drop (name.length + 1))
        (.copied ('$' :: (rest.take (name.length + 1) ++ cut.1)), cut.2)
      | none => (.copied ['$'], rest) := by
  cases name : behind.head?.any isNameChar
  · simp only [firstPiece, name]
    cases rest.takeWhile isDecimalDigit <;> rfl
  · simp only [firstPiece, name]
    rfl

/-- Characters of a kind that no beginning of a piece has begin none. -/
theorem plain_of_kind {f : Char → Bool} {c : Char} (special : "'\"-/$".toList.any f = false)
    (kind : f c) : c ∉ "'\"-/$".toList := by
  intro mem
  exact List.any_eq_false.mp special c mem kind

theorem firstPiece_plain {c : Char} (plain : c ∉ "'\"-/$".toList) : firstPiece behind c rest =
    (if c = '?' then .mark [c] else .copied [c], rest) := by
  simp at plain
  simp [firstPiece, plain]
  split <;> rfl

end Forms

section Cut

variable {behind body p t u : List Char} {c : Char} {piece : Piece}

theorem chars_of_cut (cut : firstPiece behind c (body ++ t) = (piece, t)) : piece.chars = c :: body := by
  have whole := firstPiece_append behind c (body ++ t)
  rw [cut, ← List.cons_append] at whole
  exact List.append_cancel_right whole

/-- Two texts tell the same of where the piece before them ends. -/
structure EndsAlike (piece t u : List Char) : Prop where
  nothing : t = [] → u = []
  closing : ∀ x ∈ "-'\"".toList, piece.getLast? = some x → t.head? ≠ some x → u.head? ≠ some x
  comment : piece = ['/'] → t.head? ≠ some '*' → u.head? ≠ some '*'
  line : (∀ d ∈ t.head?, d = '\n') → ∀ d ∈ u.head?, d = '\n'
  digits : (∀ x ∈ piece, isWordChar x) → (∀ d ∈ t.head?, isDecimalDigit d = false) →
    ∀ d ∈ u.head?, isDecimalDigit d = false
  tag : piece = ['$'] → dollarTag? t = none → dollarTag? u = none

theorem cut_quoted {quote : Char} {escapes : Bool} (fused : quote ∈ "-'\"".toList)
    (cut : splitQuoted quote escapes (body ++ t) = (body, t)) (more : t ≠ [])
    (alike : EndsAlike (quote :: body) t u) : splitQuoted quote escapes (body ++ u) = (body, u) := by
  obtain ⟨last, first, before⟩ := splitQuoted_cut cut more
  exact before u (alike.closing quote fused (by simp [List.getLast?_cons, last]) first)

theorem cut_dash (cut : firstPiece behind '-' (body ++ t) = (piece, t)) (alike : EndsAlike ('-' :: body) t u) :
    firstPiece behind '-' (body ++ u) = (piece, u) := by
  have chars := chars_of_cut cut
  rw [firstPiece_dash] at cut ⊢
  split at cut
  · next head =>
      obtain ⟨rfl, rest⟩ := Prod.mk.inj cut
      have inner := (List.cons.inj chars).2
      obtain ⟨inside, ends⟩ := while_ends inner rest
      have line := alike.line fun d first => by simpa using ends d first
      obtain ⟨taken, left⟩ := takeWhile_cut inside fun d first => by simp [line d first]
      cases body with
      | nil =>
          obtain ⟨after, same⟩ := List.head?_eq_some_iff.mp head
          simp [same] at inner
      | cons y body =>
          have head : (y :: body ++ u).head? = some '-' := head
          rw [if_pos head, taken, left, inner]
  · next head =>
      obtain ⟨rfl, rest⟩ := Prod.mk.inj cut
      obtain rfl : body = [] := List.append_left_eq_self.mp rest
      rw [List.nil_append, if_neg (alike.closing '-' (by decide) rfl head)]

/-- A comment ends by its last two characters. -/
theorem cut_slash (cut : firstPiece behind '/' (body ++ t) = (piece, t)) (more : t ≠ [])
    (alike : EndsAlike ('/' :: body) t u) : firstPiece behind '/' (body ++ u) = (piece, u) := by
  have chars := chars_of_cut cut
  rw [firstPiece_slash] at cut ⊢
  split at cut
  · next head =>
      obtain ⟨rfl, rest⟩ := Prod.mk.inj cut
      have inner := (List.cons.inj chars).2
      cases body with
      | nil =>
          obtain ⟨after, same⟩ := List.head?_eq_some_iff.mp head
          simp [same] at inner
      | cons y body =>
          have closes : splitAfter ['*', '/'] (body ++ t) = (body, t) := Prod.ext (List.cons.inj inner).2 rest
          obtain ⟨-, before⟩ := splitAfter_cut closes more (by simp)
          have head : (y :: body ++ u).head? = some '*' := head
          rw [if_pos head]
          simp [before u, closes]
  · next head =>
      obtain ⟨rfl, rest⟩ := Prod.mk.inj cut
      obtain rfl : body = [] := List.append_left_eq_self.mp rest
      rw [List.nil_append, if_neg (alike.comment rfl head)]

/-- A dollar-quoted text ends by its tag, whatever comes after it. -/
theorem cut_tagged {name : List Char} (cut : firstPiece behind '$' (body ++ t) = (piece, t)) (more : t ≠ [])
    (unnamed : ¬behind.head?.any isNameChar) (digits : (body ++ t).takeWhile isDecimalDigit = [])
    (tag : dollarTag? (body ++ t) = some name) : firstPiece behind '$' (body ++ u) = (piece, u) := by
  have chars := chars_of_cut cut
  rw [firstPiece_dollar, if_neg unnamed, if_neg (not_not_intro digits), tag] at cut
  rw [takeWhile_nil_iff] at digits
  obtain ⟨after, whole, tagged⟩ := dollarTag?_some tag
  have parts (after : List Char) : (name ++ '$' :: after).take (name.length + 1) = name ++ ['$'] ∧
      (name ++ '$' :: after).drop (name.length + 1) = after := by
    rw [List.append_cons]
    exact ⟨List.take_left' (by simp), List.drop_left' (by simp)⟩
  rw [whole] at cut
  dsimp only at cut
  rw [(parts after).1, (parts after).2] at cut
  obtain ⟨rfl, rest⟩ := Prod.mk.inj cut
  have inner := (List.cons.inj chars).2
  obtain ⟨found, closes⟩ : ∃ found, splitAfter ('$' :: name ++ ['$']) after = (found, t) :=
    ⟨_, Prod.ext rfl rest⟩
  have split := splitAfter_append ('$' :: name ++ ['$']) after
  rw [closes] at inner split
  rw [← split] at closes
  obtain ⟨-, before⟩ := splitAfter_cut closes more (List.cons_ne_nil '$' (name ++ ['$']))
  have same : (body ++ u).head? = (body ++ t).head? := head?_append_eq (by simp [← inner])
  have whole : body ++ u = name ++ '$' :: (found ++ u) := by simp [← inner]
  rw [firstPiece_dollar, if_neg unnamed, if_neg (not_not_intro (takeWhile_nil_iff.mpr (same ▸ digits))), whole,
    tagged]
  dsimp only at before closes ⊢
  rw [(parts _).1, (parts _).2, before, ← split, closes]

theorem cut_dollar (cut : firstPiece behind '$' (body ++ t) = (piece, t)) (more : t ≠ [])
    (alike : EndsAlike ('$' :: body) t u) : firstPiece behind '$' (body ++ u) = (piece, u) := by
  have chars := chars_of_cut cut
  have given := cut
  rw [firstPiece_dollar] at cut ⊢
  split at cut
  · next name =>
      obtain ⟨rfl, rest⟩ := Prod.mk.inj cut
      obtain rfl : body = [] := List.append_left_eq_self.mp rest
      rw [if_pos name]
      rfl
  next unnamed =>
  rw [if_neg unnamed]
  split at cut
  · next digits =>
      obtain ⟨rfl, rest⟩ := Prod.mk.inj cut
      have inner := (List.cons.inj chars).2
      obtain ⟨inside, ends⟩ := while_ends inner rest
      have word : ∀ x ∈ '$' :: body, isWordChar x :=
        List.forall_mem_cons.mpr ⟨by decide, fun x mem => word_of_digit (inside x mem)⟩
      obtain ⟨taken, left⟩ := takeWhile_cut inside (alike.digits word ends)
      rw [taken, left, if_pos (inner ▸ digits), inner]
  next digits =>
  rw [not_not] at digits
  split at cut
  · next name tag =>
      have tagged := cut_tagged (u := u) given more unnamed digits tag
      rwa [firstPiece_dollar, if_neg unnamed] at tagged
  · next tag =>
      obtain ⟨rfl, rest⟩ := Prod.mk.inj cut
      obtain rfl : body = [] := List.append_left_eq_self.mp rest
      rw [List.nil_append] at tag digits ⊢
      have ends := alike.digits (List.forall_mem_singleton.mpr (by decide)) (takeWhile_nil_iff.mp digits)
      rw [if_neg (not_not_intro (takeWhile_nil_iff.mpr ends)), alike.tag rfl tag]

/-- A piece is cut the same way before texts that tell the same of its end. -/
theorem firstPiece_alike (cut : firstPiece behind c (body ++ t) = (piece, t))
    (alike : EndsAlike (c :: body) t u) : firstPiece behind c (body ++ u) = (piece, u) := by
  by_cases none : t = []
  · obtain rfl := alike.nothing none
    rwa [none] at cut
  have chars := chars_of_cut cut
  by_cases plain : c ∈ "'\"-/$".toList
  · have forms : c = '\'' ∨ c = '"' ∨ c = '-' ∨ c = '/' ∨ c = '$' := by simpa using plain
    rcases forms with rfl | rfl | rfl | rfl | rfl
    · rw [firstPiece_quote] at cut ⊢
      obtain ⟨rfl, rest⟩ := Prod.mk.inj cut
      have inner := (List.cons.inj chars).2
      rw [cut_quoted (by decide) (Prod.ext inner rest) none alike, inner]
    · rw [firstPiece_name] at cut ⊢
      obtain ⟨rfl, rest⟩ := Prod.mk.inj cut
      have inner := (List.cons.inj chars).2
      rw [cut_quoted (by decide) (Prod.ext inner rest) none alike, inner]
    · exact cut_dash cut alike
    · exact cut_slash cut none alike
    · exact cut_dollar cut none alike
  · rw [firstPiece_plain behind _ plain] at cut ⊢
    obtain ⟨rfl, rest⟩ := Prod.mk.inj cut
    obtain rfl : body = [] := List.append_left_eq_self.mp rest
    rfl

/-- What comes after a stretch that is apart tells nothing of the pieces before the stretch. -/
theorem endsAlike_of_apart (line : ∃ d ∈ t.head?, d ≠ '\n') (apart : Apart (c :: (body ++ p)) u) :
    EndsAlike (c :: body) (p ++ t) (p ++ u) := by
  cases p with
  | cons y p =>
      refine ⟨nofun, fun _ _ _ first => first, fun _ first => first, fun first => first, fun _ first => first,
        fun single none => ?_⟩
      obtain ⟨rfl, rfl⟩ := List.cons.inj single
      exact dollarTag?_none none apart
  | nil =>
      obtain ⟨d, head, other⟩ := line
      rw [List.append_nil] at apart
      have strange {x y : Char} (last : (c :: body).getLast? = some x) (fused : fuses x y) :
          ([] ++ u).head? ≠ some y := fun first => Bool.noConfusion ((apart x last y first).symm.trans fused)
      refine ⟨?_, fun x quote last _ => strange last (fuses_self (by simpa using quote)),
        fun slash _ => strange (x := '/') (by rw [slash]; rfl) (by decide), fun ends => absurd (ends d head) other,
        fun word _ e first => no_digit (apart.no_word word e first), fun single none => ?_⟩
      · rintro rfl
        exact nomatch head
      · obtain ⟨rfl, rfl⟩ := List.cons.inj single
        exact dollarTag?_none none apart

/-- A piece that ends before the text `t`, perhaps with the stretch `p` between, is cut the same way
    before every text that is apart. -/
theorem firstPiece_cut (cut : firstPiece behind c (body ++ (p ++ t)) = (piece, p ++ t))
    (line : ∃ d ∈ t.head?, d ≠ '\n') (apart : Apart (c :: (body ++ p)) u) :
    firstPiece behind c (body ++ (p ++ u)) = (piece, p ++ u) :=
  firstPiece_alike cut (endsAlike_of_apart line apart)

end Cut

/-! ## Stretches -/

/-- Behind the text `behind` and before the text `t`, a stretch is cut into the pieces `ps`. -/
inductive Scans (t : List Char) : List Char → List Char → List Piece → Prop
  | nil {behind} : Scans t behind [] []
  | cons {behind body p piece ps c} :
    firstPiece behind c (body ++ (p ++ t)) = (piece, p ++ t) →
      Scans t (body.reverse ++ c :: behind) p ps → Scans t behind (c :: (body ++ p)) (piece :: ps)

namespace Scans

variable {t u behind other p : List Char} {ps qs : List Piece}

theorem pieces (scans : Scans t behind p ps) :
    piecesAfter behind (p ++ t) = ps ++ piecesAfter (p.reverse ++ behind) t := by
  induction scans with
  | nil => rfl
  | cons cut _ ih =>
      rw [List.cons_append, List.append_assoc, piecesAfter, cut]
      dsimp only
      rw [chars_of_cut cut]
      simp [ih]

/-- The pieces that a text begins with are those of a stretch. -/
theorem of_pieces (cut : piecesAfter behind (p ++ t) = ps ++ qs)
    (chars : ps.flatMap Piece.chars = p) : Scans t behind p ps := by
  induction ps generalizing behind p with
  | nil =>
      obtain rfl : [] = p := chars
      exact .nil
  | cons piece ps ih =>
      subst chars
      rw [List.flatMap_cons] at cut ⊢
      cases text : piece.chars with
      | nil =>
          cases all : ps.flatMap Piece.chars ++ t with
          | nil => simp [text, all, piecesAfter] at cut
          | cons c rest =>
              rw [text, List.nil_append, all, piecesAfter] at cut
              exact absurd ((List.cons.inj cut).1 ▸ text) (firstPiece_ne_nil behind c rest)
      | cons c body =>
          rw [text, List.cons_append, List.cons_append, List.append_assoc, piecesAfter] at cut
          obtain ⟨first, rest⟩ := List.cons.inj cut
          have whole := firstPiece_append behind c (body ++ (ps.flatMap Piece.chars ++ t))
          rw [first, text, List.cons_append] at whole
          have after := List.append_cancel_left (List.cons.inj whole).2
          refine .cons (Prod.ext first after) (ih ?_ rfl)
          rw [first, text, after] at rest
          simpa using rest

/-- A stretch is cut the same way before every text that is apart from it. -/
theorem before (scans : Scans t behind p ps) (line : ∃ d ∈ t.head?, d ≠ '\n') (apart : Apart p u) :
    Scans u behind p ps := by
  induction scans with
  | nil => exact .nil
  | @cons behind body p piece ps c cut rest ih =>
      refine .cons (firstPiece_cut cut line apart) (ih ?_)
      exact Apart.of_append (p := c :: body) apart

/-- A stretch is cut the same way behind every text that tells the same of it. -/
theorem behind_congr (same : contextOf behind = contextOf other) (scans : Scans t behind p ps) :
    Scans t other p ps := by
  induction scans generalizing other with
  | nil => exact .nil
  | cons cut _ ih =>
      refine .cons (firstPiece_congr same _ _ ▸ cut) (ih ?_)
      rw [List.append_cons, List.append_cons _ _ other]
      exact contextOf_append same _

theorem append {q : List Char} (first : Scans (q ++ t) behind p ps)
    (second : Scans t (p.reverse ++ behind) q qs) : Scans t behind (p ++ q) (ps ++ qs) := by
  induction first with
  | nil => exact second
  | cons cut _ ih =>
      rw [List.cons_append, List.append_assoc]
      refine .cons (by rwa [List.append_assoc]) (ih ?_)
      simpa using second

end Scans

end IndexAdvisor.Sql
