import IndexAdvisor.Proofs.Sql.Settled
import IndexAdvisor.Sql.Printed
import IndexAdvisor.Sql.Token

/-! # Segments between line ends

A statement that is put together of whole segments, each beginning on a line of its own, is cut at
the line ends again: a quoted segment ends by its own quote, a comment by its own end and a dollar
quoted text by its own delimiter, whatever they hold. So exactly the placeholders among the segments
are replaced, one after the other, and all else is copied. Only the letters of ASCII are known in the
delimiter of a dollar quoted text, which by the grammar may hold others.
-/

namespace IndexAdvisor.Sql

open Text (isDecimalDigit)

/-! ## Replacing marks one after the other -/

section Rewritten

variable {m : Type → Type} [Monad m]

/-- The text of pieces whose marks are replaced in turn; a replacement may depend on those before it
    and may fail. -/
def rewritten (f : List Char → m (List Char)) : List Piece → m (List Char)
  | [] => pure []
  | .copied cs :: rest => do return cs ++ (← rewritten f rest)
  | .mark cs :: rest => do return (← f cs) ++ (← rewritten f rest)

theorem mapMarks_eq (f : List Char → List Char) (ps : List Piece) :
    mapMarks f ps = (rewritten (m := Id) f ps).run := by
  induction ps with
  | nil => rfl
  | cons p ps ih =>
      cases p with
      | copied cs => exact congrArg (cs ++ ·) ih
      | mark cs => exact congrArg (f cs ++ ·) ih

theorem substitutePieces_eq (literals : List (Nat × String)) (ps : List Piece) :
    substitutePieces literals ps = rewritten (fun mark => String.toList <$> literalFor literals mark) ps := by
  induction ps with
  | nil => rfl
  | cons p ps ih =>
      cases p with
      | copied cs => rw [substitutePieces, rewritten, ih]
      | mark cs =>
          rw [substitutePieces, rewritten, ih]
          cases literalFor literals cs <;> rfl

/-- What numbering puts in the place of a mark, given the counts so far. -/
def numberMark (mark : List Char) : StateT (Nat × Nat) (Except Number.WholeError) (List Char) :=
  fun (count, highest) =>
    if mark = ['?'] then .ok ('$' :: (toString (count + 1)).toList, count + 1, highest)
    else (markNumber mark).map fun n => (mark, count, max highest n)

theorem numberPieces_eq (count highest : Nat) (ps : List Piece) :
    numberPieces count highest ps = (rewritten numberMark ps).run (count, highest) := by
  induction ps generalizing count highest with
  | nil => rfl
  | cons p ps ih =>
      cases p with
      | copied cs =>
          rw [numberPieces, ih]
          rfl
      | mark cs =>
          rw [numberPieces]
          split
          · next question =>
              rw [ih]
              subst question
              rfl
          · next other =>
              have marked : (numberMark cs).run (count, highest)
                  = (markNumber cs).map fun n => (cs, count, max highest n) := if_neg other
              rw [rewritten, StateT.run_bind, marked]
              cases markNumber cs with
              | error e => rfl
              | ok n =>
                  change (numberPieces count (max highest n) ps >>= _) = _
                  rw [ih]
                  rfl

variable [LawfulMonad m]

theorem rewritten_append (f : List Char → m (List Char)) (ps qs : List Piece) :
    rewritten f (ps ++ qs) = do return (← rewritten f ps) ++ (← rewritten f qs) := by
  induction ps with
  | nil => simp [rewritten]
  | cons p ps ih =>
      cases p with
      | copied cs => simp [rewritten, ih, ← List.append_assoc]
      | mark cs => simp [rewritten, ih, ← List.append_assoc]

/-- Pieces without marks are copied. -/
theorem rewritten_copied (f : List Char → m (List Char)) {ps : List Piece} (copied : marksIn ps = []) :
    rewritten f ps = pure (ps.flatMap Piece.chars) := by
  induction ps with
  | nil => rfl
  | cons p ps ih =>
      cases p with
      | copied cs => simp [rewritten, ih copied, Piece.chars]
      | mark cs => exact absurd copied (List.cons_ne_nil cs _)

end Rewritten

/-- A stretch is the text of its pieces. -/
theorem Scans.chars {t behind p : List Char} {ps : List Piece} (scans : Scans t behind p ps) :
    ps.flatMap Piece.chars = p := by
  have whole := congrArg (List.flatMap Piece.chars) scans.pieces
  rw [List.flatMap_append, flatMap_chars_piecesAfter, flatMap_chars_piecesAfter] at whole
  exact (List.append_cancel_right whole).symm

/-! ## Where a section ends -/

section Sections

variable {p t stop : List Char}

/-- The stop comes for the first time where the text ends. -/
def EndsBy (stop body : List Char) : Prop :=
  ∀ before after, body ++ stop = before ++ (stop ++ after) → after = []

theorem EndsBy.splitAfter (ends : EndsBy stop p) (given : stop ≠ []) :
    splitAfter stop (p ++ (stop ++ t)) = (p ++ stop, t) := by
  induction p with
  | nil =>
      cases stop with
      | nil => exact absurd rfl given
      | cons x stop => simp [Sql.splitAfter]
  | cons c p ih =>
      have later : EndsBy stop p := fun before after same =>
        ends (c :: before) after (congrArg (c :: ·) same)
      -- a stop that began here would come before the one at the end
      have missed : ¬stop <+: c :: (p ++ (stop ++ t)) := by
        intro found
        have short : stop <+: c :: (p ++ stop) := by
          refine List.prefix_of_prefix_length_le found ⟨t, by simp⟩ ?_
          simp only [List.length_cons, List.length_append]
          omega
        obtain ⟨after, whole⟩ := short
        obtain rfl := ends [] after whole.symm
        have lengths := congrArg List.length whole
        simp only [List.length_cons, List.length_append, List.length_nil] at lengths
        omega
      rw [List.cons_append, Sql.splitAfter, if_neg (mt List.isPrefixOf_iff_prefix.mp missed), ih later]
      rfl

/-- A text without a stop of two different characters has it first where it is put behind. -/
theorem endsBy_of_absent {x y : Char} (other : x ≠ y) (absent : ¬[x, y] <:+: p) : EndsBy [x, y] p := by
  intro before after whole
  rcases List.eq_nil_or_concat after with none | ⟨after, last, rfl⟩
  · exact none
  have whole : p ++ [x] ++ [y] = before ++ [x, y] ++ after ++ [last] := by simpa using whole
  have whole := (List.append_inj' whole rfl).1
  rcases List.eq_nil_or_concat after with rfl | ⟨after, last, rfl⟩
  · have whole : p ++ [x] = before ++ [x] ++ [y] := by simpa using whole
    exact absurd (List.singleton_inj.mp (List.append_inj' whole rfl).2) other
  · have whole : p ++ [x] = before ++ [x, y] ++ after ++ [last] := by simpa using whole
    exact absurd ⟨before, after, (List.append_inj' whole rfl).1.symm⟩ absent

/-- A text in which the stop cannot begin. -/
theorem endsBy_of_not_mem {x : Char} (strange : x ∉ p) : EndsBy (x :: stop) p := by
  intro before after whole
  rcases List.append_eq_append_iff.mp whole with ⟨more, rfl, same⟩ | ⟨more, rfl, same⟩
  · have lengths := congrArg List.length same
    simp only [List.length_append, List.length_cons] at lengths
    exact List.eq_nil_of_length_eq_zero (by omega)
  · cases more with
    | nil => simpa using same
    | cons y more =>
        obtain ⟨rfl, -⟩ := List.cons.inj same
        exact absurd (List.mem_append_right before List.mem_cons_self) strange

end Sections

/-! ## Segments -/

/-- A part of a text in which a backslash takes away the meaning of the character behind it. -/
inductive Escaped
  | plain (c : Char) (other : c ≠ '\\')
  | escape (c : Char)

/-- The characters of the part; a quote without backslash is doubled. -/
def Escaped.chars : Escaped → List Char
  | .plain c _ => if c = '\'' then ['\'', '\''] else [c]
  | .escape c => ['\\', c]

theorem inside_escaped (content : List Escaped) :
    Inside '\'' true (content.flatMap Escaped.chars) := by
  induction content with
  | nil => exact .nil
  | cons part content ih =>
      rw [List.flatMap_cons]
      cases part with
      | plain c other =>
          rw [Escaped.chars]
          split
          · exact .doubled ih
          · next unquoted => exact .plain unquoted (fun both => other both.2) ih
      | escape c => exact .escape rfl ih

/-- Text in which nothing begins a quoted text, a comment or a mark. -/
structure IsPlain (text : List Char) : Prop where
  chars : ∀ c ∈ text, c ∉ "'\"$?".toList
  dashes : ¬['-', '-'] <:+: text
  comment : ¬['/', '*'] <:+: text

/-- The delimiter of a dollar quoted text. -/
def delimiter (tag : List Char) : List Char := '$' :: (tag ++ ['$'])

/-- A tag is empty or a name without dollar signs. -/
structure IsTag (tag : List Char) : Prop where
  first : tag.head?.all startsName
  later : ∀ c ∈ tag, startsName c ∨ c.isDigit

/-- A whole part of a statement. -/
inductive Segment
  | plain (text : List Char) (plain : IsPlain text)
  /-- A name, in which dollar signs may stand. -/
  | name (first : Char) (rest : List Char) (begins : first.isAlpha ∨ first = '_')
      (goesOn : ∀ c ∈ rest, isNameChar c)
  | text (content : String)
  /-- A text with escapes, behind a mark in capital or small letter. -/
  | escaped (capital : Bool) (content : List Escaped)
  | quotedName (content : String)
  | line (comment : List Char) (inside : '\n' ∉ comment)
  | block (comment : List Char) (ends : ¬['*', '/'] <:+: comment) (flat : ¬['/', '*'] <:+: comment)
  | dollar (tag body : List Char) (named : IsTag tag) (ends : EndsBy (delimiter tag) body)
  | question
  | parameter (number : List Char) (given : number ≠ []) (digits : ∀ c ∈ number, isDecimalDigit c)

namespace Segment

def chars : Segment → List Char
  | .plain cs _ => cs
  | .name first rest .. => first :: rest
  | .text content => (Printed.quotedBy '\'' content).toList
  | .escaped capital content =>
    (if capital then 'E' else 'e') :: '\'' :: (content.flatMap Escaped.chars ++ ['\''])
  | .quotedName content => (Printed.quotedBy '"' content).toList
  | .line comment _ => '-' :: '-' :: comment
  | .block comment .. => '/' :: '*' :: (comment ++ ['*', '/'])
  | .dollar tag body .. => delimiter tag ++ (body ++ delimiter tag)
  | .question => ['?']
  | .parameter number .. => '$' :: number

def isMark : Segment → Bool
  | .question | .parameter .. => true
  | _ => false

/-- Only letters of ASCII stand in a tag. -/
def HasAsciiTag : Segment → Prop
  | .dollar tag .. => ∀ c ∈ tag, c.toNat < 0x80
  | _ => True

/-- Segments, each on a line of its own. -/
def join (texts : List (List Char)) : List Char := ['\n'].intercalate texts

def statement (segments : List Segment) : String := .ofList (join (segments.map chars))

/-- The text of a segment if marks are replaced. -/
def replaced {m : Type → Type} [Monad m] (f : List Char → m (List Char)) (s : Segment) :
    m (List Char) :=
  if s.isMark then f s.chars else pure s.chars

/-! ## Pieces of segments -/

/-- A segment ends where the statement does, or before the end of a line. -/
def Ends (t : List Char) : Prop := t.head?.all (· = '\n')

/-- No name goes on behind the text. -/
def Fresh (behind : List Char) : Prop := behind.head?.any isNameChar = false

section Pieces

variable {t behind : List Char} {c : Char}

theorem Ends.first (ends : Ends t) : ∀ d ∈ t.head?, d = '\n' := by
  intro d head
  rw [Ends, Option.mem_def.mp head] at ends
  exact of_decide_eq_true ends

theorem Ends.ne (ends : Ends t) {d : Char} (other : d ≠ '\n') : t.head? ≠ some d :=
  fun head => other (ends.first d head)

/-- A mark of escapes is the end of a name. -/
theorem Fresh.unescaped (fresh : Fresh behind) : (contextOf behind).2 = false := by
  cases behind with
  | nil => rfl
  | cons d behind =>
      have other : isNameChar d = false := fresh
      have small : d ≠ 'e' := fun same => by simp [same, isNameChar] at other
      have capital : d ≠ 'E' := fun same => by simp [same, isNameChar] at other
      simp [contextOf, small, capital]

theorem head?_apart {p : List Char} {d e : Char} (apart : ¬[d, e] <:+: d :: p) : p.head? ≠ some e := by
  intro head
  obtain ⟨rest, rfl⟩ := List.head?_eq_some_iff.mp head
  exact apart ⟨[], rest, rfl⟩

theorem copies_plain {text : List Char} (plain : IsPlain text) (ends : Ends t) : Copies t behind text := by
  induction text generalizing behind with
  | nil => exact copies_nil
  | cons c text ih =>
      obtain ⟨here, later⟩ := List.forall_mem_cons.mp plain.chars
      have rest : IsPlain text :=
        ⟨later, fun dashes => plain.dashes (dashes.trans (List.suffix_cons c text).isInfix),
          fun comment => plain.comment (comment.trans (List.suffix_cons c text).isInfix)⟩
      refine copies_cons ?_ (ih rest)
      by_cases dash : c = '-'
      · subst dash
        rw [firstPiece_dash, if_neg (head?_append_ne (head?_apart plain.dashes) (ends.ne (by decide)))]
      by_cases slash : c = '/'
      · subst slash
        rw [firstPiece_slash, if_neg (head?_append_ne (head?_apart plain.comment) (ends.ne (by decide)))]
      · have quiet : c ∉ "'\"-/$".toList ∧ c ≠ '?' := by simp_all
        rw [firstPiece_plain _ _ quiet.1, if_neg quiet.2]

/-- Behind a character of a name all characters of a name are pieces of their own, dollar signs too. -/
theorem copies_nameChars {rest : List Char} (goesOn : ∀ c ∈ rest, isNameChar c)
    (inside : behind.head?.any isNameChar) : Copies t behind rest := by
  induction rest generalizing behind with
  | nil => exact copies_nil
  | cons c rest ih =>
      obtain ⟨here, later⟩ := List.forall_mem_cons.mp goesOn
      refine copies_cons ?_ (ih later here)
      by_cases dollar : c = '$'
      · subst dollar
        rw [firstPiece_dollar, if_pos inside]
      · have other (d : Char) (strange : isNameChar d = false) : c ≠ d := by
          rintro rfl
          exact Bool.noConfusion (here.symm.trans strange)
        have quiet : c ∉ "'\"-/$".toList := by
          simp [dollar, other '\'' (by decide), other '"' (by decide), other '-' (by decide),
            other '/' (by decide)]
        rw [firstPiece_plain _ _ quiet, if_neg (other '?' (by decide))]

theorem copies_name {first : Char} {rest : List Char} (begins : first.isAlpha ∨ first = '_')
    (goesOn : ∀ c ∈ rest, isNameChar c) : Copies t behind (first :: rest) := by
  have name : isNameChar first := by
    rcases begins with letter | rfl
    · simp [isNameChar, Char.isAlphanum, letter]
    · decide
  have other (d : Char) (strange : (d.isAlpha || d = '_') = false) : first ≠ d := by
    rintro rfl
    simp_all
  have quiet : first ∉ "'\"-/$".toList := by
    simp [other '\'' (by decide), other '"' (by decide), other '-' (by decide), other '/' (by decide),
      other '$' (by decide)]
  refine copies_cons ?_ (copies_nameChars goesOn (by simpa using name))
  rw [firstPiece_plain _ _ quiet, if_neg (other '?' (by decide))]

theorem copies_quotedBy {quote : Char} (content : String) (kind : quote = '\'' ∨ quote = '"')
    (fresh : Fresh behind) (ends : Ends t) : Copies t behind (Printed.quotedBy quote content).toList := by
  have apart : quote ≠ '\n' := by
    rcases kind with rfl | rfl <;> decide
  rw [Printed.quotedBy, String.toList_ofList]
  refine copies_section (inside_doubled content.toList) ?_ (ends.ne apart)
  exact kind.imp (fun same => ⟨same, fresh.unescaped.symm⟩) fun same => ⟨same, rfl⟩

theorem copies_escaped (capital : Bool) (content : List Escaped) (fresh : Fresh behind) (ends : Ends t) :
    Copies t behind (escaped capital content).chars := by
  refine copies_cons (c := if capital then 'E' else 'e') ?_ ?_
  · cases capital <;> rw [firstPiece_plain _ _ (by decide)] <;> rfl
  · refine copies_section (inside_escaped content) (.inl ⟨rfl, ?_⟩) (ends.ne (by decide))
    have apart : behind.head?.any isNameChar = false := fresh
    cases capital <;> simp [contextOf, apart]

theorem copies_line {comment : List Char} (inside : '\n' ∉ comment) (ends : Ends t) :
    Copies t behind ('-' :: '-' :: comment) := by
  have line : ∀ d ∈ '-' :: comment, decide (d ≠ '\n') :=
    List.forall_mem_cons.mpr ⟨by decide, fun d mem => decide_eq_true fun same => inside (same ▸ mem)⟩
  obtain ⟨taken, left⟩ := takeWhile_cut line (t := t) fun d head => by simp [ends.first d head]
  refine copies_single ?_
  rw [firstPiece_dash, taken, left]
  exact if_pos rfl

theorem copies_block {comment : List Char} (absent : ¬['*', '/'] <:+: comment) :
    Copies t behind ('/' :: '*' :: (comment ++ ['*', '/'])) := by
  have ends := (endsBy_of_absent (by decide) absent).splitAfter (t := t) (List.cons_ne_nil _ _)
  have cut : splitAfter ['*', '/'] (comment ++ ['*', '/'] ++ t) = (comment ++ ['*', '/'], t) := by
    rw [List.append_assoc, ends]
  refine copies_single ?_
  simp only [firstPiece_slash, List.cons_append, List.tail_cons, cut]
  exact if_pos rfl

/-- A letter or a line, but no digit, begins a tag. -/
theorem tag_first {tag : List Char} (named : IsTag tag) (ascii : ∀ c ∈ tag, c.toNat < 0x80) :
    tag.head?.any Char.isDigit = false := by
  cases tag with
  | nil => rfl
  | cons c tag =>
      have small := ascii c List.mem_cons_self
      have first : startsName c := named.first
      simp only [startsName, Bool.or_eq_true, decide_eq_true_eq, Nat.not_le.mpr small, or_false] at first
      rcases first with letter | rfl
      · simp only [Char.isAlpha, Char.isUpper, Char.isLower] at letter
        simp only [List.head?_cons, Option.any_some, Char.isDigit]
        grind
      · rfl

theorem copies_dollar {tag body : List Char} (named : IsTag tag) (ends : EndsBy (delimiter tag) body)
    (ascii : ∀ c ∈ tag, c.toNat < 0x80) (fresh : Fresh behind) :
    Copies t behind (delimiter tag ++ (body ++ delimiter tag)) := by
  let after := body ++ delimiter tag ++ t
  have apart : ¬behind.head?.any isNameChar := Bool.eq_false_iff.mp fresh
  have known : ∀ c ∈ tag, isTagChar c := by
    intro c mem
    have small := ascii c mem
    rcases named.later c mem with letter | digit
    · simp only [startsName, Bool.or_eq_true, decide_eq_true_eq, Nat.not_le.mpr small, or_false] at letter
      simp only [isTagChar, Char.isAlphanum, Bool.or_eq_true, decide_eq_true_eq]
      exact letter.imp_left .inl
    · simp [isTagChar, Char.isAlphanum, digit]
  obtain ⟨taken, left⟩ := takeWhile_cut known (t := '$' :: after) fun d head => by
    obtain rfl := Option.mem_some_iff.mp head
    decide
  have first := tag_first named ascii
  -- a dollar sign before a digit would be a mark
  have digits : (tag ++ '$' :: after).takeWhile isDecimalDigit = [] := by
    refine takeWhile_nil_iff.mpr fun c head => ?_
    cases tag with
    | nil =>
        obtain rfl := Option.mem_some_iff.mp head
        decide
    | cons d tag =>
        obtain rfl := Option.mem_some_iff.mp head
        have small := ascii d List.mem_cons_self
        simpa [isDecimalDigit, Text.digitValue?, small] using first
  have tagged : dollarTag? (tag ++ '$' :: after) = some tag := by
    rw [dollarTag?_eq, taken, left]
    exact if_pos ⟨rfl, first⟩
  have whole : tag ++ '$' :: after = (tag ++ ['$']) ++ after := by simp
  have length : (tag ++ ['$']).length = tag.length + 1 := by simp
  have cut : splitAfter (delimiter tag) after = (body ++ delimiter tag, t) := by
    have cut := ends.splitAfter (t := t) (List.cons_ne_nil _ _)
    rwa [← List.append_assoc] at cut
  have piece : firstPiece behind '$' (tag ++ '$' :: after)
      = (.copied ('$' :: ((tag ++ ['$']) ++ (body ++ delimiter tag))), t) := by
    rw [firstPiece_dollar, if_neg apart, if_neg (not_not_intro digits), tagged]
    dsimp only
    rw [whole, List.take_left' length, List.drop_left' length]
    exact congrArg (fun cut => (Piece.copied ('$' :: ((tag ++ ['$']) ++ cut.1)), cut.2)) cut
  have chars : delimiter tag ++ (body ++ delimiter tag)
      = '$' :: ((tag ++ ['$']) ++ (body ++ delimiter tag)) := rfl
  rw [chars]
  refine copies_single ?_
  rw [← piece, whole, List.append_assoc, List.append_assoc]

/-- A question mark and a number with a dollar sign are marks. -/
theorem scans_mark {s : Segment} (mark : s.isMark) (fresh : Fresh behind) (ends : Ends t) :
    Scans t behind s.chars [.mark s.chars] := by
  have apart : ¬behind.head?.any isNameChar := Bool.eq_false_iff.mp fresh
  cases s with
  | question =>
      have cut : firstPiece behind '?' ([] ++ t) = (.mark ['?'], t) := firstPiece_plain _ _ (by decide)
      exact scans_single cut
  | parameter number given digits =>
      obtain ⟨taken, left⟩ := takeWhile_cut digits (t := t) fun d head => by
        rw [ends.first d head]
        decide
      refine scans_single ?_
      rw [firstPiece_dollar, if_neg apart, taken, left, if_pos given]
      rfl
  | _ => exact nomatch mark

/-- Every other segment is copied. -/
theorem copies {s : Segment} (other : s.isMark = false) (ascii : s.HasAsciiTag) (fresh : Fresh behind)
    (ends : Ends t) : Copies t behind s.chars := by
  cases s with
  | plain cs plain => exact copies_plain plain ends
  | name first rest begins goesOn => exact copies_name begins goesOn
  | text content => exact copies_quotedBy content (.inl rfl) fresh ends
  | escaped capital content => exact copies_escaped capital content fresh ends
  | quotedName content => exact copies_quotedBy content (.inr rfl) fresh ends
  | line comment inside => exact copies_line inside ends
  | block comment absent _ => exact copies_block absent
  | dollar tag body named first => exact copies_dollar named first ascii fresh
  | question | parameter => exact nomatch other

end Pieces

/-! ## Lists of segments -/

theorem exists_scans {s : Segment} (ascii : s.HasAsciiTag) {behind t : List Char} (fresh : Fresh behind)
    (ends : Ends t) :
    ∃ ps, Scans t behind s.chars ps ∧ marksIn ps = (if s.isMark then [s.chars] else []) ∧
      ∀ {m : Type → Type} [Monad m] [LawfulMonad m] (f : List Char → m (List Char)),
        rewritten f ps = s.replaced f := by
  cases mark : s.isMark with
  | true =>
      refine ⟨_, scans_mark mark fresh ends, rfl, fun f => ?_⟩
      simp [rewritten, replaced, mark]
  | false =>
      obtain ⟨ps, scans, copied⟩ := copies mark ascii fresh ends
      refine ⟨ps, scans, copied, fun f => ?_⟩
      rw [rewritten_copied f copied, scans.chars, replaced, mark]
      rfl

theorem join_cons_cons (text next : List Char) (texts : List (List Char)) :
    join (text :: next :: texts) = text ++ '\n' :: join (next :: texts) := by
  simp [join, List.intercalate_cons_cons]

/-- The marks among the pieces of segments are the segments that are marks, and the pieces are
    replaced as the segments are. -/
theorem exists_scans_join (segments : List Segment) (ascii : ∀ s ∈ segments, s.HasAsciiTag)
    {behind : List Char} (fresh : Fresh behind) :
    ∃ ps, Scans [] behind (join (segments.map chars)) ps ∧
      marksIn ps = (segments.filter isMark).map chars ∧
      ∀ {m : Type → Type} [Monad m] [LawfulMonad m] (f : List Char → m (List Char)),
        rewritten f ps = join <$> segments.mapM (replaced f) := by
  induction segments generalizing behind with
  | nil => exact ⟨[], .nil, rfl, fun f => by simp [rewritten, join]⟩
  | cons s segments ih =>
      obtain ⟨here, later⟩ := List.forall_mem_cons.mp ascii
      cases segments with
      | nil =>
          obtain ⟨ps, scans, mark, same⟩ := exists_scans here fresh (t := []) rfl
          refine ⟨ps, by simpa [join] using scans, ?_, fun f => by simp [same f, join]⟩
          rw [mark]
          cases kind : s.isMark <;> simp [kind]
      | cons next segments =>
          let rest := join ((next :: segments).map chars)
          obtain ⟨ps, scans, mark, same⟩ := exists_scans here fresh (t := '\n' :: (rest ++ [])) rfl
          -- behind a line break every segment is cut as at the beginning
          have newline : Fresh ('\n' :: (s.chars.reverse ++ behind)) := rfl
          obtain ⟨qs, scans', marks, same'⟩ := ih later newline
          have cut : firstPiece (s.chars.reverse ++ behind) '\n' ([] ++ (rest ++ []))
              = (.copied ['\n'], rest ++ []) := firstPiece_plain _ _ (by decide)
          refine ⟨ps ++ .copied ['\n'] :: qs, ?_, ?_, fun f => ?_⟩
          · rw [List.map_cons, List.map_cons, join_cons_cons]
            exact scans.append (.cons cut scans')
          · rw [marksIn_append, mark, List.filter_cons]
            cases s.isMark
            · exact marks
            · exact congrArg (s.chars :: ·) marks
          · rw [rewritten_append, same f, rewritten, same' f]
            simp [join_cons_cons]

theorem pieces_statement {segments : List Segment} {ps : List Piece}
    (scans : Scans [] [] (join (segments.map chars)) ps) : pieces (statement segments) = ps := by
  have whole := scans.pieces
  rw [List.append_nil, piecesAfter, List.append_nil] at whole
  rw [pieces, statement, String.toList_ofList, whole]

/-- Exactly the placeholders of a statement of segments are found, in order, and each way to replace
    them replaces these and keeps every other segment. -/
theorem placeholders_exact (segments : List Segment) (ascii : ∀ s ∈ segments, s.HasAsciiTag) :
    marks (statement segments) = (segments.filter isMark).map chars ∧
      (∀ f : List Char → List Char, replaceMarks f (statement segments)
        = .ofList (join (segments.map fun s => if s.isMark then f s.chars else s.chars))) ∧
      (∀ count highest, numberPieces count highest (pieces (statement segments))
        = (join <$> segments.mapM (replaced numberMark)).run (count, highest)) ∧
      ∀ literals, substitute (statement segments) literals
        = (.ofList ∘ join) <$> segments.mapM (replaced fun mark => String.toList <$> literalFor literals mark) := by
  obtain ⟨ps, scans, same, rewrites⟩ := exists_scans_join segments ascii (show Fresh [] from rfl)
  have cut := pieces_statement scans
  refine ⟨?_, fun f => ?_, fun count highest => ?_, fun literals => ?_⟩
  · rw [marks_eq, cut, same]
  · have pure : replaced (m := Id) f = fun s => pure (if s.isMark then f s.chars else s.chars) := by
      funext s
      rw [replaced]
      split <;> rfl
    rw [replaceMarks, cut, mapMarks_eq, rewrites, pure, List.mapM_pure]
    rfl
  · rw [cut, numberPieces_eq, rewrites]
  · rw [substitute, cut, substitutePieces_eq, rewrites, bind_pure_comp, comp_map]

/-- A comment with a quote, texts with marks, and a tagged text that holds a quote and a mark. -/
def sample : List Segment := [
  .plain "SELECT ".toList ⟨by simp, by decide, by decide⟩,
  .line " isn't this ?".toList (by decide),
  .text "what's this? ",
  .escaped true [.plain 'a' (by decide), .escape '\'', .plain '?' (by decide)],
  .dollar ['a'] "'?".toList ⟨by decide, by simp [startsName]⟩ (endsBy_of_not_mem (by decide)),
  .question,
  .name 'a' "$1".toList (by decide) (by simp [isNameChar]),
  .parameter "12".toList (by decide) (by simp [isDecimalDigit, Text.digitValue?])]

theorem placeholders_exact_sample :
    (∀ s ∈ sample, s.HasAsciiTag) ∧ marks (statement sample) = ["?".toList, "$12".toList] := by
  have ascii : ∀ s ∈ sample, s.HasAsciiTag := by simp [sample, HasAsciiTag]
  exact ⟨ascii, (placeholders_exact sample ascii).1⟩

/-- A text between tags that have a letter beyond ASCII. -/
def accented : List Segment := [
  .plain "SELECT".toList ⟨by simp, by decide, by decide⟩,
  .dollar ['é'] ['?'] ⟨by decide, by simp [startsName]⟩ (endsBy_of_not_mem (by decide))]

/-- The mark in a text between such tags is taken for a placeholder, so the text is not copied. -/
theorem accented_rewritten :
    accented.filter isMark = [] ∧ statement accented = "SELECT\n$é$?$é$" ∧
      marks (statement accented) = [['?']] ∧
      normalise (statement accented) = .ok ⟨"SELECT\n$é$$1$é$", 1⟩ := by
  refine ⟨rfl, ?_, ?_, ?_⟩ <;> decide +kernel

end Segment

end IndexAdvisor.Sql
