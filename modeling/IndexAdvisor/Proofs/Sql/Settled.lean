import IndexAdvisor.Proofs.Sql.Leftover
import IndexAdvisor.Sql.Literal

/-! # Literals that leave no mark

Every literal is closed and has no mark of its own, but one: in a column of numbers a value that is
no number is put in as it is. Quoted literals have every inner quote doubled, so that nothing inside
ends them, and the digits, signs and letters of numbers begin nothing.
-/

namespace IndexAdvisor.Sql

open Number Text

/-! ## Stretches without marks -/

/-- Behind the text `behind` and before the text `t`, no piece of a stretch is a mark. -/
def Copies (t behind p : List Char) : Prop := ∃ ps, Scans t behind p ps ∧ marksIn ps = []

theorem Copies.append {t behind p q : List Char} (first : Copies (q ++ t) behind p)
    (second : Copies t (p.reverse ++ behind) q) : Copies t behind (p ++ q) := by
  obtain ⟨ps, scans, copied⟩ := first
  obtain ⟨qs, scans', copied'⟩ := second
  exact ⟨ps ++ qs, scans.append scans', by rw [marksIn_append, copied, copied']; rfl⟩

section Single

variable {t behind : List Char} {c : Char}

/-- A stretch that is one piece. -/
theorem scans_single {body : List Char} {piece : Piece}
    (cut : firstPiece behind c (body ++ t) = (piece, t)) : Scans t behind (c :: body) [piece] := by
  have scans := Scans.cons (p := []) cut .nil
  rwa [List.append_nil] at scans

theorem copies_single {body : List Char} (cut : firstPiece behind c (body ++ t) = (.copied (c :: body), t)) :
    Copies t behind (c :: body) := ⟨_, scans_single cut, rfl⟩

/-- A character that begins nothing is a piece of its own. -/
theorem copies_cons {p : List Char} (cut : firstPiece behind c (p ++ t) = (.copied [c], p ++ t))
    (later : Copies t (c :: behind) p) : Copies t behind (c :: p) := by
  obtain ⟨ps, scans, copied⟩ := later
  have alone : Scans t behind (c :: ([] ++ p)) (.copied [c] :: ps) := .cons cut scans
  exact ⟨.copied [c] :: ps, alone, copied⟩

theorem copies_nil : Copies t behind [] := ⟨[], .nil, rfl⟩

theorem head?_append_ne {p : List Char} {d : Char} (first : p.head? ≠ some d) (next : t.head? ≠ some d) :
    (p ++ t).head? ≠ some d := by
  cases p with
  | nil => exact next
  | cons e p => exact first

end Single

/-- A text that may stand in the place of any mark. -/
def Settled (text : List Char) : Prop := isClosed text ∧ marksIn (piecesAfter [] text) = []

theorem settled_of_copies {text : List Char} (copies : Copies [' '] [] text) : Settled text := by
  obtain ⟨ps, scans, copied⟩ := copies
  have closed : isClosed text := by
    refine decide_eq_true ?_
    have blank (behind : List Char) : piecesAfter behind [' '] = [.copied [' ']] := by
      rw [piecesAfter, firstPiece_plain _ _ (by decide), if_neg (by decide), piecesAfter]
    rw [scans.pieces, blank, List.getLast?_append]
    rfl
  refine ⟨closed, ?_⟩
  have alone := (scans.before ⟨' ', rfl, by decide⟩ (u := []) (apart_of_first rfl)).pieces
  rw [List.append_nil, piecesAfter, List.append_nil] at alone
  rw [alone, copied]

/-! ## Quoted texts -/

/-- Text in which a section between quotes does not end. -/
inductive Inside (quote : Char) (escapes : Bool) : List Char → Prop
  | nil : Inside quote escapes []
  | plain {c p} (other : c ≠ quote) (unescaped : ¬(escapes ∧ c = '\\')) :
    Inside quote escapes p → Inside quote escapes (c :: p)
  | doubled {p} : Inside quote escapes p → Inside quote escapes (quote :: quote :: p)
  | escape {c p} (known : escapes) : Inside quote escapes p → Inside quote escapes ('\\' :: c :: p)

section Quoted

variable {quote : Char} {escapes : Bool} {p t behind : List Char}

/-- A section ends by the first quote that is neither doubled nor escaped. -/
theorem Inside.splitQuoted (inside : Inside quote escapes p) (proper : quote ≠ '\\')
    (apart : t.head? ≠ some quote) :
    splitQuoted quote escapes (p ++ quote :: t) = (p ++ [quote], t) := by
  induction inside with
  | nil =>
      cases t with
      | nil => rfl
      | cons d t => simp_all [Sql.splitQuoted]
  | @plain c p other unescaped _ ih =>
      obtain ⟨d, rest, whole⟩ := List.exists_cons_of_ne_nil
        (List.append_ne_nil_of_right_ne_nil p (List.cons_ne_nil quote t))
      rw [whole] at ih
      simp [whole, Sql.splitQuoted, other, ih, Bool.and_eq_true, unescaped]
  | doubled _ ih => simp [Sql.splitQuoted, proper, ih]
  | escape known _ ih =>
      subst known
      simp [Sql.splitQuoted, ih]

theorem inside_doubled (cs : List Char) :
    Inside quote false (cs.flatMap fun c => if c = quote then [quote, quote] else [c]) := by
  induction cs with
  | nil => exact .nil
  | cons c cs ih =>
      rw [List.flatMap_cons]
      split
      · exact .doubled ih
      · next other => exact .plain other (by simp) ih

/-- A quoted text, or a quoted name. -/
theorem copies_section {quote : Char} {escapes : Bool} {p : List Char} (inside : Inside quote escapes p)
    (kind : quote = '\'' ∧ escapes = (contextOf behind).2 ∨ quote = '"' ∧ escapes = false)
    (apart : t.head? ≠ some quote) : Copies t behind (quote :: (p ++ [quote])) := by
  have proper : quote ≠ '\\' := by
    rcases kind with ⟨rfl, -⟩ | ⟨rfl, -⟩ <;> decide
  have cut : splitQuoted quote escapes (p ++ [quote] ++ t) = (p ++ [quote], t) := by
    rw [List.append_assoc]
    exact inside.splitQuoted proper apart
  refine copies_single ?_
  rcases kind with ⟨rfl, rfl⟩ | ⟨rfl, rfl⟩
  · rw [firstPiece_quote, cut]
  · rw [firstPiece_name, cut]

theorem doubleQuotes_flatMap (cs : List Char) :
    doubleQuotes cs = cs.flatMap fun c => if c = '\'' then ['\'', '\''] else [c] := by
  fun_induction doubleQuotes cs with
  | case1 => rfl
  | case2 rest ih => simp [ih]
  | case3 c rest other ih =>
      have ordinary : c ≠ '\'' := other
      simp [ih, ordinary]

/-- Behind no mark of escapes, a quoted text is one piece. -/
theorem copies_quoted (cs : List Char) (apart : t.head? ≠ some '\'')
    (plain : (contextOf behind).2 = false) : Copies t behind ('\'' :: (doubleQuotes cs ++ ['\''])) := by
  rw [doubleQuotes_flatMap]
  exact copies_section (inside_doubled cs) (.inl ⟨rfl, plain.symm⟩) apart

end Quoted

/-! ## Calm texts -/

/-- A character that begins nothing. -/
def isQuiet (c : Char) : Bool := !(['\'', '"', '-', '/', '$', '?'].contains c)

/-- Whether each character of a text is a piece of its own. -/
def isCalm : List Char → Bool
  | [] => true
  | c :: rest => (isQuiet c || c = '-' && rest.head? ≠ some '-') && isCalm rest

/-- A text whose characters begin nothing. -/
def Quiet (cs : List Char) : Prop := ∀ c ∈ cs, isQuiet c

instance (cs : List Char) : Decidable (Quiet cs) :=
  List.decidableBAll _ cs

section Calm

variable {p q t behind : List Char} {c : Char}

namespace Quiet

theorem append (first : Quiet p) (second : Quiet q) : Quiet (p ++ q) :=
  List.forall_mem_append.mpr ⟨first, second⟩

theorem cons (later : Quiet p) (first : isQuiet c) : Quiet (c :: p) :=
  List.forall_mem_cons.mpr ⟨first, later⟩

theorem of_mem (quiet : Quiet q) (sub : ∀ c ∈ p, c ∈ q) : Quiet p :=
  fun c mem => quiet c (sub c mem)

theorem head (quiet : Quiet p) : p.head? ≠ some '-' := by
  intro first
  exact absurd (quiet '-' (List.mem_of_mem_head? first)) (by decide)

theorem calm_append (quiet : Quiet p) (calm : isCalm q) : isCalm (p ++ q) := by
  induction p with
  | nil => exact calm
  | cons c p ih =>
      obtain ⟨here, later⟩ := List.forall_mem_cons.mp quiet
      simp [isCalm, here, ih later]

theorem calm (quiet : Quiet p) : isCalm p := by
  have calm := quiet.calm_append (q := []) rfl
  rwa [List.append_nil] at calm

end Quiet

theorem isCalm_sign (calm : isCalm p) (other : p.head? ≠ some '-') : isCalm ('-' :: p) := by
  simp [isCalm, calm, other]

theorem copies_calm (calm : isCalm p) (apart : t.head? ≠ some '-') : Copies t behind p := by
  induction p generalizing behind with
  | nil => exact copies_nil
  | cons c p ih =>
      obtain ⟨here, later⟩ := Bool.and_eq_true_iff.mp calm
      refine copies_cons ?_ (ih later)
      rcases Bool.or_eq_true_iff.mp here with quiet | sign
      · simp [isQuiet] at quiet
        rw [firstPiece_plain _ _ (by simp [quiet]), if_neg quiet.2.2.2.2.2]
      · obtain ⟨rfl, next⟩ : c = '-' ∧ p.head? ≠ some '-' := by simpa using sign
        rw [firstPiece_dash, if_neg (head?_append_ne next apart)]

theorem settled_of_isCalm (calm : isCalm p) : Settled p :=
  settled_of_copies (copies_calm calm (by decide))

end Calm

/-! ## Numbers -/

theorem quiet_zeros (n : Nat) : Quiet (List.replicate n '0') := by
  intro c mem
  rw [List.eq_of_mem_replicate mem]
  decide

theorem isDigit_of_mem_toString {n : Nat} {c : Char} (mem : c ∈ (toString n).toList) : c.isDigit := by
  rw [Nat.toString_eq_repr, Nat.repr_eq_ofList_toDigits, String.toList_ofList] at mem
  exact Nat.isDigit_of_mem_toDigits (by decide) (by decide) mem

theorem quiet_digits (n : Nat) : Quiet (toString n).toList := by
  intro c mem
  have digit := isDigit_of_mem_toString mem
  have other (x : Char) (plain : x.isDigit = false) : c ≠ x := by
    rintro rfl
    exact Bool.noConfusion (digit.symm.trans plain)
  simp [isQuiet, other]

/-- A sign before a text that begins with something else. -/
theorem calm_signed {p : List Char} (negative : Bool) (calm : isCalm p) (other : p.head? ≠ some '-') :
    isCalm ((Decimal.signText negative).toList ++ p) := by
  cases negative with
  | false => exact calm
  | true => exact isCalm_sign calm other

theorem calm_int (n : Int) : isCalm (toString n).toList := by
  rw [Int.toString_eq_repr, Int.repr_eq_if]
  split
  · exact (quiet_digits n.toNat).calm
  · rw [String.toList_append]
    exact isCalm_sign (quiet_digits (-n).toNat).calm (quiet_digits (-n).toNat).head

theorem quiet_pointed {digits : List Char} (quiet : Quiet digits) (places : Nat) :
    Quiet (Decimal.pointed digits places) := by
  unfold Decimal.pointed
  split
  · exact quiet
  · have padded := (quiet_zeros (places + 1 - digits.length)).append quiet
    refine .append (padded.of_mem fun c => List.mem_of_mem_take) ?_
    exact .cons (padded.of_mem fun c => List.mem_of_mem_drop) (by decide)

/-- Whether a decimal has no text of its own: only what is no number can have one. -/
def plainDecimal : Decimal → Bool
  | .nan _ _ payload => payload = ""
  | _ => true

theorem calm_plain {d : Decimal} (named : plainDecimal d) : isCalm d.plain.toList := by
  cases d with
  | finite negative coefficient exponent =>
      have digits := quiet_digits coefficient
      simp only [Decimal.plain, String.toList_append, String.toList_ofList]
      split
      · split
        · exact calm_signed negative digits.calm digits.head
        · have quiet := digits.append (quiet_zeros exponent.toNat)
          exact calm_signed negative quiet.calm quiet.head
      · have quiet := quiet_pointed digits (-exponent).toNat
        exact calm_signed negative quiet.calm quiet.head
  | infinite negative => cases negative <;> decide
  | nan negative signal payload =>
      obtain rfl := of_decide_eq_true named
      cases negative <;> cases signal <;> decide

section Float

variable {digits : List Char}

theorem quiet_dropZeros (quiet : Quiet digits) : Quiet (dropZeros digits) := by
  refine quiet.of_mem fun c mem => ?_
  rw [dropZeros, List.mem_reverse] at mem
  exact List.mem_reverse.mp ((List.dropWhile_sublist _).subset mem)

theorem quiet_positional (quiet : Quiet digits) (place : Int) : Quiet (positional digits place) := by
  unfold positional
  split
  · refine .append (p := ['0', '.']) (by decide) ?_
    exact (quiet_zeros _).append quiet
  · refine .append (.append (quiet.of_mem fun c => List.mem_of_mem_take) (quiet_zeros _)) ?_
    refine .cons ?_ (by decide)
    split
    · decide
    · exact quiet.of_mem fun c => List.mem_of_mem_drop

/-- Only the sign of the power is no quiet character. -/
theorem calm_scientific (quiet : Quiet digits) (place : Int) :
    isCalm (scientific digits place) ∧ (scientific digits place).head? ≠ some '-' := by
  let magnitude := (toString (place - 1).natAbs).toList
  let fraction := digits.drop 1
  have front : Quiet (digits.take 1 ++ (if fraction.isEmpty then [] else '.' :: fraction) ++ ['e']) := by
    refine .append (.append (quiet.of_mem fun c => List.mem_of_mem_take) ?_) (by decide)
    split
    · decide
    · exact .cons (quiet.of_mem fun c => List.mem_of_mem_drop) (by decide)
  have back : Quiet (List.replicate (2 - magnitude.length) '0' ++ magnitude) :=
    (quiet_zeros _).append (quiet_digits _)
  have parts : scientific digits place
      = (digits.take 1 ++ (if fraction.isEmpty then [] else '.' :: fraction) ++ ['e']) ++
        (if place - 1 < 0 then '-' else '+') ::
          (List.replicate (2 - magnitude.length) '0' ++ magnitude) := by
    simp [scientific, magnitude, fraction]
  rw [parts]
  constructor
  · refine front.calm_append ?_
    split
    · exact isCalm_sign back.calm back.head
    · exact (back.cons (by decide)).calm
  · cases digits with
    | nil => split <;> simp
    | cons d digits => exact front.head

theorem calm_found (style : FloatStyle) (negative : Bool) (n : Nat) (place : Int) :
    isCalm (style.write negative n place).toList := by
  have digits := quiet_dropZeros (quiet_digits n)
  have body : let cs := dropZeros (toString n).toList
      let body := if style.small < place ∧ place ≤ style.large then positional cs place
        else scientific cs place
      isCalm body ∧ body.head? ≠ some '-' := by
    dsimp only
    split
    · exact ⟨(quiet_positional digits place).calm, (quiet_positional digits place).head⟩
    · exact calm_scientific digits place
  rw [FloatStyle.write, String.toList_ofList]
  cases negative with
  | false => exact body.1
  | true => exact isCalm_sign body.1 body.2

theorem calm_writeFloat (x : Float) : isCalm (writeFloat x).toList := by
  rw [writeFloat]
  cases BinaryParts.ofBits x.toBits with
  | nan => decide
  | infinite negative => cases negative <;> decide
  | zero negative => cases negative <;> decide
  | finite negative m q lowest => exact calm_found _ _ _ _

end Float

/-! ## Literals -/

/-- Values that are written by digits, a sign, a point and letters. -/
def isNumber : Value → Bool
  | .bool _ | .int _ | .float _ => true
  | .decimal d => plainDecimal d
  | _ => false

theorem doubleQuotes_eq {cs : List Char} (plain : '\'' ∉ cs) : doubleQuotes cs = cs := by
  fun_induction doubleQuotes cs <;> simp_all

theorem quote_not_mem_hexText (bs : List UInt8) : '\'' ∉ (hexText bs).toList := by
  have digits (width n : Nat) : '\'' ∉ hexDigits width n := by
    induction width generalizing n with
    | zero => exact List.not_mem_nil
    | succ width ih =>
        have digit : ∀ k < 16, '\'' ≠ Nat.digitChar k := by decide
        simp [hexDigits, ih, digit (n % 16) (Nat.mod_lt n (by decide))]
  simp [hexText, hexPair, digits]

theorem settled_quoteText (s : String) : Settled (quoteText s).toList := by
  rw [quoteText, String.toList_ofList]
  exact settled_of_copies (copies_quoted s.toList (by decide) rfl)

theorem settled_decode (bs : List UInt8) :
    Settled ("decode('" ++ hexText bs ++ "', 'hex')").toList := by
  have hex := doubleQuotes_eq (quote_not_mem_hexText bs)
  have parts : ("decode('" ++ hexText bs ++ "', 'hex')").toList
      = "decode(".toList ++ ('\'' :: (doubleQuotes (hexText bs).toList ++ ['\'']) ++
        (", ".toList ++ ('\'' :: (doubleQuotes "hex".toList ++ ['\'']) ++ ")".toList))) := by
    simp [hex, doubleQuotes]
  rw [parts]
  refine settled_of_copies ((copies_calm (by decide) (by simp)).append ?_)
  refine (copies_quoted _ (by simp) (by decide)).append ?_
  refine (copies_calm (by decide) (by simp)).append ?_
  refine (copies_quoted _ (by simp) ?_).append (copies_calm (by decide) (by decide))
  simp [contextOf]

/-- A literal is settled, but for a value in a column of numbers that is none. -/
theorem settled_renderLiteral {v : Value} {t : SqlType} {text : String}
    (rendered : renderLiteral v t = .ok text) (number : t.family = .number → isNumber v) :
    Settled text.toList := by
  unfold renderLiteral at rendered
  cases family : t.family with
  | binary =>
      simp only [family] at rendered
      obtain ⟨bs, -, last⟩ := bind_ok.mp rendered
      obtain rfl := Except.ok.inj last
      exact settled_decode bs
  | truth =>
      simp only [family] at rendered
      obtain rfl := Except.ok.inj rendered
      split <;> exact settled_of_isCalm (by decide)
  | number =>
      simp only [family] at rendered
      have number := number family
      cases v with
      | bool b =>
          obtain rfl := Except.ok.inj rendered
          cases b <;> exact settled_of_isCalm (by decide)
      | int n =>
          obtain rfl := Except.ok.inj rendered
          exact settled_of_isCalm (calm_int n)
      | float x =>
          obtain rfl := Except.ok.inj rendered
          exact settled_of_isCalm (calm_writeFloat x)
      | decimal d =>
          obtain rfl := Except.ok.inj rendered
          exact settled_of_isCalm (calm_plain number)
      | _ => simp [isNumber] at number
  | character | text | temporal =>
      simp only [family] at rendered
      obtain rfl := Except.ok.inj rendered
      exact settled_quoteText _

end IndexAdvisor.Sql
