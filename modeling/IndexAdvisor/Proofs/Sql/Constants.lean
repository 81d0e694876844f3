import IndexAdvisor.Proofs.Number.Nearest
import IndexAdvisor.Proofs.Sql.Numerals
import IndexAdvisor.Sql.Token.Lexer

/-! # Numeric constants

A text is a numeric constant if its only token is a number, but for a sign before it. What begins with a
letter is a word, with or without a sign.
-/

namespace IndexAdvisor.Sql

/-! ## Constants and words -/

def lexemes (text : String) : List Lexeme := (Token.scan text).map Token.lexeme

/-- The value of a text that is one number, perhaps with a sign. -/
def constant? (text : String) : Option ℚ :=
  match lexemes text with
  | [.symbol "-", number, .finish] => number.value?.map (-·)
  | [.symbol "+", number, .finish] => number.value?
  | [number, .finish] => number.value?
  | _ => none

/-- The text is one quoted text. -/
def IsQuoted (text : String) : Prop := ∃ content, lexemes text = [.text content, .finish]

/-- A name or a keyword. -/
def Lexeme.isWord : Lexeme → Bool
  | .identifier _ | .keyword .. => true
  | _ => false

/-- The text begins with a word, or with a minus and a word. -/
def BeginsWord (text : String) : Prop :=
  ∃ word rest, word.isWord ∧ (lexemes text = word :: rest ∨ lexemes text = .symbol "-" :: word :: rest)

theorem Lexeme.value?_of_isWord {word : Lexeme} (named : word.isWord) : word.value? = none := by
  cases word <;> first | rfl | exact nomatch named

theorem BeginsWord.constant?_eq_none {text : String} (begins : BeginsWord text) : constant? text = none := by
  obtain ⟨word, rest, named, tokens | tokens⟩ := begins
  · have none := Lexeme.value?_of_isWord named
    unfold constant?
    rw [tokens]
    split
    · next same =>
        cases same
        exact nomatch named
    · next same =>
        cases same
        exact nomatch named
    · next same =>
        cases same
        exact none
    · rfl
  · have none := Lexeme.value?_of_isWord named
    unfold constant?
    rw [tokens]
    split
    · next same =>
        cases same
        rw [none, Option.map_none]
    · next same => simp at same
    · next same =>
        cases same
        exact nomatch named
    · rfl

theorem BeginsWord.not_quoted {text : String} (begins : BeginsWord text) : ¬IsQuoted text := by
  rintro ⟨content, quoted⟩
  obtain ⟨word, rest, named, tokens | tokens⟩ := begins
  · cases quoted.symm.trans tokens
    exact nomatch named
  · cases quoted.symm.trans tokens

/-! ## Scanning -/

theorem ne_of_startsName {c d : Char} (letter : startsName c) (other : startsName d = false) : c ≠ d := by
  rintro rfl
  exact Bool.noConfusion (other.symm.trans letter)

namespace Lexer

theorem settle_cons {t : Token} (plain : looksAhead t.lexeme = false) (ts : List Token) :
    settle (t :: ts) = t :: settle ts := by
  cases ts with
  | nil =>
      have same : settled '\\' t = t := by
        unfold settled
        split
        · next escaped => simp [escaped, looksAhead] at plain
        · next escaped => simp [escaped, looksAhead] at plain
        · rfl
      exact congrArg (fun t => [t]) same
  | cons next rest =>
      conv_lhs => rw [settle.eq_def]
      simp only [plain, Bool.false_eq_true, if_false]

/-- A character that begins neither a blank nor a comment. -/
theorem skipped_cons {c : Char} {rest : List Char} (blank : isSqlBlank c = false)
    (dash : c ≠ '-' ∨ rest.head? ≠ some '-') (slash : c ≠ '/') (fuel : ℕ) :
    skipped fuel (c :: rest) = c :: rest := by
  cases fuel with
  | zero => rfl
  | succ fuel =>
      unfold skipped
      split
      · next same =>
          cases same
          simp at dash
      · next same =>
          cases same
          exact absurd rfl slash
      · next same =>
          cases same
          simp [blank]
      · next same => cases same

/-- The first token is read, then those of what follows it. -/
theorem tokens_cons {c : Char} {cs rest : List Char} {l : Lexeme} (skip : ∀ fuel, skipped fuel (c :: cs) = c :: cs)
    (read : lexeme (c :: cs) = .ok (l, rest)) (fuel place : ℕ) :
    ∃ t place', t.lexeme = l ∧ tokens (fuel + 1) place (c :: cs) = t :: tokens fuel place' rest := by
  simp only [tokens, skip, token, read]
  exact ⟨_, _, rfl, rfl⟩

/-! ## First tokens -/

/-- The characters of operators are neither letters nor digits. -/
theorem plain_of_operator {c : Char} (operator : isOperatorChar c) : startsName c = false ∧ c.isDigit = false := by
  have plain : ("~!@#^&|`?+-*/%<>=".toList.all fun d => !startsName d && !d.isDigit) = true := by decide +kernel
  have both := List.all_eq_true.mp plain c (List.contains_iff_mem.mp operator)
  simpa using both

theorem not_operator_of_startsName {c : Char} (letter : startsName c) : isOperatorChar c = false := by
  rw [Bool.eq_false_iff]
  intro operator
  exact Bool.noConfusion ((plain_of_operator operator).1.symm.trans letter)

theorem not_operator_of_isDigit {c : Char} (digit : c.isDigit) : isOperatorChar c = false := by
  rw [Bool.eq_false_iff]
  intro operator
  exact Bool.noConfusion ((plain_of_operator operator).2.symm.trans digit)

theorem not_startsName_of_isDigit {c : Char} (digit : c.isDigit) : startsName c = false := by
  have bounds : 48 ≤ c.toNat ∧ c.toNat ≤ 57 := by
    simpa [Char.isDigit, UInt32.le_iff_toNat_le] using digit
  have other : c ≠ '_' := ne_of_isDigit digit rfl
  simp [startsName, Char.isAlpha, Char.isUpper, Char.isLower, UInt32.le_iff_toNat_le, other]
  omega

theorem lexeme_digit {c : Char} (digit : c.isDigit) (rest : List Char) :
    lexeme (c :: rest) = .ok (Numeral.read (c :: rest)) := by
  have other (d : Char) (plain : d.isDigit = false) : c ≠ d := ne_of_isDigit digit plain
  have number : lexeme.other (c :: rest) = Numeral.read (c :: rest) := by
    simp [lexeme.other, not_startsName_of_isDigit digit, digit]
  unfold lexeme
  split <;> simp_all

theorem operatorText_minus {rest : List Char} (other : ∀ c ∈ rest.head?, isOperatorChar c = false) :
    operatorText ('-' :: rest) = ['-'] := by
  have alone : ('-' :: rest).takeWhile isOperatorChar = ['-'] := by
    have ends : rest.takeWhile isOperatorChar = [] := by
      cases rest with
      | nil => rfl
      | cons c rest => simp [other c rfl]
    rw [List.takeWhile_cons_of_pos (by rfl), ends]
  rw [operatorText, alone]
  rfl

/-- A character that begins no section, before one that makes it no mark of one. -/
theorem lexeme_eq_other {c : Char} {cs : List Char} (first : c ∉ ['\'', '"', '$', '/', '.'])
    (second : ∀ d ∈ cs.head?, d ≠ '\'' ∧ d ≠ '&') : lexeme (c :: cs) = .ok (lexeme.other (c :: cs)) := by
  unfold lexeme
  split <;> simp_all

theorem lexeme_minus {rest : List Char} (other : ∀ c ∈ rest.head?, isOperatorChar c = false ∧ c ≠ '\'') :
    lexeme ('-' :: rest) = .ok (.symbol "-", rest) := by
  have text := operatorText_minus fun c first => (other c first).1
  have sign : lexeme.other ('-' :: rest) = (.symbol "-", rest) := by
    change (operatorLexeme (operatorText ('-' :: rest)), ('-' :: rest).drop (operatorText ('-' :: rest)).length) = _
    rw [text]
    rfl
  rw [lexeme_eq_other (by simp), sign]
  intro d next
  obtain ⟨operator, quote⟩ := other d next
  refine ⟨quote, ?_⟩
  rintro rfl
  exact Bool.noConfusion operator

theorem nameLexeme_word {c d : Char} (second : d = 'a' ∨ d = 'n' ∨ d = 'N') (cs : List Char) :
    (nameLexeme (c :: d :: cs)).isWord ∧ looksAhead (nameLexeme (c :: d :: cs)) = false := by
  unfold nameLexeme
  dsimp only
  split
  · refine ⟨rfl, ?_⟩
    have other (word : String) (letter : word.toList[1]? ≠ some 'a' ∧ word.toList[1]? ≠ some 'n') :
        String.ofList ((c :: d :: cs).map Char.toLower) ≠ word := by
      rintro rfl
      rcases second with rfl | rfl | rfl <;> simp at letter
    have letters : ∀ word ∈ ["not", "nulls", "with", "without", "format"],
        word.toList[1]? ≠ some 'a' ∧ word.toList[1]? ≠ some 'n' := by
      decide +kernel
    rw [looksAhead, Bool.eq_false_iff]
    intro found
    exact other _ (letters _ (List.contains_iff_mem.mp found)) rfl
  · exact ⟨rfl, rfl⟩

theorem lexeme_word {c d : Char} (letter : startsName c) (second : d = 'a' ∨ d = 'n' ∨ d = 'N') (cs : List Char) :
    ∃ word rest, word.isWord ∧ looksAhead word = false ∧ lexeme (c :: d :: cs) = .ok (word, rest) := by
  have first : c ∉ ['\'', '"', '$', '/', '.'] := by
    have other (e : Char) (plain : startsName e = false) : c ≠ e := ne_of_startsName letter plain
    simp only [List.mem_cons, List.not_mem_nil, or_false, not_or]
    exact ⟨other _ rfl, other _ rfl, other _ rfl, other _ rfl, other _ rfl⟩
  have later : d ≠ '\'' ∧ d ≠ '&' ∧ continuesName d := by
    rcases second with rfl | rfl | rfl <;> decide +kernel
  have run : (c :: d :: cs).takeWhile continuesName = c :: d :: cs.takeWhile continuesName := by
    rw [List.takeWhile_cons_of_pos (by simp [continuesName, letter]), List.takeWhile_cons_of_pos later.2.2]
  have word : lexeme.other (c :: d :: cs) = name (c :: d :: cs) := by
    simp [lexeme.other, letter]
  obtain ⟨named, plain⟩ := nameLexeme_word (c := c) second (cs.takeWhile continuesName)
  have read : lexeme (c :: d :: cs) = .ok (name (c :: d :: cs)) := by
    rw [lexeme_eq_other first (by simp [later]), word]
  rw [name, run] at read
  exact ⟨_, _, named, plain, read⟩

section Text

variable {s : Spelling}

theorem settle_nil (fuel place : ℕ) : (settle (tokens fuel place [])).map Token.lexeme = [.finish] := by
  cases fuel <;> rfl

theorem looksAhead_of_value {l : Lexeme} {x : ℚ} (value : l.value? = some x) : looksAhead l = false := by
  cases l <;> first | rfl | exact nomatch value

theorem skipped_letter {c : Char} (letter : startsName c) (cs : List Char) (fuel : ℕ) :
    skipped fuel (c :: cs) = c :: cs := by
  have other (d : Char) (plain : startsName d = false) : c ≠ d := ne_of_startsName letter plain
  refine skipped_cons ?_ (.inl (other '-' rfl)) (other '/' rfl) fuel
  simp [isSqlBlank, other ' ' rfl, other '\t' rfl, other '\n' rfl, other '\r' rfl, other '\x0c' rfl,
    other '\x0b' rfl]

theorem skipped_digit {c : Char} (digit : c.isDigit) (cs : List Char) (fuel : ℕ) :
    skipped fuel (c :: cs) = c :: cs := by
  have other (d : Char) (plain : d.isDigit = false) : c ≠ d := ne_of_isDigit digit plain
  refine skipped_cons ?_ (.inl (other '-' rfl)) (other '/' rfl) fuel
  simp [isSqlBlank, other]

theorem settle_number (proper : s.Proper) (fuel place : ℕ) : ∃ number : Lexeme, number.value? = some s.value ∧
    (settle (tokens (fuel + 1) place s.chars)).map Token.lexeme = [number, .finish] := by
  obtain ⟨number, read, value⟩ := Spelling.read proper
  obtain ⟨c, cs, whole, digit⟩ := proper.head
  rw [whole] at read ⊢
  have first := (lexeme_digit digit cs).trans (congrArg Except.ok read)
  obtain ⟨t, place', rfl, tokens⟩ := tokens_cons (skipped_digit digit cs) first fuel place
  refine ⟨_, value, ?_⟩
  rw [tokens, settle_cons (looksAhead_of_value value), List.map_cons, settle_nil]

end Text

end Lexer

/-! ## Texts that are scanned -/

variable {s : Spelling}

theorem lexemes_cons {c : Char} {cs rest : List Char} {l : Lexeme}
    (skip : ∀ fuel, Lexer.skipped fuel (c :: cs) = c :: cs) (read : Lexer.lexeme (c :: cs) = .ok (l, rest))
    (plain : Lexer.looksAhead l = false) :
    ∃ place, lexemes (String.ofList (c :: cs))
      = l :: (Lexer.settle (Lexer.tokens (cs.length + 1) place rest)).map Token.lexeme := by
  obtain ⟨t, place, rfl, tokens⟩ := Lexer.tokens_cons skip read (cs.length + 1) 0
  refine ⟨place, ?_⟩
  rw [lexemes, Token.scan, String.length_ofList, String.toList_ofList, List.length_cons, tokens,
    Lexer.settle_cons plain, List.map_cons]

theorem lexemes_minus {c : Char} (other : Lexer.isOperatorChar c = false ∧ c ≠ '\'') (cs : List Char) :
    ∃ place, lexemes (String.ofList ('-' :: c :: cs)) = .symbol "-" ::
      (Lexer.settle (Lexer.tokens (cs.length + 2) place (c :: cs))).map Token.lexeme := by
  have dash : (c :: cs).head? ≠ some '-' := by
    rintro same
    cases same
    exact absurd other.1 (by decide)
  have skip := Lexer.skipped_cons (c := '-') rfl (.inr dash) (by decide)
  exact lexemes_cons skip (Lexer.lexeme_minus (by simp [other])) rfl

/-- The sign of a number and its text. -/
def signedChars (negative : Bool) (cs : List Char) : List Char := if negative then '-' :: cs else cs

theorem constant?_number (proper : s.Proper) (negative : Bool) :
    constant? (String.ofList (signedChars negative s.chars)) = some (Number.signed negative s.value) := by
  cases negative with
  | false =>
      obtain ⟨number, value, tokens⟩ := Lexer.settle_number proper s.chars.length 0
      have alone : lexemes (String.ofList s.chars) = [number, .finish] := by
        rw [lexemes, Token.scan, String.length_ofList, String.toList_ofList, tokens]
      change constant? (String.ofList s.chars) = some s.value
      unfold constant?
      rw [alone]
      cases number <;> first | exact value | exact nomatch value
  | true =>
      obtain ⟨c, cs, whole, digit⟩ := proper.head
      have other : Lexer.isOperatorChar c = false ∧ c ≠ '\'' :=
        ⟨Lexer.not_operator_of_isDigit digit, ne_of_isDigit digit rfl⟩
      obtain ⟨place, minus⟩ := lexemes_minus other cs
      obtain ⟨number, value, tokens⟩ := Lexer.settle_number proper (cs.length + 1) place
      rw [← whole, tokens] at minus
      change constant? (String.ofList ('-' :: s.chars)) = some (-s.value)
      unfold constant?
      rw [minus]
      exact congrArg (Option.map (-·)) value

theorem beginsWord_chars {c d : Char} (letter : startsName c) (second : d = 'a' ∨ d = 'n' ∨ d = 'N')
    (cs : List Char) (negative : Bool) : BeginsWord (String.ofList (signedChars negative (c :: d :: cs))) := by
  obtain ⟨word, rest, named, plain, read⟩ := Lexer.lexeme_word letter second cs
  have skip := Lexer.skipped_letter letter (d :: cs)
  cases negative with
  | false =>
      obtain ⟨place, first⟩ := lexemes_cons skip read plain
      exact ⟨word, _, named, .inl first⟩
  | true =>
      have other : Lexer.isOperatorChar c = false ∧ c ≠ '\'' :=
        ⟨Lexer.not_operator_of_startsName letter, ne_of_startsName letter rfl⟩
      obtain ⟨place, minus⟩ := lexemes_minus other (d :: cs)
      obtain ⟨t, place', rfl, tokens⟩ := Lexer.tokens_cons skip read ((d :: cs).length + 1) place
      rw [tokens, Lexer.settle_cons plain, List.map_cons] at minus
      exact ⟨t.lexeme, _, named, .inr minus⟩

end IndexAdvisor.Sql
