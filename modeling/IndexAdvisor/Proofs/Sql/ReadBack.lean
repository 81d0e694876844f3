import IndexAdvisor.Proofs.Sql.Settled

/-! # Literals read back

A quoted literal is one section of every text it is put into, and its value is what is left between the
quotes when doubled ones are made single again. The literal of a binary type writes the bytes of its value
by pairs of hexadecimal digits, which are read back pair by pair. So no value ends its own literal, and a
literal tells its value.
-/

namespace IndexAdvisor.Sql

open Text

/-! ## Reading a literal -/

/-- The place behind the quoted section that opens at the place `start` of a text. -/
def sectionEnd (text : List Char) (start : Nat) (quote : Char) (escapes : Bool) : Nat :=
  start + 1 + (splitQuoted quote escapes (text.drop (start + 1))).1.length

/-- A text with every doubled quote made single; none if a quote stands alone. -/
def undoubled? : List Char → Option (List Char)
  | [] => some []
  | '\'' :: '\'' :: rest => (undoubled? rest).map ('\'' :: ·)
  | c :: rest => if c = '\'' then none else (undoubled? rest).map (c :: ·)

/-- The bytes that pairs of hexadecimal digits write. -/
def hexBytes? : List Char → Option (List UInt8)
  | [] => some []
  | high :: low :: rest => do return (← hexByte? high low) :: (← hexBytes? rest)
  | [_] => none

/-- The literal is one quoted section wherever it stands, and between its quotes is the text `content`
    with its quotes doubled. -/
structure Quotes (literal content : List Char) : Prop where
  body : ∃ body, literal = '\'' :: (body ++ ['\'']) ∧ undoubled? body = some content
  whole : ∀ before after : List Char, after.head? ≠ some '\'' →
    sectionEnd (before ++ (literal ++ after)) before.length '\'' false = before.length + literal.length

/-- The literal decodes hexadecimal digits that write the bytes. -/
def Decodes (literal : String) (bs : List UInt8) : Prop :=
  ∃ digits, literal = "decode('" ++ String.ofList digits ++ "', 'hex')" ∧ hexBytes? digits = some bs

/-- Bytes are given as such, as a view of them, or as the text they encode. -/
inductive GivesBytes : Value → List UInt8 → Prop
  | bytes (bs) : GivesBytes (.bytes bs) bs
  | view (bs) : GivesBytes (.view bs) bs
  | text (s : String) : GivesBytes (.text s) s.toUTF8.toList

/-! ## Quotes -/

theorem undoubled?_doubleQuotes (cs : List Char) : undoubled? (doubleQuotes cs) = some cs := by
  fun_induction doubleQuotes cs with
  | case1 => rfl
  | case2 rest ih => simp [undoubled?, ih]
  | case3 c rest other ih =>
      have ordinary : c ≠ '\'' := other
      simp [undoubled?, ordinary, ih]

theorem sectionEnd_quoted (cs before after : List Char) (apart : after.head? ≠ some '\'') :
    sectionEnd (before ++ ('\'' :: (doubleQuotes cs ++ ['\'']) ++ after)) before.length '\'' false
      = before.length + ('\'' :: (doubleQuotes cs ++ ['\''])).length := by
  have inside : Inside '\'' false (doubleQuotes cs) := by
    rw [doubleQuotes_flatMap]
    exact inside_doubled cs
  have cut := inside.splitQuoted (by decide) apart
  have rest : (before ++ ('\'' :: (doubleQuotes cs ++ ['\'']) ++ after)).drop (before.length + 1)
      = doubleQuotes cs ++ '\'' :: after := by
    simp [List.drop_append]
  rw [sectionEnd, rest, cut]
  simp only [List.length_append, List.length_cons]
  omega

theorem quotes_quoteText (s : String) : Quotes (quoteText s).toList s.toList := by
  have chars : (quoteText s).toList = '\'' :: (doubleQuotes s.toList ++ ['\'']) := by
    rw [quoteText, String.toList_ofList, List.cons_append]
  rw [chars]
  exact ⟨⟨_, rfl, undoubled?_doubleQuotes s.toList⟩, sectionEnd_quoted s.toList⟩

/-! ## Hexadecimal digits -/

theorem hexDigit?_digitChar {n : Nat} (small : n < 16) : hexDigit? (Nat.digitChar n) = some n := by
  have digits : ∀ k < 16, hexDigit? (Nat.digitChar k) = some k := by decide
  exact digits n small

theorem hexBytes?_append_hexPair (b : UInt8) (rest : List Char) :
    hexBytes? (hexPair b ++ rest) = (hexBytes? rest).map (b :: ·) := by
  have high : b.toNat / 16 % 16 < 16 := Nat.mod_lt _ (by decide)
  have low : b.toNat % 16 < 16 := Nat.mod_lt _ (by decide)
  have value : 16 * (b.toNat / 16 % 16) + b.toNat % 16 = b.toNat := by
    have bound := b.toNat_lt
    omega
  have read : hexByte? (Nat.digitChar (b.toNat / 16 % 16)) (Nat.digitChar (b.toNat % 16)) = some b := by
    rw [hexByte?, hexDigit?_digitChar high, hexDigit?_digitChar low]
    change some (16 * (b.toNat / 16 % 16) + b.toNat % 16).toUInt8 = some b
    rw [value]
    exact congrArg some UInt8.ofNat_toNat
  simp only [hexPair, hexDigits, List.nil_append, List.cons_append, hexBytes?, read]
  cases hexBytes? rest <;> rfl

theorem hexBytes?_flatMap_hexPair (bs : List UInt8) : hexBytes? (bs.flatMap hexPair) = some bs := by
  induction bs with
  | nil => rfl
  | cons b bs ih => rw [List.flatMap_cons, hexBytes?_append_hexPair, ih, Option.map_some]

theorem bytesOf_of_gives {v : Value} {bs : List UInt8} (given : GivesBytes v bs) : bytesOf v = .ok bs := by
  cases given <;> rfl

/-! ## Literals -/

theorem marks_of_settled {literal : String} (settled : Settled literal.toList) : marks literal = [] :=
  settled.2

/-- A value of a quoted type has a literal that is one section and gives back its text, a value of a
    binary type one that gives back its bytes, and no placeholder is read in either. -/
theorem literals_read_back (v : Value) (t : SqlType) :
    (t.needsQuotes → ∃ literal, renderLiteral v t = .ok literal ∧
      Quotes literal.toList (arrayText v).toList ∧ marks literal = []) ∧
    (t.family = .binary → ∀ bs, GivesBytes v bs → ∃ literal, renderLiteral v t = .ok literal ∧
      Decodes literal bs ∧ marks literal = []) := by
  constructor
  · intro quoted
    have rendered : renderLiteral v t = .ok (quoteText (arrayText v)) := by
      unfold SqlType.needsQuotes at quoted
      unfold renderLiteral
      cases family : t.family <;> simp_all
    exact ⟨_, rendered, quotes_quoteText _, marks_of_settled (settled_quoteText _)⟩
  · intro binary bs given
    have rendered : renderLiteral v t = .ok ("decode('" ++ hexText bs ++ "', 'hex')") := by
      simp only [renderLiteral, binary, bytesOf_of_gives given]
      rfl
    exact ⟨_, rendered, ⟨_, rfl, hexBytes?_flatMap_hexPair bs⟩, marks_of_settled (settled_decode bs)⟩

/-- A text that ends in a quote and holds a mark, and two bytes. -/
theorem literals_read_back_name :
    (∃ literal, renderLiteral (.text "?\\o'") .varchar = .ok literal ∧
      Quotes literal.toList "?\\o'".toList ∧ marks literal = []) ∧
    ∃ literal, renderLiteral (.text "é") .binary = .ok literal ∧
      Decodes literal [0xc3, 0xa9] ∧ marks literal = [] := by
  have bytes : "é".toUTF8.toList = [0xc3, 0xa9] := by decide +kernel
  have given : GivesBytes (.text "é") [0xc3, 0xa9] := bytes ▸ .text "é"
  exact ⟨(literals_read_back (.text "?\\o'") .varchar).1 rfl, (literals_read_back (.text "é") .binary).2 rfl _ given⟩

example : renderLiteral (.text "?\\o'") .varchar = .ok "'?\\o'''" := by decide +kernel

end IndexAdvisor.Sql
