import IndexAdvisor.Sql.Token.Numeral

/-! # Quoted text in statements

Text literals, quoted names, bit strings and dollar-quoted text. A literal goes on after its
closing quote when the next quote is separated from it by blanks and line comments that contain
the end of a line.
-/

namespace IndexAdvisor.Sql.Quoted

/-- A lexical error inside a piece. -/
structure Fault where
  error : LexicalError
  /-- The text from the place on; nothing for the beginning of the piece. -/
  place : Option (List Char)
  /-- The text the report quotes, if the place is inside the piece. -/
  shown : List Char
  /-- Whether the report quotes any text. -/
  near : Bool
  deriving Inhabited

/-- The text up to the closing quote and what follows it; a doubled quote stands for one. -/
def body (quote : Char) : List Char → Option (List Char × List Char)
  | [] => none
  | [c] => if c = quote then some ([], []) else none
  | c :: d :: rest =>
    if c ≠ quote then (body quote (d :: rest)).map fun (content, after) => (c :: content, after)
    else if d = quote then (body quote rest).map fun (content, after) => (quote :: content, after)
    else some ([], d :: rest)

/-- The text up to the next quote and what follows it. -/
def undoubled (quote : Char) (cs : List Char) : Option (List Char × List Char) :=
  match cs.dropWhile (· ≠ quote) with
  | [] => none
  | _ :: after => some (cs.takeWhile (· ≠ quote), after)

/-- What follows the opening quote of a literal's next part, if one goes on here. -/
def continuation? (inComment lineEnded : Bool) : List Char → Option (List Char)
  | [] => none
  | c :: cs =>
    if inComment then continuation? (!endsLine c) (lineEnded || endsLine c) cs
    else if isSqlBlank c then continuation? false (lineEnded || endsLine c) cs
    else if c = '\'' then if lineEnded then some cs else none
    else if c = '-' then
      match cs with
      | '-' :: rest => continuation? true lineEnded rest
      | _ => none
    else none

/-- Joins the parts of a literal, each read by `part`. -/
def parts (part : List Char → Option (List Char × List Char)) :
    Nat → List Char → Option (List Char × List Char)
  | 0, _ => none
  | fuel + 1, cs =>
    match part cs with
    | none => none
    | some (content, after) =>
      match continuation? false false after with
      | none => some (content, after)
      | some next => (parts part fuel next).map fun (more, rest) => (content ++ more, rest)

/-- The content of a text literal after its opening quote. -/
def text? (cs : List Char) : Option (List Char × List Char) :=
  parts (body '\'') (cs.length + 1) cs

/-- The digits of a bit string after its opening quote. -/
def bits? (cs : List Char) : Option (List Char × List Char) :=
  parts (undoubled '\'') (cs.length + 1) cs

/-! ## Backslash escapes -/

/-- Whether a code unit opens a pair. -/
def opensPair (n : Nat) : Bool := 0xD800 ≤ n && n ≤ 0xDBFF

/-- Whether a code unit closes a pair. -/
def closesPair (n : Nat) : Bool := 0xDC00 ≤ n && n ≤ 0xDFFF

/-- The code point of a pair of code units. -/
def pairValue (first second : Nat) : Nat := (first - 0xD800) * 0x400 + (second - 0xDC00) + 0x10000

/-- The code point named by an escape after an open first half, if any; or what is wrong. -/
def codePoint (first : Option Nat) (n : Nat) : Except LexicalError (Option Nat × List Char) :=
  match first with
  | some f => if closesPair n then .ok (none, [Char.ofNat (pairValue f n)]) else .error .escapePair
  | none =>
    if opensPair n then .ok (some n, [])
    else if closesPair n then .error .escapePair
    else if n = 0 || n > 0x10FFFF then .error .escapeValue
    else .ok (none, [Char.ofNat n])

/-- The control character named by a letter after a backslash, else the letter. -/
def escapedChar (c : Char) : Char :=
  if c = 'b' then '\x08'
  else if c = 'f' then '\x0c'
  else if c = 'n' then '\n'
  else if c = 'r' then '\r'
  else if c = 't' then '\t'
  else if c = 'v' then '\x0b'
  else c

/-- The bytes of a text under construction. -/
def addChars (bytes : ByteArray) (cs : List Char) : ByteArray := bytes ++ (String.ofList cs).toUTF8

/-- How many bytes a character has that begins with the given one. -/
def characterSize (b : UInt8) : Nat :=
  if b &&& 0xe0 = 0xc0 then 2
  else if b &&& 0xf0 = 0xe0 then 3
  else if b &&& 0xf8 = 0xf0 then 4
  else 1

/-- Whether bytes make one character, which is not the null character. -/
def isCharacter (bytes : List UInt8) : Bool :=
  let inner (low high b : UInt8) : Bool := low ≤ b && b ≤ high
  let tail := inner 0x80 0xbf
  match bytes with
  | [a] => 0 < a && a < 0x80
  | [a, b] => 0xc2 ≤ a && tail b
  | [a, b, c] =>
    inner (if a = 0xe0 then 0xa0 else 0x80) (if a = 0xed then 0x9f else 0xbf) b && tail c
  | [a, b, c, d] =>
    a ≤ 0xf4 && inner (if a = 0xf0 then 0x90 else 0x80) (if a = 0xf4 then 0x8f else 0xbf) b
      && tail c && tail d
  | _ => false

/-- The first bytes that are no character, if there are any. -/
def faultyBytes? (bytes : List UInt8) : Option (List UInt8) :=
  match bytes with
  | [] => none
  | b :: rest =>
    let first := (b :: rest).take (characterSize b)
    if first.length = characterSize b && isCharacter first then
      faultyBytes? (rest.drop (characterSize b - 1))
    else some first
  termination_by bytes.length

def decoded (bytes : ByteArray) : Except Fault String :=
  match faultyBytes? bytes.toList, String.fromUTF8? bytes with
  | none, some s => .ok s
  | faulty, _ => .error ⟨.encoding (faulty.getD []), none, [], false⟩

/-- How many hexadecimal digits follow a letter after a backslash that names a code unit. -/
def unitWidth? (c : Char) : Option Nat :=
  if c = 'u' then some 4 else if c = 'U' then some 8 else none

/-- The byte named by the octal or hexadecimal digits after a backslash, and what follows them. -/
def escapedByte? (cs : List Char) : Option (UInt8 × List Char) :=
  let octal := (cs.take 3).takeWhile Numeral.isOctalDigit
  let hex := match cs with
    | 'x' :: more => (more.take 2).takeWhile Numeral.isHexDigit
    | _ => []
  if octal ≠ [] then some ((Numeral.value 8 octal).toUInt8, cs.drop octal.length)
  else if hex ≠ [] then some ((Numeral.value 16 hex).toUInt8, cs.drop (hex.length + 1))
  else none

/-- A literal with backslash escapes after its opening quote. -/
def escapedText : Nat → Option Nat → ByteArray → List Char → Except Fault (String × List Char)
  | 0, _, _, _ => .error ⟨.unterminatedText, none, [], true⟩
  | fuel + 1, first, bytes, cs =>
    let broken (shown : List Char) : Except Fault (String × List Char) :=
      .error ⟨.escapePair, some cs, shown, true⟩
    match cs with
    | [] => if first.isSome then broken [] else .error ⟨.unterminatedText, none, [], true⟩
    | '\\' :: d :: rest =>
      match unitWidth? d with
      | some width =>
        let digits := (rest.take width).takeWhile Numeral.isHexDigit
        if digits.length < width then .error ⟨.escape, some cs, [], false⟩
        else
          match codePoint first (Numeral.value 16 digits) with
          | .error e => .error ⟨e, some cs, cs.take (width + 2), true⟩
          | .ok (open?, added) =>
            escapedText fuel open? (addChars bytes added) (rest.drop width)
      | none =>
        if first.isSome then broken ['\\']
        else
          match escapedByte? (d :: rest) with
          | some (byte, more) => escapedText fuel none (bytes.push byte) more
          | none => escapedText fuel none (addChars bytes [escapedChar d]) rest
    | '\'' :: rest =>
      if first.isSome then broken ['\'']
      else
        match rest with
        | '\'' :: more => escapedText fuel none (addChars bytes ['\'']) more
        | _ =>
          match continuation? false false rest with
          | some more => escapedText fuel none bytes more
          | none => return (← decoded bytes, rest)
    | c :: rest =>
      if first.isSome then broken [c] else escapedText fuel none (addChars bytes [c]) rest

/-- Resolves the Unicode escapes of a text that began at `start`; or what is wrong and where. -/
def resolved (escape : Char) :
    Nat → Option Nat → Nat → List Char → Except (LexicalError × Nat) (List Char)
  | 0, _, _, _ => .ok []
  | _ + 1, first, place, [] => if first.isSome then .error (.escapePair, place) else .ok []
  | fuel + 1, first, place, c :: cs => do
    if c ≠ escape then
      if first.isSome then .error (.escapePair, place)
      else return c :: (← resolved escape fuel none (place + 1) cs)
    else if cs.head? = some escape then
      if first.isSome then .error (.escapePair, place)
      else return escape :: (← resolved escape fuel none (place + 2) (cs.drop 1))
    else
      let long := cs.head? = some '+'
      let digits := if long then (cs.drop 1).take 6 else cs.take 4
      let width := if long then 8 else 5
      if digits.length = (if long then 6 else 4) && digits.all Numeral.isHexDigit then
        match codePoint first (Numeral.value 16 digits) with
        | .error e => .error (e, place)
        | .ok (open?, chars) =>
          return chars ++ (← resolved escape fuel open? (place + width) (cs.drop (width - 1)))
      else .error (.escape, place)

/-- Whether a character may introduce Unicode escapes. -/
def mayEscape (c : Char) : Bool :=
  !(Numeral.isHexDigit c || c = '+' || c = '\'' || c = '"' || isSqlBlank c)

/-! ## Dollar quoting -/

/-- The delimiter `$name$` that comes first, with what follows it. -/
def delimiter? : List Char → Option (List Char × List Char)
  | '$' :: rest =>
    let tag := match rest with
      | c :: cs => if startsName c then c :: cs.takeWhile fun d => startsName d || d.isDigit else []
      | [] => []
    match rest.drop tag.length with
    | '$' :: after => some ('$' :: tag ++ ['$'], after)
    | _ => none
  | _ => none

/-- The text before the next occurrence of a delimiter and what follows it. -/
def upTo? (delimiter : List Char) : List Char → Option (List Char × List Char)
  | [] => none
  | c :: cs =>
    if delimiter.isPrefixOf (c :: cs) then some ([], (c :: cs).drop delimiter.length)
    else (upTo? delimiter cs).map fun (content, after) => (c :: content, after)

end IndexAdvisor.Sql.Quoted
