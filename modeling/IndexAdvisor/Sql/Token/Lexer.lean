import IndexAdvisor.Sql.Token.Quoted

/-! # Reading tokens

`Token.scan` splits a statement's text into tokens. Blanks and comments separate tokens and are
dropped; block comments nest.
-/

namespace IndexAdvisor.Sql.Lexer

open Quoted (Fault)

/-- What follows a block comment that is open `depth + 1` times. -/
def afterComment : Nat → List Char → Option (List Char)
  | _, [] => none
  | _, [_] => none
  | depth, c :: d :: rest =>
    if c = '*' && d = '/' then
      match depth with
      | 0 => some rest
      | outer + 1 => afterComment outer rest
    else if c = '/' && d = '*' then afterComment (depth + 1) rest
    else afterComment depth (d :: rest)

/-- Drops the blanks and comments that come first; an unterminated comment is left in place. -/
def skipped : Nat → List Char → List Char
  | 0, cs => cs
  | fuel + 1, cs =>
    match cs with
    | '-' :: '-' :: rest => skipped fuel (rest.dropWhile (!endsLine ·))
    | '/' :: '*' :: rest =>
      match afterComment 0 rest with
      | some after => skipped fuel after
      | none => cs
    | c :: rest => if isSqlBlank c then skipped fuel rest else cs
    | [] => []

/-- Whether a character may be part of an operator. -/
def isOperatorChar (c : Char) : Bool := "~!@#^&|`?+-*/%<>=".toList.contains c

/-- Whether a character may be a token by itself. -/
def isMark (c : Char) : Bool := ",()[].;:+-*/%^<>=".toList.contains c

/-- Whether a character allows an operator to end in a sign. -/
def allowsFinalSign (c : Char) : Bool := "~!@#^&|`?%".toList.contains c

/-- The characters before the beginning of a comment. -/
def beforeComment : List Char → List Char
  | [] => []
  | [c] => [c]
  | c :: d :: rest =>
    if (c = '/' && d = '*') || (c = '-' && d = '-') then [] else c :: beforeComment (d :: rest)

/-- An operator without the signs at its end, given from its last character on; one character
    always remains. -/
def withoutFinalSigns : List Char → List Char
  | c :: d :: rest => if c = '+' || c = '-' then withoutFinalSigns (d :: rest) else c :: d :: rest
  | cs => cs

/-- The operator that comes first. It ends before a comment, and it ends in a sign only if it is
    that sign or has a character that tells it from arithmetic. -/
def operatorText (cs : List Char) : List Char :=
  let run := beforeComment (cs.takeWhile isOperatorChar)
  if run.any allowsFinalSign then run else (withoutFinalSigns run.reverse).reverse

def maxOperator : Nat := 63

def operatorLexeme (run : List Char) : Lexeme :=
  let name := String.ofList run
  if name = "!=" then .symbol "<>"
  else if ["<=", ">=", "<>", "=>"].contains name then .symbol name
  else
    match run with
    | [c] => if isMark c then .symbol name else .operator name
    | _ => if run.length > maxOperator then .invalid .operatorTooLong true else .operator name

/-- A name without quotes: ASCII letters fold to lower case. -/
def nameLexeme (cs : List Char) : Lexeme :=
  let folded := cs.map Char.toLower
  let word := String.ofList folded
  match Keyword.standing? word with
  | some standing => .keyword word standing
  | none => .identifier (storedName folded)

def quotedName (escaped : Bool) (cs : List Char) : Except Fault (Lexeme × List Char) :=
  match Quoted.body '"' cs with
  | none => .error ⟨.unterminatedName, none, [], true⟩
  | some ([], after) => .ok (.invalid .emptyName true, after)
  | some (name, after) =>
    .ok (if escaped then .escapedName (.ofList name) else .identifier (storedName name), after)

/-- A text literal after its opening quote. -/
def quotedText (escaped : Bool) (cs : List Char) : Except Fault (Lexeme × List Char) :=
  match Quoted.text? cs with
  | none => .error ⟨.unterminatedText, none, [], true⟩
  | some (content, after) =>
    .ok (if escaped then .escapedText (.ofList content) else .text (.ofList content), after)

/-- A bit string after its opening quote. -/
def quotedBits (radix : Char) (error : LexicalError) (cs : List Char) :
    Except Fault (Lexeme × List Char) :=
  match Quoted.bits? cs with
  | none => .error ⟨error, none, [], true⟩
  | some (digits, after) => .ok (.bits radix (.ofList digits), after)

/-- A parameter, dollar-quoted text or a stray dollar sign. -/
def dollar (cs : List Char) : Except Fault (Lexeme × List Char) :=
  let digits := (cs.drop 1).takeWhile Char.isDigit
  if digits ≠ [] then
    let number := Numeral.value 10 digits
    let after := cs.drop (digits.length + 1)
    .ok (if number ≤ Numeral.maxWhole then .parameter number else .invalid .parameterTooLarge true,
      after)
  else
    match Quoted.delimiter? cs with
    | none => .ok (.symbol "$", cs.drop 1)
    | some (delimiter, after) =>
      match Quoted.upTo? delimiter after with
      | none => .error ⟨.unterminatedDollarText, none, [], true⟩
      | some (content, rest) => .ok (.text (.ofList content), rest)

/-- A name or keyword that comes first. -/
def name (cs : List Char) : Lexeme × List Char :=
  let run := cs.takeWhile continuesName
  (nameLexeme run, cs.drop run.length)

def mark (cs : List Char) : Lexeme × List Char :=
  match cs with
  | ':' :: ':' :: rest => (.symbol "::", rest)
  | ':' :: '=' :: rest => (.symbol ":=", rest)
  | '.' :: '.' :: rest => (.symbol "..", rest)
  | c :: rest =>
    if isOperatorChar c then
      let run := operatorText cs
      (operatorLexeme run, cs.drop run.length)
    else (.symbol (.singleton c), rest)
  | [] => (.finish, [])

/-- The token that comes first, and what follows it. -/
def lexeme (cs : List Char) : Except Fault (Lexeme × List Char) :=
  match cs with
  | '\'' :: rest => quotedText false rest
  | '"' :: rest => quotedName false rest
  | '$' :: _ => dollar cs
  | '/' :: '*' :: _ => .error ⟨.unterminatedComment, none, [], true⟩
  | '.' :: d :: _ => .ok (if d.isDigit then Numeral.read cs else mark cs)
  | c :: '\'' :: rest =>
    if c = 'e' || c = 'E' then do
      let (content, after) ← Quoted.escapedText (rest.length + 1) none .empty rest
      return (.text content, after)
    else if c = 'b' || c = 'B' then quotedBits 'b' .unterminatedBits rest
    else if c = 'x' || c = 'X' then quotedBits 'x' .unterminatedHexadecimal rest
    else if c = 'n' || c = 'N' then .ok (nameLexeme "nchar".toList, '\'' :: rest)
    else .ok (other cs)
  | c :: '&' :: q :: rest =>
    if c = 'u' || c = 'U' then
      if q = '\'' then quotedText true rest
      else if q = '"' then quotedName true rest
      else .ok (other cs)
    else .ok (other cs)
  | _ => .ok (other cs)
where
  /-- A token that is told by its first character. -/
  other (cs : List Char) : Lexeme × List Char :=
    match cs with
    | c :: _ =>
      if startsName c then name cs
      else if c.isDigit then Numeral.read cs
      else mark cs
    | [] => (.finish, [])

/-- The token at a place, and what follows it; nothing follows a lexical error. -/
def token (place : Nat) (cs : List Char) : Token × List Char :=
  match lexeme cs with
  | .ok (lexeme, rest) => (⟨lexeme, place, .ofList (cs.take (cs.length - rest.length))⟩, rest)
  | .error fault =>
    match fault.place with
    | none => (⟨.invalid fault.error fault.near, place, .ofList cs⟩, [])
    | some rest =>
      let reached := place + (cs.length - rest.length)
      (⟨.invalid fault.error fault.near, reached, .ofList fault.shown⟩, [])

/-- The tokens of a text that begins at `place`. -/
def tokens : Nat → Nat → List Char → List Token
  | 0, place, _ => [⟨.finish, place, ""⟩]
  | fuel + 1, place, cs =>
    let rest := skipped (cs.length + 1) cs
    let start := place + (cs.length - rest.length)
    match rest with
    | [] => [⟨.finish, start, ""⟩]
    | _ =>
      let (first, after) := token start rest
      first :: tokens fuel (start + (rest.length - after.length)) after

/-! ## Tokens that depend on the next one -/

/-- A text or name with Unicode escapes, resolved with the given escape character. -/
def settled (escape : Char) (t : Token) : Token :=
  let resolve (content : String) (lexeme : List Char → Lexeme) : Token :=
    match Quoted.resolved escape (content.length + 1) none (t.start + 3) content.toList with
    | .ok cs => { t with lexeme := lexeme cs }
    | .error (e, place) => { t with lexeme := .invalid e false, start := place }
  match t.lexeme with
  | .escapedName content => resolve content fun cs => .identifier (storedName cs)
  | .escapedText content => resolve content fun cs => .text (.ofList cs)
  | _ => t

/-- Whether a keyword is read together with the word after it. -/
def joins (word next : String) : Bool :=
  match word with
  | "not" => ["between", "in", "like", "ilike", "similar"].contains next
  | "nulls" => ["first", "last"].contains next
  | "with" => ["time", "ordinality"].contains next
  | "without" => next = "time"
  | "format" => next = "json"
  | _ => false

/-- Whether a token is read only once the next one is known. -/
def looksAhead : Lexeme → Bool
  | .keyword word _ => ["not", "nulls", "with", "without", "format"].contains word
  | .escapedName _ | .escapedText _ => true
  | _ => false

/-- Settles the tokens that depend on the next one: an error there is met early, a keyword joins
    the next word, and `UESCAPE` names the escape character of the text before it. -/
def settle : List Token → List Token
  | [] => []
  | [t] => [settled '\\' t]
  | t :: next :: rest =>
    if looksAhead t.lexeme then
      match t.lexeme, next.lexeme with
      | _, .invalid .. => next :: settle rest
      | .keyword word standing, .keyword following _ =>
        { t with lexeme := if joins word following then .joined word else .keyword word standing }
          :: settle (next :: rest)
      | .keyword .., _ => t :: settle (next :: rest)
      | _, .keyword "uescape" _ =>
        match rest with
        | [] => [settled '\\' t, next]
        | named :: after => escapeNamed t named :: settle after
      | _, _ => settled '\\' t :: settle (next :: rest)
    else t :: settle (next :: rest)
where
  /-- A text whose escape character is named by a literal. -/
  escapeNamed (t named : Token) : Token :=
    match named.lexeme with
    | .text content =>
      match content.toList with
      | [c] =>
        if Quoted.mayEscape c then settled c t
        else { named with lexeme := .invalid .escapeCharacter true }
      | _ => { named with lexeme := .invalid .escapeCharacter true }
    | .invalid .. => named
    | _ => { named with lexeme := .invalid .escapeWithoutText true }

end Lexer

/-- The tokens of a statement's text, the last of which is its end. -/
def Token.scan (sql : String) : List Token :=
  Lexer.settle (Lexer.tokens (sql.length + 1) 0 sql.toList)

end IndexAdvisor.Sql
