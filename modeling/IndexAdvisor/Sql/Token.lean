import IndexAdvisor.Sql.Keyword
import IndexAdvisor.Text.Hex

/-! # Tokens

The pieces a statement is read from. A piece that cannot be read is a token too, so that it is
reported only if the statement is correct up to it.
-/

namespace IndexAdvisor.Sql

/-- Why a piece of a statement is no token. -/
inductive LexicalError
  | unterminatedText
  | unterminatedName
  | unterminatedComment
  | unterminatedDollarText
  | unterminatedBits
  | unterminatedHexadecimal
  | emptyName
  | junkAfterNumber
  | noHexadecimal
  | noOctal
  | noBinary
  | parameterTooLarge
  | operatorTooLong
  | escape
  | escapeValue
  | escapePair
  | escapeCharacter
  | escapeWithoutText
  /-- The given bytes begin no character. -/
  | encoding (bytes : List UInt8)
  deriving DecidableEq, Repr, Inhabited

def LexicalError.message : LexicalError → String
  | .unterminatedText => "unterminated quoted string"
  | .unterminatedName => "unterminated quoted identifier"
  | .unterminatedComment => "unterminated /* comment"
  | .unterminatedDollarText => "unterminated dollar-quoted string"
  | .unterminatedBits => "unterminated bit string literal"
  | .unterminatedHexadecimal => "unterminated hexadecimal string literal"
  | .emptyName => "zero-length delimited identifier"
  | .junkAfterNumber => "trailing junk after numeric literal"
  | .noHexadecimal => "invalid hexadecimal integer"
  | .noOctal => "invalid octal integer"
  | .noBinary => "invalid binary integer"
  | .parameterTooLarge => "parameter number too large"
  | .operatorTooLong => "operator too long"
  | .escape => "invalid Unicode escape"
  | .escapeValue => "invalid Unicode escape value"
  | .escapePair => "invalid Unicode surrogate pair"
  | .escapeCharacter => "invalid Unicode escape character"
  | .escapeWithoutText => "UESCAPE must be followed by a simple string literal"
  | .encoding bytes => "invalid byte sequence for encoding \"UTF8\": "
      ++ " ".intercalate (bytes.map fun b => "0x" ++ String.ofList (Text.hexPair b))

inductive Lexeme
  /-- A keyword in lower case. -/
  | keyword (word : String) (standing : Keyword.Standing)
  /-- A keyword that only has its special meaning because of the word after it. -/
  | joined (word : String)
  /-- A name that is no keyword, or a quoted one. -/
  | identifier (name : String)
  /-- A quoted name whose Unicode escapes are not yet resolved. -/
  | escapedName (content : String)
  /-- A text literal. -/
  | text (content : String)
  /-- A text literal whose Unicode escapes are not yet resolved. -/
  | escapedText (content : String)
  /-- A bit string: its radix letter and its digits. -/
  | bits (radix : Char) (digits : String)
  /-- A whole number of at most 31 bits. -/
  | integer (value : Nat)
  /-- Any other number, as written. -/
  | number (source : String)
  | parameter (number : Nat)
  /-- An operator without a precedence of its own. -/
  | operator (name : String)
  /-- A punctuation mark or one of the operators that have their own precedence. -/
  | symbol (mark : String)
  /-- No token; `near` tells whether the report quotes the place. -/
  | invalid (error : LexicalError) (near : Bool)
  /-- The end of the statement's text. -/
  | finish
  deriving DecidableEq, Repr, Inhabited

/-- A lexeme with its place, in characters, and the text it was read from. -/
structure Token where
  lexeme : Lexeme
  start : Nat
  source : String
  deriving Repr, Inhabited

/-- Whether a character may begin a name. -/
def startsName (c : Char) : Bool := c.isAlpha || c = '_' || c.toNat ≥ 128

/-- Whether a character may continue a name. -/
def continuesName (c : Char) : Bool := startsName c || c.isDigit || c = '$'

def isSqlBlank (c : Char) : Bool :=
  c = ' ' || c = '\t' || c = '\n' || c = '\r' || c = '\x0c' || c = '\x0b'

/-- Whether a character ends a line comment. -/
def endsLine (c : Char) : Bool := c = '\n' || c = '\r'

/-- The longest name that is kept, in bytes. -/
def maxNameBytes : Nat := 63

/-- The characters of a name that fit into `budget` bytes. -/
def fittingChars (budget : Nat) : List Char → List Char
  | [] => []
  | c :: cs => if c.utf8Size ≤ budget then c :: fittingChars (budget - c.utf8Size) cs else []

/-- A name cut to the length that is kept. -/
def storedName (cs : List Char) : String := .ofList (fittingChars maxNameBytes cs)

end IndexAdvisor.Sql
