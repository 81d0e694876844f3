import IndexAdvisor.Entries
import IndexAdvisor.Text.Blank

/-! # Properties

A property text holds one `name=value` a line. A value may be quoted, and then holds line breaks;
an unquoted one ends before a blank and `#`. A line that cannot be read is left out.
-/

namespace IndexAdvisor

namespace Properties

open Text (isBlank trimLeft trimRight)

/-- Whether a character is blank and breaks no line. -/
def isInlineBlank (c : Char) : Bool :=
  isBlank c && c != '\n' && c != '\r'

/-- The text with every kind of line break as one character. -/
def unifyBreaks : List Char → List Char
  | [] => []
  | '\r' :: '\n' :: rest => '\n' :: unifyBreaks rest
  | '\r' :: rest => '\n' :: unifyBreaks rest
  | c :: rest => c :: unifyBreaks rest

/-- What was read and what follows, or what follows the place where reading failed. -/
abbrev Read (α : Type) := Except (List Char) (α × List Char)

/-! ## Names -/

def skipExport (cs : List Char) : List Char :=
  let word := "export".toList
  let rest := cs.drop word.length
  if word.isPrefixOf cs && rest.head?.any isInlineBlank then rest.dropWhile isInlineBlank else cs

/-- Whether a character may be part of an unquoted name. -/
def isNameChar (c : Char) : Bool :=
  c != '=' && c != '#' && !isBlank c

/-- Reads a name; none stands before a comment. -/
def readName : List Char → Read (Option String)
  | '#' :: rest => .ok (none, '#' :: rest)
  | '\'' :: rest =>
    let name := rest.takeWhile (· ≠ '\'')
    match name, rest.dropWhile (· ≠ '\'') with
    | _ :: _, '\'' :: more => .ok (some (String.ofList name), more)
    | _, _ => .error ('\'' :: rest)
  | cs =>
    let name := cs.takeWhile isNameChar
    if name.isEmpty then .error cs
    else .ok (some (String.ofList name), cs.dropWhile isNameChar)

/-! ## Values -/

/-- The text up to the closing quote, and what follows it. A quote after a backslash closes only
    if no later one does. -/
def quotedPart (quote : Char) : List Char → Option (List Char × List Char)
  | [] => none
  | '\\' :: d :: rest =>
    match if d = quote then quotedPart quote rest else none with
    | some (part, after) => some ('\\' :: d :: part, after)
    | none => (quotedPart quote (d :: rest)).map fun found => ('\\' :: found.1, found.2)
  | c :: rest =>
    if c = quote then some ([], rest)
    else (quotedPart quote rest).map fun found => (c :: found.1, found.2)

/-- The character that an escape stands for inside double quotes. -/
def doubleEscape? : Char → Option Char
  | '\\' => some '\\'
  | '\'' => some '\''
  | '"' => some '"'
  | 'a' => some '\x07'
  | 'b' => some '\x08'
  | 'f' => some '\x0c'
  | 'n' => some '\n'
  | 'r' => some '\r'
  | 't' => some '\t'
  | 'v' => some '\x0b'
  | _ => none

/-- The character that an escape stands for inside single quotes. -/
def singleEscape? : Char → Option Char
  | '\\' => some '\\'
  | '\'' => some '\''
  | _ => none

/-- A quoted text with its escapes resolved; an unknown escape stands for itself. -/
def resolveEscapes (escape? : Char → Option Char) : List Char → List Char
  | '\\' :: c :: rest =>
    match escape? c with
    | some resolved => resolved :: resolveEscapes escape? rest
    | none => '\\' :: resolveEscapes escape? (c :: rest)
  | c :: rest => c :: resolveEscapes escape? rest
  | [] => []

/-- A line up to a blank and a `#`. -/
def withoutComment : List Char → List Char
  | [] => []
  | c :: rest =>
    let after := (c :: rest).dropWhile isBlank
    if isBlank c && after.head? = some '#' then [] else c :: withoutComment rest

/-- Reads a value, from the blanks before it on. -/
def readValue (cs : List Char) : Read String :=
  let readQuoted (quote : Char) (escape? : Char → Option Char) (rest : List Char) : Read String :=
    match quotedPart quote rest with
    | some (part, after) => .ok (String.ofList (resolveEscapes escape? part), after)
    | none => .error (quote :: rest)
  match cs.dropWhile isInlineBlank with
  | '\'' :: rest => readQuoted '\'' singleEscape? rest
  | '"' :: rest => readQuoted '"' doubleEscape? rest
  | _ =>
    let line := cs.takeWhile (· ≠ '\n')
    .ok (String.ofList (trimRight (trimLeft (withoutComment line))), cs.dropWhile (· ≠ '\n'))

/-! ## Lines -/

/-- What follows the end of a line, before which only blanks and a comment may stand. -/
def endLine (cs : List Char) : Except (List Char) (List Char) :=
  let afterBlanks := cs.dropWhile isInlineBlank
  let comment := afterBlanks.head? = some '#'
  let rest := if comment then afterBlanks.dropWhile (· ≠ '\n') else afterBlanks
  match rest with
  | [] => .ok []
  | '\n' :: rest => .ok rest
  | _ => .error cs

/-- Reads a line, from its first character on that is not blank. -/
def readLine (cs : List Char) : Read (Option (String × Option String)) :=
  match readName (skipExport cs) with
  | .error place => .error place
  | .ok (name, rest) =>
    let valued : Read (Option String) := match rest.dropWhile isInlineBlank with
      | '=' :: rest => (readValue rest).map fun (value, rest) => (some value, rest)
      | rest => .ok (none, rest)
    match valued with
    | .error place => .error place
    | .ok (value, rest) => (endLine rest).map fun rest => (name.map fun n => (n, value), rest)

/-- What follows the line that a place is on. -/
def skipLine (cs : List Char) : List Char :=
  (cs.dropWhile (· ≠ '\n')).drop 1

/-- Reads lines. Each takes at least one character. -/
def readLines : Nat → List Char → List (String × Option String)
  | 0, _ => []
  | fuel + 1, cs =>
    match trimLeft cs with
    | [] => []
    | c :: rest =>
      match readLine (c :: rest) with
      | .ok (line, rest) => line.toList ++ readLines fuel rest
      | .error rest => readLines fuel (skipLine rest)

/-- A text without a mark of its byte order. -/
def withoutMark : List Char → List Char
  | c :: rest => if c.toNat = 0xfeff then rest else c :: rest
  | [] => []

end Properties

/-- The properties of a text by their names; one without `=` has no value. -/
def Properties.read (text : String) : Entries (Option String) :=
  let cs := Properties.unifyBreaks (Properties.withoutMark text.toList)
  Entries.ofPairs (Properties.readLines (cs.length + 1) cs)

end IndexAdvisor
