import IndexAdvisor.Number.Shortest
import IndexAdvisor.Text.Hex

/-! # JSON

Values of the JSON format, and two ways to write them: on one line, and indented by two with
every character outside printable ASCII escaped.
-/

namespace IndexAdvisor

open Number Text

/-- A JSON value. The fields of a record keep their order. -/
inductive Json where
  | null
  | bool (b : Bool)
  | int (n : Int)
  | float (x : Float)
  | text (s : String)
  | list (items : List Json)
  | record (fields : List (String × Json))
  deriving Inhabited

namespace Json

/-- The escape of a character by its number; beyond the first plane it takes a pair. -/
def escapedCode (n : Nat) : List Char :=
  if n < 0x10000 then '\\' :: 'u' :: hexDigits 4 n
  else
    '\\' :: 'u' :: hexDigits 4 (0xd800 + (n - 0x10000) / 0x400)
      ++ '\\' :: 'u' :: hexDigits 4 (0xdc00 + (n - 0x10000) % 0x400)

/-- A character inside a written text; `ascii` escapes all that is not printable ASCII. -/
def escapedChar (ascii : Bool) (c : Char) : List Char :=
  if c = '"' then ['\\', '"']
  else if c = '\\' then ['\\', '\\']
  else if c = '\n' then ['\\', 'n']
  else if c = '\r' then ['\\', 'r']
  else if c = '\t' then ['\\', 't']
  else if c.toNat = 0x08 then ['\\', 'b']
  else if c.toNat = 0x0c then ['\\', 'f']
  else if c.toNat < 0x20 || (ascii && 0x7e < c.toNat) then escapedCode c.toNat
  else [c]

def writeText (ascii : Bool) (s : String) : String :=
  String.ofList ('"' :: s.toList.flatMap (escapedChar ascii) ++ ['"'])

/-- A number; infinities and the missing number have words of their own. -/
def writeNumber (x : Float) : String :=
  match writeFloat x with
  | "nan" => "NaN"
  | "inf" => "Infinity"
  | "-inf" => "-Infinity"
  | s => s

/-- A line break and the indentation of a nesting depth. -/
def lineBreak (depth : Nat) : String :=
  String.ofList ('\n' :: List.replicate (2 * depth) ' ')

/-- Items in brackets, each on a line of its own. -/
def bracketed (left right : String) (depth : Nat) (items : List String) : String :=
  if items.isEmpty then left ++ right
  else
    left ++ lineBreak (depth + 1) ++ ("," ++ lineBreak (depth + 1)).intercalate items
      ++ lineBreak depth ++ right

mutual

def writeIndentedAt (depth : Nat) : Json → String
  | .null => "null"
  | .bool b => if b then "true" else "false"
  | .int n => toString n
  | .float x => writeNumber x
  | .text s => writeText true s
  | .list items => bracketed "[" "]" depth (writeIndentedItems (depth + 1) items)
  | .record fields =>
    bracketed "\x7b" "\x7d" depth (writeIndentedFields (depth + 1) fields)

def writeIndentedItems (depth : Nat) : List Json → List String
  | [] => []
  | item :: items => writeIndentedAt depth item :: writeIndentedItems depth items

def writeIndentedFields (depth : Nat) : List (String × Json) → List String
  | [] => []
  | (name, value) :: fields =>
    (writeText true name ++ ": " ++ writeIndentedAt depth value)
      :: writeIndentedFields depth fields

end

/-- A value over several lines, indented by two. -/
def writeIndented (j : Json) : String :=
  writeIndentedAt 0 j

mutual

def write : Json → String
  | .null => "null"
  | .bool b => if b then "true" else "false"
  | .int n => toString n
  | .float x => writeNumber x
  | .text s => writeText false s
  | .list items => "[" ++ ",".intercalate (writeItems items) ++ "]"
  | .record fields => "\x7b" ++ ",".intercalate (writeFields fields) ++ "\x7d"

def writeItems : List Json → List String
  | [] => []
  | item :: items => write item :: writeItems items

def writeFields : List (String × Json) → List String
  | [] => []
  | (name, value) :: fields =>
    (writeText false name ++ ":" ++ write value) :: writeFields fields

end

def ofText? : Option String → Json
  | none => .null
  | some s => .text s

def ofFloat? : Option Float → Json
  | none => .null
  | some x => .float x

def ofTexts (ss : List String) : Json :=
  .list (ss.map .text)

end Json

end IndexAdvisor
