import IndexAdvisor.Moment
import IndexAdvisor.Number.Reading
import IndexAdvisor.Number.Shortest

/-! # Values of a database

What a database returns in one field of a row. `text` is the plain text of a value, `spelled`
the text it has inside the brackets of a list.
-/

namespace IndexAdvisor

open Number

/-- One field of a row. -/
inductive Value where
  | null
  | bool (b : Bool)
  | int (n : Int)
  | float (x : Float)
  | decimal (d : Decimal)
  | text (s : String)
  | bytes (bs : List UInt8)
  /-- Bytes that are only viewed, not copied. -/
  | view (bs : List UInt8)
  | date (d : Date)
  | time (t : TimeOfDay)
  | dateTime (t : DateTime)
  /-- An array. -/
  | list (vs : List Value)
  /-- A document with named fields. -/
  | record (fields : List (String × Value))
  deriving Inhabited

def truthText (b : Bool) : String :=
  if b then "True" else "False"

/-- One byte inside a quoted run of bytes. -/
def spelledByte (quote : Char) (b : UInt8) : List Char :=
  let n := b.toNat
  if n = 9 then ['\\', 't']
  else if n = 10 then ['\\', 'n']
  else if n = 13 then ['\\', 'r']
  else if n = 0x5c || Char.ofNat n = quote then ['\\', Char.ofNat n]
  else if n < 0x20 || 0x7f ≤ n then '\\' :: 'x' :: Text.hexPair b
  else [Char.ofNat n]

/-- A run of bytes in quotes, marked as such. -/
def spelledBytes (bs : List UInt8) : String :=
  let quote := if bs.contains 0x27 && !bs.contains 0x22 then '"' else '\''
  String.ofList ('b' :: quote :: bs.flatMap (spelledByte quote) ++ [quote])

/-- A date as it is spelled inside brackets. -/
def spelledDate (d : Date) : String :=
  "datetime.date(" ++ toString d.year ++ ", " ++ toString d.month ++ ", " ++ toString d.day ++ ")"

/-- The numbers of a time of day that are spelled: seconds and fraction only where needed. -/
def clockFields (t : TimeOfDay) : List Nat :=
  [t.hour, t.minute]
    ++ (if t.second = 0 ∧ t.microsecond = 0 then [] else [t.second])
    ++ (if t.microsecond = 0 then [] else [t.microsecond])

/-- A zone as it is spelled inside brackets: whole days, rounded down, and the seconds over. -/
def spelledZone (offset : Int) : String :=
  if offset = 0 then "datetime.timezone.utc"
  else
    let days := Int.fdiv offset 86400
    let fields := (if days = 0 then [] else ["days=" ++ toString days])
      ++ ["seconds=" ++ toString (offset - 86400 * days)]
    "datetime.timezone(datetime.timedelta(" ++ ", ".intercalate fields ++ "))"

/-- The fields of a time of day that are spelled, the zone included. -/
def spelledClock (t : TimeOfDay) : List String :=
  (clockFields t).map toString
    ++ (t.offset.map fun offset => "tzinfo=" ++ spelledZone offset).toList

mutual

/-- The text of a value inside brackets: texts are in quotes. -/
def Value.spelled : Value → String
  | .null => "None"
  | .bool b => truthText b
  | .int n => toString n
  | .float x => writeFloat x
  | .decimal d => "Decimal('" ++ d.text ++ "')"
  | .text s => quoted s
  | .bytes bs => spelledBytes bs
  | .view _ => "<memory>"
  | .date d => spelledDate d
  | .time t => "datetime.time(" ++ ", ".intercalate (spelledClock t) ++ ")"
  | .dateTime t =>
    let day := [t.date.year, t.date.month, t.date.day].map toString
    "datetime.datetime(" ++ ", ".intercalate (day ++ spelledClock t.time) ++ ")"
  | .list vs => "[" ++ ", ".intercalate (Value.spelledAll vs) ++ "]"
  | .record fields => "\x7b" ++ ", ".intercalate (Value.spelledFields fields) ++ "\x7d"

/-- The texts of several values inside brackets. -/
def Value.spelledAll : List Value → List String
  | [] => []
  | v :: vs => v.spelled :: Value.spelledAll vs

/-- The texts of named fields inside brackets. -/
def Value.spelledFields : List (String × Value) → List String
  | [] => []
  | (name, v) :: fields => (quoted name ++ ": " ++ v.spelled) :: Value.spelledFields fields

end

def Value.plainText : Value → String
  | .text s => s
  | .decimal d => d.text
  | .date d => d.text
  | .time t => t.text
  | .dateTime t => t.textWith " "
  | v => v.spelled

/-- Whether a value is neither null nor zero nor empty. -/
def Value.isTruthy : Value → Bool
  | .null => false
  | .bool b => b
  | .int n => n != 0
  | .float x => x != 0.0
  | .decimal d => !d.isZero
  | .text s => !s.isEmpty
  | .bytes bs => !bs.isEmpty
  | .view bs => !bs.isEmpty
  | .date _ | .time _ | .dateTime _ => true
  | .list vs => !vs.isEmpty
  | .record fields => !fields.isEmpty

def Value.isNull : Value → Bool
  | .null => true
  | _ => false

def Value.kindName : Value → String
  | .null => "NoneType"
  | .bool _ => "bool"
  | .int _ => "int"
  | .float _ => "float"
  | .decimal _ => "decimal.Decimal"
  | .text _ => "str"
  | .bytes _ => "bytes"
  | .view _ => "memoryview"
  | .date _ => "datetime.date"
  | .time _ => "datetime.time"
  | .dateTime _ => "datetime.datetime"
  | .list _ => "list"
  | .record _ => "dict"

/-- The elements of a value that is made of several: of a list its members, of a text its
    characters, of a document its names, of bytes their numbers. -/
def Value.elements? : Value → Option (List Value)
  | .list vs => some vs
  | .text s => some (s.toList.map fun c => .text c.toString)
  | .record fields => some (fields.map fun field => .text field.1)
  | .bytes bs | .view bs => some (bs.map fun b => .int b.toNat)
  | _ => none

end IndexAdvisor
