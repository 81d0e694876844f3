import IndexAdvisor.Text.Digit

/-! # Dates and times

Calendar dates, times of day and their combination, with a zone where the database gives one.
Their text is the international form `2024-05-06T07:08:09.000123+02:00`: a fraction of six
digits only if it is not zero, a zone only if there is one.
-/

namespace IndexAdvisor

open Text

/-- A number with zeros before it up to `width` digits. -/
def paddedNumber (width n : Nat) : String :=
  let digits := toString n
  String.ofList (List.replicate (width - digits.length) '0') ++ digits

structure Date where
  year : Nat
  month : Nat
  day : Nat
  deriving Repr, DecidableEq

/-- A time of day; `offset` is its zone's distance from universal time in seconds. -/
structure TimeOfDay where
  hour : Nat
  minute : Nat
  second : Nat
  microsecond : Nat
  offset : Option Int
  deriving Repr, DecidableEq

structure DateTime where
  date : Date
  time : TimeOfDay
  deriving Repr, DecidableEq

/-- Year, month and day. -/
def Date.text (d : Date) : String :=
  paddedNumber 4 d.year ++ "-" ++ paddedNumber 2 d.month ++ "-" ++ paddedNumber 2 d.day

/-- A zone as hours and minutes, with seconds where there are some. -/
def offsetText (offset : Int) : String :=
  let n := offset.natAbs
  let seconds := n % 60
  (if offset < 0 then "-" else "+") ++ paddedNumber 2 (n / 3600) ++ ":"
    ++ paddedNumber 2 (n / 60 % 60)
    ++ (if seconds = 0 then "" else ":" ++ paddedNumber 2 seconds)

/-- Hours, minutes and seconds, with the fraction and the zone where there are such. -/
def TimeOfDay.text (t : TimeOfDay) : String :=
  paddedNumber 2 t.hour ++ ":" ++ paddedNumber 2 t.minute ++ ":" ++ paddedNumber 2 t.second
    ++ (if t.microsecond = 0 then "" else "." ++ paddedNumber 6 t.microsecond)
    ++ (t.offset.map offsetText).getD ""

def DateTime.textWith (separator : String) (t : DateTime) : String :=
  t.date.text ++ separator ++ t.time.text

def DateTime.text (t : DateTime) : String :=
  t.textWith "T"

/-- The same clock reading without its zone. -/
def DateTime.unzoned (t : DateTime) : DateTime :=
  { t with time := { t.time with offset := none } }

/-- The same clock reading, taken as universal time. -/
def DateTime.universal (t : DateTime) : DateTime :=
  { t with time := { t.time with offset := some 0 } }

/-- The number of `width` digits that a text starts with, and the rest. -/
def takeNumber? (width : Nat) (cs : List Char) : Option (Nat × List Char) :=
  let digits := cs.take width
  if digits.length = width ∧ digits.all Char.isDigit then
    some (digitsValue digits, cs.drop width)
  else none

/-- The rest of a text after one character. -/
def dropChar? (c : Char) : List Char → Option (List Char)
  | d :: rest => if d = c then some rest else none
  | [] => none

/-- A date at the start of a text. -/
def Date.readPart? (cs : List Char) : Option (Date × List Char) := do
  let (year, cs) ← takeNumber? 4 cs
  let (month, cs) ← takeNumber? 2 (← dropChar? '-' cs)
  let (day, cs) ← takeNumber? 2 (← dropChar? '-' cs)
  pure (⟨year, month, day⟩, cs)

/-- A zone: nothing, or a sign with hours, minutes and perhaps seconds. -/
def readOffset? : List Char → Option (Option Int)
  | [] => some none
  | sign :: cs =>
    if sign = '+' || sign = '-' then do
      let (hours, cs) ← takeNumber? 2 cs
      let (minutes, cs) ← takeNumber? 2 (← dropChar? ':' cs)
      let seconds ← match cs with
        | [] => some 0
        | cs => (dropChar? ':' cs).bind fun cs => (takeNumber? 2 cs).map (·.1)
      let n : Int := hours * 3600 + minutes * 60 + seconds
      pure (some (if sign = '-' then -n else n))
    else none

/-- A time of day that takes up a whole text. -/
def TimeOfDay.readPart? (cs : List Char) : Option TimeOfDay := do
  let (hour, cs) ← takeNumber? 2 cs
  let (minute, cs) ← takeNumber? 2 (← dropChar? ':' cs)
  let (second, cs) ← match cs with
    | ':' :: cs => takeNumber? 2 cs
    | cs => some (0, cs)
  let (microsecond, cs) := match cs with
    | '.' :: cs =>
      let digits := cs.takeWhile Char.isDigit
      (digitsValue ((digits ++ List.replicate 6 '0').take 6), cs.dropWhile Char.isDigit)
    | cs => (0, cs)
  pure ⟨hour, minute, second, microsecond, ← readOffset? cs⟩

def Date.read? (s : String) : Option Date := do
  let (d, rest) ← Date.readPart? s.toList
  if rest.isEmpty then pure d else none

def TimeOfDay.read? (s : String) : Option TimeOfDay :=
  TimeOfDay.readPart? s.toList

/-- Reads a date with a time of day; a date alone stands for its midnight. -/
def DateTime.read? (s : String) : Option DateTime := do
  let (date, rest) ← Date.readPart? s.toList
  match rest with
  | [] => pure ⟨date, 0, 0, 0, 0, none⟩
  | separator :: rest =>
    if separator = 'T' || separator = ' ' then pure ⟨date, ← TimeOfDay.readPart? rest⟩ else none

end IndexAdvisor
