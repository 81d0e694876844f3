import IndexAdvisor.Json.Part
import IndexAdvisor.Json.Reader
import IndexAdvisor.Service.Message
import IndexAdvisor.Text.Blank
import IndexAdvisor.Text.Digit

/-! # Intake of requests

The order for an analysis is read from the body of a request. Numbers and truth values may be
written in more than one way; all that is wrong is complained about, in the order of the fields.
-/

namespace IndexAdvisor.Service

structure Order where
  queries : Entries String
  warmUps : Nat
  plans : Bool
  /-- Whether the statistics of the planner are brought up to date first. -/
  refresh : Bool
  deriving DecidableEq, Repr, Inhabited

/-! ## Fields -/

/-- Digits with single bars between them. -/
def barredDigits (cs : List Char) : Bool :=
  ((String.ofList cs).splitOn "_").all fun group =>
    !group.isEmpty && group.toList.all Char.isDigit

/-- The most bytes of a written number. -/
def longestNumber : Nat := 4300

/-- Whether a character is white space. The marks that separate records are none here. -/
def isSpace (c : Char) : Bool :=
  Text.isBlank c && !(0x1c ≤ c.toNat && c.toNat ≤ 0x1f)

/-- Whether what follows the whole part of a number is nothing, or a point and zeros. -/
def isZeroFraction : List Char → Bool
  | [] => true
  | _ :: zeros => !zeros.isEmpty && zeros.all (· = '0')

/-- A whole number as it is written: after a sign, and before a fraction of zeros. -/
def readNumeral (s : String) : Except Complaint.Kind Int :=
  let cs := ((s.toList.dropWhile isSpace).reverse.dropWhile isSpace).reverse
  let (negative, cs) := match cs with
    | '-' :: rest => (true, rest)
    | '+' :: rest => (false, rest)
    | cs => (false, cs)
  let whole := cs.takeWhile (· ≠ '.')
  if s.utf8ByteSize > longestNumber then .error .tooLong
  else if barredDigits whole && isZeroFraction (cs.drop whole.length) then
    let n : Int := Text.digitsValue (whole.filter Char.isDigit)
    .ok (if negative then -n else n)
  else .error .unreadableInteger

/-- The whole number that a finite number without a fraction is, if it is not too large. -/
def wholeNumber (x : Float) : Except Complaint.Kind Int :=
  if !x.isFinite then .error .infinite
  else if x.floor != x then .error .fractional
  else if -9223372036854775808.0 ≤ x ∧ x < 9223372036854775808.0 then .ok x.toInt64.toInt
  else .error .tooLong

/-- The whole number that a value stands for. -/
def readWhole : Json → Except Complaint.Kind Int
  | .int n => .ok n
  | .bool b => .ok (if b then 1 else 0)
  | .float x => wholeNumber x
  | .text s => readNumeral s
  | _ => .error .notInteger

def mostWarmUps : Nat := 50

/-- The number of warm-up runs that a value stands for. -/
def readWarmUps (j : Json) : Except Complaint.Kind Nat := do
  let n ← readWhole j
  if n > mostWarmUps then throw .tooLarge
  if n < 0 then throw .tooSmall
  return n.toNat

def trueWords : List String := ["1", "t", "y", "on", "yes", "true"]

def falseWords : List String := ["0", "f", "n", "no", "off", "false"]

/-- The truth value of a number; very large ones are not even tried. -/
def truthOf (n : Int) : Except Complaint.Kind Bool :=
  if n = 1 then .ok true
  else if n = 0 then .ok false
  else if -Number.wordLimit ≤ n ∧ n < Number.wordLimit then .error .unreadableTruth
  else .error .notTruth

/-- The truth value that a value stands for. -/
def readTruth : Json → Except Complaint.Kind Bool
  | .bool b => .ok b
  | .int n => truthOf n
  | .float x =>
    match wholeNumber x with
    | .ok n => truthOf n
    | .error _ => .error .notTruth
  | .text s =>
    let word := String.ofList (s.toList.map Char.toLower)
    if trueWords.contains word then .ok true
    else if falseWords.contains word then .ok false
    else .error .unreadableTruth
  | _ => .error .notTruth

/-! ## Orders -/

/-- A field of the order, or else its value in absence, with the complaint about it. -/
def readField {α} (order : Json) (name : String) (absent : α)
    (read : Json → Except Complaint.Kind α) : α × List Complaint :=
  match order.field? name with
  | none => (absent, [])
  | some j =>
    match read j with
    | .ok a => (a, [])
    | .error kind => (absent, [⟨kind, [.text "body", .text name], j⟩])

def readQueries (order : Json) : Entries String × List Complaint :=
  let place (names : List String) : List Json := ("body" :: "queries" :: names).map .text
  match order.field? "queries" with
  | none => ([], [⟨.missing, place [], order⟩])
  | some (.record []) => ([], [⟨.tooShort, place [], .record []⟩])
  | some (.record fields) =>
    let wrong := fields.filter (·.2.str?.isNone)
    (fields.map fun (id, query) => (id, query.str),
      wrong.map fun (id, query) => ⟨.notText, place [id], query⟩)
  | some j => ([], [⟨.notTexts, place [], j⟩])

def Order.ofBody (body : Option Json) : Except (List Complaint) Order :=
  match body with
  | none => .error [⟨.missing, [.text "body"], .null⟩]
  | some (.record fields) =>
    let order : Json := .record fields
    let (queries, onQueries) := readQueries order
    let (warmUps, onWarmUps) := readField order "plan_count" 5 readWarmUps
    let (plans, onPlans) := readField order "include_plans" true readTruth
    let (refresh, onRefresh) := readField order "analyze_first" false readTruth
    match onQueries ++ onWarmUps ++ onPlans ++ onRefresh with
    | [] => .ok ⟨queries, warmUps, plans, refresh⟩
    | complaints => .error complaints
  | some j => .error [⟨.notRecord, [.text "body"], j⟩]

/-! ## Bodies -/

def isJsonType (type : String) : Bool :=
  let plain := Text.lowercase (Text.trim (String.ofList (type.toList.takeWhile (· ≠ ';'))))
  match plain.splitOn "/" with
  | ["application", form] => form = "json" || form.endsWith "+json"
  | _ => false

/-- A text without the mark that tells its encoding. -/
def withoutMark (s : String) : String :=
  match s.toList with
  | c :: cs => if c = Char.ofNat 0xfeff then String.ofList cs else s
  | [] => s

/-- The value in a body, unless it is empty. A body of another type is taken as a text. -/
def readBody (request : Request) : Except Response (Option Json) :=
  if request.body.isEmpty then .ok none
  else if (request.header? "Content-Type").any (!isJsonType ·) then .ok (some (.text request.body))
  else
    match Json.read (withoutMark request.body) with
    | .ok j => .ok (some j)
    | .error ⟨.hugeNumber, _⟩ | .error ⟨.tooDeep, _⟩ =>
      .error (.detail 400 "There was an error parsing the body")
    | .error refusal =>
      .error (.refused [⟨.invalidJson, [.text "body", .int refusal.place], .record []⟩])

end IndexAdvisor.Service
