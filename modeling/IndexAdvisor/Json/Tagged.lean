import IndexAdvisor.Json.Part
import IndexAdvisor.Sql.Literal
import IndexAdvisor.Text.Hex

/-! # Tagged values

Values of a database as JSON. What JSON has no form for is a record of its kind and its text.
-/

namespace IndexAdvisor

/-- The bytes that pairs of hexadecimal digits write, up to the first that is none. -/
def unhex : List Char → List UInt8
  | a :: b :: rest =>
    match Text.hexByte? a b with
    | some byte => byte :: unhex rest
    | none => []
  | _ => []

namespace Json

def tagged (kind v : String) : Json := .record [("$", .text kind), ("v", .text v)]

/-- A number, tagged if it is not finite. -/
def ofNumber (x : Float) : Json :=
  if x.isFinite then .float x else tagged "float" (Number.writeFloat x)

/-- The value that a tagged text stands for; null for an unknown kind. -/
def taggedValue (kind v : String) : Value :=
  match kind with
  | "decimal" => .decimal ((Number.Decimal.read? v).getD (.finite false 0 0))
  | "float" => .float ((Number.readFloat? v).getD 0.0)
  | "bytes" => .bytes (unhex v.toList)
  | "memoryview" => .view (unhex v.toList)
  | "date" => ((Date.read? v).map Value.date).getD .null
  | "time" => ((TimeOfDay.read? v).map Value.time).getD .null
  | "datetime" => ((DateTime.read? v).map Value.dateTime).getD .null
  | _ => .null

mutual

/-- The value of a database that JSON stands for. -/
def toValue : Json → Value
  | .null => .null
  | .bool b => .bool b
  | .int n => .int n
  | .float x => .float x
  | .text s => .text s
  | .list items => .list (toValues items)
  | .record fields =>
    match fields.lookup "$", fields.lookup "v" with
    | some (.text kind), some (.text v) => taggedValue kind v
    | _, _ => .record (toFieldValues fields)

def toValues : List Json → List Value
  | [] => []
  | item :: items => toValue item :: toValues items

def toFieldValues : List (String × Json) → List (String × Value)
  | [] => []
  | (name, item) :: fields => (name, toValue item) :: toFieldValues fields

end

mutual

def ofValue : Value → Json
  | .null => .null
  | .bool b => .bool b
  | .int n => .int n
  | .float x => ofNumber x
  | .decimal d => tagged "decimal" d.text
  | .text s => .text s
  | .bytes bs => tagged "bytes" (Sql.hexText bs)
  | .view bs => tagged "memoryview" (Sql.hexText bs)
  | .date d => tagged "date" d.text
  | .time t => tagged "time" t.text
  | .dateTime t => tagged "datetime" t.text
  | .list vs => .list (ofValues vs)
  | .record fields => .record (ofFieldValues fields)

def ofValues : List Value → List Json
  | [] => []
  | v :: vs => ofValue v :: ofValues vs

def ofFieldValues : List (String × Value) → List (String × Json)
  | [] => []
  | (name, v) :: fields => (name, ofValue v) :: ofFieldValues fields

end

mutual

/-- A value with its numbers tagged where they are not finite. -/
def tagNumbers : Json → Json
  | .float x => ofNumber x
  | .list items => .list (tagItems items)
  | .record fields => .record (tagFields fields)
  | j => j

def tagItems : List Json → List Json
  | [] => []
  | item :: items => tagNumbers item :: tagItems items

def tagFields : List (String × Json) → List (String × Json)
  | [] => []
  | (name, item) :: fields => (name, tagNumbers item) :: tagFields fields

end

end Json

end IndexAdvisor
