import IndexAdvisor.Json
import IndexAdvisor.Number.Reading
import IndexAdvisor.Text.HalfPair

/-! # Parts of JSON

What a value holds, where its form is expected but not certain.
-/

namespace IndexAdvisor.Json

def field? (j : Json) (name : String) : Option Json :=
  match j with
  | .record fields => fields.lookup name
  | _ => none

def get (j : Json) (name : String) : Json := (j.field? name).getD .null

def has (j : Json) (name : String) : Bool := (j.field? name).isSome

def str? (j : Json) : Option String :=
  match j with
  | .text s => some s
  | _ => none

def str (j : Json) : String := j.str?.getD ""

def items (j : Json) : List Json :=
  match j with
  | .list items => items
  | _ => []

def fields (j : Json) : List (String × Json) :=
  match j with
  | .record fields => fields
  | _ => []

def strs (j : Json) : List String := j.items.map str

/-- The whole number that a value is; a truth value counts as one or zero. -/
def integer (j : Json) : Int :=
  match j with
  | .int n => n
  | .bool b => if b then 1 else 0
  | _ => 0

/-- The truth value that a value is, or else the given one. -/
def flag (j : Json) (default : Bool) : Bool :=
  match j with
  | .bool b => b
  | _ => default

def floating? (j : Json) : Option Float :=
  match j with
  | .int n => some (Number.nearestFloat (n < 0) n.natAbs 0)
  | .float x => some x
  | _ => none

mutual

/-- Whether a value can be sent: its numbers are finite, and its texts can be encoded. -/
def isSendable : Json → Bool
  | .float x => x.isFinite
  | .text s => Text.isEncodable s
  | .list items => areSendable items
  | .record fields => areFieldsSendable fields
  | _ => true

/-- Whether values can be sent. -/
def areSendable : List Json → Bool
  | [] => true
  | item :: items => isSendable item && areSendable items

/-- Whether named values can be sent, together with their names. -/
def areFieldsSendable : List (String × Json) → Bool
  | [] => true
  | (name, value) :: fields =>
    Text.isEncodable name && isSendable value && areFieldsSendable fields

end

end IndexAdvisor.Json
