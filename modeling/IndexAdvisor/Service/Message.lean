import IndexAdvisor.Json.Part
import IndexAdvisor.Text.Lowercase

/-! # Messages of the service

Requests as they arrive, and the answers to them.
-/

namespace IndexAdvisor.Service

structure Request where
  method : String
  /-- The path as it was sent. -/
  path : String
  headers : List (String × String)
  body : String
  deriving Inhabited

/-- The header of a name, in any letter case. -/
def Request.header? (request : Request) (name : String) : Option String :=
  (request.headers.find? fun header => Text.lowercase header.1 = Text.lowercase name).map (·.2)

inductive Complaint.Kind where
  | missing
  | invalidJson
  | notRecord
  | notTexts
  | notText
  | tooShort
  | tooSmall
  | tooLarge
  | notInteger
  | fractional
  | infinite
  | tooLong
  | unreadableInteger
  | notTruth
  | unreadableTruth
  deriving DecidableEq, Repr

def Complaint.Kind.name : Complaint.Kind → String
  | .missing => "missing"
  | .invalidJson => "json_invalid"
  | .notRecord => "model_attributes_type"
  | .notTexts => "dict_type"
  | .notText => "string_type"
  | .tooShort => "too_short"
  | .tooSmall => "greater_than_equal"
  | .tooLarge => "less_than_equal"
  | .notInteger => "int_type"
  | .fractional => "int_from_float"
  | .infinite => "finite_number"
  | .tooLong => "int_parsing_size"
  | .unreadableInteger => "int_parsing"
  | .notTruth => "bool_type"
  | .unreadableTruth => "bool_parsing"

structure Complaint where
  kind : Complaint.Kind
  /-- The way to the part: the names of fields, or a number of characters. -/
  place : List Json
  /-- What was found there; it is sent back. -/
  found : Json

def Complaint.json (complaint : Complaint) : Json :=
  .list [.text complaint.kind.name, .list complaint.place]

inductive Content where
  | json (j : Json)
  | complaints (complaints : List Complaint)
  /-- A plain text in place of an answer. -/
  | plain (text : String)

structure Response where
  status : Nat
  content : Content

namespace Response

def crash : Response := ⟨500, .plain "Internal Server Error"⟩

/-- The answer that holds a value, if it can be sent. -/
def ofJson (status : Nat) (j : Json) : Response :=
  if j.isSendable then ⟨status, .json j⟩ else crash

/-- An answer that tells what is wrong. -/
def detail (status : Nat) (message : String) : Response :=
  ofJson status (.record [("detail", .text message)])

/-- An answer that complains about the request, if what it complains about can be sent back. -/
def refused (complaints : List Complaint) : Response :=
  let sent (complaint : Complaint) : Json := .list (complaint.found :: complaint.place)
  if complaints.all fun complaint => (sent complaint).isSendable then ⟨422, .complaints complaints⟩
  else crash

def bare (response : Response) : Response := { response with content := .plain "" }

end Response

end IndexAdvisor.Service
