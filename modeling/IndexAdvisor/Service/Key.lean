import IndexAdvisor.Config
import IndexAdvisor.Service.Message

/-! # Keys of the service

Where keys are set up, the service answers only requests that hold one of them.
-/

namespace IndexAdvisor.Service

/-- The keys that the environment sets up, between commas and without blanks around them. -/
def allowedKeys (environment : Environment) : List String :=
  let keys := ((environment.find? "API_KEYS").getD "").splitOn ","
  (keys.map Text.trim).filter (!·.isEmpty)

def keyHeader : String := "X-API-Key"

/-- Why a request is turned away, if it is. -/
def denial? (environment : Environment) (request : Request) : Option Response :=
  let keys := allowedKeys environment
  if keys.isEmpty then none
  else
    match (request.header? keyHeader).filter (!·.isEmpty) with
    | none => some (.detail 401 s!"API key required. Provide {keyHeader} header.")
    | some key => if keys.contains key then none else some (.detail 401 "Invalid API key")

end IndexAdvisor.Service
