import IndexAdvisor.Proofs.Replay.Number
import IndexAdvisor.Service
import Mathlib

/-! # Requests without a key

Where keys are set up, a request without one of them is turned away before the database is asked or
the clock is read. So its answer does not depend on either, and no other request takes notice of it.
Only that its body is JSON is looked at first.
-/

namespace IndexAdvisor

/-! ## Numbers in bodies -/

namespace Text

theorem isDecimalDigit_of_isDigit {c : Char} (digit : c.isDigit) : isDecimalDigit c := by
  have small : c.toNat < 0x80 := by
    have range := digit
    simp only [Char.isDigit, Bool.and_eq_true, decide_eq_true_eq] at range
    have upper : c.toNat ≤ 57 := range.2
    omega
  simp [isDecimalDigit, digitValue?, small, digit]

end Text

namespace Json

open Text Number

variable {c : Char} {cs : List Char}

theorem Reader.number_digits (digits : ∀ d ∈ c :: cs, d.isDigit) (other : c ≠ '0')
    (long : maxDigits < (c :: cs).length) :
    number (c :: cs) = .error (.hugeNumber, (c :: cs).length) := by
  have decimal : ∀ d ∈ c :: cs, isDecimalDigit d := fun d mem => isDecimalDigit_of_isDigit (digits d mem)
  have signs : ∀ d ∈ c :: cs, isDigitSign d := fun d mem => by simp [isDigitSign, decimal d mem]
  have whole : wholePart (c :: cs) = some (c :: cs, []) := by
    rw [wholePart.eq_2 _ fun rest same => other (List.cons.inj same).1]
    have all : ∀ d ∈ cs, d.isDigit := fun d mem => digits d (List.mem_cons_of_mem c mem)
    simp [digits c List.mem_cons_self, List.takeWhile_eq_self_iff.mpr all, List.dropWhile_eq_nil_iff.mpr all]
  have read : readWhole (String.ofList (c :: cs)) = .error (.tooLong (c :: cs).length) := by
    rw [readWhole_digitSigns (by simp) signs, if_pos decimal, if_pos long]
  have unsigned : c ≠ '-' := ne_of_digitSign (signs c List.mem_cons_self) (by decide)
  unfold number
  split
  next sign body parts =>
  split at parts
  · next same => exact absurd (List.cons.inj same).1 unsigned
  · cases parts
    rw [whole]
    dsimp only [fractionPart, exponentPart, List.nil_append]
    rw [read]
    simp [refuse]

/-- A whole number of too many digits is not taken in, though it is JSON. -/
theorem read_digits (digits : ∀ d ∈ c :: cs, d.isDigit) (other : c ≠ '0')
    (long : maxDigits < (c :: cs).length) :
    read (String.ofList (c :: cs)) = .error ⟨.hugeNumber, 0⟩ := by
  have sign : isDigitSign c := by
    simp [isDigitSign, isDecimalDigit_of_isDigit (digits c List.mem_cons_self)]
  have apart (d : Char) (plain : isDigitSign d = false) : c ≠ d := ne_of_digitSign sign plain
  have blanks : Reader.skipBlanks (c :: cs) = c :: cs := by
    simp (disch := decide) [Reader.skipBlanks, Reader.isBlank, apart]
  have number := Reader.number_digits digits other long
  have value (fuel : Nat) : Reader.value 0 (fuel + 1) (c :: cs) = .error (.hugeNumber, (c :: cs).length) := by
    have word : Reader.word? (c :: cs) = none := by
      simp (disch := decide) [Reader.word?, Reader.words, eq_comm (b := c), apart]
    unfold Reader.value
    split
    · next same => exact absurd (List.cons.inj same).1 (apart _ (by decide))
    · next same => exact absurd (List.cons.inj same).1 (apart _ (by decide))
    · next same => exact absurd (List.cons.inj same).1 (apart _ (by decide))
    · rw [word]
      exact number
  unfold read
  rw [String.toList_ofList]
  dsimp only
  rw [blanks, value]
  simp [Except.mapError, Bind.bind, Except.bind]

end Json

namespace Service

/-! ## Keys -/

/-- The environment sets up the key: between commas it stands alone, but for blanks. -/
def Allows (environment : Environment) (key : String) : Prop :=
  key ≠ "" ∧ ∃ part ∈ ((environment.find? "API_KEYS").getD "").splitOn ",", Text.trim part = key

/-- The request holds no key that is set up. -/
def Request.LacksKey (request : Request) (environment : Environment) : Prop :=
  ∀ key, request.header? keyHeader = some key → ¬Allows environment key

/-- What a request without a key is told. -/
def keyAnswer (request : Request) : Response :=
  .detail 401 (if (request.header? keyHeader).any (!·.isEmpty) then "Invalid API key"
    else "API key required. Provide X-API-Key header.")

theorem status_keyAnswer (request : Request) : (keyAnswer request).status = 401 := by
  unfold keyAnswer
  split <;> decide

section Keys

variable {environment : Environment} {request : Request}

theorem mem_allowedKeys {key : String} : key ∈ allowedKeys environment ↔ Allows environment key := by
  simp [allowedKeys, Allows, List.mem_filter, List.mem_map, and_comm]

theorem denial?_eq (setUp : ∃ key, Allows environment key) (lacks : request.LacksKey environment) :
    denial? environment request = some (keyAnswer request) := by
  have keyed : (allowedKeys environment).isEmpty = false := by
    obtain ⟨key, allowed⟩ := setUp
    exact List.isEmpty_eq_false_iff_exists_mem.mpr ⟨key, mem_allowedKeys.mpr allowed⟩
  unfold denial? keyAnswer
  simp only [keyed, Bool.false_eq_true, if_false]
  cases given : request.header? keyHeader with
  | none => rfl
  | some key =>
      have unlisted : key ∉ allowedKeys environment := fun mem => lacks key given (mem_allowedKeys.mp mem)
      cases empty : key.isEmpty with
      | true =>
          simp only [Option.filter, empty, Bool.not_true, Bool.false_eq_true, if_false, Option.any_some]
          rfl
      | false => simp [Option.filter, empty, unlisted]

end Keys

/-! ## Bodies -/

/-- Why the body of a request cannot be read, if it is to be JSON. -/
def Request.refusal? (request : Request) : Option Json.Refusal :=
  if request.body.isEmpty || (request.header? "Content-Type").any (!isJsonType ·) then none
  else
    match Json.read (withoutMark request.body) with
    | .ok _ => none
    | .error refusal => some refusal

/-- What a request is told whose body cannot be read. If it is JSON, but has too long a number or too
    many open brackets, it is told so in another way. -/
def bodyAnswer (refusal : Json.Refusal) : Response :=
  if refusal.cause = .hugeNumber ∨ refusal.cause = .tooDeep then
    ⟨400, .json (.record [("detail", .text "There was an error parsing the body")])⟩
  else ⟨422, .complaints [⟨.invalidJson, [.text "body", .int refusal.place], .record []⟩]⟩

theorem readBody_of_refusal {request : Request} {refusal : Json.Refusal}
    (unread : request.refusal? = some refusal) : readBody request = .error (bodyAnswer refusal) := by
  unfold Request.refusal? at unread
  split at unread
  · cases unread
  · next json =>
      rw [Bool.or_eq_true, not_or] at json
      cases read : Json.read (withoutMark request.body) with
      | ok j => simp [read] at unread
      | error other =>
          obtain rfl : other = refusal := by simpa [read] using unread
          unfold readBody
          rw [if_neg json.1, if_neg json.2, read]
          obtain ⟨cause, place⟩ := other
          cases cause <;> rfl

theorem readBody_of_none {request : Request} (read : request.refusal? = none) :
    ∃ body, readBody request = .ok body := by
  unfold Request.refusal? at read
  unfold readBody
  by_cases empty : request.body.isEmpty
  · exact ⟨_, if_pos empty⟩
  · rw [if_neg empty]
    by_cases other : (request.header? "Content-Type").any (!isJsonType ·)
    · exact ⟨_, if_pos other⟩
    · rw [if_neg other]
      rw [if_neg (by simp [empty, other])] at read
      cases given : Json.read (withoutMark request.body) with
      | ok j => exact ⟨_, rfl⟩
      | error refusal => simp [given] at read

/-! ## Answers -/

/-- What a request for a guarded route is told that lacks a key. -/
def turnedAway (route : Route) (request : Request) : Response :=
  match route, request.refusal? with
  | .analyse, some refusal => bodyAnswer refusal
  | _, _ => keyAnswer request

theorem turnedAway_of_refusal {request : Request} {refusal : Json.Refusal}
    (unread : request.refusal? = some refusal) : turnedAway .analyse request = bodyAnswer refusal := by
  simp only [turnedAway, unread]

section Denied

variable {environment : Environment} {request : Request} {route : Route}

theorem run_guarded {service : Service} (setUp : ∃ key, Allows service.environment key)
    (lacks : request.LacksKey service.environment) (act : Database → Serving Response) (state : State) :
    (service.guarded request act).run state = (keyAnswer request, state) := by
  unfold guarded
  rw [denial?_eq setUp lacks]
  rfl

theorem run_analyse {service : Service} (setUp : ∃ key, Allows service.environment key)
    (lacks : request.LacksKey service.environment) (state : State) :
    (service.analyse request).run state = (turnedAway .analyse request, state) := by
  unfold analyse turnedAway
  cases unread : request.refusal? with
  | some refusal =>
      rw [readBody_of_refusal unread]
      rfl
  | none =>
      obtain ⟨body, read⟩ := readBody_of_none unread
      rw [read]
      exact run_guarded setUp lacks _ state

/-- Without a key, a request for a guarded route is turned away at once. -/
theorem run_respond {service : Service} (setUp : ∃ key, Allows service.environment key)
    (lacks : request.LacksKey service.environment) (asks : routeOf? request.path = some route)
    (method : request.method = route.method) (guarded : route ≠ .health) (state : State) :
    (service.respond request).run state = (turnedAway route request, state) := by
  have inFull : (service.respondInFull request).run state = (turnedAway route request, state) := by
    unfold respondInFull
    simp only [asks, method, ne_eq, not_true_eq_false, if_false]
    cases route with
    | health => exact absurd rfl guarded
    | analyse => exact run_analyse setUp lacks state
    | table name => exact run_guarded setUp lacks _ state
  have body : request.method ≠ "HEAD" := by
    rw [method]
    cases route with
    | analyse | health => decide
    | table name => exact (by decide : "GET" ≠ "HEAD")
  unfold respond
  rw [StateT.run_bind, inFull]
  simp [body]

/-- Requests are answered one after the other. -/
theorem run_respondAll_cons (service : Service) (request : Request) (rest : List Request) (state : State) :
    (service.respondAll (request :: rest)).run state
      = let first := (service.respond request).run state
        let later := (service.respondAll rest).run first.2
        (first.1 :: later.1, later.2) := by
  rw [respondAll, StateT.run_bind]
  rcases (service.respond request).run state with ⟨response, next⟩
  rfl

theorem run_respondAll_append (service : Service) (before after : List Request) (state : State) :
    (service.respondAll (before ++ after)).run state
      = let first := (service.respondAll before).run state
        let later := (service.respondAll after).run first.2
        (first.1 ++ later.1, later.2) := by
  induction before generalizing state with
  | nil => rfl
  | cons request before ih =>
      rw [List.cons_append, run_respondAll_cons, run_respondAll_cons]
      simp only [ih, List.cons_append]

theorem length_respondAll (service : Service) (requests : List Request) (state : State) :
    ((service.respondAll requests).run state).1.length = requests.length := by
  induction requests generalizing state with
  | nil => rfl
  | cons request rest ih =>
      rw [run_respondAll_cons]
      exact congrArg (· + 1) (ih _)

end Denied

/-! ### Queries sent without the key -/

def secretKey : Environment := [("API_KEYS", "secret")]

/-- Queries sent without a key. -/
def unkeyed (body : String) : Request := ⟨"POST", "/analyse", [], body⟩

theorem splitOn_secret : "secret".splitOn "," = ["secret"] := by
  simp only [String.splitOn]
  repeat (unfold String.splitOnAux; simp +decide)

theorem allows_secretKey : Allows secretKey "secret" := by
  refine ⟨by decide, "secret", ?_, by decide +kernel⟩
  change "secret" ∈ "secret".splitOn ","
  rw [splitOn_secret]
  exact List.mem_singleton_self _

theorem unkeyed_lacksKey (body : String) (environment : Environment) :
    (unkeyed body).LacksKey environment :=
  nofun

theorem splitOn_analyse : "/analyse".splitOn "/" = ["", "analyse"] := by
  simp only [String.splitOn]
  repeat (unfold String.splitOnAux; simp +decide)

theorem routeOf?_analyse : routeOf? "/analyse" = some .analyse := by
  have path : pathOf "/analyse".toList = "/analyse".toList := by
    unfold pathOf
    change ['/'].intercalate (followNames [] (splitPath "/analyse".toList)).reverse = _
    rw [splitPath, String.ofList_toList, splitOn_analyse]
    decide
  unfold routeOf? routeFrom?
  rw [path]
  decide +kernel

/-- Ones are a long number. -/
theorem refusal?_ones {n : Nat} (long : Number.maxDigits ≤ n) :
    (unkeyed (String.ofList (List.replicate (n + 1) '1'))).refusal? = some ⟨.hugeNumber, 0⟩ := by
  have ones : ∀ d ∈ List.replicate (n + 1) '1', d.isDigit := fun d mem => by
    rw [List.eq_of_mem_replicate mem]
    decide
  rw [List.replicate_succ] at ones ⊢
  have plain : withoutMark (String.ofList ('1' :: List.replicate n '1'))
      = String.ofList ('1' :: List.replicate n '1') := by
    have mark : '1' ≠ Char.ofNat 0xfeff := by decide
    simp only [withoutMark, String.toList_ofList, mark, if_false]
  have read := Json.read_digits ones (by decide) (by simp; omega)
  have given : (String.ofList ('1' :: List.replicate n '1')).isEmpty = false := by simp
  unfold Request.refusal? unkeyed
  simp only [given, plain, read]
  rfl

end Service

end IndexAdvisor
