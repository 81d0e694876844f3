import IndexAdvisor.Database.Connection
import Mathlib

/-! # What calls leave behind

`x.on c` is what the call `x` makes of the connection `c`: its result, and the connection as it is
left, whether the call succeeds or fails. `Keeps P x` says that `x` keeps the property `P` of
connections either way, so that a call built from smaller ones keeps what they all keep.
-/

namespace IndexAdvisor

/-- The error with a fault of the driver worded anew, as a fault of another kind. -/
def ConnectionError.reworded (kind : FaultKind) (words : String) : ConnectionError → ConnectionError
  | .fault cause =>
    if cause.kind.isDriver then .fault ⟨kind, words ++ cause.message⟩ else .fault cause
  | e => e

theorem ConnectionError.reworded_driver {fault : Fault} (driver : fault.kind.isDriver)
    (kind : FaultKind) (words : String) :
    reworded kind words (.fault fault) = .fault ⟨kind, words ++ fault.message⟩ :=
  if_pos driver

theorem ConnectionError.reworded_other {fault : Fault} (other : fault.kind.isDriver = false)
    (kind : FaultKind) (words : String) : reworded kind words (.fault fault) = .fault fault :=
  if_neg (by simp [other])

def Connection.noted (c : Connection) (event : DriverEvent) : Connection :=
  { c with events := event :: c.events }

def Connection.isOpen (c : Connection) : Bool := c.link.any (!·.closed)

namespace Call

variable {α β : Type}

def on (x : Call α) (c : Connection) : Except ConnectionError α × Connection := x.run.run c

section Results

variable (c : Connection)

@[simp]
theorem on_pure (a : α) : (pure a : Call α).on c = (.ok a, c) := rfl

@[simp]
theorem on_throw (e : ConnectionError) : (throw e : Call α).on c = (.error e, c) := rfl

@[simp]
theorem on_get : (get : Call Connection).on c = (.ok c, c) := rfl

@[simp]
theorem on_modify (f : Connection → Connection) :
    (modify f : Call PUnit).on c = (.ok ⟨⟩, f c) := rfl

@[simp]
theorem on_note (event : DriverEvent) : (note event).on c = (.ok (), c.noted event) := rfl

@[simp]
theorem on_isOpen : isOpen.on c = (.ok c.isOpen, c) := rfl

@[simp]
theorem on_setAutocommit (on : Bool) : (setAutocommit on).on c
    = (.ok (), ⟨c.link.map fun link => { link with autocommit := on },
        .autocommit on :: c.events⟩) := rfl

theorem on_bind (x : Call α) (f : α → Call β) :
    (x >>= f).on c = match x.on c with
      | (.ok a, d) => (f a).on d
      | (.error e, d) => (.error e, d) := by
  simp only [on, ExceptT.run_bind, StateT.run_bind]
  rcases x.run.run c with ⟨e | a, d⟩ <;> rfl

theorem on_check (fault : Option Fault) :
    (check fault).on c = (match fault with
      | none => .ok ()
      | some fault => .error (.fault fault), c) := by
  cases fault <;> rfl

theorem on_outcome (x : Call α) : (outcome x).on c = (.ok (x.on c).1, (x.on c).2) := by
  have run : (outcome x).on c = (match x.on c with | (r, d) => (.ok r, d)) := rfl
  rw [run]

theorem on_rewording (kind : FaultKind) (words : String) (x : Call α) :
    (rewording kind words x).on c
      = ((x.on c).1.mapError (·.reworded kind words), (x.on c).2) := by
  rw [rewording, on_bind, on_outcome]
  rcases x.on c with ⟨e | a, d⟩
  · cases e with
    | fault fault =>
        cases driver : fault.kind.isDriver <;>
          simp [Except.mapError, ConnectionError.reworded, driver]
    | port | credentials | emptyRow | unnamedColumns => rfl
  · rfl

/-- Making a connection either fails and leaves the connection held before, or ends with a new
    one, on which statements commit at once. -/
theorem on_connect (access : Access) :
    (connect access).on c =
      match access.driver.connect (.connect access.settings.target :: c.events) with
      | some fault =>
        (.error (ConnectionError.reworded .connection "Failed to connect to database: "
          (.fault fault)), c.noted (.connect access.settings.target))
      | none =>
        (.ok (), ⟨some ⟨true, false⟩,
          .autocommit true :: .connect access.settings.target :: c.events⟩) := by
  rw [connect, on_rewording]
  simp only [on_bind, on_note, on_get, on_check, Connection.noted]
  cases access.driver.connect (.connect access.settings.target :: c.events) <;> rfl

/-- A call on an open connection is made at once, and else after a connection is made. -/
theorem on_connected (access : Access) (x : Call α) :
    (connected access x).on c =
      if c.isOpen then (rewording .connection "Database connection failed: " x).on c
      else match (connect access).on c with
        | (.ok (), d) => (rewording .connection "Database connection failed: " x).on d
        | (.error e, d) => (.error e, d) := by
  rw [connected, on_bind, on_isOpen]
  cases held : c.isOpen with
  | true => rfl
  | false =>
      refine (on_bind c (connect access) fun _ => rewording _ _ x).trans ?_
      rcases (connect access).on c with ⟨e | ⟨⟩, d⟩ <;> rfl

end Results

/-! ## What all outcomes keep -/

/-- The call keeps a property of connections, whether it succeeds or fails. -/
def Keeps (P : Connection → Prop) (x : Call α) : Prop := ∀ c, P c → P (x.on c).2

section Keeps

variable {P : Connection → Prop}

theorem keeps_pure (a : α) : Keeps P (pure a) := fun _ kept => kept

theorem keeps_throw (e : ConnectionError) : Keeps P (throw e : Call α) := fun _ kept => kept

theorem keeps_bind {x : Call α} {f : α → Call β} (first : Keeps P x)
    (second : ∀ a, Keeps P (f a)) : Keeps P (x >>= f) := by
  intro c kept
  have between := first c kept
  rw [on_bind]
  rcases run : x.on c with ⟨e | a, d⟩
  · rwa [run] at between
  · rw [run] at between
    exact second a d between

theorem keeps_get {f : Connection → Call α} (next : ∀ c, P c → Keeps P (f c)) :
    Keeps P (get >>= f) := by
  intro c kept
  rw [on_bind, on_get]
  exact next c kept c kept

theorem keeps_check (fault : Option Fault) : Keeps P (check fault) := by
  intro c kept
  rwa [on_check]

theorem keeps_outcome {x : Call α} (keeps : Keeps P x) : Keeps P (outcome x) := by
  intro c kept
  rw [on_outcome]
  exact keeps c kept

theorem keeps_connected {access : Access} {x : Call α} (connecting : Keeps P (connect access))
    (keeps : Keeps P x) : Keeps P (connected access x) := by
  intro c kept
  have after := connecting c kept
  rw [on_connected]
  split
  · rw [on_rewording]
    exact keeps c kept
  · rcases run : (connect access).on c with ⟨e | ⟨⟩, d⟩
    · rwa [run] at after
    · rw [run] at after
      dsimp only
      rw [on_rewording]
      exact keeps d after

end Keeps

end Call

end IndexAdvisor
