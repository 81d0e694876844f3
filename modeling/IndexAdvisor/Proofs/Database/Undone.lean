import IndexAdvisor.Proofs.Database.Call

/-! # Statements that are undone

Between two calls a held connection commits at once. Only `executeUndone` turns that off, and only
for as long as its own statement takes: the log of a connection is a sequence of statements that
commit at once and of transactions, each with one statement at most, that end in one attempt to roll
back before anything else is asked. `Phase` reads a log that way, and every run of calls leaves a log
that can be read so, whatever the driver does and whenever the connection is found closed.
-/

namespace IndexAdvisor

/-- Where a log stands. -/
inductive Phase where
  /-- Statements commit at once. -/
  | committing
  /-- A transaction is begun and nothing is sent in it. -/
  | begun
  /-- The statement of the transaction is sent. -/
  | sent
  /-- The transaction is rolled back, as far as the driver can. -/
  | undone
  deriving DecidableEq, Repr

/-- The phase after one more event, if the event may come. -/
def Phase.next? : Phase → DriverEvent → Option Phase
  | .committing, .autocommit on => some (if on then .committing else .begun)
  | .committing, .connect _ | .committing, .execute .. | .committing, .close => some .committing
  | .begun, .execute .. => some .sent
  | .begun, .rollback | .sent, .rollback => some .undone
  | .undone, .autocommit true => some .committing
  | _, _ => none

theorem Phase.next?_sent {event : DriverEvent} {p : Phase} (next : sent.next? event = some p) :
    event = .rollback ∧ p = .undone := by
  cases event with
  | rollback => exact ⟨rfl, (Option.some.inj next).symm⟩
  | connect | autocommit | execute | close => exact nomatch next

theorem Phase.next?_undone {event : DriverEvent} {p : Phase} (next : undone.next? event = some p) :
    event = .autocommit true ∧ p = .committing := by
  cases event with
  | autocommit on =>
      cases on with
      | true => exact ⟨rfl, (Option.some.inj next).symm⟩
      | false => exact nomatch next
  | connect | execute | rollback | close => exact nomatch next

theorem Phase.eq_of_begun {event : DriverEvent} {p : Phase} (next : p.next? event = some .begun) :
    p = .committing ∧ event = .autocommit false := by
  unfold next? at next
  split at next
  · next on =>
      cases on with
      | true => exact nomatch next
      | false => exact ⟨rfl, rfl⟩
  all_goals exact nomatch next

/-- The phase after a log, whose latest event stands first. -/
def phase? : List DriverEvent → Option Phase
  | [] => some .committing
  | event :: earlier => (phase? earlier).bind (·.next? event)

theorem phase?_of_append {later earlier : List DriverEvent} {p : Phase}
    (reads : phase? (later ++ earlier) = some p) : ∃ q, phase? earlier = some q := by
  induction later generalizing p with
  | nil => exact ⟨p, reads⟩
  | cons event later ih =>
      obtain ⟨q, between, -⟩ := Option.bind_eq_some_iff.mp reads
      exact ih between

/-- A log goes on with an event that may come. -/
theorem next_of_append {later earlier : List DriverEvent} {p q : Phase}
    (reads : phase? (later ++ earlier) = some p) (now : phase? earlier = some q) (moved : p ≠ q) :
    ∃ rest event r, later = rest ++ [event] ∧ q.next? event = some r ∧
      phase? (event :: earlier) = some r := by
  rcases later.eq_nil_or_concat with rfl | ⟨rest, event, rfl⟩
  · exact absurd (Option.some.inj (reads.symm.trans now)) moved
  · rw [List.concat_eq_append, List.append_assoc] at reads
    obtain ⟨r, between⟩ := phase?_of_append reads
    have step : (phase? earlier).bind (·.next? event) = some r := between
    rw [now] at step
    exact ⟨rest, event, r, List.concat_eq_append, step, between⟩

/-- A statement in a log commits at once, or it is the only one of a transaction, and then an
    attempt to roll back follows it. -/
theorem sent_of_committing {later earlier : List DriverEvent} {statement : String}
    {parameters : Option (List String)}
    (reads : phase? (later ++ .execute statement parameters :: earlier) = some .committing) :
    phase? earlier = some .committing ∨ ∃ rest before,
      later = rest ++ [.autocommit true, .rollback] ∧ earlier = .autocommit false :: before := by
  obtain ⟨q, sent⟩ := phase?_of_append reads
  obtain ⟨p, before, step⟩ := Option.bind_eq_some_iff.mp sent
  cases p with
  | committing => exact .inl before
  | sent | undone => exact nomatch step
  | begun =>
      refine .inr ?_
      obtain rfl : Phase.sent = q := Option.some.inj step
      -- nothing but a rollback may follow, and nothing but a commit may follow that
      obtain ⟨rest, event, r, rfl, rolled, after⟩ := next_of_append reads sent (by decide)
      obtain ⟨rfl, rfl⟩ := Phase.next?_sent rolled
      rw [List.append_assoc] at reads
      obtain ⟨rest, event, r, rfl, restored, -⟩ := next_of_append reads after (by decide)
      obtain ⟨rfl, -⟩ := Phase.next?_undone restored
      cases earlier with
      | nil => exact nomatch before
      | cons event earlier =>
          obtain ⟨p, -, begins⟩ := Option.bind_eq_some_iff.mp before
          obtain ⟨-, rfl⟩ := Phase.eq_of_begun begins
          exact ⟨rest, earlier, List.append_assoc _ _ _, rfl⟩

namespace Connection

/-- The connection is between two calls: it commits at once, and so does its log. -/
structure Committing (c : Connection) : Prop where
  link : ∀ link ∈ c.link, link.autocommit = true
  log : phase? c.events = some .committing

theorem Committing.noted {c : Connection} (committing : c.Committing) {event : DriverEvent}
    (stays : Phase.committing.next? event = some .committing) : (c.noted event).Committing :=
  ⟨committing.link, by rw [Connection.noted, phase?, committing.log]; exact stays⟩

/-- A connection that is found closed, or open after all, commits as before. -/
theorem Committing.found {c : Connection} (committing : c.Committing) (closed : Bool) :
    Committing { c with link := c.link.map fun link => { link with closed } } := by
  refine ⟨fun link held => ?_, committing.log⟩
  obtain ⟨before, there, rfl⟩ := Option.map_eq_some_iff.mp held
  exact committing.link before there

end Connection

/-! ## Calls that commit -/

namespace Call

open Connection (Committing)

variable (access : Access)

theorem keeps_connect : Keeps Committing (connect access) := by
  intro c committing
  rw [on_connect]
  split
  · exact committing.noted rfl
  · refine ⟨fun link held => ?_, by simp [phase?, committing.log, Phase.next?]⟩
    obtain rfl := Option.some.inj held
    rfl

theorem keeps_execute (statement : String) (parameters : Option (List String)) :
    Keeps Committing (execute access statement parameters) := by
  refine keeps_get fun c _ => keeps_bind (keeps_check _) fun _ => ?_
  refine keeps_bind (fun c committing => committing.noted rfl) fun _ => ?_
  refine keeps_get fun c _ => ?_
  split
  · exact keeps_pure _
  · exact keeps_throw _

theorem keeps_rowsOf {P : Connection → Prop} (result : ResultSet) : Keeps P (rowsOf result) := by
  unfold rowsOf
  split
  · exact keeps_pure _
  · exact keeps_throw _

theorem keeps_fetch (statement : String) (parameters : List String) :
    Keeps Committing (fetch access statement parameters) :=
  keeps_connected (keeps_connect access)
    (keeps_bind (keeps_execute access _ _) fun _ => keeps_rowsOf _)

theorem keeps_firstFields {P : Connection → Prop} (rows : List (List Value)) :
    Keeps P (firstFields rows) := by
  fun_induction firstFields rows with
  | case1 => exact keeps_pure _
  | case2 => exact keeps_throw _
  | case3 v row rest ih => exact keeps_bind ih fun _ => keeps_pure _

theorem keeps_metadata (what : Metadata) (table : String) (schema : Option String) :
    Keeps Committing (metadata access what table schema) := by
  refine keeps_bind (keeps_fetch access _ _) fun rows => ?_
  cases what with
  | primaryKey => exact keeps_firstFields rows
  | columns | indexes | exportedKeys | importedKeys => exact keeps_pure _

theorem keeps_sampleRow (table : String) (schema : Option String) :
    Keeps Committing (sampleRow access table schema) := by
  refine keeps_connected (keeps_connect access) (keeps_bind (keeps_execute access _ _) fun result => ?_)
  refine keeps_bind (keeps_rowsOf _) fun rows => ?_
  cases rows with
  | nil => exact keeps_pure _
  | cons row rest =>
      cases result.columns with
      | none => exact keeps_throw _
      | some names => exact keeps_pure _

theorem keeps_size (what : Storage) (table : String) :
    Keeps Committing (size access what table) := by
  refine keeps_bind (keeps_outcome (keeps_fetch access _ _)) fun answer => ?_
  split
  · exact keeps_pure _
  · exact keeps_throw _
  · exact keeps_pure _
  · split
    · exact keeps_pure _
    · exact keeps_throw _
  · exact keeps_throw _

theorem keeps_analyze : Keeps Committing (analyze access) :=
  keeps_connected (keeps_connect access)
    (keeps_bind (keeps_execute access _ _) fun _ => keeps_pure _)

theorem keeps_alive : Keeps Committing (alive access) := by
  refine keeps_bind (keeps_outcome (keeps_connected (keeps_connect access)
    (keeps_bind (keeps_execute access _ _) fun _ => keeps_rowsOf _))) fun answer => ?_
  split <;> exact keeps_pure _

theorem keeps_close : Keeps Committing close := by
  intro c committing
  rw [close, on_bind, on_isOpen]
  dsimp only
  split
  · rw [on_bind, on_note]
    have noted : (c.noted .close).Committing := committing.noted rfl
    exact noted.found true
  · exact committing

end Call

/-! ## The call that undoes -/

/-- How a statement fares behind a log: what is sent of it, and its lines or the fault that ends
    it. -/
inductive Driver.Fares (driver : Driver) (statement : String) (wanted : Bool)
    (log : List DriverEvent) : List DriverEvent → Except Fault (List String) → Prop
  | noCursor {fault : Fault} : driver.cursor log = some fault →
      Fares driver statement wanted log [] (.error fault)
  | refused {fault : Fault} : driver.cursor log = none →
      driver.execute (.execute statement none :: log) = .error fault →
      Fares driver statement wanted log [.execute statement none] (.error fault)
  | unread {result : ResultSet} : driver.cursor log = none →
      driver.execute (.execute statement none :: log) = .ok result →
      wanted = false ∨ result.columns = none →
      Fares driver statement wanted log [.execute statement none] (.ok [])
  | lost {result : ResultSet} {fault : Fault} : driver.cursor log = none →
      driver.execute (.execute statement none :: log) = .ok result →
      wanted = true → result.columns.isSome → result.rows = .error fault →
      Fares driver statement wanted log [.execute statement none] (.error fault)
  | read {result : ResultSet} {rows : List (List Value)} : driver.cursor log = none →
      driver.execute (.execute statement none :: log) = .ok result →
      wanted = true → result.columns.isSome → result.rows = .ok rows →
      Fares driver statement wanted log [.execute statement none] (.ok (rows.map Call.lineOf))

namespace Call

variable {access : Access} {statement : String} {wanted : Bool}

theorem on_linesOf (access : Access) (statement : String) (wanted : Bool) (c : Connection) :
    ∃ sent fared, access.driver.Fares statement wanted c.events sent fared ∧
      (linesOf access statement wanted).on c
        = (fared.mapError .fault, { c with events := sent ++ c.events }) := by
  simp only [linesOf, execute, on_bind, on_get, on_check]
  cases cursor : access.driver.cursor c.events with
  | some fault => exact ⟨[], .error fault, .noCursor cursor, rfl⟩
  | none =>
      refine ⟨[.execute statement none], ?_⟩
      simp only [on_note, Connection.noted]
      cases answer : access.driver.execute (.execute statement none :: c.events) with
      | error fault => exact ⟨.error fault, .refused cursor answer, rfl⟩
      | ok result =>
          simp only [on_pure]
          split
          · next unwanted =>
              refine ⟨.ok [], .unread cursor answer ?_, rfl⟩
              simpa using unwanted
          · next asked =>
              obtain ⟨asked, named⟩ : wanted = true ∧ result.columns.isSome := by
                simpa [Option.isSome_iff_ne_none] using asked
              unfold rowsOf
              cases rows : result.rows with
              | error fault => exact ⟨.error fault, .lost cursor answer asked named rows, rfl⟩
              | ok rows' => exact ⟨.ok (rows'.map lineOf), .read cursor answer asked named rows, rfl⟩

/-- A statement is executed and undone on an open connection. -/
def undoing (access : Access) (statement : String) (wanted : Bool) : Call (List String) := do
  let before := (← get).link.any (·.autocommit)
  setAutocommit false
  let result ← outcome
    (rewording .runtime "Failed to execute statement: " (linesOf access statement wanted))
  note .rollback
  let failure := access.driver.rollback (← get).events
  setAutocommit before
  check failure
  match result with
  | .ok lines => return lines
  | .error e => throw e

theorem executeUndone_eq : executeUndone access statement wanted
    = connected access (undoing access statement wanted) := rfl

end Call

/-- What has become of a statement that was to be executed and undone on an open connection. -/
structure Connection.Undid (driver : Driver) (statement : String) (wanted : Bool) (c : Connection)
    (result : Except ConnectionError (List String)) (d : Connection) : Prop where
  restored : d.link = c.link
  /-- The statement is sent while nothing commits, and one attempt to roll back follows it. A fault
      of that attempt counts more than one of the statement. -/
  undone : ∃ sent fared, driver.Fares statement wanted (.autocommit false :: c.events) sent fared ∧
    let log := .rollback :: (sent ++ .autocommit false :: c.events)
    d.events = .autocommit (c.link.any (·.autocommit)) :: log ∧
    (∀ fault, driver.rollback log = some fault → fault.kind.isDriver →
      result = .error (.fault ⟨.connection, "Database connection failed: " ++ fault.message⟩)) ∧
    (∀ fault, driver.rollback log = none → fared = .error fault → fault.kind.isDriver →
      result = .error (.fault ⟨.runtime, "Failed to execute statement: " ++ fault.message⟩)) ∧
    ∀ lines, driver.rollback log = none → fared = .ok lines → result = .ok lines

/-- The connection that a call is made on: the one held, if it is open, and else a new one. -/
inductive Connection.Opens (access : Access) (c : Connection) : Connection → Prop
  | held : c.isOpen → Opens access c c
  | made : c.isOpen = false →
      access.driver.connect (.connect access.settings.target :: c.events) = none →
      Opens access c ⟨some ⟨true, false⟩,
        .autocommit true :: .connect access.settings.target :: c.events⟩

theorem Connection.Opens.holds {access : Access} {c d : Connection} (opens : c.Opens access d) :
    d.link.isSome := by
  cases opens with
  | held opened =>
      rw [isOpen] at opened
      cases held : c.link with
      | none => simp [held] at opened
      | some link => rfl
  | made => rfl

theorem Connection.Opens.committing {access : Access} {c d : Connection}
    (opens : c.Opens access d) (committing : c.Committing) : d.Committing := by
  cases opens with
  | held => exact committing
  | made closed made =>
      have kept := Call.keeps_connect access c committing
      rwa [Call.on_connect, made] at kept

/-- A transaction that is rolled back leaves a connection that commits. -/
theorem Connection.Undid.committing {c d : Connection} {driver : Driver} {statement : String}
    {wanted : Bool} {result : Except ConnectionError (List String)}
    (undid : c.Undid driver statement wanted result d) (held : c.link.isSome)
    (committing : c.Committing) : d.Committing := by
  obtain ⟨link, held⟩ := Option.isSome_iff_exists.mp held
  obtain ⟨sent, fared, fares, events, -⟩ := undid.undone
  refine ⟨fun link there => committing.link link (undid.restored ▸ there), ?_⟩
  have found : c.link.any (·.autocommit) = true := by rw [held]; exact committing.link link held
  rw [events, found]
  cases fares <;> simp [phase?, committing.log, Phase.next?]

namespace Call

open Connection (Committing)

variable {access : Access} {statement : String} {wanted : Bool}

theorem undid_undoing (c : Connection) :
    let ends := (rewording .connection "Database connection failed: "
      (undoing access statement wanted)).on c
    c.Undid access.driver statement wanted ends.1 ends.2 := by
  let begun : Connection := ⟨c.link.map fun link => { link with autocommit := false },
    .autocommit false :: c.events⟩
  obtain ⟨sent, fared, fares, run⟩ := on_linesOf access statement wanted begun
  have link : (c.link.map fun link => { link with autocommit := false }).map
      (fun link => { link with autocommit := c.link.any (·.autocommit) }) = c.link := by
    cases c.link <;> rfl
  let log := .rollback :: (sent ++ .autocommit false :: c.events)
  -- how the statement fared counts only if the rollback raises no fault
  have ends : (undoing access statement wanted).on c
      = ((access.driver.rollback log).elim
          (fared.mapError fun fault =>
            ConnectionError.reworded .runtime "Failed to execute statement: " (.fault fault))
          (fun fault => .error (.fault fault)),
        ⟨c.link, .autocommit (c.link.any (·.autocommit)) :: log⟩) := by
    simp only [undoing, on_bind, on_get, on_setAutocommit, on_outcome, on_rewording]
    rw [run]
    simp only [on_note, Connection.noted, on_check, begun, link]
    cases access.driver.rollback (.rollback :: (sent ++ .autocommit false :: c.events)) with
    | some fault => rfl
    | none => cases fared <;> rfl
  rw [on_rewording, ends]
  refine ⟨rfl, sent, fared, fares, rfl, fun fault failed isDriver => ?_,
    fun fault rolled failed isDriver => ?_, fun lines rolled read => ?_⟩
  · simp only [log, failed, Option.elim, Except.mapError,
      ConnectionError.reworded_driver isDriver]
  · simp only [log, rolled, failed, Option.elim, Except.mapError,
      ConnectionError.reworded_driver isDriver]
    exact congrArg Except.error (ConnectionError.reworded_other rfl _ _)
  · simp only [log, rolled, read, Option.elim, Except.mapError]

/-- Either a connection cannot be made, or the statement is executed and undone on an open one. -/
theorem opens_or_fails (access : Access) (statement : String) (wanted : Bool) (c : Connection) :
    let ends := (executeUndone access statement wanted).on c
    (∃ d, c.Opens access d ∧ d.Undid access.driver statement wanted ends.1 ends.2) ∨
      c.isOpen = false ∧ ∃ fault,
        access.driver.connect (.connect access.settings.target :: c.events) = some fault ∧
        ends = (.error (ConnectionError.reworded .connection "Failed to connect to database: "
          (.fault fault)), c.noted (.connect access.settings.target)) := by
  rw [executeUndone_eq, on_connected]
  cases held : c.isOpen with
  | true => exact .inl ⟨c, .held held, undid_undoing c⟩
  | false =>
      simp only [Bool.false_eq_true, if_false, on_connect]
      cases answer : access.driver.connect (.connect access.settings.target :: c.events) with
      | none => exact .inl ⟨_, .made held answer, undid_undoing _⟩
      | some fault => exact .inr ⟨trivial, fault, rfl, rfl⟩

theorem keeps_executeUndone : Keeps Committing (executeUndone access statement wanted) := by
  intro c committing
  rcases opens_or_fails access statement wanted c with ⟨d, opens, undid⟩ | ⟨-, fault, -, run⟩
  · exact undid.committing opens.holds (opens.committing committing)
  · rw [run]
    exact committing.noted rfl

end Call

/-! ## Runs of calls -/

/-- A call that the users of a connection may make. -/
inductive Request where
  /-- The connection is lent to its user, who may raise a fault. -/
  | lend (raised : Option Fault)
  | metadata (what : Metadata) (table : String) (schema : Option String)
  | sampleRow (table : String) (schema : Option String)
  | executeUndone (statement : String) (wanted : Bool)
  | size (what : Storage) (table : String)
  | analyze
  | alive
  | close

/-- The call of a request, for what it leaves behind. -/
def Request.call (access : Access) : Request → Call Unit
  | .lend raised => Call.connected access (Call.check raised)
  | .metadata what table schema => do let _ ← Call.metadata access what table schema
  | .sampleRow table schema => do let _ ← Call.sampleRow access table schema
  | .executeUndone statement wanted => do let _ ← Call.executeUndone access statement wanted
  | .size what table => do let _ ← Call.size access what table
  | .analyze => Call.analyze access
  | .alive => do let _ ← Call.alive access
  | .close => Call.close

/-- What happens to a connection: a call, met by a driver that answers as it likes, or the
    connection turns out closed or open. -/
inductive Move where
  | call (driver : Driver) (request : Request)
  | found (closed : Bool)

namespace Connection

def moved (settings : ConnectionSettings) (c : Connection) : Move → Connection
  | .call driver request => ((request.call ⟨settings, driver⟩).on c).2
  | .found closed => { c with link := c.link.map fun link => { link with closed } }

/-- The connection after it was made for the first time, if it could be, and then moved. -/
def after (settings : ConnectionSettings) (first : Driver) (moves : List Move) : Connection :=
  moves.foldl (moved settings) ((Call.connect ⟨settings, first⟩).on ⟨none, []⟩).2

theorem Committing.moved {settings : ConnectionSettings} {c : Connection}
    (committing : c.Committing) (move : Move) : (c.moved settings move).Committing := by
  cases move with
  | found closed => exact committing.found closed
  | call driver request =>
      let access : Access := ⟨settings, driver⟩
      suffices keeps : Call.Keeps Committing (request.call access) from keeps c committing
      have quiet {α : Type} {x : Call α} (keeps : Call.Keeps Committing x) :
          Call.Keeps Committing (do let _ ← x) :=
        Call.keeps_bind keeps fun _ => Call.keeps_pure _
      cases request with
      | lend raised => exact Call.keeps_connected (Call.keeps_connect access) (Call.keeps_check raised)
      | metadata what table schema => exact quiet (Call.keeps_metadata access what table schema)
      | sampleRow table schema => exact quiet (Call.keeps_sampleRow access table schema)
      | executeUndone statement wanted => exact quiet Call.keeps_executeUndone
      | size what table => exact quiet (Call.keeps_size access what table)
      | analyze => exact Call.keeps_analyze access
      | alive => exact quiet (Call.keeps_alive access)
      | close => exact Call.keeps_close

theorem committing_after (settings : ConnectionSettings) (first : Driver) (moves : List Move) :
    (after settings first moves).Committing := by
  -- `Committing` is the invariant of every move
  have folded (c : Connection) (committing : c.Committing) :
      (moves.foldl (moved settings) c).Committing := by
    induction moves generalizing c with
    | nil => exact committing
    | cons move rest ih => exact ih _ (committing.moved move)
  exact folded _ (Call.keeps_connect _ _ ⟨nofun, rfl⟩)

end Connection

/-- After every run of calls a connection commits at once. Each statement it has sent was committed
    at once or was the only one of a transaction, sent while nothing commits and followed by one
    attempt to roll back. A statement that is executed to be undone is of the second kind: it is
    behind such a begin, whatever it ends with, the connection then commits as it did before, and a
    fault of the attempt to roll back counts more than its own. -/
theorem undone_in_every_run (settings : ConnectionSettings) (first : Driver) (moves : List Move) :
    let c := Connection.after settings first moves
    (∀ link ∈ c.link, link.autocommit = true) ∧
      phase? c.events = some .committing ∧
      (∀ later statement parameters earlier,
        c.events = later ++ .execute statement parameters :: earlier →
        phase? earlier = some .committing ∨ ∃ rest before,
          later = rest ++ [.autocommit true, .rollback] ∧ earlier = .autocommit false :: before) ∧
      ∀ (driver : Driver) (statement : String) (wanted : Bool) (d : Connection),
        let access : Access := ⟨settings, driver⟩
        let ends := (Call.executeUndone access statement wanted).on d
        (∃ opened, d.Opens access opened ∧
          opened.Undid driver statement wanted ends.1 ends.2) ∨
        d.isOpen = false ∧ ∃ fault,
          driver.connect (.connect settings.target :: d.events) = some fault ∧
          ends.2 = d.noted (.connect settings.target) ∧
          (fault.kind.isDriver → ends.1
            = .error (.fault ⟨.connection, "Failed to connect to database: " ++ fault.message⟩)) := by
  have committing := Connection.committing_after settings first moves
  refine ⟨committing.link, committing.log, fun later statement parameters earlier split => ?_,
    fun driver statement wanted d => ?_⟩
  · exact sent_of_committing (split ▸ committing.log)
  · refine (Call.opens_or_fails _ _ _ d).imp_right fun ⟨closed, fault, refused, ends⟩ => ?_
    refine ⟨closed, fault, refused, congrArg Prod.snd ends, fun isDriver => ?_⟩
    rw [ends, ConnectionError.reworded_driver isDriver]

/-- Neither the statement nor the attempt to roll back succeeds. -/
example :
    let driver : Driver :=
      { connect := fun _ => none
        cursor := fun _ => none
        execute := fun _ => .error ⟨.programming, "no such table"⟩
        rollback := fun _ => some ⟨.operational, "gone"⟩ }
    let ends := (Call.executeUndone ⟨default, driver⟩ "SELECT 1" true).on ⟨some ⟨true, false⟩, []⟩
    ends.1 = .error (.fault ⟨.connection, "Database connection failed: gone"⟩) ∧
      ends.2 = ⟨some ⟨true, false⟩,
        [.autocommit true, .rollback, .execute "SELECT 1" none, .autocommit false]⟩ :=
  ⟨rfl, rfl⟩

end IndexAdvisor
