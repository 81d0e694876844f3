import IndexAdvisor.Proofs.Command.Beside

/-! # Where a password is given

A password is a property of its own or a part of the connection text. Settings that are read from
properties differ in the password only where the properties do, and the description of the target shows
what stands behind the last `@` of a connection text.
-/

namespace IndexAdvisor

/-- Where a password is given: as a property of its own, or inside the connection text. -/
inductive PasswordPlace where
  | property
  | url (before after : String)

namespace PasswordPlace

def key : PasswordPlace → String
  | .property => "password"
  | .url .. => "url"

def value (password : String) : PasswordPlace → String
  | .property => password
  | .url before after => before ++ password ++ after

def give (password : String) (place : PasswordPlace) (connection : ConnectionConfig) : ConnectionConfig :=
  match place with
  | .property => { connection with password := some password }
  | .url .. => { connection with url := some (place.value password) }

/-- The description of the target does not tell the two passwords apart. -/
def Hides (first second : String) : PasswordPlace → Prop
  | .property => True
  | .url before after =>
      '@' ∈ after.toList ∨ afterLastAt (before ++ first) = afterLastAt (before ++ second)

variable {place : PasswordPlace} {p q : String}

theorem value_ne_empty (given : p ≠ "") : place.value p ≠ "" := by
  cases place with
  | property => exact given
  | url before after =>
      intro empty
      simp only [value, String.append_eq_empty_iff] at empty
      exact given empty.1.2

theorem isQueryId_key (place : PasswordPlace) : Config.isQueryId place.key = false := by
  have names : ∀ key ∈ ["password", "url"], Config.isQueryId key = false := by decide
  cases place <;> exact names _ (by simp [key])

/-- What is behind the last `@` ends with all that follows a place without one. -/
theorem afterLastAt_append (before after : String) :
    afterLastAt (before ++ after)
      = if '@' ∈ after.toList then afterLastAt after else afterLastAt before ++ after := by
  apply String.toList_inj.mp
  by_cases sign : '@' ∈ after.toList
  · have part : (after.toList.reverse.takeWhile (· ≠ '@')).length ≠ after.toList.reverse.length := by
      intro whole
      have all := (List.takeWhile_prefix _).eq_of_length whole
      have plain := List.takeWhile_eq_self_iff.mp all '@' (List.mem_reverse.mpr sign)
      simp at plain
    simp only [afterLastAt, String.toList_append, List.reverse_append, List.takeWhile_append, if_neg part,
      if_pos sign]
  · have plain : ∀ c ∈ after.toList.reverse, decide (c ≠ '@') := by
      intro c mem
      exact decide_eq_true fun same => sign (same ▸ List.mem_reverse.mp mem)
    rw [if_neg sign, afterLastAt, afterLastAt, String.toList_append, List.reverse_append,
      List.takeWhile_append_of_pos plain]
    simp

theorem afterLastAt_eq_iff (before after p q : String) :
    afterLastAt (before ++ p ++ after) = afterLastAt (before ++ q ++ after) ↔
      '@' ∈ after.toList ∨ afterLastAt (before ++ p) = afterLastAt (before ++ q) := by
  rw [afterLastAt_append, afterLastAt_append (before ++ q)]
  by_cases sign : '@' ∈ after.toList
  · simp [sign]
  · simp [sign, String.append_left_inj]

theorem describe_eq_iff (given : p ≠ "") (given' : q ≠ "") (connection : ConnectionConfig) :
    (place.give p connection).describe = (place.give q connection).describe ↔ place.Hides p q := by
  cases place with
  | property => exact iff_of_true rfl trivial
  | url before after =>
      have shown {p : String} (given : p ≠ "") :
          ((url before after).give p connection).describe = afterLastAt (before ++ p ++ after) := by
        have filled : ((url before after).give p connection).url.filter (!·.isEmpty)
            = some ((url before after).value p) := by
          simp [give, Option.filter, value_ne_empty given]
        rw [ConnectionConfig.describe, filled]
        rfl
      rw [shown given, shown given']
      exact afterLastAt_eq_iff before after p q

end PasswordPlace

namespace Config

variable {properties : Entries (Option String)} {environment : Environment}

theorem setting_put {value : String} (given : value ≠ "") (key : String) :
    setting (properties.put key (some value)) environment
      = fun other fallback => if other = key then some value
        else setting properties environment other fallback := by
  funext other fallback
  by_cases same : other = key
  · simp [setting, Entries.find?_put, same, given]
  · simp [setting, Entries.find?_put, same]

theorem queriesOf_put {key : String} (other : isQueryId key = false) (value : Option String) :
    queriesOf (properties.put key value) = queriesOf properties := by
  induction properties with
  | nil => simp [queriesOf, Entries.put, other]
  | cons entry rest ih =>
      obtain ⟨name, v⟩ := entry
      unfold Entries.put
      split
      · next same =>
          subst same
          simp [queriesOf, other]
      · simp only [queriesOf, List.filterMap_cons] at ih ⊢
        rw [ih]

def give (password : String) (place : PasswordPlace) (config : Config) : Config :=
  { config with connection := place.give password config.connection }

/-- Properties that differ in the password define the same settings, but for the password. -/
theorem connectionOf_put (place : PasswordPlace) {p q : String} (given : p ≠ "") (given' : q ≠ "") :
    connectionOf (properties.put place.key (some (place.value p))) environment
      = (connectionOf (properties.put place.key (some (place.value q))) environment).map (place.give p) := by
  have found {p : String} (given : p ≠ "") :
      setting (properties.put place.key (some (place.value p))) environment = fun other fallback =>
        if other = place.key then some (place.value p) else setting properties environment other fallback :=
    setting_put (place.value_ne_empty given) _
  unfold connectionOf
  rw [found given, found given']
  cases place with
  | property =>
      have demanded {p : String} (given : p ≠ "") : demand "password" (some p) = .ok () := by
        simp [demand, given]
      simp only [PasswordPlace.key, PasswordPlace.value, String.reduceEq, reduceIte, demanded given,
        demanded given']
      cases readInteger "port" (setting properties environment "port" "DB_PORT") 5432 with
      | error e => rfl
      | ok port =>
          simp only [Bind.bind, Except.bind]
          split
          · rfl
          · cases demand "database" (setting properties environment "database" "DB_NAME") with
            | error e => rfl
            | ok _ => cases demand "user" (setting properties environment "user" "DB_USER") <;> rfl
  | url before after =>
      have filled {p : String} (given : p ≠ "") :
          (some ((PasswordPlace.url before after).value p)).any (!·.isEmpty) := by
        simp [PasswordPlace.value_ne_empty given]
      simp only [PasswordPlace.key, String.reduceEq, reduceIte, filled given, filled given']
      cases readInteger "port" (setting properties environment "port" "DB_PORT") 5432 <;> rfl

theorem ofProperties_put (place : PasswordPlace) {p q : String} (given : p ≠ "") (given' : q ≠ "") :
    ofProperties (properties.put place.key (some (place.value p))) environment
      = (ofProperties (properties.put place.key (some (place.value q))) environment).map (give p place) := by
  have found (p : String) {other : String} (apart : other ≠ place.key) :
      (properties.put place.key (some (place.value p))).find? other = properties.find? other := by
    rw [Entries.find?_put, if_neg apart]
  have queries (p : String) :
      queriesOf (properties.put place.key (some (place.value p))) = queriesOf properties :=
    queriesOf_put place.isQueryId_key _
  have warmUps : "plan_count" ≠ place.key := by cases place <;> simp [PasswordPlace.key]
  have debug : "debug" ≠ place.key := by cases place <;> simp [PasswordPlace.key]
  simp only [ofProperties, connectionOf_put place given given', found _ warmUps, found _ debug, queries]
  cases connectionOf (properties.put place.key (some (place.value q))) environment with
  | error e => rfl
  | ok connection =>
      simp only [Except.map, Bind.bind, Except.bind]
      cases readInteger "plan_count" (properties.find? "plan_count").join defaultWarmUps with
      | error e => rfl
      | ok warmUps =>
          dsimp only
          split <;> rfl

end Config

end IndexAdvisor
