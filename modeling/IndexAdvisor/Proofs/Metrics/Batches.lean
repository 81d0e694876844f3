import IndexAdvisor.Metrics.Publisher
import Mathlib.Data.List.Forall2

/-! # Sending in batches

The points of metrics are sent in their order, in batches of one to twenty, up to the first batch that the
service does not take. Metrics that cannot be read are found out before anything is sent.
-/

namespace IndexAdvisor

/-! ## Points of documents -/

/-- The point is the one that the fields of a document describe. Where they give no unit or time stamp, it has
    those of all such metrics. -/
structure MetricPoint.Shows (point : MetricPoint) (now : DateTime) (fields : List (String × Value)) :
    Prop where
  name : fields.lookup "MetricName" = some point.name
  value : fields.lookup "Value" = some point.value
  unit : point.unit = (fields.lookup "Unit").getD (.text "None")
  timestamp : point.timestamp = (fields.lookup "Timestamp").getD (.dateTime now)
  dimensions : dimensionsOf ((fields.lookup "Dimensions").getD .null) = .ok point.dimensions

/-- The document describes the point. -/
def MetricPoint.Describes (now : DateTime) (document : Value) (point : MetricPoint) : Prop :=
  ∃ fields, document = .record fields ∧ point.Shows now fields

namespace Metric

theorem ofValue_record (fields : List (String × Value)) :
    ofValue (.record fields) =
      match fields.lookup "MetricName", fields.lookup "Value" with
      | none, _ => .error (.missing "MetricName")
      | some _, none => .error (.missing "Value")
      | some name, some value =>
        (dimensionsOf ((fields.lookup "Dimensions").getD .null)).map fun dimensions =>
          ⟨name, value, fields.lookup "Unit", fields.lookup "Timestamp", dimensions⟩ := by
  rw [ofValue]
  cases named : fields.lookup "MetricName" with
  | none => simp [named, Bind.bind, Except.bind]
  | some name =>
      cases valued : fields.lookup "Value" with
      | none => simp [named, valued, Bind.bind, Except.bind]
      | some value =>
          cases dimensionsOf ((fields.lookup "Dimensions").getD .null) <;>
            simp [named, valued, Bind.bind, Except.bind, Except.map, Pure.pure, Except.pure]

theorem describes_iff {now : DateTime} {document : Value} {point : MetricPoint} :
    MetricPoint.Describes now document point ↔
      ∃ metric, ofValue document = .ok metric ∧ metric.point now = point := by
  constructor
  · rintro ⟨fields, rfl, name, value, unit, timestamp, dimensions⟩
    let metric : Metric :=
      ⟨point.name, point.value, fields.lookup "Unit", fields.lookup "Timestamp", point.dimensions⟩
    refine ⟨metric, ?_, ?_⟩
    · rw [ofValue_record, name, value, dimensions]
      rfl
    · rw [Metric.point, ← unit, ← timestamp]
  · rintro ⟨metric, read, rfl⟩
    cases document with
    | record fields =>
        rw [ofValue_record] at read
        split at read
        · exact nomatch read
        · exact nomatch read
        · next name value named valued =>
            cases given : dimensionsOf ((fields.lookup "Dimensions").getD .null) with
            | error e => simp [given, Except.map] at read
            | ok dimensions =>
                rw [given] at read
                obtain rfl := Except.ok.inj read
                exact ⟨fields, rfl, named, valued, rfl, rfl, given⟩
    | _ => exact nomatch read

theorem mapM_of_described {now : DateTime} {documents : List Value} {points : List MetricPoint}
    (described : List.Forall₂ (MetricPoint.Describes now) documents points) :
    ∃ metrics, documents.mapM ofValue = .ok metrics ∧ metrics.map (·.point now) = points := by
  induction described with
  | nil => exact ⟨[], rfl, rfl⟩
  | cons first _ ih =>
      obtain ⟨metric, read, rfl⟩ := describes_iff.mp first
      obtain ⟨metrics, reads, rfl⟩ := ih
      exact ⟨metric :: metrics, by rw [List.mapM_cons, read, reads]; rfl, rfl⟩

/-- The first document that cannot be read decides on the error. -/
theorem mapM_of_first_error {documents later : List Value} {document : Value} {e : PublishError}
    (readable : ∀ other ∈ documents, ∃ metric, ofValue other = .ok metric)
    (failed : ofValue document = .error e) :
    (documents ++ document :: later).mapM ofValue = .error e := by
  induction documents with
  | nil =>
      rw [List.nil_append, List.mapM_cons, failed]
      rfl
  | cons first documents ih =>
      obtain ⟨⟨metric, read⟩, others⟩ := List.forall_mem_cons.mp readable
      rw [List.cons_append, List.mapM_cons, read, ih others]
      rfl

/-- One document that cannot be read is enough for an error. -/
theorem mapM_of_error {documents : List Value} {document : Value} {e : PublishError}
    (mem : document ∈ documents) (failed : ofValue document = .error e) :
    ∃ e, documents.mapM ofValue = .error e := by
  induction documents with
  | nil => exact nomatch mem
  | cons first documents ih =>
      rw [List.mapM_cons]
      cases read : ofValue first with
      | error e => exact ⟨e, rfl⟩
      | ok metric =>
          rcases List.mem_cons.mp mem with rfl | mem
          · exact nomatch read.symm.trans failed
          · obtain ⟨e, fails⟩ := ih mem
            exact ⟨e, by rw [fails]; rfl⟩

/-- The parts that every metric has, in the order in which they are read. -/
def parts : List String := ["MetricName", "Value"]

theorem ofValue_of_lacking {fields : List (String × Value)} {part : String}
    (lacking : parts.find? (fun part => (fields.lookup part).isNone) = some part) :
    ofValue (.record fields) = .error (.missing part) := by
  rw [ofValue_record]
  cases named : fields.lookup "MetricName" <;> cases valued : fields.lookup "Value" <;>
    simp_all [parts, List.find?]

end Metric

namespace Metrics

/-! ## Batches -/

theorem flatten_batches (points : List MetricPoint) : (batches points).flatten = points := by
  fun_induction batches points with
  | case1 => rfl
  | case2 point rest ih => rw [List.flatten_cons, ih, List.cons_append, List.take_append_drop]

theorem length_of_mem_batches (points : List MetricPoint) :
    ∀ batch ∈ batches points, 1 ≤ batch.length ∧ batch.length ≤ batchSize := by
  fun_induction batches points with
  | case1 => exact nofun
  | case2 point rest ih =>
      refine List.forall_mem_cons.mpr ⟨?_, ih⟩
      rw [List.length_cons, List.length_take, batchSize]
      omega

/-- The service takes batches that are sent one after the other, when others were sent before. -/
def Taken (service : Service) : List (List MetricPoint) → List (List MetricPoint) → Prop
  | _, [] => True
  | earlier, batch :: rest => service (batch :: earlier) = none ∧ Taken service (batch :: earlier) rest

/-- What becomes of batches that wait to be sent: all are sent and taken, or those are taken before the
    first that is not, and nothing is sent behind that one. -/
inductive Sends (service : Service) (earlier waiting : List (List MetricPoint)) :
    List (List MetricPoint) → Except Fault Bool → Prop
  | all : Taken service earlier waiting → Sends service earlier waiting waiting (.ok true)
  | upTo {done rest : List (List MetricPoint)} {batch : List MetricPoint} {fault : Fault} :
    waiting = done ++ batch :: rest → Taken service earlier done →
    service (batch :: (done.reverse ++ earlier)) = some fault →
    Sends service earlier waiting (done ++ [batch]) (if isServiceFault fault then .ok false else .error fault)

theorem Sends.cons {service : Service} {earlier waiting sent : List (List MetricPoint)}
    {batch : List MetricPoint} {answer : Except Fault Bool} (taken : service (batch :: earlier) = none)
    (later : Sends service (batch :: earlier) waiting sent answer) :
    Sends service earlier (batch :: waiting) (batch :: sent) answer := by
  cases later with
  | all others => exact .all ⟨taken, others⟩
  | @upTo done rest refusing fault split others refused =>
      have others : Taken service earlier (batch :: done) := ⟨taken, others⟩
      have split : batch :: waiting = (batch :: done) ++ refusing :: rest := by rw [split, List.cons_append]
      have refused : service (refusing :: ((batch :: done).reverse ++ earlier)) = some fault := by
        simpa using refused
      have upTo := Sends.upTo split others refused
      exact upTo

theorem sends_send (service : Service) (waiting : List (List MetricPoint)) (before : Sending) :
    ∃ sent, (send service waiting before).2.sent = sent.reverse ++ before.sent ∧
      Sends service before.sent waiting sent (send service waiting before).1 := by
  induction waiting generalizing before with
  | nil => exact ⟨[], rfl, .all trivial⟩
  | cons batch rest ih =>
      unfold send
      cases answer : service (batch :: before.sent) with
      | none =>
          obtain ⟨sent, told, sends⟩ := ih { before with sent := batch :: before.sent }
          simp only [answer]
          exact ⟨batch :: sent, by simpa using told, sends.cons answer⟩
      | some fault =>
          -- the first refusal ends the sending, whatever its kind
          refine ⟨[batch], ?_, ?_⟩
          · simp only [answer]
            split <;> rfl
          · have upTo := @Sends.upTo service before.sent (batch :: rest) [] rest batch fault rfl trivial answer
            simp only [answer]
            split
            · next own => simpa [own] using upTo
            · next foreign => simpa [foreign] using upTo

/-! ## What is sent -/

section

variable {service : Service} {earlier waiting sent : List (List MetricPoint)} {answer : Except Fault Bool}

theorem taken_append {done rest : List (List MetricPoint)} :
    Taken service earlier (done ++ rest) ↔
      Taken service earlier done ∧ Taken service (done.reverse ++ earlier) rest := by
  induction done generalizing earlier with
  | nil => simp [Taken]
  | cons batch done ih => simp [Taken, ih, and_assoc]

theorem Sends.isPrefix (sends : Sends service earlier waiting sent answer) : sent <+: waiting := by
  cases sends with
  | all => exact List.prefix_refl _
  | @upTo done rest batch fault split =>
      exact ⟨rest, by rw [split, List.append_assoc, List.singleton_append]⟩

theorem Sends.answer_iff (sends : Sends service earlier waiting sent answer) :
    answer = .ok true ↔ Taken service earlier sent := by
  cases sends with
  | all taken => exact iff_of_true rfl taken
  | upTo _ _ refused =>
      refine iff_of_false ?_ fun taken => ?_
      · split <;> exact nofun
      · exact nomatch refused.symm.trans (taken_append.mp taken).2.1

theorem Sends.eq_of_answer (sends : Sends service earlier waiting sent answer) (told : answer = .ok true) :
    sent = waiting := by
  cases sends with
  | all => rfl
  | upTo => split at told <;> exact nomatch told

/-- A batch that the service does not take is the last one that is sent. -/
theorem Sends.of_refused (sends : Sends service earlier waiting sent answer)
    {done later : List (List MetricPoint)} {batch : List MetricPoint} {fault : Fault}
    (split : sent = done ++ batch :: later)
    (refused : service (batch :: (done.reverse ++ earlier)) = some fault) :
    later = [] ∧ answer = if isServiceFault fault then .ok false else .error fault := by
  have untaken : ¬Taken service earlier (done ++ batch :: later) := fun taken =>
    nomatch refused.symm.trans (taken_append.mp taken).2.1
  cases sends with
  | all taken => exact absurd (split ▸ taken) untaken
  | @upTo done' _ _ fault' _ taken refused' =>
      rcases List.eq_nil_or_concat later with rfl | ⟨later, last, rfl⟩
      · obtain ⟨rfl, same⟩ := List.append_inj' split rfl
        obtain ⟨rfl, -⟩ := List.cons.inj same
        obtain rfl : fault' = fault := Option.some.inj (refused'.symm.trans refused)
        exact ⟨rfl, rfl⟩
      · rw [List.concat_eq_append, ← List.cons_append, ← List.append_assoc] at split
        obtain ⟨rfl, -⟩ := List.append_inj' split rfl
        exact nomatch refused.symm.trans (taken_append.mp taken).2.1

variable {points : List MetricPoint}

theorem Sends.length_of_mem (sends : Sends service earlier (batches points) sent answer) :
    ∀ batch ∈ sent, 1 ≤ batch.length ∧ batch.length ≤ batchSize :=
  fun batch mem => length_of_mem_batches points batch (sends.isPrefix.subset mem)

theorem Sends.flatten_isPrefix (sends : Sends service earlier (batches points) sent answer) :
    sent.flatten <+: points := by
  obtain ⟨rest, split⟩ := sends.isPrefix
  exact ⟨rest.flatten, by rw [← List.flatten_append, split, flatten_batches]⟩

end

theorem Publisher.putDescribed_list {publisher : Publisher} (enabled : publisher.enabled) (service : Service)
    (now : DateTime) (documents : List Value) (before : Sending) :
    publisher.putDescribed service now (.list documents) before =
      if documents = [] then (.ok false, before)
      else match documents.mapM Metric.ofValue with
        | .error e => (.error e, before)
        | .ok metrics => publisher.put service now metrics before := by
  have truthy : (Value.list documents).isTruthy = !documents.isEmpty := rfl
  simp only [putDescribed, enabled, truthy, Bool.not_true, Bool.not_not, Bool.false_or, List.isEmpty_iff]
  rfl

/-- Nothing is sent of metrics of which one cannot be read. -/
theorem Publisher.putDescribed_error {publisher : Publisher} (enabled : publisher.enabled) (service : Service)
    (now : DateTime) {documents : List Value} {e : PublishError}
    (failed : documents.mapM Metric.ofValue = .error e) (before : Sending) :
    publisher.putDescribed service now (.list documents) before = (.error e, before) := by
  have given : documents ≠ [] := by
    rintro rfl
    exact nomatch failed
  rw [putDescribed_list enabled, if_neg given, failed]

/-- The points of metrics are sent in batches; of no metrics there is none. -/
theorem Publisher.sends_putDescribed {publisher : Publisher} (enabled : publisher.enabled) (service : Service)
    (now : DateTime) {documents : List Value} {points : List MetricPoint}
    (described : List.Forall₂ (MetricPoint.Describes now) documents points) (given : documents ≠ [])
    (before : Sending) :
    ∃ sent answer, Sends service before.sent (batches points) sent answer ∧
      let ends := publisher.putDescribed service now (.list documents) before
      ends.1 = answer.mapError .fault ∧ ends.2.sent = sent.reverse ++ before.sent := by
  obtain ⟨metrics, read, rfl⟩ := Metric.mapM_of_described described
  have some_metric : metrics.isEmpty = false := by
    refine List.isEmpty_eq_false_iff.mpr ?_
    rintro rfl
    exact given (List.forall₂_nil_right_iff.mp described)
  obtain ⟨sent, told, sends⟩ := sends_send service (batches (metrics.map (·.point now))) before
  refine ⟨sent, _, sends, ?_⟩
  simp only [putDescribed_list enabled, if_neg given, read, put, enabled, some_metric]
  exact ⟨rfl, told⟩

/-- Nothing is sent when a metric lacks its name or its value. -/
theorem Publisher.putDescribed_of_lacking {publisher : Publisher} (enabled : publisher.enabled)
    (service : Service) (now : DateTime) {documents : List Value} {fields : List (String × Value)}
    {part : String} (mem : .record fields ∈ documents) (listed : part ∈ Metric.parts)
    (lacking : fields.lookup part = none) (before : Sending) :
    ∃ e, publisher.putDescribed service now (.list documents) before = (.error e, before) := by
  have lacks : (Metric.parts.find? fun part => (fields.lookup part).isNone).isSome := by
    rw [List.find?_isSome]
    exact ⟨part, listed, by rw [lacking]; rfl⟩
  obtain ⟨first, found⟩ := Option.isSome_iff_exists.mp lacks
  obtain ⟨e, failed⟩ := Metric.mapM_of_error mem (Metric.ofValue_of_lacking found)
  exact ⟨e, putDescribed_error enabled service now failed before⟩

/-- What the error tells is the first part that the first such metric lacks. -/
theorem Publisher.putDescribed_of_first_lacking {publisher : Publisher} (enabled : publisher.enabled)
    (service : Service) (now : DateTime) {earlier later : List Value} {fields : List (String × Value)}
    {part : String} (readable : ∀ other ∈ earlier, ∃ point, MetricPoint.Describes now other point)
    (first : Metric.parts.find? (fun part => (fields.lookup part).isNone) = some part) (before : Sending) :
    publisher.putDescribed service now (.list (earlier ++ .record fields :: later)) before =
      (.error (.missing part), before) := by
  have read : ∀ other ∈ earlier, ∃ metric, Metric.ofValue other = .ok metric := by
    intro other mem
    obtain ⟨point, describes⟩ := readable other mem
    obtain ⟨metric, read, -⟩ := Metric.describes_iff.mp describes
    exact ⟨metric, read⟩
  have failed := Metric.ofValue_of_lacking first
  exact putDescribed_error enabled service now (Metric.mapM_of_first_error read failed) before

/-- What an enabled publisher makes of the documents that describe metrics. -/
theorem Publisher.sent_in_batches {publisher : Publisher} (enabled : publisher.enabled) (service : Service)
    (now : DateTime) (documents : List Value) (before : Sending) :
    let ends := publisher.putDescribed service now (.list documents) before
    (∀ points, List.Forall₂ (MetricPoint.Describes now) documents points → ∃ sent,
      ends.2.sent = sent.reverse ++ before.sent ∧
      (∀ batch ∈ sent, 1 ≤ batch.length ∧ batch.length ≤ 20) ∧
      sent.flatten <+: points ∧
      (ends.1 = .ok true ↔ documents ≠ [] ∧ Taken service before.sent sent) ∧
      (ends.1 = .ok true → sent.flatten = points) ∧
      ∀ done batch later fault, sent = done ++ batch :: later →
        service (batch :: (done.reverse ++ before.sent)) = some fault →
        later = [] ∧ ends.1 = if isServiceFault fault then .ok false else .error (.fault fault)) ∧
    (∀ fields part, .record fields ∈ documents → part ∈ Metric.parts → fields.lookup part = none →
      ∃ e, ends = (.error e, before)) ∧
    ∀ earlier fields later part, documents = earlier ++ .record fields :: later →
      (∀ other ∈ earlier, ∃ point, MetricPoint.Describes now other point) →
      Metric.parts.find? (fun part => (fields.lookup part).isNone) = some part →
      ends = (.error (.missing part), before) := by
  refine ⟨fun points described => ?_, fun fields part mem listed lacking => ?_, ?_⟩
  · by_cases given : documents = []
    · subst given
      obtain rfl := List.forall₂_nil_left_iff.mp described
      refine ⟨[], ?_⟩
      simp only [putDescribed_list enabled]
      simp
    · obtain ⟨sent, answer, sends, told, history⟩ :=
        sends_putDescribed enabled service now described given before
      have accepted : (publisher.putDescribed service now (.list documents) before).1 = .ok true ↔
          answer = .ok true := by
        rw [told]
        cases answer <;> simp [Except.mapError]
      refine ⟨sent, history, sends.length_of_mem, sends.flatten_isPrefix, ?_, fun all => ?_, ?_⟩
      · rw [accepted, sends.answer_iff]
        exact (and_iff_right given).symm
      · rw [sends.eq_of_answer (accepted.mp all), flatten_batches]
      · intro done batch later fault split refused
        obtain ⟨last, refuses⟩ := sends.of_refused split refused
        refine ⟨last, ?_⟩
        rw [told, refuses]
        split <;> rfl
  · exact putDescribed_of_lacking enabled service now mem listed lacking before
  · rintro earlier fields later part rfl readable first
    exact putDescribed_of_first_lacking enabled service now readable first before

def production : Publisher := ⟨"QueryAnalyser", "us-east-1", true⟩

/-- A service that refuses the second batch. -/
def busyService : Service := fun sent => if sent.length = 2 then some ⟨.client, "slow down"⟩ else none

/-- A document of one of many alike metrics. -/
def queryMetric (n : Nat) : Value := .record [("MetricName", .text "Queries"), ("Value", .int n)]

def queryPoint (now : DateTime) (n : Nat) : MetricPoint :=
  ⟨.text "Queries", .int n, .text "None", .dateTime now, []⟩

/-- Of sixty metrics two batches are sent, the second of which is refused. -/
theorem Publisher.sent_in_batches_refused :
    let now : DateTime := ⟨⟨2024, 1, 1⟩, ⟨0, 0, 0, 0, none⟩⟩
    let documents := (List.range 60).map queryMetric
    let points := (List.range 60).map (queryPoint now)
    let ends := production.putDescribed busyService now (.list documents) ⟨[], []⟩
    production.enabled ∧ List.Forall₂ (MetricPoint.Describes now) documents points ∧ ends.1 = .ok false ∧
      ∃ sent : List (List MetricPoint),
        ends.2.sent = sent.reverse ∧ sent.map List.length = [20, 20] ∧ sent.flatten <+: points := by
  intro now documents points ends
  have enabled : production.enabled := rfl
  have described : List.Forall₂ (MetricPoint.Describes now) documents points := by
    rw [List.forall₂_map_left_iff, List.forall₂_map_right_iff]
    exact List.forall₂_same.mpr fun n _ => ⟨_, rfl, rfl, rfl, rfl, rfl, rfl⟩
  obtain ⟨sent, history, -, first, -, -, refused⟩ :=
    (sent_in_batches enabled busyService now documents ⟨[], []⟩).1 points described
  have lengths : ends.2.sent.map List.length = [20, 20] := by decide +kernel
  rw [history, List.append_nil, List.map_reverse, List.reverse_eq_iff] at lengths
  obtain ⟨one, another, rfl⟩ : ∃ one another, sent = [one, another] :=
    List.length_eq_two.mp (by simpa using congrArg List.length lengths)
  obtain ⟨-, unsuccessful⟩ := refused [one] another [] ⟨.client, "slow down"⟩ rfl rfl
  exact ⟨enabled, described, unsuccessful, [one, another], by simpa using history, lengths, first⟩

end Metrics

end IndexAdvisor
