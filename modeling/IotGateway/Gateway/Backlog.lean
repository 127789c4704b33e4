import IotGateway.Gateway.Health
import IotGateway.Gateway.PollOnce
import IotGateway.Gateway.QueueOrder
import IotGateway.Lts.Run

/-!
# What the agent keeps of its polls

A goroutine for each enabled channel repeats `pollOnce`: it reads, writes the row of its channel in
`sensor_health`, publishes, and hands to `Enqueue` what it could not publish. Nothing in the
agent takes a message out of the queue again. `Agent.step` interleaves the goroutines at these
points; every SQL statement may fail, and the agent may stop and start again with the same file.
Calls of `Enqueue` do not overlap.

* `evict_rows`: on telemetry in the order of time, the eviction drops the first 1000 rows.
* `inv_step`: one step of a goroutine.
* `backlog_kept`: **in every state of every run the queue is an end of the sequence of the
  messages stored so far, all of which `Publish` refused: all of it while that is shorter
  than the limit, and never less than the limit less 1000; and `sensor_health` tells of each
  channel what those of its polls came to that could be recorded.**
-/

namespace Gateway

open Lts

/-! ## The queue, when it holds telemetry only -/

namespace DB

variable {db : DB}

/-- The rows are telemetry, the oldest first. -/
structure InOrder (db : DB) : Prop where
  telemetry : ∀ r ∈ db.rows, r.priority = 3
  sorted : db.rows.Pairwise fun a b => a.createdAt ≤ b.createdAt

theorem oldestTelemetry_rows (h : db.InOrder) : db.oldestTelemetry = db.rows.take 1000 := by
  have hall : db.telemetryRows = db.rows := by
    rw [telemetryRows, List.filter_eq_self]
    exact fun r hr => decide_eq_true (h.telemetry r hr)
  rw [oldestTelemetry, hall, List.Pairwise.insertionSort_eq h.sorted]

/-- What is not among the first `n` elements comes after them. -/
theorem filter_not_mem_take {α : Type*} [DecidableEq α] {l : List α} (h : l.Nodup) (n : ℕ) :
    l.filter (fun a => !decide (a ∈ l.take n)) = l.drop n := by
  have hsplit : (l.take n ++ l.drop n).Nodup := by rwa [List.take_append_drop]
  have hfilter : ∀ first rest : List α, (first ++ rest).Nodup →
      (first ++ rest).filter (fun a => !decide (a ∈ first)) = rest := by
    intro first rest hnodup
    have hfirst : first.filter (fun a => !decide (a ∈ first)) = [] := by
      rw [List.filter_eq_nil_iff]
      intro a ha
      simp [ha]
    have hrest : rest.filter (fun a => !decide (a ∈ first)) = rest := by
      rw [List.filter_eq_self]
      intro a ha
      have hno : a ∉ first := fun hin => List.disjoint_of_nodup_append hnodup hin ha
      simp [hno]
    rw [List.filter_append, hfirst, hrest, List.nil_append]
  have hl := hfilter (l.take n) (l.drop n) hsplit
  rwa [List.take_append_drop] at hl

/-- **The eviction drops the first rows.** -/
theorem evict_rows (h : db.InOrder) : db.evict.rows = db.rows.drop 1000 := by
  have hmem : ∀ r ∈ db.rows, (!decide (r.id ∈ db.oldestTelemetry.map (·.id))) =
      !decide (r ∈ db.rows.take 1000) := by
    intro r hr
    rw [← oldestTelemetry_rows h, decide_eq_decide.mpr (id_mem_oldestTelemetry hr)]
  exact (List.filter_congr hmem).trans (filter_not_mem_take db.nodup_rows 1000)

/-- `Enqueue`, with the outcomes of its count, its `DELETE` and its `INSERT`. -/
def tryEnqueue (db : DB) (now : GoTime) (msg : QueuedMessage) (counts evicts inserts : Bool) : DB :=
  if counts then
    let db := if db.Full ∧ evicts then db.evict else db
    if inserts then db.insert (msg.normalize now) else db
  else db

theorem tryEnqueue_succeeds (now : GoTime) (msg : QueuedMessage) :
    db.tryEnqueue now msg true true true = db.enqueue now msg := by
  unfold tryEnqueue enqueue
  by_cases hfull : db.Full
  · simp [hfull]
  · simp [hfull]

end DB

/-! ### What the queue is, when messages have been stored one after the other -/

/-- The rows are an end of the rows stored, which have texts of times up to `clock`. -/
structure QueueInv (maxRows : ℤ) (db : DB) (stored : List QueueRow) (clock : ℤ) (failed : ℕ) : Prop where
  limit : db.maxQueueRows = maxRows
  rows : ∃ k ≤ stored.length, db.rows = stored.drop k ∧ ((stored.length : ℤ) < maxRows → k = 0)
  atLeast : min (stored.length : ℤ) (maxRows - 1000) ≤ db.queueLen
  atMost : db.queueLen ≤ max 1 maxRows + failed
  telemetry : ∀ r ∈ stored, r.priority = 3
  stamped : ∀ r ∈ stored, ∃ t : GoTime, t.IsStamp ∧ t.utc = t ∧ t.instant ≤ clock ∧ r.createdAt = t.string
  sorted : stored.Pairwise fun a b => a.createdAt ≤ b.createdAt

namespace QueueInv

variable {maxRows clock : ℤ} {db : DB} {stored : List QueueRow} {failed : ℕ} {now : GoTime} {msg : QueuedMessage}

theorem empty (retentionDays maxRows clock : ℤ) : QueueInv maxRows (.empty retentionDays maxRows) [] clock 0 where
  limit := rfl
  rows := ⟨0, le_rfl, rfl, fun _ => rfl⟩
  atLeast := min_le_left _ _
  atMost := by
    have hlen : (DB.empty retentionDays maxRows).queueLen = 0 := rfl
    omega
  telemetry := by simp
  stamped := by simp
  sorted := List.Pairwise.nil

theorem inOrder (h : QueueInv maxRows db stored clock failed) : db.InOrder := by
  obtain ⟨k, -, hrows, -⟩ := h.rows
  constructor
  · intro r hr
    rw [hrows] at hr
    exact h.telemetry r (List.mem_of_mem_drop hr)
  · rw [hrows]
    exact h.sorted.sublist (List.drop_sublist k _)

theorem queueLen_le (h : QueueInv maxRows db stored clock failed) : db.queueLen ≤ stored.length := by
  obtain ⟨k, -, hrows, -⟩ := h.rows
  rw [DB.queueLen, hrows, List.length_drop]
  omega

theorem later {clock' : ℤ} (h : QueueInv maxRows db stored clock failed) (hle : clock ≤ clock') :
    QueueInv maxRows db stored clock' failed :=
  { h with
    stamped := fun r hr => by
      obtain ⟨t, ht, hutc, hclock, htext⟩ := h.stamped r hr
      exact ⟨t, ht, hutc, hclock.trans hle, htext⟩ }

/-- A `DELETE` that fails leaves one row too many. -/
theorem failedEviction (h : QueueInv maxRows db stored clock failed) :
    QueueInv maxRows db stored clock (failed + 1) :=
  { h with
    atMost := by
      have hmost := h.atMost
      push_cast
      omega }

/-- The eviction makes room. -/
theorem evict (h : QueueInv maxRows db stored clock failed) (hfull : db.Full) :
    QueueInv maxRows db.evict stored clock failed ∧ db.evict.queueLen + 1 ≤ max 1 maxRows + failed := by
  have hle := h.queueLen_le
  have hmost := h.atMost
  have hfull' : maxRows ≤ db.queueLen := h.limit ▸ hfull
  have hevict : db.evict.rows = db.rows.drop 1000 := DB.evict_rows h.inOrder
  have hlen : db.evict.queueLen = ((db.rows.length - 1000 : ℕ) : ℤ) := by
    rw [DB.queueLen, hevict, List.length_drop]
  have hrows : db.queueLen = (db.rows.length : ℤ) := rfl
  refine ⟨{ h with limit := h.limit, rows := ?_, atLeast := by omega, atMost := by omega }, by omega⟩
  obtain ⟨k, hk, hdrop, -⟩ := h.rows
  refine ⟨min (k + 1000) stored.length, min_le_right _ _, ?_, fun hless => by omega⟩
  rw [hevict, hdrop, List.drop_drop]
  rcases le_total (k + 1000) stored.length with hin | hout
  · rw [min_eq_left hin]
  · rw [min_eq_right hout, List.drop_length, List.drop_eq_nil_of_le hout]

/-- The `INSERT` puts the row at the end. -/
theorem insert (h : QueueInv maxRows db stored clock failed) (hroom : db.queueLen + 1 ≤ max 1 maxRows + failed)
    (hmsg : msg.priority = 3 ∧ msg.createdAt.isZero = true) (hclock : clock ≤ now.instant)
    (hstamp : now.IsStamp) (hutc : now.utc = now) :
    QueueInv maxRows (db.insert (msg.normalize now)) (stored ++ [db.inserted now msg]) now.instant failed := by
  have hpriority : (db.inserted now msg).priority = 3 := by
    unfold DB.inserted QueuedMessage.normalize
    rw [hmsg.1]
    rfl
  have htext : (db.inserted now msg).createdAt = now.string := by
    unfold DB.inserted QueuedMessage.normalize
    dsimp only
    rw [if_pos hmsg.2]
  have hlen := h.atLeast
  refine ⟨h.limit, ?_, ?_, ?_, ?_, ?_, ?_⟩
  · obtain ⟨k, hk, hdrop, hzero⟩ := h.rows
    refine ⟨k, hk.trans (by simp), ?_, fun hless => hzero ?_⟩
    · rw [List.drop_append_of_le_length hk, ← hdrop]
      rfl
    · rw [List.length_append] at hless
      push_cast at hless
      omega
  · rw [DB.queueLen_insert, List.length_append, List.length_singleton]
    push_cast
    omega
  · rwa [DB.queueLen_insert]
  · intro r hr
    rcases List.mem_append.mp hr with hr | hr
    · exact h.telemetry r hr
    · rw [List.mem_singleton.mp hr, hpriority]
  · intro r hr
    rcases List.mem_append.mp hr with hr | hr
    · exact (h.later hclock).stamped r hr
    · rw [List.mem_singleton.mp hr]
      exact ⟨now, hstamp, hutc, le_rfl, htext⟩
  · rw [List.pairwise_append]
    refine ⟨h.sorted, List.pairwise_singleton _ _, fun a ha b hb => ?_⟩
    obtain ⟨t, ht, htutc, hle, hta⟩ := h.stamped a ha
    rw [List.mem_singleton.mp hb, htext, hta]
    -- texts of such times compare as the times do
    exact not_lt.mp fun hlt => absurd ((GoTime.string_lt_iff hstamp ht hutc htutc).mp hlt) (by omega)

/-- **One `Enqueue`.** -/
theorem tryEnqueue (h : QueueInv maxRows db stored clock failed)
    (hmsg : msg.priority = 3 ∧ msg.createdAt.isZero = true) (hclock : clock ≤ now.instant)
    (hstamp : now.IsStamp) (hutc : now.utc = now) (counts evicts inserts : Bool) :
    QueueInv maxRows (db.tryEnqueue now msg counts evicts inserts)
      (if counts && inserts then stored ++ [db.inserted now msg] else stored) now.instant
      (if counts && decide db.Full && !evicts then failed + 1 else failed) := by
  have hinsert : ∀ (db' : DB) {failed' : ℕ}, db'.inserted now msg = db.inserted now msg →
      QueueInv maxRows db' stored clock failed' → db'.queueLen + 1 ≤ max 1 maxRows + failed' →
      QueueInv maxRows (if inserts then db'.insert (msg.normalize now) else db')
        (if inserts then stored ++ [db.inserted now msg] else stored) now.instant failed' := by
    intro db' failed' hrow h' hroom
    cases inserts with
    | true =>
      rw [if_pos rfl, if_pos rfl, ← hrow]
      exact h'.insert hroom hmsg hclock hstamp hutc
    | false => exact h'.later hclock
  unfold DB.tryEnqueue
  cases counts with
  | false => exact h.later hclock
  | true =>
    by_cases hfull : db.Full
    · cases evicts with
      | true =>
        obtain ⟨hevict, hroom⟩ := h.evict hfull
        simpa [hfull] using hinsert db.evict rfl hevict hroom
      | false =>
        have hmost := h.atMost
        have hroom : db.queueLen + 1 ≤ max 1 maxRows + ((failed + 1 : ℕ) : ℤ) := by
          push_cast
          omega
        simpa [hfull] using hinsert db rfl h.failedEviction hroom
    · have hless : db.queueLen < maxRows := not_le.mp (h.limit ▸ hfull)
      simpa [hfull] using hinsert db rfl h (by omega)

end QueueInv

/-! ## What a poll says of its sensor -/

/-- The attempts at a measurement ended with a success. -/
def Succeeded (p : Measurement × List Outcome) : Prop := ∃ regs, p.2.getLast? = some (.ok regs)

/-- Every measurement was attempted, and the sensor is well if each attempt succeeded. -/
def PollResult.Tells (r : PollResult) (c : ChannelRunner) : Prop :=
  r.attempted.map Prod.fst = c.measurements ∧ (r.health = true ↔ ∀ p ∈ r.attempted, Succeeded p)

section Tells

variable {affine : ℤ → ℚ → ℚ → Float64} {cfg : SensorChannel} {s s' : PollState}

theorem pollMeasurement_allOK {out : ℕ → Outcome} {meas : Measurement}
    (h : pollMeasurement affine cfg out meas s = some s') :
    ∃ p : Measurement × List Outcome, p.1 = meas ∧ s'.attempted = s.attempted ++ [p] ∧
      (s'.allOK = true ↔ s.allOK = true ∧ Succeeded p) := by
  refine ⟨(meas, (attempts out 3 0 [] none).2.2), rfl, ?_⟩
  obtain ⟨-, -, hend⟩ := attempts_three out
  unfold pollMeasurement at h
  dsimp only at h
  -- the last attempt succeeded, or its error is `lastErr`
  rcases hend with ⟨regs, hlast, -, hnone⟩ | ⟨err, hlast, hsome⟩
  · rw [hnone] at h
    obtain ⟨first, -, h⟩ := Option.bind_eq_some_iff.mp h
    cases h
    have hsucceeded : Succeeded (meas, (attempts out 3 0 [] none).2.2) := ⟨regs, hlast⟩
    exact ⟨rfl, by rw [and_iff_left hsucceeded]⟩
  · rw [hsome] at h
    cases h
    refine ⟨rfl, iff_of_false (by simp) ?_⟩
    rintro ⟨-, regs, hok⟩
    rw [hlast] at hok
    cases hok

theorem pollMeasurements_allOK {read : ℕ → ℕ → Outcome} {i : ℕ} {rest : List Measurement}
    (h : pollMeasurements affine cfg read i rest s = some s') :
    ∃ att : List (Measurement × List Outcome), att.map Prod.fst = rest ∧ s'.attempted = s.attempted ++ att ∧
      (s'.allOK = true ↔ s.allOK = true ∧ ∀ p ∈ att, Succeeded p) := by
  induction rest generalizing i s with
  | nil =>
    cases h
    exact ⟨[], rfl, (List.append_nil _).symm, by simp⟩
  | cons meas rest ih =>
    rw [pollMeasurements, Option.bind_eq_some_iff] at h
    obtain ⟨s₁, hone, hrest⟩ := h
    obtain ⟨p, rfl, hattempted, hok⟩ := pollMeasurement_allOK hone
    obtain ⟨att, rfl, hattempted', hok'⟩ := ih hrest
    refine ⟨p :: att, rfl, ?_, ?_⟩
    · rw [hattempted', hattempted, List.append_assoc]
      rfl
    · rw [hok', hok, List.forall_mem_cons, and_assoc]

/-- **A poll's `allOK`** is what its measurements came to. -/
theorem tells_of_pollOnce {text : Telemetry → List UInt8} {c : ChannelRunner} {header : Telemetry}
    {read : ℕ → ℕ → Outcome} {publish : Except String Unit} {r : PollResult}
    (h : pollOnce affine text c header read publish = some r) : r.Tells c := by
  unfold pollOnce at h
  rw [Option.bind_eq_bind, Option.bind_eq_some_iff] at h
  obtain ⟨polled, hpolled, h⟩ := h
  obtain ⟨att, hkeys, hattempted, hok⟩ := pollMeasurements_allOK hpolled
  rw [List.nil_append] at hattempted
  have htells : polled.attempted.map Prod.fst = c.measurements ∧
      (polled.allOK = true ↔ ∀ p ∈ polled.attempted, Succeeded p) := by
    rw [hattempted]
    exact ⟨hkeys, hok.trans (and_iff_right rfl)⟩
  split_ifs at h
  · cases h
    exact htells
  · cases h
    exact htells

end Tells

/-! ## The goroutines -/

/-- A goroutine within `pollOnce`; `publish` is what its `Publish` comes to. -/
inductive Poller where
  | idle
  /-- the reads are done -/
  | read (r : PollResult) (publish : Except String Unit)
  /-- `SetSensorHealth` is done -/
  | reported (r : PollResult) (publish : Except String Unit)
  /-- `Publish` has failed -/
  | refused (msg : QueuedMessage)

/-- A poll that has called `SetSensorHealth`, and whether the statement succeeded. -/
structure HealthReport where
  poll : PollResult
  call : HealthCall
  succeeds : Bool

/-- The report is of a poll of channel `c`. -/
def HealthReport.Of (r : HealthReport) (c : ChannelRunner) : Prop :=
  r.call.channelId = c.cfg.channelID ∧ r.call.ok = r.poll.health ∧ r.poll.Tells c

/-- What was handed to `Publish`, and what it came to. -/
structure PublishCall where
  topic : String
  payload : Option (List UInt8)
  outcome : Except String Unit

/-- The file, the goroutines, and a record of what they did. -/
structure Agent where
  db : DB
  health : HealthTable
  pollers : ℕ → Poller
  /-- the last instant that `Enqueue` stamped -/
  clock : ℤ
  reports : List HealthReport
  published : List PublishCall
  /-- what was handed to `Enqueue` -/
  refused : List QueuedMessage
  /-- the rows that it inserted -/
  stored : List QueueRow
  failedEvictions : ℕ

inductive AgentEvent where
  /-- the reads of a poll; `publish` is what its `Publish` will come to -/
  | poll (i : ℕ) (header : Telemetry) (read : ℕ → ℕ → Outcome) (publish : Except String Unit)
  | setHealth (i : ℕ) (now : GoTime) (succeeds : Bool)
  | publish (i : ℕ)
  /-- `now` is `time.Now().UTC()` -/
  | enqueue (i : ℕ) (now : GoTime) (counts evicts inserts : Bool)
  | restart

namespace Agent

def start (db : DB) : Agent := ⟨db, .empty, fun _ => .idle, GoTime.zero.instant, [], [], [], [], 0⟩

def moved (s : Agent) (i : ℕ) (p : Poller) : ℕ → Poller := Function.update s.pollers i p

/-- `SetSensorHealth(channelID, allOK)`; a poll without values ends here. -/
def afterHealth (s : Agent) (i : ℕ) (call : HealthCall) (r : PollResult) (publish : Except String Unit)
    (succeeds : Bool) : Agent :=
  { s with
    health := if succeeds then setSensorHealth s.health call else s.health
    reports := s.reports ++ [⟨r, call, succeeds⟩]
    pollers := s.moved i (if r.published = [] then .idle else .reported r publish) }

/-- What `Publish` was called with. -/
def attempted (r : PollResult) (publish : Except String Unit) : List PublishCall :=
  r.published.map fun m => ⟨m.1, m.2, publish⟩

/-- `Publish` -/
def afterPublish (s : Agent) (i : ℕ) (r : PollResult) (publish : Except String Unit) : Agent :=
  { s with
    published := s.published ++ attempted r publish
    pollers := s.moved i (match r.enqueued with
      | [] => .idle
      | msg :: _ => .refused msg) }

/-- `Enqueue` -/
def afterEnqueue (s : Agent) (i : ℕ) (now : GoTime) (msg : QueuedMessage) (counts evicts inserts : Bool) :
    Agent :=
  { s with
    db := s.db.tryEnqueue now msg counts evicts inserts
    pollers := s.moved i .idle
    clock := now.instant
    refused := s.refused ++ [msg]
    stored := if counts && inserts then s.stored ++ [s.db.inserted now msg] else s.stored
    failedEvictions := if counts && decide s.db.Full && !evicts then s.failedEvictions + 1
      else s.failedEvictions }

variable (affine : ℤ → ℚ → ℚ → Float64) (text : Telemetry → List UInt8) (channels : List ChannelRunner)

/-- The clock of the stamps does not go back, and shows years 1000 to 9999. -/
def step (s : Agent) : AgentEvent → Option Agent
  | .poll i header read publish =>
    match channels[i]?, s.pollers i with
    | some c, .idle => (pollOnce affine text c header read publish).map fun r =>
      { s with pollers := s.moved i (.read r publish) }
    | _, _ => none
  | .setHealth i now succeeds =>
    match channels[i]?, s.pollers i with
    | some c, .read r publish =>
      some (s.afterHealth i ⟨c.cfg.channelID, r.health, now⟩ r publish succeeds)
    | _, _ => none
  | .publish i =>
    match s.pollers i with
    | .reported r publish => some (s.afterPublish i r publish)
    | _ => none
  | .enqueue i now counts evicts inserts =>
    match s.pollers i with
    | .refused msg =>
      if s.clock ≤ now.instant ∧ now.IsStamp ∧ now.utc = now then
        some (s.afterEnqueue i now msg counts evicts inserts)
      else none
    | _ => none
  | .restart => some { s with pollers := fun _ => .idle }

variable {affine text channels} {s s' : Agent}

/-! ### What the goroutines keep -/

/-- `Publish` has refused the message. -/
def Refused (published : List PublishCall) (msg : QueuedMessage) : Prop :=
  ∃ bs err, ⟨msg.topic, bs, .error err⟩ ∈ published ∧ msg.payload = bs.getD []

/-- A message to `Enqueue` is telemetry without a time, and `Publish` has refused it. -/
def Handed (published : List PublishCall) (msg : QueuedMessage) : Prop :=
  msg.priority = 3 ∧ msg.createdAt.isZero = true ∧ Refused published msg

/-- The calls of `SetSensorHealth` whose statement succeeded. -/
def recorded (reports : List HealthReport) : List HealthCall := (reports.filter (·.succeeds)).map (·.call)

variable (channels)

/-- What goroutine `i` has still to do. -/
def PollerOk (s : Agent) (i : ℕ) : Poller → Prop
  | .idle => True
  | .read r publish =>
    (∀ c ∈ channels[i]?, r.Tells c) ∧ ∀ msg ∈ r.enqueued, Handed (attempted r publish) msg
  | .reported r publish => ∀ msg ∈ r.enqueued, Handed (attempted r publish) msg
  | .refused msg => Handed s.published msg

structure Inv (maxRows : ℤ) (s : Agent) : Prop where
  queue : QueueInv maxRows s.db s.stored s.clock s.failedEvictions
  stored : (s.stored.map fun r => (r.topic, r.payload)).Sublist (s.refused.map fun m => (m.topic, m.payload))
  handed : ∀ msg ∈ s.refused, Handed s.published msg
  pollers : ∀ i, PollerOk channels s i (s.pollers i)
  reports : ∀ r ∈ s.reports, ∃ c ∈ channels, r.Of c
  health : s.health = (recorded s.reports).foldl setSensorHealth .empty

variable {channels}

theorem recorded_append (reports : List HealthReport) (r : PollResult) (call : HealthCall) (succeeds : Bool) :
    recorded (reports ++ [⟨r, call, succeeds⟩]) =
      if succeeds then recorded reports ++ [call] else recorded reports := by
  unfold recorded
  rw [List.filter_append, List.map_append]
  cases succeeds with
  | true => rfl
  | false => exact List.append_nil _

theorem handed_append {published : List PublishCall} {msg : QueuedMessage} (h : Handed published msg)
    (more : List PublishCall) : Handed (published ++ more) msg := by
  obtain ⟨hpriority, hzero, bs, err, hbs, hpayload⟩ := h
  exact ⟨hpriority, hzero, bs, err, List.mem_append_left _ hbs, hpayload⟩

/-- What `pollOnce` hands to `Enqueue`, `Publish` has refused. -/
theorem handed_of_pollOnce {c : ChannelRunner} {header : Telemetry} {read : ℕ → ℕ → Outcome}
    {publish : Except String Unit} {r : PollResult} (h : pollOnce affine text c header read publish = some r) :
    ∀ msg ∈ r.enqueued, Handed (attempted r publish) msg := by
  unfold pollOnce at h
  rw [Option.bind_eq_bind, Option.bind_eq_some_iff] at h
  obtain ⟨polled, -, h⟩ := h
  split_ifs at h
  · cases h
    simp
  · cases h
    cases publish with
    | ok => simp
    | error err =>
      intro msg hmsg
      rw [List.mem_singleton.mp hmsg]
      exact ⟨rfl, rfl, _, err, List.mem_singleton_self _, rfl⟩

/-- One goroutine moves on. -/
theorem pollerOk_moved (h : ∀ j, PollerOk channels s' j (s.pollers j)) {i : ℕ} {p : Poller}
    (hp : PollerOk channels s' i p) (hs' : s'.pollers = s.moved i p) :
    ∀ j, PollerOk channels s' j (s'.pollers j) := by
  intro j
  rw [hs', moved]
  by_cases hj : j = i
  · rw [hj, Function.update_self]
    exact hp
  · rw [Function.update_of_ne hj]
    exact h j

variable {maxRows : ℤ} {i : ℕ}

theorem Inv.moved (h : Inv channels maxRows s) {p : Poller} (hp : PollerOk channels s i p) :
    Inv channels maxRows { s with pollers := s.moved i p } :=
  { h with pollers := pollerOk_moved h.pollers hp rfl }

theorem Inv.afterHealth (h : Inv channels maxRows s) {c : ChannelRunner} (hc : channels[i]? = some c)
    {r : PollResult} {publish : Except String Unit} (hr : s.pollers i = .read r publish) (now : GoTime)
    (succeeds : Bool) :
    Inv channels maxRows (s.afterHealth i ⟨c.cfg.channelID, r.health, now⟩ r publish succeeds) := by
  have hread := h.pollers i
  rw [hr] at hread
  obtain ⟨htells, hhanded⟩ := hread
  -- the message, if there is one, waits for `Publish` as before
  refine { h with pollers := pollerOk_moved h.pollers ?_ rfl, reports := ?_, health := ?_ }
  · split_ifs
    · trivial
    · exact hhanded
  · intro report hreport
    rcases List.mem_append.mp hreport with hold | hnew
    · exact h.reports report hold
    · rw [List.mem_singleton.mp hnew]
      exact ⟨c, List.mem_of_getElem? hc, rfl, rfl, htells c hc⟩
  · unfold Agent.afterHealth
    dsimp only
    rw [recorded_append]
    cases succeeds with
    | false => exact h.health
    | true =>
      rw [if_pos rfl, if_pos rfl, List.foldl_append, ← h.health]
      rfl

theorem Inv.afterPublish (h : Inv channels maxRows s) {r : PollResult} {publish : Except String Unit}
    (hr : s.pollers i = .reported r publish) : Inv channels maxRows (s.afterPublish i r publish) := by
  have hreported := h.pollers i
  rw [hr] at hreported
  have hmore : ∀ j p, PollerOk channels s j p → PollerOk channels (s.afterPublish i r publish) j p := by
    intro j p hp
    cases p with
    | idle => trivial
    | read r publish => exact hp
    | reported r publish => exact hp
    | refused msg => exact handed_append hp _
  refine { h with handed := fun msg hmsg => handed_append (h.handed msg hmsg) _, pollers := ?_ }
  refine pollerOk_moved (fun j => hmore j _ (h.pollers j)) ?_ rfl
  cases hqueued : r.enqueued with
  | nil => trivial
  | cons msg rest =>
    obtain ⟨hpriority, hzero, bs, err, hbs, hpayload⟩ := hreported msg (by rw [hqueued]; exact List.mem_cons_self)
    exact ⟨hpriority, hzero, bs, err, List.mem_append_right _ hbs, hpayload⟩

theorem Inv.afterEnqueue (h : Inv channels maxRows s) {msg : QueuedMessage} (hmsg : s.pollers i = .refused msg)
    {now : GoTime} (hclock : s.clock ≤ now.instant) (hstamp : now.IsStamp) (hutc : now.utc = now)
    (counts evicts inserts : Bool) :
    Inv channels maxRows (s.afterEnqueue i now msg counts evicts inserts) := by
  have hrefused := h.pollers i
  rw [hmsg] at hrefused
  refine ⟨?_, ?_, ?_, pollerOk_moved (p := .idle) h.pollers trivial rfl, h.reports, h.health⟩
  · exact h.queue.tryEnqueue ⟨hrefused.1, hrefused.2.1⟩ hclock hstamp hutc counts evicts inserts
  · unfold Agent.afterEnqueue
    dsimp only
    rw [List.map_append]
    split_ifs
    · rw [List.map_append]
      exact h.stored.append (List.Sublist.refl _)
    · exact h.stored.trans (List.sublist_append_left _ _)
  · intro m hm
    rcases List.mem_append.mp hm with hm | hm
    · exact h.handed m hm
    · rw [List.mem_singleton.mp hm]
      exact hrefused

/-- **One step of a goroutine**, or a restart. -/
theorem inv_step (h : Inv channels maxRows s) {e : AgentEvent}
    (hstep : step affine text channels s e = some s') : Inv channels maxRows s' := by
  cases e with
  | poll i header read publish =>
    simp only [step] at hstep
    split at hstep
    · rename_i c hc hidle
      obtain ⟨r, hr, rfl⟩ := Option.map_eq_some_iff.mp hstep
      refine h.moved ⟨fun c' hc' => ?_, handed_of_pollOnce hr⟩
      rw [hc, Option.mem_some_iff] at hc'
      rw [← hc']
      exact tells_of_pollOnce hr
    · cases hstep
  | setHealth i now succeeds =>
    simp only [step] at hstep
    split at hstep
    · rename_i c r publish hc hr
      cases hstep
      exact h.afterHealth hc hr now succeeds
    · cases hstep
  | publish i =>
    simp only [step] at hstep
    split at hstep
    · rename_i r publish hr
      cases hstep
      exact h.afterPublish hr
    · cases hstep
  | enqueue i now counts evicts inserts =>
    simp only [step] at hstep
    split at hstep
    · rename_i msg hmsg
      split_ifs at hstep with hnow
      cases hstep
      exact h.afterEnqueue hmsg hnow.1 hnow.2.1 hnow.2.2 counts evicts inserts
    · cases hstep
  | restart =>
    cases hstep
    exact { h with pollers := fun _ => trivial }

theorem inv_start (channels : List ChannelRunner) (retentionDays maxRows : ℤ) :
    Inv channels maxRows (start (.empty retentionDays maxRows)) where
  queue := .empty retentionDays maxRows _
  stored := List.Sublist.refl _
  handed := by simp [start]
  pollers _ := trivial
  reports := by simp [start]
  health := rfl

/-! ### Every run -/

/-- What is kept of the polls. -/
structure Keeps (channels : List ChannelRunner) (maxRows : ℤ) (s : Agent) : Prop where
  /-- the newest rows are left, in the order in which they were stored -/
  newest : ∃ gone, s.stored = gone ++ s.db.rows
  all : (s.stored.length : ℤ) < maxRows → s.db.rows = s.stored
  atLeast : min (s.stored.length : ℤ) (maxRows - 1000) ≤ s.db.queueLen
  atMost : s.db.queueLen ≤ max 1 maxRows + s.failedEvictions
  /-- each row is of a call of `Enqueue`, and no call has two -/
  stored : (s.stored.map fun r => (r.topic, r.payload)).Sublist (s.refused.map fun m => (m.topic, m.payload))
  refused : ∀ msg ∈ s.refused, Refused s.published msg
  reports : ∀ r ∈ s.reports, ∃ c ∈ channels, r.Of c
  health : ∀ channelID, s.health.find? channelID =
    summary channelID ((recorded s.reports).filter (·.channelId = channelID))

theorem Inv.keeps (h : Inv channels maxRows s) : Keeps channels maxRows s where
  newest := by
    obtain ⟨k, -, hrows, -⟩ := h.queue.rows
    exact ⟨s.stored.take k, by rw [hrows, List.take_append_drop]⟩
  all hless := by
    obtain ⟨k, -, hrows, hzero⟩ := h.queue.rows
    rw [hrows, hzero hless, List.drop_zero]
  atLeast := h.queue.atLeast
  atMost := h.queue.atMost
  stored := h.stored
  refused msg hmsg := (h.handed msg hmsg).2.2
  reports := h.reports
  health channelID := by rw [h.health, foldl_setSensorHealth]

/-- **The backlog**, from an empty file, in every state of every run. -/
theorem backlog_kept (affine : ℤ → ℚ → ℚ → Float64) (text : Telemetry → List UInt8)
    (channels : List ChannelRunner) (retentionDays maxRows : ℤ) (events : List AgentEvent) :
    Always (step affine text channels) (Keeps channels maxRows) (start (.empty retentionDays maxRows)) events := by
  have hstep : ∀ s e s', Inv channels maxRows s → step affine text channels s e = some s' →
      Inv channels maxRows s' :=
    fun _ _ _ h hs => inv_step h hs
  exact (always_of_inv hstep (inv_start channels retentionDays maxRows)).imp fun _ h => h.keeps

end Agent

end Gateway
