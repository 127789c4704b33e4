import IotGateway.Lts.Run
import IotGateway.Hal.Modbus

/-!
# Polling a sensor over Modbus

`pollOnce` reads the measurements of a profile one after the other, each with
`hal.ModbusRead` and a timeout of 200 ms, and publishes what it got. The slave answers
requests in their order, some perhaps never, each after a delay of its own: `answer` lets
a reply come in at any time, in one piece. What has come in and not been read stays in the
tty's input queue until the next call's flush.

`attributed_iff`: **every value taken up is the content of a reply to its own measurement's
request in the same poll, exactly when no call's first reply since its flush carries the
registers of another measurement or another poll.** A reply slower than the timeout is
taken for the next measurement's (`humidity_is_temperature`).
-/

namespace Gateway

open Lts Hal

/-- `Measurement`, with its `ModbusSpec`. -/
structure Measurement where
  key : String
  unit : String
  functionCode : ℤ
  register : ℤ
  length : ℤ
  scale : ℚ
  offset : ℚ
  min : Option ℚ
  max : Option ℚ

/-- `config.SensorChannel`, the fields `pollOnce` reads. -/
structure SensorChannel where
  channelID : String
  slaveID : ℤ

/-- `channelRunner`: the channel and its profile's measurements. -/
structure ChannelRunner where
  cfg : SensorChannel
  measurements : List Measurement

/-- An entry of the telemetry payload's `values`. -/
structure SensorValue where
  sensorChannelID : String
  measurementKey : String
  value : ℚ
  unit : String
  quality : String
deriving DecidableEq

/-- The request of a measurement, its numbers cut to the width they have on the line. -/
def Measurement.request (meas : Measurement) (cfg : SensorChannel) : ModbusRequest where
  slave := BitVec.ofInt 8 cfg.slaveID
  functionCode := BitVec.ofInt 8 meas.functionCode
  register := BitVec.ofInt 16 meas.register
  length := BitVec.ofInt 16 meas.length

def Measurement.quality (meas : Measurement) (val : ℚ) : String :=
  if meas.min.any (val < ·) || meas.max.any (· < val) then "out_of_range" else "good"

/-- The entry of a measurement: its first register, signed, scaled without rounding. -/
def Measurement.sensorValue (meas : Measurement) (cfg : SensorChannel) (raw : List Word) : SensorValue :=
  let val : ℚ := (raw.getD 0 0).toInt * meas.scale + meas.offset
  { sensorChannelID := cfg.channelID
    measurementKey := meas.key
    value := val
    unit := meas.unit
    quality := meas.quality val }

/-- A request on the line, sent for measurement `index` in `pollOnce` number `poll`. -/
structure Query where
  request : ModbusRequest
  poll : ℕ
  index : ℕ

/-- A reply that has come in. -/
structure Reply where
  query : Query
  content : Content

def Reply.frame (r : Reply) : List Byte := r.query.request.replyFrame r.content

/-- A value taken up for measurement `index` in `pollOnce` number `poll`, and the reply at
the front of the input queue when it was read. -/
structure Reading where
  value : SensorValue
  poll : ℕ
  index : ℕ
  reply : Option Reply

/-- Where the channel's goroutine is. Times are in milliseconds. -/
inductive PollPhase where
  | idle
  /-- goes on with `attempt` at measurement `index`, not before `readyAt` -/
  | next (index attempt readyAt : ℕ)
  /-- in `ModbusRead`, its request written at `since` -/
  | waiting (index attempt since : ℕ)
deriving DecidableEq

structure Poll where
  now : ℕ
  phase : PollPhase
  /-- the number of the last `pollOnce` -/
  poll : ℕ
  values : List Reading
  allOK : Bool
  published : List Reading
  /-- `SetSensorHealth` -/
  health : Option Bool
  sent : List Query
  /-- the requests before this one have been answered, or never will be -/
  answered : ℕ
  inbuf : List Reply

inductive PollEvent where
  /-- the ticker starts a `pollOnce` -/
  | tick
  /-- `pollOnce` goes on: the next call's flush and write, or the end -/
  | next
  /-- the slave's answer to request `n` comes in -/
  | answer (n : ℕ) (content : Content)
  /-- `ModbusRead` returns -/
  | ret
  | wait (ms : ℕ)

namespace Poll

/-- The timeout `pollOnce` passes to `ModbusRead`. -/
def timeoutMs : ℕ := 200

/-- The pause after an error that is not a timeout. -/
def retryMs : ℕ := 50

/-- The loop after an error: a timeout and the third error give the measurement up. -/
def failed (s : Poll) (index attempt : ℕ) (err : Err) : Poll :=
  let readyAt := if err.code = gwErrTimeout then s.now else s.now + retryMs
  if err.code = gwErrTimeout ∨ 3 ≤ attempt + 1 then
    { s with allOK := false, phase := .next (index + 1) 0 readyAt }
  else { s with phase := .next index (attempt + 1) readyAt }

/-- The loop after a call that returned registers. -/
def took (s : Poll) (cfg : SensorChannel) (meas : Measurement) (index : ℕ) (raw : List Word) : Poll :=
  { s with
    values := s.values ++ [⟨meas.sensorValue cfg raw, s.poll, index, s.inbuf.head?⟩]
    phase := .next (index + 1) 0 s.now }

/-- The end of `pollOnce`. -/
def finish (s : Poll) : Poll :=
  { s with
    health := some s.allOK
    published := s.published ++ s.values
    values := []
    phase := .idle }

/-- The start of a call: invalid arguments send nothing. -/
def call (s : Poll) (cfg : SensorChannel) (meas : Measurement) (index attempt : ℕ) : Poll :=
  if (meas.request cfg).valid then
    { s with
      inbuf := []
      sent := s.sent ++ [⟨meas.request cfg, s.poll, index⟩]
      phase := .waiting index attempt s.now }
  else s.failed index attempt ⟨gwErrInvalid⟩

/-- The return of a call, from the bytes that are in. -/
def returned (s : Poll) (cfg : SensorChannel) (meas : Measurement) (index attempt : ℕ) : Poll :=
  match modbusRead (meas.request cfg) (s.inbuf.flatMap Reply.frame) with
  | .ok raw => s.took cfg meas index raw
  | .error err => s.failed index attempt err

def step (c : ChannelRunner) (s : Poll) : PollEvent → Option Poll
  | .tick =>
    match s.phase with
    | .idle => some { s with
        phase := .next 0 0 s.now, poll := s.poll + 1, values := [], allOK := true }
    | _ => none
  | .next =>
    match s.phase with
    | .next index attempt readyAt =>
      if readyAt ≤ s.now then
        match c.measurements[index]? with
        | some meas => some (s.call c.cfg meas index attempt)
        | none => some s.finish
      else none
    | _ => none
  | .answer n content =>
    match s.sent[n]? with
    | some query =>
      if s.answered ≤ n ∧ query.request.Answers content then
        some { s with answered := n + 1, inbuf := s.inbuf ++ [⟨query, content⟩] }
      else none
    | none => none
  | .ret =>
    match s.phase with
    | .waiting index attempt since =>
      -- `select` gives up only on an empty queue
      if s.inbuf ≠ [] ∨ since + timeoutMs ≤ s.now then
        (c.measurements[index]?).map fun meas => s.returned c.cfg meas index attempt
      else none
    | _ => none
  | .wait ms => some { s with now := s.now + ms }

/-- A channel whose line has just been opened. -/
def init : Poll := ⟨0, .idle, 0, [], true, [], none, [], 0, []⟩

/-- The value is the content of a reply to the reading's own measurement, in its own poll. -/
def Own (c : ChannelRunner) (rd : Reading) : Prop :=
  ∃ query regs meas, rd.reply = some ⟨query, .registers regs⟩ ∧
    query.poll = rd.poll ∧ query.index = rd.index ∧
    c.measurements[rd.index]? = some meas ∧ query.request = meas.request c.cfg ∧
    rd.value = meas.sensorValue c.cfg regs

/-- Every value published, or taken up to be published, is its own measurement's. -/
def Attributed (c : ChannelRunner) (s : Poll) : Prop := ∀ rd ∈ s.published ++ s.values, Own c rd

/-- When a call returns, the first reply since its flush, if it carries registers, answers
the measurement the call is about. -/
def OwnReplyFirst (s : Poll) (e : PollEvent) (_ : Poll) : Prop :=
  match e, s.phase, s.inbuf with
  | .ret, .waiting index _ _, ⟨query, .registers _⟩ :: _ => query.poll = s.poll ∧ query.index = index
  | _, _, _ => True

instance (s : Poll) (e : PollEvent) (s' : Poll) : Decidable (OwnReplyFirst s e s') := by
  unfold OwnReplyFirst
  split <;> infer_instance

/-- The queries are the profile's, the queue holds correct answers, and a call in progress
is about a measurement that can be asked for. -/
structure Inv (c : ChannelRunner) (s : Poll) : Prop where
  sent : ∀ q ∈ s.sent, ∃ meas, c.measurements[q.index]? = some meas ∧ q.request = meas.request c.cfg
  inbuf : ∀ r ∈ s.inbuf, r.query ∈ s.sent ∧ r.query.request.Answers r.content
  waiting : ∀ index attempt since, s.phase = .waiting index attempt since →
    ∃ meas, c.measurements[index]? = some meas ∧ (meas.request c.cfg).valid = true

variable {c : ChannelRunner} {s s' : Poll}

/-- **What each step does.** -/
theorem step_cases {e : PollEvent} (h : step c s e = some s') :
    match e with
    | .tick => s' = { s with
        phase := .next 0 0 s.now, poll := s.poll + 1, values := [], allOK := true }
    | .next => s' = s.finish ∨ ∃ index attempt meas, c.measurements[index]? = some meas ∧
        s' = s.call c.cfg meas index attempt
    | .answer n content => ∃ query ∈ s.sent, query.request.Answers content ∧
        s' = { s with answered := n + 1, inbuf := s.inbuf ++ [⟨query, content⟩] }
    | .ret => ∃ index attempt since meas, s.phase = .waiting index attempt since ∧
        c.measurements[index]? = some meas ∧ s' = s.returned c.cfg meas index attempt
    | .wait ms => s' = { s with now := s.now + ms } := by
  cases e with
  | tick =>
    simp only [step] at h
    split at h
    · exact (Option.some.inj h).symm
    · cases h
  | next =>
    simp only [step] at h
    split at h
    · split_ifs at h
      split at h
      · rename_i meas hmeas
        exact Or.inr ⟨_, _, meas, hmeas, (Option.some.inj h).symm⟩
      · exact Or.inl (Option.some.inj h).symm
    · cases h
  | answer n content =>
    simp only [step] at h
    split at h
    · rename_i query hquery
      split_ifs at h with hans
      exact ⟨query, List.mem_of_getElem? hquery, hans.2, (Option.some.inj h).symm⟩
    · cases h
  | ret =>
    simp only [step] at h
    split at h
    · rename_i index attempt since hp
      split_ifs at h
      obtain ⟨meas, hmeas, rfl⟩ := Option.map_eq_some_iff.1 h
      exact ⟨index, attempt, since, meas, hp, hmeas, rfl⟩
    · cases h
  | wait ms => exact (Option.some.inj h).symm

theorem failed_keeps (s : Poll) (index attempt : ℕ) (err : Err) :
    (s.failed index attempt err).sent = s.sent ∧ (s.failed index attempt err).inbuf = s.inbuf ∧
    (s.failed index attempt err).published = s.published ∧
    (s.failed index attempt err).values = s.values ∧
    ∃ i a t, (s.failed index attempt err).phase = .next i a t := by
  unfold failed
  dsimp only
  split_ifs <;> exact ⟨rfl, rfl, rfl, rfl, _, _, _, rfl⟩

/-- The measurements of a profile all use one function code and one length. -/
def Uniform (c : ChannelRunner) (functionCode length : ℤ) : Prop :=
  ∀ meas ∈ c.measurements, meas.functionCode = functionCode ∧ meas.length = length

variable {functionCode length : ℤ}

/-- **What a call reads.** In a uniform profile, a call takes the first reply in the queue
for its own, whichever register it is about. -/
theorem modbusRead_queue (hc : Uniform c functionCode length) (hs : Inv c s) {index : ℕ}
    {meas : Measurement} (hmeas : c.measurements[index]? = some meas)
    (hv : (meas.request c.cfg).valid = true) {r : Reply} {rest : List Reply}
    (hbuf : s.inbuf = r :: rest) :
    modbusRead (meas.request c.cfg) (s.inbuf.flatMap Reply.frame) =
      match r.content with
      | .registers regs => .ok regs
      | .exception _ => .error ⟨gwErrIo⟩ := by
  obtain ⟨hsent, hans⟩ := hs.inbuf r (by rw [hbuf]; exact List.mem_cons_self)
  obtain ⟨meas', hmeas', hreq⟩ := hs.sent r.query hsent
  obtain ⟨hfc, hlen⟩ := hc meas (List.mem_of_getElem? hmeas)
  obtain ⟨hfc', hlen'⟩ := hc meas' (List.mem_of_getElem? hmeas')
  have hframe : r.frame = (meas.request c.cfg).replyFrame r.content := by
    -- the two requests differ in their register only, and a frame does not show it
    unfold Reply.frame
    rw [hreq]
    refine ModbusRequest.replyFrame_congr ?_ ?_ r.content
    · rfl
    · simp only [Measurement.request]
      rw [hfc, hfc']
  have hlenEq : (meas'.request c.cfg).length = (meas.request c.cfg).length := by
    simp only [Measurement.request]
    rw [hlen, hlen']
  have hans' : (meas.request c.cfg).Answers r.content := by
    rw [hreq] at hans
    cases hcont : r.content with
    | registers regs =>
      rw [hcont] at hans
      exact hans.trans (congrArg BitVec.toNat hlenEq)
    | exception code => trivial
  unfold modbusRead
  rw [hv, hbuf, List.flatMap_cons, hframe, ModbusRequest.readReply_replyFrame hv hans']
  cases r.content <;> rfl

/-- A step other than a call's start or an answer leaves the line alone. -/
theorem inv_of_keeps (hs : Inv c s) (hsent : s'.sent = s.sent) (hbuf : s'.inbuf = s.inbuf)
    (hphase : ∀ index attempt since, s'.phase = .waiting index attempt since → s'.phase = s.phase) :
    Inv c s' where
  sent := by rw [hsent]; exact hs.sent
  inbuf := by rw [hsent, hbuf]; exact hs.inbuf
  waiting := by
    intro index attempt since hp
    have hsame := hphase index attempt since hp
    exact hs.waiting index attempt since (by rw [← hsame, hp])

theorem inv_failed (hs : Inv c s) (index attempt : ℕ) (err : Err) :
    Inv c (s.failed index attempt err) := by
  obtain ⟨hsent, hbuf, -, -, i, a, t, hphase⟩ := failed_keeps s index attempt err
  refine inv_of_keeps hs hsent hbuf fun _ _ _ hp => ?_
  rw [hphase] at hp
  cases hp

theorem inv_call (hs : Inv c s) {index attempt : ℕ} {meas : Measurement}
    (hmeas : c.measurements[index]? = some meas) : Inv c (s.call c.cfg meas index attempt) := by
  unfold call
  split_ifs with hv
  · refine ⟨?_, by simp, ?_⟩
    · intro q hq
      rcases List.mem_append.1 hq with hq | hq
      · exact hs.sent q hq
      · rw [List.mem_singleton] at hq
        rw [hq]
        exact ⟨meas, hmeas, rfl⟩
    · intro i a t hp
      cases hp
      exact ⟨meas, hmeas, hv⟩
  · exact inv_failed hs index attempt _

theorem inv_step (hs : Inv c s) {e : PollEvent} (h : step c s e = some s') : Inv c s' := by
  cases e with
  | tick =>
    cases step_cases h
    exact inv_of_keeps hs rfl rfl fun _ _ _ hp => by cases hp
  | next =>
    rcases step_cases h with rfl | ⟨index, attempt, meas, hmeas, rfl⟩
    · exact inv_of_keeps hs rfl rfl fun _ _ _ hp => by cases hp
    · exact inv_call hs hmeas
  | answer n content =>
    obtain ⟨query, hquery, hans, rfl⟩ := step_cases h
    refine ⟨hs.sent, ?_, hs.waiting⟩
    intro r hr
    rcases List.mem_append.1 hr with hr | hr
    · exact hs.inbuf r hr
    · rw [List.mem_singleton] at hr
      rw [hr]
      exact ⟨hquery, hans⟩
  | ret =>
    obtain ⟨index, attempt, since, meas, -, -, rfl⟩ := step_cases h
    unfold returned
    split
    · exact inv_of_keeps hs rfl rfl fun _ _ _ hp => by cases hp
    · exact inv_failed hs _ _ _
  | wait ms =>
    cases step_cases h
    exact inv_of_keeps hs rfl rfl fun _ _ _ _ => rfl

/-- A call's return takes up at most one reading, of the first reply in the queue. -/
theorem returned_attributed (hc : Uniform c functionCode length) (hs : Inv c s)
    (hq : Attributed c s) {index attempt since : ℕ} (hp : s.phase = .waiting index attempt since)
    {meas : Measurement} (hmeas : c.measurements[index]? = some meas) :
    Attributed c (s.returned c.cfg meas index attempt) ↔ OwnReplyFirst s .ret s' := by
  obtain ⟨meas', hmeas', hv⟩ := hs.waiting index attempt since hp
  rw [hmeas] at hmeas'
  cases hmeas'
  -- an error takes nothing up
  have hfailed : ∀ err, Attributed c (s.failed index attempt err) := by
    intro err
    obtain ⟨-, -, hpub, hval, -⟩ := failed_keeps s index attempt err
    unfold Attributed
    rw [hpub, hval]
    exact hq
  cases hbuf : s.inbuf with
  | nil =>
    -- nothing has come in: a timeout
    have hread : modbusRead (meas.request c.cfg) (s.inbuf.flatMap Reply.frame) =
        .error ⟨gwErrTimeout⟩ := by
      unfold modbusRead
      rw [hv, hbuf, List.flatMap_nil, ModbusRequest.readReply_nil]
      rfl
    have hown : OwnReplyFirst s .ret s' := by
      unfold OwnReplyFirst
      rw [hp, hbuf]
      trivial
    unfold returned
    rw [hread]
    exact ⟨fun _ => hown, fun _ => hfailed _⟩
  | cons r rest =>
    have hread := modbusRead_queue hc hs hmeas hv hbuf
    obtain ⟨query, content⟩ := r
    cases content with
    | exception code =>
      have hown : OwnReplyFirst s .ret s' := by
        unfold OwnReplyFirst
        rw [hp, hbuf]
        trivial
      unfold returned
      rw [hread]
      exact ⟨fun _ => hown, fun _ => hfailed _⟩
    | registers regs =>
      have hguard : OwnReplyFirst s .ret s' ↔ query.poll = s.poll ∧ query.index = index := by
        unfold OwnReplyFirst
        rw [hp, hbuf]
      obtain ⟨hsent, -⟩ := hs.inbuf ⟨query, .registers regs⟩ (by rw [hbuf]; exact List.mem_cons_self)
      obtain ⟨meas'', hmeas'', hreq⟩ := hs.sent query hsent
      unfold returned
      rw [hread, hguard]
      constructor
      · intro ha
        obtain ⟨query', regs', _, hreply, hpoll, hindex, -⟩ :=
          ha ⟨meas.sensorValue c.cfg regs, s.poll, index, s.inbuf.head?⟩ (by simp [took])
        rw [hbuf] at hreply
        cases hreply
        exact ⟨hpoll, hindex⟩
      · rintro ⟨hpoll, hindex⟩ rd hrd
        -- the new reading is the last one, and its reply is the one at the front
        simp only [took, ← List.append_assoc] at hrd
        rcases List.mem_append.1 hrd with hrd | hrd
        · exact hq rd hrd
        · rw [List.mem_singleton] at hrd
          subst hrd
          have hsame : meas'' = meas := by
            rw [hindex, hmeas] at hmeas''
            exact (Option.some.inj hmeas'').symm
          subst hsame
          exact ⟨query, regs, meas'', by rw [hbuf]; rfl, hpoll, hindex, hmeas, hreq, rfl⟩

/-- Only a call's return takes a value up: every other step keeps the readings, or
publishes those taken up. -/
theorem step_readings {e : PollEvent} (he : e ≠ .ret) (h : step c s e = some s') :
    ∀ rd ∈ s'.published ++ s'.values, rd ∈ s.published ++ s.values := by
  cases e with
  | ret => exact absurd rfl he
  | tick =>
    cases step_cases h
    intro rd hrd
    rw [List.append_nil] at hrd
    exact List.mem_append_left _ hrd
  | next =>
    rcases step_cases h with rfl | ⟨index, attempt, meas, -, rfl⟩
    · simp [finish]
    · unfold call
      split_ifs
      · exact fun _ hrd => hrd
      · obtain ⟨-, -, hpub, hval, -⟩ := failed_keeps s index attempt ⟨gwErrInvalid⟩
        rw [hpub, hval]
        exact fun _ hrd => hrd
  | answer n content =>
    obtain ⟨query, -, -, rfl⟩ := step_cases h
    exact fun _ hrd => hrd
  | wait ms =>
    cases step_cases h
    exact fun _ hrd => hrd

/-- **One step** keeps every value its own measurement's exactly when it meets the guard. -/
theorem step_attributed (hc : Uniform c functionCode length) (hs : Inv c s) (hq : Attributed c s)
    {e : PollEvent} (h : step c s e = some s') : Attributed c s' ↔ OwnReplyFirst s e s' := by
  by_cases he : e = .ret
  · subst he
    obtain ⟨index, attempt, since, meas, hp, hmeas, rfl⟩ := step_cases h
    exact returned_attributed hc hs hq hp hmeas
  · have hguard : OwnReplyFirst s e s' := by
      cases e with
      | ret => exact absurd rfl he
      | _ => trivial
    have hkeep := step_readings he h
    exact ⟨fun _ => hguard, fun _ rd hrd => hq rd (hkeep rd hrd)⟩

/-- **Reply attribution.** For every uniform profile, every schedule of the slave's answers
and every number of polls: each value published, or taken up to be published, is the
content the slave returned for its own measurement in its own poll, if and only if no call
returns with the registers of another measurement or poll first in its queue. -/
theorem attributed_iff (c : ChannelRunner) {functionCode length : ℤ}
    (hc : Uniform c functionCode length) (es : List PollEvent) :
    Always (step c) (Attributed c) init es ↔ Along (step c) OwnReplyFirst init es :=
  always_iff_along (I := Inv c) (fun _ _ _ hs h => inv_step hs h)
    (fun _ _ _ hs hq h => step_attributed hc hs hq h)
    ⟨by simp [init], by simp [init], by simp [init]⟩ (by simp [Attributed, init])

/-! A climate sensor: temperature in register 0, relative humidity in register 1. -/

def climate : ChannelRunner where
  cfg := ⟨"climate-1", 1⟩
  measurements :=
    [⟨"temperature", "C", 3, 0, 1, 1 / 10, 0, none, none⟩,
     ⟨"humidity", "%", 3, 1, 1, 1 / 10, 0, some 0, some 100⟩]

theorem climate_uniform : Uniform climate 3 1 := by
  intro meas hmeas
  simp only [climate, List.mem_cons, List.not_mem_nil, or_false] at hmeas
  rcases hmeas with rfl | rfl <;> exact ⟨rfl, rfl⟩

/-- Answers within the timeout, and one that never comes. -/
theorem climate_attributed :
    Always (step climate) (Attributed climate) init
      [.tick, .next, .wait 30, .answer 0 (.registers [235]), .ret, .next, .wait 200, .ret, .next] :=
  (attributed_iff climate climate_uniform _).2 (by decide +kernel)

/-- The temperature's reply takes 210 ms: it is read, and published, as the humidity. -/
theorem humidity_is_temperature :
    ∃ s, run (step climate) init
        [.tick, .next, .wait 200, .ret, .next, .wait 10, .answer 0 (.registers [235]), .ret,
          .next] = some s ∧
      s.published.map (·.value) = [⟨"climate-1", "humidity", 47 / 2, "%", "good"⟩] ∧
      ¬ Attributed climate s := by
  have hrun : (run (step climate) init
      [.tick, .next, .wait 200, .ret, .next, .wait 10, .answer 0 (.registers [235]), .ret,
        .next]).map (·.published.map fun rd => (rd.value, rd.index, rd.reply.map (·.query.index))) =
      some [(⟨"climate-1", "humidity", 47 / 2, "%", "good"⟩, 1, some 0)] := by
    decide +kernel
  obtain ⟨s, hs, hsum⟩ := Option.map_eq_some_iff.1 hrun
  obtain ⟨rd, hpub, hrd⟩ := List.map_eq_singleton_iff.1 hsum
  have hvalue : rd.value = _ := congrArg Prod.fst hrd
  have hindex : rd.index = 1 := congrArg (·.2.1) hrd
  have hreply : rd.reply.map (·.query.index) = some 0 := congrArg (·.2.2) hrd
  refine ⟨s, hs, by rw [hpub, List.map_singleton, hvalue], fun ha => ?_⟩
  obtain ⟨query, regs, meas, hown, -, hqi, -⟩ := ha rd (by rw [hpub]; simp)
  rw [hown] at hreply
  have h0 : query.index = 0 := Option.some.inj hreply
  omega

end Poll

end Gateway
