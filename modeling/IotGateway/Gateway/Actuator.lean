import IotGateway.Db.Table
import IotGateway.Gateway.Time
import IotGateway.Hal.Err

/-!
# Remote commands: the actuator manager

`execute` is a request's way through the guards (`check`), the pin write, and the
update of the channel under the manager's mutex (`ChannelState.locked`). The max-on
timer's callback is `ChannelState.fire` (the timer has gone off: `Stop` comes too
late), a pin write of 0, and `ChannelState.autoOff` under the mutex. The sequential
`execute` and the interleaved runs of the concurrency modules share these pieces.

The HAL is the argument `gpioSet`: what `hal.GPIOSet(pin, value)` answers.
-/

namespace Gateway

/-- `config.ActuatorChannel`, the fields the manager reads. -/
structure ActuatorChannel where
  channelID : String
  gpioPin : ℤ
  defaultState : String
  maxOnDurationSec : ℤ
  enabled : Bool
deriving DecidableEq, Repr

/-- A timer of `time.AfterFunc`. Once `fired`, its callback has started. -/
structure Timer where
  armedAt : ℤ
  due : ℤ
  fired : Bool
deriving DecidableEq, Repr

/-- `time.AfterFunc`: a negative duration goes off at once. -/
def afterFunc (now : ℤ) (d : ℤ) : Timer := ⟨now, now + max d 0, false⟩

structure ChannelState where
  cfg : ActuatorChannel
  currentValue : ℤ
  maxOnTimer : Option Timer
deriving DecidableEq, Repr

namespace ChannelState

/-- The channel's timer has been armed and has not gone off. -/
def Armed (st : ChannelState) : Prop := ∃ t, st.maxOnTimer = some t ∧ t.fired = false

/-- The section of `execute` under the mutex: the value is recorded, the old timer
stopped, and an ON command arms a new one. -/
def locked (st : ChannelState) (now : ℤ) (value : ℤ) : ChannelState :=
  { st with
    currentValue := value
    maxOnTimer :=
      if value = 1 ∧ 0 < st.cfg.maxOnDurationSec then
        some (afterFunc now (seconds st.cfg.maxOnDurationSec))
      else none }

/-- The timer goes off. -/
def fire (st : ChannelState) : ChannelState :=
  { st with maxOnTimer := st.maxOnTimer.map fun t => { t with fired := true } }

/-- The section of the callback under the mutex. -/
def autoOff (st : ChannelState) : ChannelState := { st with currentValue := 0 }

variable (st : ChannelState) (now : ℤ) (value : ℤ)

@[simp] theorem locked_cfg : (st.locked now value).cfg = st.cfg := rfl
@[simp] theorem fire_cfg : st.fire.cfg = st.cfg := rfl
@[simp] theorem autoOff_cfg : st.autoOff.cfg = st.cfg := rfl

variable {st}

/-- An ON command of a channel with a maximum arms the timer. -/
theorem armed_locked_on (h : 0 < st.cfg.maxOnDurationSec) : (st.locked now 1).Armed :=
  ⟨afterFunc now (seconds st.cfg.maxOnDurationSec), by simp [locked, h], rfl⟩

theorem not_armed_locked_off : ¬ (st.locked now 0).Armed := by
  rintro ⟨t, ht, -⟩
  simp [locked] at ht

theorem not_armed_fire : ¬ st.fire.Armed := by
  rintro ⟨t, ht, hf⟩
  simp only [fire, Option.map_eq_some_iff] at ht
  obtain ⟨t', -, rfl⟩ := ht
  cases hf

/-- A change that keeps every configuration keeps the channel ids. -/
theorem map_channelID {f : ChannelState → ChannelState} (hf : ∀ st, (f st).cfg = st.cfg)
    (channels : List ChannelState) :
    (channels.map f).map (·.cfg.channelID) = channels.map (·.cfg.channelID) := by
  rw [List.map_map]
  apply List.map_congr_left
  intro st _
  exact congrArg ActuatorChannel.channelID (hf st)

end ChannelState

/-- `Manager`: the channel table is a list without two entries of one channel id. -/
@[ext] structure Manager where
  channels : List ChannelState
  gatewayID : String
  simulation : Bool
  keys : (channels.map (·.cfg.channelID)).Nodup

namespace Manager

/-- `m.channels[id]` -/
def channel (m : Manager) (id : String) : Option ChannelState :=
  m.channels.find? (·.cfg.channelID = id)

/-- Replaces the state of channel `id`. -/
def update (m : Manager) (id : String) (f : ChannelState → ChannelState)
    (hf : ∀ st, (f st).cfg = st.cfg) : Manager :=
  { m with
    channels := m.channels.map fun st => if st.cfg.channelID = id then f st else st
    keys := by
      have hkeep : ∀ st : ChannelState, (if st.cfg.channelID = id then f st else st).cfg = st.cfg := by
        intro st
        split_ifs
        · exact hf st
        · rfl
      rw [ChannelState.map_channelID hkeep]
      exact m.keys }

variable {m : Manager} {st : ChannelState} {id : String} {f : ChannelState → ChannelState}

/-- The channels, as a table. -/
def table (m : Manager) : Db.Table ChannelState (·.cfg.channelID) := ⟨m.channels, m.keys⟩

theorem table_update (hf : ∀ st, (f st).cfg = st.cfg) :
    (m.update id f hf).table = m.table.modify id f fun st => congrArg (·.channelID) (hf st) := rfl

theorem channel_eq_some_iff : m.channel id = some st ↔ st ∈ m.channels ∧ st.cfg.channelID = id :=
  Db.Table.find?_eq_some (t := m.table)

theorem channel_update_self (hf : ∀ st, (f st).cfg = st.cfg) (h : m.channel id = some st) :
    (m.update id f hf).channel id = some (f st) := by
  have hfind : (m.update id f hf).table.find? id = (m.table.find? id).map f := by
    rw [table_update, Db.Table.find?_modify]
  exact hfind.trans (congrArg (Option.map f) h)

theorem channel_update_ne {id' : String} (hf : ∀ st, (f st).cfg = st.cfg) (hne : id' ≠ id) :
    (m.update id f hf).channel id' = m.channel id' := by
  have hfind : (m.update id f hf).table.find? id' = m.table.find? id' := by
    rw [table_update, Db.Table.find?_modify_ne _ hne]
  exact hfind

theorem update_cfgs (hf : ∀ st, (f st).cfg = st.cfg) :
    (m.update id f hf).channels.map (·.cfg) = m.channels.map (·.cfg) := by
  unfold update
  rw [List.map_map]
  refine List.map_congr_left fun st _ => ?_
  simp only [Function.comp]
  split_ifs
  · exact hf st
  · rfl

end Manager

/-- `CommandRequest`, the fields `handleCommand` reads. -/
structure CommandRequest where
  commandID : String
  gatewayID : String
  actuatorChannelID : String
  action : String
  expiresAt : String
  requireAck : Bool
deriving DecidableEq, Repr

structure CommandResponse where
  commandID : String
  gatewayID : String
  status : String
  reason : String
  result : String
  executedAt : String
  localSafetyCheck : String
deriving DecidableEq, Repr

/-- What a command does to the outside: the pin it writes (in simulation, the write it
logs instead), the timer it arms. -/
inductive Effect where
  | gpioSet (pin value : ℤ)
  | simulated (pin value : ℤ)
  | arm (channelID : String) (due : ℤ)
deriving DecidableEq, Repr

def actionToValue (action : String) : Except String ℤ :=
  if action ∈ ["ON", "on", "1", "true"] then .ok 1
  else if action ∈ ["OFF", "off", "0", "false"] then .ok 0
  else .error ("invalid action: " ++ action)

/-- The response `execute` starts from. -/
def newResponse (m : Manager) (now : ℤ) (req : CommandRequest) : CommandResponse where
  commandID := req.commandID
  gatewayID := m.gatewayID
  status := ""
  reason := ""
  result := ""
  executedAt := formatRFC3339Nano now
  localSafetyCheck := "passed"

/-- The `expires_at` guard: the rejection, if there is one. The layouts `RFC3339Nano`
and `RFC3339`, tried in turn, accept the same texts. -/
def checkExpires (now : ℤ) (expiresAt : String) (resp : CommandResponse) :
    Option CommandResponse :=
  if expiresAt = "" then none
  else match parseRFC3339 expiresAt with
    | none => some { resp with
        status := "rejected", reason := "invalid expires_at: " ++ expiresAt
        localSafetyCheck := "rejected_invalid_expires" }
    | some t =>
      if t < now then some { resp with
        status := "rejected", reason := "expired", localSafetyCheck := "rejected_expired" }
      else none

/-- The guards of `execute`, in their order: a rejection, or the channel and the value. -/
def check (m : Manager) (now : ℤ) (req : CommandRequest) :
    Except CommandResponse (ChannelState × ℤ) :=
  let resp := newResponse m now req
  if req.commandID = "" then
    .error { resp with status := "rejected", reason := "missing command_id" }
  else if req.gatewayID ≠ "" ∧ req.gatewayID ≠ m.gatewayID then
    .error { resp with
      status := "rejected", reason := "wrong gateway: " ++ req.gatewayID
      localSafetyCheck := "rejected_wrong_gateway" }
  else match checkExpires now req.expiresAt resp with
    | some r => .error r
    | none =>
      match m.channel req.actuatorChannelID with
      | none => .error { resp with
          status := "rejected", reason := "unknown channel: " ++ req.actuatorChannelID }
      | some st =>
        match actionToValue req.action with
        | .error e => .error { resp with status := "rejected", reason := e }
        | .ok value => .ok (st, value)

/-- What an executed command does: the pin write, then the timer. -/
def effects (m : Manager) (now : ℤ) (st : ChannelState) (value : ℤ) : List Effect :=
  (if m.simulation then .simulated st.cfg.gpioPin value else .gpioSet st.cfg.gpioPin value) ::
    match (st.locked now value).maxOnTimer with
    | some t => [.arm st.cfg.channelID t.due]
    | none => []

/-- `execute`, run to its end: the response, the manager after it, and its effects. -/
def execute (m : Manager) (now : ℤ) (gpioSet : ℤ → ℤ → Except Hal.Err Unit)
    (req : CommandRequest) : CommandResponse × Manager × List Effect :=
  match check m now req with
  | .error resp => (resp, m, [])
  | .ok (st, value) =>
    match if m.simulation then .ok () else gpioSet st.cfg.gpioPin value with
    | .error err =>
      ({ newResponse m now req with status := "failed", reason := "hal: " ++ err.error }, m, [])
    | .ok () =>
      ({ newResponse m now req with
          status := "executed", result := req.actuatorChannelID ++ "-" ++ req.action },
        m.update req.actuatorChannelID (·.locked now value) fun _ => rfl,
        effects m now st value)

/-- `handleCommand`: a payload that is not a request's JSON is dropped; the response is
published if the request asks for it. -/
def handleCommand (m : Manager) (now : ℤ) (gpioSet : ℤ → ℤ → Except Hal.Err Unit)
    (payload : Option CommandRequest) : Option CommandResponse × Manager × List Effect :=
  match payload with
  | none => (none, m, [])
  | some req =>
    let (resp, m', fx) := execute m now gpioSet req
    (if req.requireAck then some resp else none, m', fx)

end Gateway
