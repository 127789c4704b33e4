import IotGateway.Lts.Run
import IotGateway.Gateway.Actuator

/-!
# The manager and its pins, one event at a time

A `Plant` is a manager with the level last written to each pin. `Plant.deliver`
handles one message, `Plant.expire` lets the armed max-on timer of a channel go off
and runs its callback to the end.

`Admits` says, from the request, the clock and the table alone, whether `execute` gets
past its guards and the pin write; `execute_cases` is what `execute` does in either case.
-/

namespace Gateway

/-- The request passes the guards and, outside simulation, its pin write succeeds. -/
def Admits (m : Manager) (now : ℤ) (gpioSet : ℤ → ℤ → Except Hal.Err Unit)
    (req : CommandRequest) : Bool :=
  match check m now req with
  | .error _ => false
  | .ok (st, value) => m.simulation || (gpioSet st.cfg.gpioPin value).isOk

section Execute

variable {m : Manager} {now : ℤ} {gpioSet : ℤ → ℤ → Except Hal.Err Unit} {req : CommandRequest}

theorem actionToValue_range {action : String} {v : ℤ} (h : actionToValue action = .ok v) :
    v = 0 ∨ v = 1 := by
  unfold actionToValue at h
  split_ifs at h
  · cases h; exact Or.inr rfl
  · cases h; exact Or.inl rfl

/-- A rejection says so, under the id of its request. -/
theorem check_error {resp : CommandResponse} (h : check m now req = .error resp) :
    resp.status = "rejected" ∧ resp.commandID = req.commandID := by
  unfold check at h
  dsimp only at h
  split_ifs at h
  · cases h; exact ⟨rfl, rfl⟩
  · cases h; exact ⟨rfl, rfl⟩
  · split at h
    · rename_i r hr
      cases h
      unfold checkExpires at hr
      split_ifs at hr
      split at hr
      · cases hr; exact ⟨rfl, rfl⟩
      · split_ifs at hr
        cases hr; exact ⟨rfl, rfl⟩
    · split at h
      · cases h; exact ⟨rfl, rfl⟩
      · split at h
        · cases h; exact ⟨rfl, rfl⟩
        · cases h

/-- A request that passes the guards names a channel of the table and an action. -/
theorem check_eq_ok {st : ChannelState} {v : ℤ} (h : check m now req = .ok (st, v)) :
    m.channel req.actuatorChannelID = some st ∧ actionToValue req.action = .ok v := by
  unfold check at h
  dsimp only at h
  split_ifs at h
  split at h
  · cases h
  · split at h
    · cases h
    · rename_i st' hst
      split at h
      · cases h
      · rename_i v' hv
        cases h
        exact ⟨hst, hv⟩

/-- The action is a level. -/
theorem check_ok {st : ChannelState} {v : ℤ} (h : check m now req = .ok (st, v)) :
    m.channel req.actuatorChannelID = some st ∧ (v = 0 ∨ v = 1) :=
  ⟨(check_eq_ok h).1, actionToValue_range (check_eq_ok h).2⟩

/-- **`execute`**: a refused request changes nothing and is not reported as executed;
an admitted one updates its channel and has the effects of its value. -/
theorem execute_cases (m : Manager) (now : ℤ) (gpioSet : ℤ → ℤ → Except Hal.Err Unit)
    (req : CommandRequest) :
    (Admits m now gpioSet req = false ∧ ∃ resp, execute m now gpioSet req = (resp, m, []) ∧
        (resp.status = "rejected" ∨ resp.status = "failed")) ∨
    (Admits m now gpioSet req = true ∧ ∃ st value resp, check m now req = .ok (st, value) ∧
        execute m now gpioSet req =
          (resp, m.update req.actuatorChannelID (·.locked now value) (fun _ => rfl),
            effects m now st value) ∧ resp.status = "executed") := by
  unfold execute Admits
  cases hc : check m now req with
  | error resp => exact Or.inl ⟨rfl, resp, rfl, Or.inl (check_error hc).1⟩
  | ok sv =>
    obtain ⟨st, value⟩ := sv
    dsimp only
    cases hsim : m.simulation with
    | true => exact Or.inr ⟨rfl, st, value, _, rfl, rfl, rfl⟩
    | false =>
      cases hg : gpioSet st.cfg.gpioPin value with
      | error err => exact Or.inl ⟨rfl, _, rfl, Or.inr rfl⟩
      | ok u => exact Or.inr ⟨rfl, st, value, _, rfl, rfl, rfl⟩

/-- Every response carries the id of its request. -/
theorem execute_commandID (m : Manager) (now : ℤ) (gpioSet : ℤ → ℤ → Except Hal.Err Unit)
    (req : CommandRequest) : (execute m now gpioSet req).1.commandID = req.commandID := by
  unfold execute
  cases hc : check m now req with
  | error resp => exact (check_error hc).2
  | ok sv =>
    dsimp only
    split <;> rfl

end Execute

/-! ## A manager of one channel -/

/-- The channel `NewManager` builds. -/
def newChannelState (cfg : ActuatorChannel) : ChannelState :=
  ⟨cfg, if cfg.defaultState = "on" then 1 else 0, none⟩

/-- The manager of a single channel, outside simulation. -/
def singleManager (st : ChannelState) (gatewayID : String) : Manager :=
  ⟨[st], gatewayID, false, by simp⟩

theorem channel_single {m : Manager} {st : ChannelState} (h : m.channels = [st]) (id : String) :
    m.channel id = if st.cfg.channelID = id then some st else none := by
  unfold Manager.channel
  rw [h]
  by_cases hid : st.cfg.channelID = id <;> simp [hid]

theorem update_single {m : Manager} {st : ChannelState} (h : m.channels = [st])
    {f : ChannelState → ChannelState} (hf : ∀ st, (f st).cfg = st.cfg) :
    (m.update st.cfg.channelID f hf).channels = [f st] := by
  simp [Manager.update, h]

/-- In a manager of one channel, an admitted request is for that channel. -/
theorem check_single {m : Manager} {st st' : ChannelState} {now : ℤ} {req : CommandRequest}
    {v : ℤ} (h : m.channels = [st]) (hc : check m now req = .ok (st', v)) :
    st' = st ∧ req.actuatorChannelID = st.cfg.channelID ∧ (v = 0 ∨ v = 1) := by
  obtain ⟨hch, hv⟩ := check_ok hc
  rw [channel_single h] at hch
  split_ifs at hch with hid
  cases hch
  exact ⟨rfl, hid.symm, hv⟩

/-- A HAL whose calls never fail. -/
def halOk : ℤ → ℤ → Except Hal.Err Unit := fun _ _ => .ok ()

@[ext] structure Plant where
  mgr : Manager
  level : ℤ → ℤ

/-- The level of each pin after an effect. -/
def Effect.drive (level : ℤ → ℤ) : Effect → ℤ → ℤ
  | .gpioSet pin value => Function.update level pin value
  | .simulated _ _ => level
  | .arm _ _ => level

/-- The pins after an executed command: outside simulation its pin has the value. -/
theorem foldl_effects {m : Manager} (hsim : m.simulation = false) (now : ℤ) (st : ChannelState) (v : ℤ)
    (level : ℤ → ℤ) :
    (effects m now st v).foldl Effect.drive level = Function.update level st.cfg.gpioPin v := by
  unfold effects
  rw [hsim]
  cases (st.locked now v).maxOnTimer <;> rfl

namespace Plant

/-- One message, handled to its end. -/
def deliver (p : Plant) (now : ℤ) (gpioSet : ℤ → ℤ → Except Hal.Err Unit)
    (payload : Option CommandRequest) : Plant :=
  let (_, m', fx) := handleCommand p.mgr now gpioSet payload
  ⟨m', fx.foldl Effect.drive p.level⟩

/-- The max-on timer of channel `id` goes off and its callback runs: if the pin write
fails, the callback logs and returns. -/
def expire (p : Plant) (id : String) (gpioSet : ℤ → ℤ → Except Hal.Err Unit) : Option Plant :=
  match p.mgr.channel id with
  | none => none
  | some st =>
    match st.maxOnTimer with
    | none => none
    | some t =>
      if t.fired then none
      else if p.mgr.simulation then
        some { p with mgr := p.mgr.update id (·.fire.autoOff) fun _ => rfl }
      else match gpioSet st.cfg.gpioPin 0 with
        | .error _ => some { p with mgr := p.mgr.update id (·.fire) fun _ => rfl }
        | .ok () => some
            { mgr := p.mgr.update id (·.fire.autoOff) fun _ => rfl
              level := Function.update p.level st.cfg.gpioPin 0 }

end Plant

/-! A relay on pin 17 with a maximum of 60 s, and a request to switch it ON. -/

def relayVent : ActuatorChannel := ⟨"relay-vent", 17, "off", 60, true⟩

def ventOn : CommandRequest := ⟨"cmd-1", "", "relay-vent", "ON", "", true⟩

end Gateway
