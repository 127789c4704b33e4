import IotGateway.Gateway.Relays
import IotGateway.Lts.Lockstep

/-!
# The simulation mode of the relays

With `simulation.enabled` the actuator manager logs the writes that it would make, and calls no
function of the HAL. Everything else is to go as it would on the device.

* `mirrored_step`: on the device, the recorded value of a channel is the level of its pin, also
  after writes that fail.
* `step_simulated`: an event, on a device whose writes succeed and in the simulation.
* `simulation_faithful`: **on any configuration that `Validate` accepts and whose pins can be
  reserved, the simulated manager takes the same steps, publishes the same responses and events,
  and has the same channels as the real one, through every run in which libgpiod does not fail;
  and what it has recorded are the levels of the real pins.**
-/

namespace Gateway

open Hal Lts

/-- The same manager with the flag. -/
def Manager.simulated (m : Manager) : Manager := { m with simulation := true }

theorem Manager.simulated_simulation (m : Manager) : m.simulated.simulation = true := rfl

/-- What the manager publishes, less the time of an event. -/
inductive Report where
  | response (resp : CommandResponse)
  /-- the event `max_on_auto_off` -/
  | maxOnAutoOff (actuatorChannelID : String)
deriving DecidableEq, Repr

/-- `gpiod_line_set_value` succeeds. -/
def RelayEvent.Sets : RelayEvent → Prop
  | .command _ _ sets => sets = true
  | .timer _ sets => sets = true

namespace Relays

/-- What an event makes the manager publish. -/
def reports (s : Relays) : RelayEvent → List Report
  | .command now payload sets =>
    (handleCommand s.mgr now (fun pin value => (halSet sets s.hal pin value).1) payload).1.toList.map .response
  | .timer id sets =>
    match s.mgr.channel id with
    | none => []
    | some st =>
      if s.mgr.simulation then [.maxOnAutoOff id]
      else match (halSet sets s.hal st.cfg.gpioPin 0).1 with
        | .error _ => []
        | .ok () => [.maxOnAutoOff id]

/-- The recorded values are the levels of the pins. -/
def Mirrored (s : Relays) : Prop := ∀ st ∈ s.mgr.channels, s.hal.level st.cfg.gpioPin = st.currentValue

/-- A manager with pins that can be written. -/
structure Ready (s : Relays) : Prop where
  real : s.mgr.simulation = false
  wired : Wired (s.mgr.channels.map (·.cfg)) s.hal
  initialized : ∀ st ∈ s.mgr.channels, s.hal.initialized = true
  mirrored : s.Mirrored

variable {s s' : Relays} {e : RelayEvent}

/-! ### The pins -/

/-- The slot that holds a line is the one that is found. -/
theorem findSlot_output {g : Gpio} {pin : ℤ} (h : pin ∈ g.outputs) :
    ∃ slot, g.findSlot pin = some slot ∧ slot.line = some pin ∧ slot.isOutput = true := by
  obtain ⟨slot, hslot, hline⟩ := List.mem_filterMap.mp h
  obtain ⟨hmem, hout⟩ := List.mem_filter.mp hslot
  cases hfind : g.findSlot pin with
  | none => exact absurd (List.mem_filterMap.mpr ⟨slot, hmem, hline⟩) (Gpio.findSlot_eq_none hfind)
  | some found =>
    have hprops := List.find?_some hfind
    rw [Bool.and_eq_true, decide_eq_true_eq] at hprops
    obtain ⟨line, hfound⟩ := Option.isSome_iff_exists.mp hprops.2
    obtain rfl : line = pin := (found.line_pin line hfound).trans hprops.1
    -- no two slots hold one line
    have hdistinct := List.pairwise_filterMap.mp g.distinct
    have hsame : slot = found := by
      by_contra hne
      have hsymm : Std.Symm fun a b : PinSlot => ∀ l, a.line = some l → ∀ l', b.line = some l' → l ≠ l' :=
        ⟨fun a b hab l hl l' hl' heq => hab l' hl' l hl heq.symm⟩
      exact hdistinct.forall hmem (List.mem_of_find?_eq_some hfind) hne line hline line hfound rfl
    exact ⟨found, rfl, hfound, hsame ▸ hout⟩

/-- **A write to a reserved output** that libgpiod carries out. -/
theorem halSet_output {g : Gpio} {pin value : ℤ} (hinit : g.initialized = true) (hrange : 0 ≤ pin ∧ pin ≤ 53)
    (hpin : pin ∈ g.outputs) (hvalue : value = 0 ∨ value = 1) :
    halSet true g pin value = (.ok (), { g with level := Function.update g.level pin value }) := by
  obtain ⟨slot, hfind, hline, hout⟩ := findSlot_output hpin
  have hcvalue : cInt value = value := cInt_of_le (by omega)
  have hset : g.set pin value = (gwOk, { g with level := Function.update g.level pin value }) := by
    unfold Gpio.set
    rw [if_neg (by simp [hinit]), if_neg (by omega), hfind]
    dsimp only
    rw [hline]
    dsimp only
    rw [if_neg (by simp [hout])]
  unfold halSet gpioSet
  rw [cInt_of_le hrange, hcvalue, hset]
  rfl

/-- A write reaches its pin, or changes nothing. -/
theorem halSet_cases (sets : Bool) (g : Gpio) {pin value : ℤ} (hrange : 0 ≤ pin ∧ pin ≤ 53)
    (hvalue : value = 0 ∨ value = 1) : (∃ err, halSet sets g pin value = (.error err, g)) ∨
      halSet sets g pin value = (.ok (), { g with level := Function.update g.level pin value }) := by
  unfold halSet
  cases hset : gpioSet g pin value with
  | mk answer g' =>
    cases answer with
    | error err =>
      rw [gpioSet_error hset]
      exact .inl ⟨err, rfl⟩
    | ok u =>
      have hcvalue : cInt value = value := cInt_of_le (by omega)
      obtain ⟨-, rfl⟩ := gpioSet_ok hset
      rw [cInt_of_le hrange, hcvalue]
      cases sets with
      | false => exact .inl ⟨_, rfl⟩
      | true => exact .inr rfl

/-! ### One event on the device -/

/-- A command on the device. -/
theorem step_command (hreal : s.mgr.simulation = false) (now : ℤ) (req : CommandRequest) (sets : Bool) :
    s.step (.command now (some req) sets) = some (match check s.mgr now req with
      | .error _ => s
      | .ok (st, value) =>
        match halSet sets s.hal st.cfg.gpioPin value with
        | (.error _, _) => s
        | (.ok (), hal) => ⟨s.mgr.update req.actuatorChannelID (·.locked now value) fun _ => rfl, hal⟩) := by
  simp only [step, handleCommand, execute]
  cases check s.mgr now req with
  | error resp => rfl
  | ok sv =>
    dsimp only
    rw [hreal]
    cases hset : halSet sets s.hal sv.1.cfg.gpioPin sv.2 with
    | mk answer hal =>
      cases answer with
      | error err => rfl
      | ok u =>
        dsimp only
        rw [if_neg (by decide), foldl_write, hreal, if_neg (by decide), hset]

/-- A timer goes off on the device. -/
theorem step_timer (hreal : s.mgr.simulation = false) (id : String) (sets : Bool) :
    s.step (.timer id sets) = (s.mgr.channel id).bind fun st => st.maxOnTimer.bind fun t =>
      if t.fired then none
      else some (match halSet sets s.hal st.cfg.gpioPin 0 with
        | (.error _, hal) => ⟨s.mgr.update id (·.fire) ChannelState.fire_cfg, hal⟩
        | (.ok (), hal) => ⟨s.mgr.update id (·.fire.autoOff) ChannelState.fire_autoOff_cfg, hal⟩) := by
  simp only [step]
  cases s.mgr.channel id with
  | none => rfl
  | some st =>
    dsimp only [Option.bind_some]
    cases st.maxOnTimer with
    | none => rfl
    | some t =>
      dsimp only [Option.bind_some]
      rw [hreal, if_neg (show ¬ false = true by decide)]
      split_ifs
      · rfl
      · cases halSet sets s.hal st.cfg.gpioPin 0 with
        | mk answer hal => cases answer <;> rfl

/-! ### The recorded values -/

/-- Only the channel of an event changes. -/
theorem mem_update {m : Manager} {id : String} {st : ChannelState} {f : ChannelState → ChannelState}
    (hf : ∀ st, (f st).cfg = st.cfg) (hst : m.channel id = some st) {st' : ChannelState}
    (h : st' ∈ (m.update id f hf).channels) : st' = f st ∨ st' ∈ m.channels ∧ st'.cfg.channelID ≠ id := by
  obtain ⟨old, hold, rfl⟩ := List.mem_map.mp h
  by_cases hid : old.cfg.channelID = id
  · have hsame := Manager.channel_eq_some_iff.mpr ⟨hold, hid⟩
    rw [hst, Option.some.injEq] at hsame
    rw [if_pos hid, hsame]
    exact .inl rfl
  · rw [if_neg hid]
    exact .inr ⟨hold, hid⟩

/-- The channel and its pin take a value. -/
theorem mirrored_write (hwired : Wired (s.mgr.channels.map (·.cfg)) s.hal) (h : s.Mirrored) {id : String}
    {st : ChannelState} (hst : s.mgr.channel id = some st) {f : ChannelState → ChannelState}
    (hf : ∀ st, (f st).cfg = st.cfg) {value : ℤ} (hvalue : (f st).currentValue = value) :
    Mirrored ⟨s.mgr.update id f hf, { s.hal with level := Function.update s.hal.level st.cfg.gpioPin value }⟩ := by
  intro st' hst'
  obtain ⟨hmem, hid⟩ := Manager.channel_eq_some_iff.mp hst
  rcases mem_update hf hst hst' with rfl | ⟨hold, hother⟩
  · rw [hf, hvalue]
    exact Function.update_self ..
  · have hpin : st'.cfg.gpioPin ≠ st.cfg.gpioPin := by
      intro hpin
      have hcfg := List.inj_on_of_nodup_map hwired.distinct (List.mem_map_of_mem hold)
        (List.mem_map_of_mem hmem) hpin
      exact hother (by rw [hcfg, hid])
    exact (Function.update_of_ne hpin ..).trans (h st' hold)

/-- Neither the value nor the pin changes. -/
theorem mirrored_keep (h : s.Mirrored) {id : String} {st : ChannelState} (hst : s.mgr.channel id = some st)
    {f : ChannelState → ChannelState} (hf : ∀ st, (f st).cfg = st.cfg)
    (hvalue : (f st).currentValue = st.currentValue) : Mirrored ⟨s.mgr.update id f hf, s.hal⟩ := by
  intro st' hst'
  rcases mem_update hf hst hst' with rfl | ⟨hold, -⟩
  · rw [hf, hvalue]
    exact h st (Manager.channel_eq_some_iff.mp hst).1
  · exact h st' hold

/-- What an event on the device changes: nothing, or its channel, and the pin with it unless the
write has failed. -/
theorem step_writes (h : s.Ready) (hstep : s.step e = some s') : s' = s ∨
    ∃ id st f, ∃ hf : ∀ st : ChannelState, (f st).cfg = st.cfg,
      s.mgr.channel id = some st ∧ s'.mgr = s.mgr.update id f hf ∧
        (s'.hal = s.hal ∧ (f st).currentValue = st.currentValue ∨
          s'.hal = { s.hal with
            level := Function.update s.hal.level st.cfg.gpioPin (f st).currentValue }) := by
  have hrange : ∀ id st, s.mgr.channel id = some st → 0 ≤ st.cfg.gpioPin ∧ st.cfg.gpioPin ≤ 53 :=
    fun id st hst => h.wired.range _ (List.mem_map_of_mem (Manager.channel_eq_some_iff.mp hst).1)
  cases e with
  | command now payload sets =>
    cases payload with
    | none =>
      cases hstep
      exact .inl rfl
    | some req =>
      rw [step_command h.real, Option.some.injEq] at hstep
      subst hstep
      cases hcheck : check s.mgr now req with
      | error resp => exact .inl rfl
      | ok sv =>
        obtain ⟨st, value⟩ := sv
        obtain ⟨hst, hvalue⟩ := check_ok hcheck
        dsimp only
        rcases halSet_cases sets s.hal (hrange _ st hst) hvalue with ⟨err, hset⟩ | hset
        · rw [hset]
          exact .inl rfl
        · rw [hset]
          exact .inr ⟨_, st, (·.locked now value), fun _ => rfl, hst, rfl, .inr rfl⟩
  | timer id sets =>
    rw [step_timer h.real, Option.bind_eq_some_iff] at hstep
    obtain ⟨st, hst, hstep⟩ := hstep
    rw [Option.bind_eq_some_iff] at hstep
    obtain ⟨t, -, hstep⟩ := hstep
    split_ifs at hstep
    rw [Option.some.injEq] at hstep
    subst hstep
    rcases halSet_cases sets s.hal (hrange id st hst) (.inl rfl) with ⟨err, hset⟩ | hset
    · rw [hset]
      exact .inr ⟨id, st, (·.fire), ChannelState.fire_cfg, hst, rfl, .inl ⟨rfl, rfl⟩⟩
    · rw [hset]
      exact .inr ⟨id, st, (·.fire.autoOff), ChannelState.fire_autoOff_cfg, hst, rfl, .inr rfl⟩

/-- **An event keeps the recorded values true**, whether or not its write succeeds. -/
theorem mirrored_step (h : s.Ready) (hstep : s.step e = some s') : s'.Mirrored := by
  rcases step_writes h hstep with rfl | ⟨id, st, f, hf, hst, hmgr, ⟨hhal, hvalue⟩ | hhal⟩
  · exact h.mirrored
  · have hkeep := mirrored_keep h.mirrored hst hf hvalue
    rwa [← hmgr, ← hhal] at hkeep
  · have hwrite := mirrored_write h.wired h.mirrored hst hf rfl
    rwa [← hmgr, ← hhal] at hwrite

theorem ready_step (h : s.Ready) (hstep : s.step e = some s') : s'.Ready := by
  have hwired := wired_step h.wired hstep
  have hmirrored := mirrored_step h hstep
  rcases step_writes h hstep with rfl | ⟨id, st, f, hf, hst, hmgr, hhal⟩
  · exact h
  · have hinit : s.hal.initialized = true := h.initialized st (Manager.channel_eq_some_iff.mp hst).1
    refine ⟨by rw [hmgr]; exact h.real, hwired, fun _ _ => ?_, hmirrored⟩
    rcases hhal with ⟨hhal, -⟩ | hhal
    · rw [hhal, hinit]
    · rw [hhal]
      exact hinit

/-! ### The same event in the simulation -/

section Succeeds

variable {now : ℤ} {req : CommandRequest} {id : String} {sets : Bool} {st : ChannelState} {value : ℤ}

/-- The write of an event succeeds, or is only logged. -/
def Writes (s : Relays) (sets : Bool) (st : ChannelState) (value : ℤ) : Prop :=
  s.mgr.simulation = true ∨ (halSet sets s.hal st.cfg.gpioPin value).1 = .ok ()

def written (s : Relays) (sets : Bool) (st : ChannelState) (value : ℤ) : Gpio :=
  if s.mgr.simulation then s.hal else (halSet sets s.hal st.cfg.gpioPin value).2

theorem step_executed (hcheck : check s.mgr now req = .ok (st, value)) (hwrites : s.Writes sets st value) :
    s.step (.command now (some req) sets) = some ⟨s.mgr.update req.actuatorChannelID (·.locked now value) fun _ => rfl,
        s.written sets st value⟩ ∧
      s.reports (.command now (some req) sets) = if req.requireAck then [.response { newResponse s.mgr now req with
          status := "executed", result := req.actuatorChannelID ++ "-" ++ req.action }] else [] := by
  have hset : (if s.mgr.simulation then .ok () else (halSet sets s.hal st.cfg.gpioPin value).1) = .ok () := by
    rcases hwrites with hsim | hset
    · rw [if_pos hsim]
    · rw [hset, ite_self]
  simp only [step, reports, handleCommand, execute, hcheck, hset]
  refine ⟨by rw [foldl_write]; rfl, ?_⟩
  split_ifs <;> rfl

theorem step_rejected (sets : Bool) {resp : CommandResponse} (hcheck : check s.mgr now req = .error resp) :
    s.step (.command now (some req) sets) = some s ∧
      s.reports (.command now (some req) sets) = if req.requireAck then [.response resp] else [] := by
  simp only [step, reports, handleCommand, execute, hcheck]
  refine ⟨rfl, ?_⟩
  split_ifs <;> rfl

/-- The timer of a channel has been armed and has not gone off. -/
def Pending (m : Manager) (id : String) (st : ChannelState) : Prop := m.channel id = some st ∧ st.Armed

theorem step_expired (hpending : Pending s.mgr id st) (hwrites : s.Writes sets st 0) :
    s.step (.timer id sets) = some ⟨s.mgr.update id (·.fire.autoOff) ChannelState.fire_autoOff_cfg,
        s.written sets st 0⟩ ∧
      s.reports (.timer id sets) = [.maxOnAutoOff id] := by
  obtain ⟨hst, t, ht, hfired⟩ := hpending
  simp only [step, reports, hst, ht, hfired]
  unfold written
  rcases hwrites with hsim | hset
  · rw [if_pos hsim, if_pos hsim, if_pos hsim]
    exact ⟨rfl, rfl⟩
  · by_cases hsim : s.mgr.simulation = true
    · rw [if_pos hsim, if_pos hsim, if_pos hsim]
      exact ⟨rfl, rfl⟩
    · rw [if_neg hsim, if_neg hsim, if_neg hsim, hset]
      refine ⟨?_, rfl⟩
      cases hres : halSet sets s.hal st.cfg.gpioPin 0 with
      | mk answer hal =>
        rw [hres] at hset
        cases hset
        rfl

/-- No timer can go off. -/
theorem step_quiet (hno : ∀ st, ¬ Pending s.mgr id st) : s.step (.timer id sets) = none := by
  simp only [step]
  cases hst : s.mgr.channel id with
  | none => rfl
  | some st =>
    dsimp only
    cases ht : st.maxOnTimer with
    | none => rfl
    | some t =>
      cases hfired : t.fired with
      | true => simp [hfired]
      | false => exact absurd ⟨hst, t, ht, hfired⟩ (hno st)

end Succeeds

/-- The simulated manager. Its HAL is never called. -/
def simulated (idle : Gpio) (s : Relays) : Relays := ⟨s.mgr.simulated, idle⟩

/-- The writes of a manager that is ready succeed. -/
theorem Ready.writes (h : s.Ready) {id : String} {st : ChannelState} (hst : s.mgr.channel id = some st)
    {value : ℤ} (hvalue : value = 0 ∨ value = 1) : s.Writes true st value := by
  have hmem := (Manager.channel_eq_some_iff.mp hst).1
  have hset := halSet_output (h.initialized st hmem) (h.wired.range _ (List.mem_map_of_mem hmem))
    (h.wired.outputs _ (List.mem_map_of_mem hmem)) hvalue
  exact .inr (by rw [hset])

/-- **One event**, on a device whose write succeeds and in the simulation. -/
theorem step_simulated (h : s.Ready) (hsets : e.Sets) (idle : Gpio) :
    (s.simulated idle).step e = (s.step e).map (simulated idle) ∧
      (∀ s', s.step e = some s' → (s.simulated idle).reports e = s.reports e) := by
  have hlogged : ∀ sets st value, (s.simulated idle).Writes sets st value := fun _ _ _ => .inl rfl
  cases e with
  | command now payload sets =>
    cases payload with
    | none => exact ⟨rfl, fun _ _ => rfl⟩
    | some req =>
      obtain rfl : sets = true := hsets
      cases hcheck : check s.mgr now req with
      | error resp =>
        have hcheck' : check (s.simulated idle).mgr now req = .error resp := hcheck
        obtain ⟨hstep, hreports⟩ := step_rejected true hcheck
        obtain ⟨hstep', hreports'⟩ := step_rejected true hcheck'
        exact ⟨by rw [hstep, hstep']; rfl, fun _ _ => by rw [hreports, hreports']⟩
      | ok sv =>
        obtain ⟨st, value⟩ := sv
        obtain ⟨hst, hvalue⟩ := check_ok hcheck
        have hcheck' : check (s.simulated idle).mgr now req = .ok (st, value) := hcheck
        obtain ⟨hstep, hreports⟩ := step_executed hcheck (h.writes hst hvalue)
        obtain ⟨hstep', hreports'⟩ := step_executed hcheck' (hlogged true st value)
        exact ⟨by rw [hstep, hstep']; rfl, fun _ _ => by rw [hreports, hreports']; rfl⟩
  | timer id sets =>
    obtain rfl : sets = true := hsets
    by_cases hpending : ∃ st, Pending s.mgr id st
    · obtain ⟨st, hpending⟩ := hpending
      have hpending' : Pending (s.simulated idle).mgr id st := hpending
      obtain ⟨hstep, hreports⟩ := step_expired hpending (h.writes hpending.1 (.inl rfl))
      obtain ⟨hstep', hreports'⟩ := step_expired hpending' (hlogged true st 0)
      exact ⟨by rw [hstep, hstep']; rfl, fun _ _ => by rw [hreports, hreports']⟩
    · have hno : ∀ st, ¬ Pending s.mgr id st := fun st hst => hpending ⟨st, hst⟩
      have hno' : ∀ st, ¬ Pending (s.simulated idle).mgr id st := hno
      rw [step_quiet hno, step_quiet hno']
      exact ⟨rfl, fun _ hs => (nomatch hs)⟩

/-! ### The managers at the start -/

/-- A pin that is got has the initial level. -/
theorem requestOutput_level {grants : ℤ → Bool} {g g' : Gpio} {ch : ActuatorChannel}
    (hpin : 0 ≤ ch.gpioPin ∧ ch.gpioPin ≤ 53)
    (h : requestOutput grants g ch.gpioPin ch.initial = (.ok (), g')) :
    g'.initialized = true ∧ g'.level = Function.update g.level ch.gpioPin ch.initial := by
  have hvalue := initial_cases ch
  unfold requestOutput at h
  rw [cInt_of_le hpin, cInt_of_le (show 0 ≤ ch.initial ∧ ch.initial ≤ 53 by omega)] at h
  have hrc : (g.requestOutput grants ch.gpioPin ch.initial).1 = gwOk := by
    have hwrap : wrap (g.requestOutput grants ch.gpioPin ch.initial).1 = .ok () := congrArg Prod.fst h
    unfold wrap at hwrap
    split_ifs at hwrap with hok
    exact hok
  obtain rfl : (g.requestOutput grants ch.gpioPin ch.initial).2 = g' := congrArg Prod.snd h
  have hnotInit : ¬ gwErrNotInit = gwOk := by decide
  have hinvalid : ¬ gwErrInvalid = gwOk := by decide
  obtain ⟨hlevel, hinit⟩ := @Gpio.request_level grants ch.gpioPin true g
  unfold Gpio.requestOutput at hrc ⊢
  split_ifs at hrc ⊢ with hoff hrange hinitial
  · exact absurd hrc hnotInit
  · exact absurd hrc hinvalid
  · exact absurd hrc hinvalid
  · dsimp only at hrc ⊢
    split_ifs at hrc ⊢ with hok
    · refine ⟨?_, by rw [hlevel]⟩
      rw [hinit]
      simpa using hoff
    · exact absurd hrc hok

/-- The loop of `NewManager` leaves each pin at its initial level. -/
theorem reserve_level {grants : ℤ → Bool} (chs : List ActuatorChannel) {m m' : Manager} {g g' : Gpio}
    (hsim : m.simulation = false) (hpins : ∀ ch ∈ chs, 0 ≤ ch.gpioPin ∧ ch.gpioPin ≤ 53)
    (hnodup : (enabledPins chs).Nodup) (h : Manager.reserve grants m g chs = (.ok m', g')) :
    m'.simulation = false ∧ (g.initialized = true → g'.initialized = true) ∧
      (∀ l ∉ enabledPins chs, g'.level l = g.level l) ∧
      ∀ ch ∈ enabledChannels chs, g'.initialized = true ∧ g'.level ch.gpioPin = ch.initial := by
  induction chs generalizing m g with
  | nil =>
    cases h
    exact ⟨hsim, fun hinit => hinit, fun _ _ => rfl, fun ch hch => (nomatch hch)⟩
  | cons ch chs ih =>
    have hpins' : ∀ c ∈ chs, 0 ≤ c.gpioPin ∧ c.gpioPin ≤ 53 := fun c hc => hpins c (List.mem_cons_of_mem _ hc)
    unfold Manager.reserve at h
    by_cases hen : ch.enabled = false
    · have hskip : enabledChannels (ch :: chs) = enabledChannels chs := by simp [enabledChannels, hen]
      have hskipPins : enabledPins (ch :: chs) = enabledPins chs := by simp [enabledPins, hen]
      rw [if_pos hen] at h
      rw [hskip, hskipPins]
      rw [hskipPins] at hnodup
      exact ih hsim hpins' hnodup h
    · have htrue : ch.enabled = true := by simpa using hen
      have hkeep : enabledChannels (ch :: chs) = ch :: enabledChannels chs := by simp [enabledChannels, htrue]
      have hkeepPins : enabledPins (ch :: chs) = ch.gpioPin :: enabledPins chs := by simp [enabledPins, htrue]
      rw [if_neg hen, if_neg (by simp [hsim])] at h
      rw [hkeep, hkeepPins]
      rw [hkeepPins, List.nodup_cons] at hnodup
      split at h
      · cases h
      · rename_i g₁ hreq
        obtain ⟨hinit₁, hlevel₁⟩ := requestOutput_level (hpins ch List.mem_cons_self) hreq
        obtain ⟨hreal, hinit, hframe, hlevels⟩ :=
          ih (m := m.put (newChannelState ch)) hsim hpins' hnodup.2 h
        refine ⟨hreal, fun _ => hinit hinit₁, fun l hl => ?_, List.forall_mem_cons.mpr ⟨⟨hinit hinit₁, ?_⟩, hlevels⟩⟩
        · obtain ⟨hne, hrest⟩ := not_or.mp (mt List.mem_cons.mpr hl)
          rw [hframe l hrest, hlevel₁, Function.update_of_ne hne]
        · rw [hframe _ hnodup.1, hlevel₁, Function.update_self]

/-- In simulation the loop takes the same channels, and reserves nothing. -/
theorem reserve_simulated {grants grants' : ℤ → Bool} (chs : List ActuatorChannel) {m m' : Manager}
    {g g' idle : Gpio} (hsim : m.simulation = false) (h : Manager.reserve grants m g chs = (.ok m', g')) :
    Manager.reserve grants' m.simulated idle chs = (.ok m'.simulated, idle) := by
  induction chs generalizing m g with
  | nil =>
    cases h
    rfl
  | cons ch chs ih =>
    unfold Manager.reserve at h ⊢
    by_cases hen : ch.enabled = false
    · rw [if_pos hen] at h ⊢
      exact ih hsim h
    · rw [if_neg hen, if_neg (by simp [hsim])] at h
      rw [if_neg hen, Manager.simulated_simulation, if_pos rfl]
      split at h
      · cases h
      · exact ih (m := m.put (newChannelState ch)) hsim h

theorem ready_newManager {c : Config} {grants : ℤ → Bool} {g g' : Gpio} {m : Manager}
    (hvalid : c.validate = .ok ())
    (hnew : newManager grants g (c.actuators.map (·.cfg)) c.gateway.id false = (.ok m, g')) :
    Ready ⟨m, g'⟩ := by
  have hok := Config.validate_eq_ok.mp hvalid
  have hpins : ∀ ch ∈ c.actuators.map (·.cfg), 0 ≤ ch.gpioPin ∧ ch.gpioPin ≤ 53 := by
    intro ch hch
    obtain ⟨a, ha, rfl⟩ := List.mem_map.mp hch
    exact (hok.actuators a ha).gpioPin
  have hids : ((c.actuators.map (·.cfg)).map (·.channelID)).Nodup := by
    rw [List.map_map]
    exact (List.nodup_append'.mp hok.channelIDs).2.1
  obtain ⟨hchannels, -, hnodup, hall⟩ :=
    reserve_eq (m := ⟨[], c.gateway.id, false, List.nodup_nil⟩) _ rfl hpins hids hnew
  obtain ⟨hreal, -, -, hlevels⟩ :=
    reserve_level (m := ⟨[], c.gateway.id, false, List.nodup_nil⟩) _ rfl hpins hnodup hnew
  rw [List.nil_append] at hchannels
  have hentry : ∀ st ∈ m.channels, ∃ ch ∈ enabledChannels (c.actuators.map (·.cfg)), newChannelState ch = st := by
    intro st hst
    rw [hchannels] at hst
    exact List.mem_map.mp hst
  have hcfgs : m.channels.map (·.cfg) = enabledChannels (c.actuators.map (·.cfg)) := by
    rw [hchannels, List.map_map]
    exact List.map_id _
  refine ⟨hreal, ?_, fun st hst => ?_, fun st hst => ?_⟩
  · rw [hcfgs]
    refine ⟨hnodup, fun ch hch => hpins ch (List.mem_of_mem_filter hch), fun ch hch => ?_⟩
    exact (hall _ (List.mem_map_of_mem hch)).2
  · obtain ⟨ch, hch, rfl⟩ := hentry st hst
    exact (hlevels ch hch).1
  · obtain ⟨ch, hch, rfl⟩ := hentry st hst
    exact (hlevels ch hch).2

/-! ### Every run -/

/-- **The simulation is faithful.** Let `NewManager` succeed on the actuators of a configuration that
`Validate` accepts. With the flag it succeeds, too; the two managers go through the same runs and
publish the same, as long as libgpiod does not fail; and the recorded values are the levels of the
pins in every state of every run. -/
theorem simulation_faithful {c : Config} {grants : ℤ → Bool} {g g' : Gpio} {m : Manager}
    (hvalid : c.validate = .ok ())
    (hnew : newManager grants g (c.actuators.map (·.cfg)) c.gateway.id false = (.ok m, g'))
    (grants' : ℤ → Bool) (idle : Gpio) :
    newManager grants' idle (c.actuators.map (·.cfg)) c.gateway.id true = (.ok m.simulated, idle) ∧
      ∀ es, Always step Mirrored ⟨m, g'⟩ es ∧
        ((∀ e ∈ es, e.Sets) →
          run step ⟨m.simulated, idle⟩ es = (run step ⟨m, g'⟩ es).map (simulated idle) ∧
            outputs step reports ⟨m.simulated, idle⟩ es = outputs step reports ⟨m, g'⟩ es) := by
  have hready := ready_newManager hvalid hnew
  have hkeep : ∀ s e s', Ready s → e.Sets → s.step e = some s' → s'.Ready :=
    fun _ _ _ hs _ hstep => ready_step hs hstep
  have hstep : ∀ s e, Ready s → e.Sets → (simulated idle s).step e = (s.step e).map (simulated idle) :=
    fun _ _ hs hsets => (step_simulated hs hsets idle).1
  have hreports : ∀ s e s', Ready s → e.Sets → s.step e = some s' → (simulated idle s).reports e = s.reports e :=
    fun _ _ s' hs hsets hnext => (step_simulated hs hsets idle).2 s' hnext
  refine ⟨?_, fun es => ⟨?_, fun hsets => ⟨?_, ?_⟩⟩⟩
  · exact reserve_simulated (m := ⟨[], c.gateway.id, false, List.nodup_nil⟩) _ rfl hnew
  · exact (always_of_inv (fun _ _ _ => ready_step) hready).imp fun _ hs => hs.mirrored
  · exact run_map hkeep hstep hready hsets
  · exact outputs_map hkeep hstep hreports hready hsets

theorem twoRelays_faithful : ∃ m g', newManager (fun _ => true) freshGpio (twoRelays.actuators.map (·.cfg))
      twoRelays.gateway.id false = (.ok m, g') ∧
    newManager (fun _ => false) Gpio.off (twoRelays.actuators.map (·.cfg)) twoRelays.gateway.id true =
      (.ok m.simulated, Gpio.off) ∧
    ∀ es, Always step Mirrored ⟨m, g'⟩ es ∧
      ((∀ e ∈ es, e.Sets) →
        run step ⟨m.simulated, Gpio.off⟩ es = (run step ⟨m, g'⟩ es).map (simulated Gpio.off) ∧
          outputs step reports ⟨m.simulated, Gpio.off⟩ es = outputs step reports ⟨m, g'⟩ es) := by
  have hpins : ∀ ch ∈ twoRelays.actuators.map (·.cfg), 0 ≤ ch.gpioPin ∧ ch.gpioPin ≤ 53 := by decide
  obtain ⟨m, g', hnew⟩ := (newManager_eq_ok (fun _ => rfl) rfl freshGpio_reserved hpins
    twoRelays.gateway.id).2 ⟨by decide, by decide⟩
  exact ⟨m, g', hnew, simulation_faithful (by decide +kernel) hnew (fun _ => false) Gpio.off⟩

end Relays

end Gateway
