import IotGateway.Gateway.Execute
import IotGateway.Gateway.Startup
import IotGateway.Lts.Run

/-!
# Relays do not disturb each other

The manager that `NewManager` makes from a valid configuration, together with the GPIO library
on which it has reserved its pins: commands arrive one at a time, and max-on timers go off.

* `reserve_eq`: the table has one entry for each enabled actuator, and each has a pin of its
  own, reserved as an output.
* `step_cases`: a command or a timer works on the entry of its channel and on that entry's pin.
* `relays_isolated`: **it never changes the level, the value or the timer of another channel.**
-/

namespace Gateway

open Hal Lts

/-- `hal.GPIOSet` on a library whose `gpiod_line_set_value` succeeds or fails. -/
def halSet (sets : Bool) (g : Gpio) (pin value : ℤ) : Except Err Unit × Gpio :=
  match gpioSet g pin value with
  | (.ok (), g') => if sets then (.ok (), g') else (.error ⟨gwErrIo⟩, g)
  | (.error err, g') => (.error err, g')

/-- The pin write of an effect. -/
def Effect.write (sets : Bool) (g : Gpio) : Effect → Gpio
  | .gpioSet pin value => (halSet sets g pin value).2
  | .simulated _ _ => g
  | .arm _ _ => g

structure Relays where
  mgr : Manager
  hal : Gpio

inductive RelayEvent where
  /-- a payload arrives; `none` is one that is not the JSON of a request -/
  | command (now : ℤ) (payload : Option CommandRequest) (sets : Bool)
  /-- the timer of a channel goes off, and its callback runs -/
  | timer (id : String) (sets : Bool)

/-- The channel that an event is for. -/
def RelayEvent.channel : RelayEvent → Option String
  | .command _ payload _ => payload.map (·.actuatorChannelID)
  | .timer id _ => some id

/-- The automatic switch-off leaves the configuration. -/
theorem ChannelState.fire_autoOff_cfg (st : ChannelState) : st.fire.autoOff.cfg = st.cfg := rfl

namespace Relays

def step (s : Relays) : RelayEvent → Option Relays
  | .command now payload sets =>
    let (_, mgr, fx) := handleCommand s.mgr now (fun pin value => (halSet sets s.hal pin value).1) payload
    some ⟨mgr, fx.foldl (Effect.write sets) s.hal⟩
  | .timer id sets =>
    match s.mgr.channel id with
    | none => none
    | some st =>
      match st.maxOnTimer with
      | none => none
      | some t =>
        if t.fired then none
        else if s.mgr.simulation then
          some { s with mgr := s.mgr.update id (·.fire.autoOff) ChannelState.fire_autoOff_cfg }
        else match halSet sets s.hal st.cfg.gpioPin 0 with
          | (.error _, hal) => some ⟨s.mgr.update id (·.fire) ChannelState.fire_cfg, hal⟩
          | (.ok (), hal) => some ⟨s.mgr.update id (·.fire.autoOff) ChannelState.fire_autoOff_cfg, hal⟩

/-- An event leaves the entries of other channels as they are, and the levels of their pins. -/
def Isolated (s : Relays) (e : RelayEvent) (s' : Relays) : Prop :=
  ∀ st ∈ s.mgr.channels, e.channel ≠ some st.cfg.channelID →
    s'.mgr.channel st.cfg.channelID = some st ∧ s'.hal.level st.cfg.gpioPin = s.hal.level st.cfg.gpioPin

/-- Each entry has a pin of its own, reserved as an output. -/
structure Wired (cfgs : List ActuatorChannel) (g : Gpio) : Prop where
  distinct : (cfgs.map (·.gpioPin)).Nodup
  range : ∀ ch ∈ cfgs, 0 ≤ ch.gpioPin ∧ ch.gpioPin ≤ 53
  outputs : ∀ ch ∈ cfgs, ch.gpioPin ∈ g.outputs

variable {s s' : Relays} {e : RelayEvent}

/-! ### One event -/

/-- A write reaches its own line, if any. -/
theorem halSet_frame (sets : Bool) (g : Gpio) (pin value : ℤ) :
    (halSet sets g pin value).2.outputs = g.outputs ∧
      ∀ l ≠ cInt pin, (halSet sets g pin value).2.level l = g.level l := by
  unfold halSet
  cases h : gpioSet g pin value with
  | mk answer g' =>
    cases answer with
    | error err =>
      rw [gpioSet_error h]
      exact ⟨rfl, fun _ _ => rfl⟩
    | ok u =>
      cases sets with
      | false => exact ⟨rfl, fun _ _ => rfl⟩
      | true =>
        rw [(gpioSet_ok h).2]
        exact ⟨rfl, fun l hl => Function.update_of_ne hl ..⟩

theorem foldl_write (m : Manager) (now : ℤ) (st : ChannelState) (value : ℤ) (sets : Bool) (g : Gpio) :
    (effects m now st value).foldl (Effect.write sets) g =
      if m.simulation then g else (halSet sets g st.cfg.gpioPin value).2 := by
  unfold effects
  cases m.simulation <;> cases (st.locked now value).maxOnTimer <;> rfl

/-- **What an event does**: nothing, or it changes the entry of its channel and at most the level
of that entry's pin. -/
theorem step_cases (h : s.step e = some s') : s' = s ∨
    ∃ id st f, ∃ hf : ∀ st : ChannelState, (f st).cfg = st.cfg,
      e.channel = some id ∧ s.mgr.channel id = some st ∧ s'.mgr = s.mgr.update id f hf ∧
        s'.hal.outputs = s.hal.outputs ∧ ∀ l ≠ cInt st.cfg.gpioPin, s'.hal.level l = s.hal.level l := by
  cases e with
  | command now payload sets =>
    cases payload with
    | none =>
      cases h
      exact .inl rfl
    | some req =>
      simp only [step, handleCommand] at h
      rcases execute_cases s.mgr now (fun pin value => (halSet sets s.hal pin value).1) req with
        ⟨-, resp, hexec, -⟩ | ⟨-, st, value, resp, hcheck, hexec, -⟩
      · rw [hexec] at h
        cases h
        exact .inl rfl
      · rw [hexec] at h
        cases h
        refine .inr ⟨_, st, (·.locked now value), fun _ => rfl, rfl, (check_ok hcheck).1, rfl, ?_⟩
        rw [foldl_write]
        split_ifs
        · exact ⟨rfl, fun _ _ => rfl⟩
        · exact halSet_frame sets s.hal st.cfg.gpioPin value
  | timer id sets =>
    simp only [step] at h
    cases hst : s.mgr.channel id with
    | none => simp [hst] at h
    | some st =>
      cases ht : st.maxOnTimer with
      | none => simp [hst, ht] at h
      | some t =>
        simp only [hst, ht] at h
        have hframe := halSet_frame sets s.hal st.cfg.gpioPin 0
        split_ifs at h
        · cases h
          exact .inr ⟨id, st, (·.fire.autoOff), ChannelState.fire_autoOff_cfg, rfl, hst, rfl, rfl, fun _ _ => rfl⟩
        · split at h
          · rename_i err hal heq
            cases h
            rw [heq] at hframe
            exact .inr ⟨id, st, (·.fire), fun _ => rfl, rfl, hst, rfl, hframe⟩
          · rename_i hal heq
            cases h
            rw [heq] at hframe
            exact .inr ⟨id, st, (·.fire.autoOff), ChannelState.fire_autoOff_cfg, rfl, hst, rfl, hframe⟩

theorem wired_step (h : Wired (s.mgr.channels.map (·.cfg)) s.hal) (hstep : s.step e = some s') :
    Wired (s'.mgr.channels.map (·.cfg)) s'.hal := by
  rcases step_cases hstep with rfl | ⟨id, st, f, hf, -, -, hmgr, hout, -⟩
  · exact h
  · rw [hmgr, Manager.update_cfgs]
    exact ⟨h.distinct, h.range, hout ▸ h.outputs⟩

theorem isolated_step (h : Wired (s.mgr.channels.map (·.cfg)) s.hal) (hstep : s.step e = some s') :
    Isolated s e s' := by
  intro st hst hother
  have hself : s.mgr.channel st.cfg.channelID = some st :=
    Manager.channel_eq_some_iff.mpr ⟨hst, rfl⟩
  rcases step_cases hstep with rfl | ⟨id, st', f, hf, hid, hst', hmgr, -, hlevel⟩
  · exact ⟨hself, rfl⟩
  · rw [hid, ne_eq, Option.some.injEq] at hother
    obtain ⟨hmem', hid'⟩ := Manager.channel_eq_some_iff.mp hst'
    refine ⟨?_, hlevel _ fun hpin => ?_⟩
    · rw [hmgr, Manager.channel_update_ne hf (Ne.symm hother), hself]
    · -- two entries on one pin are the same
      rw [cInt_of_le (h.range _ (List.mem_map_of_mem hmem'))] at hpin
      have hcfg := List.inj_on_of_nodup_map h.distinct (List.mem_map_of_mem hst)
        (List.mem_map_of_mem hmem') hpin
      exact hother (by rw [← hid', hcfg])

/-! ### The table -/

/-- The enabled channels. -/
def enabledChannels (channels : List ActuatorChannel) : List ActuatorChannel :=
  channels.filter (·.enabled)

/-- A pin that is got was not reserved, and is an output now. -/
theorem requestOutput_outputs {grants : ℤ → Bool} {g g' : Gpio} {ch : ActuatorChannel}
    (hpin : 0 ≤ ch.gpioPin ∧ ch.gpioPin ≤ 53)
    (h : requestOutput grants g ch.gpioPin ch.initial = (.ok (), g')) :
    ch.gpioPin ∉ g.reserved ∧ g'.reserved.Perm (ch.gpioPin :: g.reserved) ∧
      g'.outputs.Perm (ch.gpioPin :: g.outputs) := by
  have hvalue := initial_cases ch
  unfold requestOutput at h
  rw [cInt_of_le hpin, cInt_of_le (show 0 ≤ ch.initial ∧ ch.initial ≤ 53 by omega)] at h
  have hrc : (g.requestOutput grants ch.gpioPin ch.initial).1 = gwOk := by
    have hwrap : wrap (g.requestOutput grants ch.gpioPin ch.initial).1 = .ok () := congrArg Prod.fst h
    unfold wrap at hwrap
    split_ifs at hwrap with hok
    exact hok
  obtain rfl : (g.requestOutput grants ch.gpioPin ch.initial).2 = g' := congrArg Prod.snd h
  have hinit : g.initialized = true := by
    by_contra hno
    unfold Gpio.requestOutput at hrc
    rw [if_pos (by simpa using hno)] at hrc
    have hno : ¬ gwErrNotInit = gwOk := by decide
    exact hno hrc
  have hguard : ¬ (ch.initial ≠ 0 ∧ ch.initial ≠ 1) := by omega
  unfold Gpio.requestOutput at hrc ⊢
  rw [if_neg (by simp [hinit]), if_neg (by omega), if_neg hguard] at hrc ⊢
  dsimp only at hrc ⊢
  by_cases hok : (g.request grants ch.gpioPin true).1 = gwOk
  · rw [if_pos hok]
    exact ⟨(Gpio.request_eq_ok.1 hok).2.1, (Gpio.request_reserved hok).1, Gpio.request_outputs hok⟩
  · rw [if_neg hok] at hrc
    exact absurd hrc hok

/-- **The loop of `NewManager`** on channels with ids and pins of their own. -/
theorem reserve_eq {grants : ℤ → Bool} (chs : List ActuatorChannel) {m m' : Manager} {g g' : Gpio}
    (hsim : m.simulation = false) (hpins : ∀ ch ∈ chs, 0 ≤ ch.gpioPin ∧ ch.gpioPin ≤ 53)
    (hids : (m.channels.map (·.cfg.channelID) ++ chs.map (·.channelID)).Nodup)
    (h : Manager.reserve grants m g chs = (.ok m', g')) :
    m'.channels = m.channels ++ (enabledChannels chs).map newChannelState ∧
      (∀ l ∈ g.outputs, l ∈ g'.outputs) ∧
      (enabledPins chs).Nodup ∧ ∀ pin ∈ enabledPins chs, pin ∉ g.reserved ∧ pin ∈ g'.outputs := by
  induction chs generalizing m g with
  | nil =>
    cases h
    exact ⟨(List.append_nil _).symm, fun _ hl => hl, List.nodup_nil, fun _ hpin => (nomatch hpin)⟩
  | cons ch chs ih =>
    have hpins' : ∀ c ∈ chs, 0 ≤ c.gpioPin ∧ c.gpioPin ≤ 53 :=
      fun c hc => hpins c (List.mem_cons_of_mem _ hc)
    unfold Manager.reserve at h
    by_cases hen : ch.enabled = false
    · rw [if_pos hen] at h
      have hskip : enabledChannels (ch :: chs) = enabledChannels chs := by simp [enabledChannels, hen]
      have hskipPins : enabledPins (ch :: chs) = enabledPins chs := by simp [enabledPins, hen]
      rw [hskip, hskipPins]
      exact ih hsim hpins' (hids.sublist ((List.sublist_cons_self _ _).append_left _)) h
    · rw [if_neg hen, if_neg (by simp [hsim])] at h
      have htrue : ch.enabled = true := by simpa using hen
      have hkeep : enabledChannels (ch :: chs) = ch :: enabledChannels chs := by
        simp [enabledChannels, htrue]
      have hkeepPins : enabledPins (ch :: chs) = ch.gpioPin :: enabledPins chs := by
        simp [enabledPins, htrue]
      split at h
      · cases h
      · rename_i g₁ hreq
        obtain ⟨hnew, hres, hout⟩ := requestOutput_outputs (hpins ch List.mem_cons_self) hreq
        -- the id is new, so that nothing is replaced
        have hput : (m.put (newChannelState ch)).channels = m.channels ++ [newChannelState ch] := by
          refine congrArg (· ++ [newChannelState ch]) (List.filter_eq_self.mpr fun st hst => ?_)
          refine decide_eq_true fun hid => ?_
          have hdisj := (List.nodup_append'.mp hids).2.2
          exact hdisj (List.mem_map_of_mem hst) (hid ▸ List.mem_cons_self)
        have hids' : ((m.put (newChannelState ch)).channels.map (·.cfg.channelID) ++
            chs.map (·.channelID)).Nodup := by
          rw [hput, List.map_append, List.append_assoc]
          exact hids
        obtain ⟨hchannels, houts, hnodup, hall⟩ :=
          ih (m := m.put (newChannelState ch)) hsim hpins' hids' h
        rw [hkeep, hkeepPins]
        refine ⟨?_, fun l hl => houts l (hout.mem_iff.mpr (List.mem_cons_of_mem _ hl)), ?_, ?_⟩
        · rw [hchannels, hput, List.append_assoc]
          rfl
        · refine List.nodup_cons.mpr ⟨fun hmem => ?_, hnodup⟩
          exact (hall _ hmem).1 (hres.mem_iff.mpr List.mem_cons_self)
        · refine List.forall_mem_cons.mpr ⟨⟨hnew, houts _ (hout.mem_iff.mpr List.mem_cons_self)⟩,
            fun pin hpin => ?_⟩
          obtain ⟨hfree, hin⟩ := hall pin hpin
          exact ⟨fun hres' => hfree (hres.mem_iff.mpr (List.mem_cons_of_mem _ hres')), hin⟩

/-- **Relay channels are isolated.** Let `NewManager` succeed, outside simulation, on the actuators
of a configuration that `Validate` accepts. Its table has exactly one entry for each enabled one;
the pins are distinct and reserved as outputs, and stay so; and no command and no timer of a
channel changes the pin level, the value or the timer of another. -/
theorem relays_isolated {c : Config} {grants : ℤ → Bool} {g g' : Gpio} {m : Manager}
    (hvalid : c.validate = .ok ())
    (hnew : newManager grants g (c.actuators.map (·.cfg)) c.gateway.id false = (.ok m, g')) :
    m.channels = ((c.actuators.map (·.cfg)).filter (·.enabled)).map newChannelState ∧
      ∀ es, Always step (fun s => Wired (s.mgr.channels.map (·.cfg)) s.hal) ⟨m, g'⟩ es ∧
        Along step Isolated ⟨m, g'⟩ es := by
  have hok := Config.validate_eq_ok.mp hvalid
  have hpins : ∀ ch ∈ c.actuators.map (·.cfg), 0 ≤ ch.gpioPin ∧ ch.gpioPin ≤ 53 := by
    intro ch hch
    obtain ⟨a, ha, rfl⟩ := List.mem_map.mp hch
    exact (hok.actuators a ha).gpioPin
  have hids : ((c.actuators.map (·.cfg)).map (·.channelID)).Nodup := by
    rw [List.map_map]
    exact (List.nodup_append'.mp hok.channelIDs).2.1
  obtain ⟨hchannels, -, hnodup, hall⟩ :=
    reserve_eq (m := ⟨[], c.gateway.id, false, List.nodup_nil⟩) _ rfl hpins hids hnew
  rw [List.nil_append] at hchannels
  have hcfgs : m.channels.map (·.cfg) = enabledChannels (c.actuators.map (·.cfg)) := by
    rw [hchannels, List.map_map]
    exact List.map_id _
  have hwired : Wired (m.channels.map (·.cfg)) g' := by
    rw [hcfgs]
    refine ⟨hnodup, fun ch hch => hpins ch (List.mem_of_mem_filter hch), fun ch hch => ?_⟩
    exact (hall _ (List.mem_map_of_mem hch)).2
  refine ⟨hchannels, fun es => ⟨?_, ?_⟩⟩
  · exact always_of_inv (fun _ _ _ => wired_step) hwired
  · exact along_of_inv (fun _ _ _ => wired_step) (fun _ _ _ => isolated_step) hwired

/-- A second relay in the barn. -/
def twoRelays : Config :=
  { barn 10 with actuators := (barn 10).actuators ++ [⟨"relay-02", "relay", 27, "on", 60, true⟩] }

theorem twoRelays_isolated :
    ∃ m g', newManager (fun _ => true) freshGpio (twoRelays.actuators.map (·.cfg)) twoRelays.gateway.id
        false = (.ok m, g') ∧
      m.channels = ((twoRelays.actuators.map (·.cfg)).filter (·.enabled)).map newChannelState ∧
      ∀ es, Always step (fun s => Wired (s.mgr.channels.map (·.cfg)) s.hal) ⟨m, g'⟩ es ∧
        Along step Isolated ⟨m, g'⟩ es := by
  have hpins : ∀ ch ∈ twoRelays.actuators.map (·.cfg), 0 ≤ ch.gpioPin ∧ ch.gpioPin ≤ 53 := by decide
  obtain ⟨m, g', hnew⟩ := (newManager_eq_ok (fun _ => rfl) rfl freshGpio_reserved hpins
    twoRelays.gateway.id).2 ⟨by decide, by decide⟩
  exact ⟨m, g', hnew, relays_isolated (by decide +kernel) hnew⟩

end Relays

end Gateway
