import IotGateway.Gateway.Reserve

/-!
# What runs on a loaded configuration

`run` passes the numbers of the configuration on to tickers, timers, the HAL and the
kernel's watchdog. `time.NewTicker` panics on a duration that is not positive, and a product
with `time.Second` wraps around.

`safe_iff`: **a loaded configuration runs safely exactly when its numbers of seconds are
from 0 (left out) to 9223372036, its enabled actuators have distinct pins and are at most
32, and the kernel's watchdog is kicked before it expires.** `Validate` checks none of it
(`negative_interval`).
-/

namespace Gateway

open Hal

/-- `time.NewTicker`; `none` is a panic. -/
def newTicker (d : ℤ) : Option ℤ := if 0 < d then some d else none

/-- The interval of `runChannel`. -/
def Config.SensorChannel.interval (s : Config.SensorChannel) : ℤ :=
  let interval := seconds s.pollingIntervalSec
  if interval = 0 then 10 * second else interval

/-- The interval of `health.Agent`, which `run` makes of the seconds. -/
def heartbeatInterval (heartbeatSec : ℤ) : ℤ :=
  let interval := seconds heartbeatSec
  if interval = 0 then 30 * second else interval

/-- The interval of `kernelWDTLoop`. -/
def kickInterval (kickSec : ℤ) : ℤ := seconds (if kickSec < 1 then 5 else kickSec)

/-- The timeout that `WatchdogOpen` sets, in seconds, unless it refuses it. -/
def Config.WatchdogConfig.timeout (w : Config.WatchdogConfig) : Option ℤ :=
  let timeoutSec := cInt w.kernelWDTTimeoutSec
  if w.kernelWDTEnabled = true ∧ 1 ≤ timeoutSec ∧ timeoutSec ≤ 60 then some timeoutSec else none

/-- On every ON command that is executed, the channel's timer is armed for its maximum. -/
def ArmsMaxOn (a : Config.ActuatorChannel) : Prop :=
  0 < a.maxOnDurationSec ∧ ∀ (m : Manager) (st : ChannelState) now gpioSet req,
    m.channel req.actuatorChannelID = some st → st.cfg = a.cfg → actionToValue req.action = .ok 1 →
    (execute m now gpioSet req).1.status = "executed" →
    ((execute m now gpioSet req).2.1.channel req.actuatorChannelID).map (·.maxOnTimer) =
      some (some ⟨now, now + a.maxOnDurationSec * second, false⟩)

/-- The library after `gw_gpio_init`. -/
def freshGpio : Gpio := (Gpio.off.init true).2

/-- The agent's tickers, timers and pins, on a loaded configuration. -/
structure RunsSafely (cfg : Config) : Prop where
  polling : ∀ s ∈ cfg.sensors, s.enabled = true →
    newTicker s.interval = some (s.pollingIntervalSec * second)
  heartbeat : newTicker (heartbeatInterval cfg.gateway.heartbeatSec) = some (cfg.gateway.heartbeatSec * second)
  maxOn : ∀ a ∈ cfg.actuators, a.enabled = true → ArmsMaxOn a
  manager : ∃ m g, newManager (fun _ => true) freshGpio (cfg.actuators.map (·.cfg)) cfg.gateway.id
    cfg.simulation.enabled = (.ok m, g)
  watchdog : ∀ timeoutSec ∈ cfg.watchdog.timeout, ∃ kick,
    newTicker (kickInterval cfg.watchdog.kernelWDTKickSec) = some kick ∧ kick < timeoutSec * second

/-- A number of seconds that is left out, or whose duration fits. -/
def InRange (n : ℤ) : Prop := 0 ≤ n ∧ n ≤ 9223372036

/-- The seconds between two kicks, and the watchdog's timeout, as `run` takes them from the
file: the kicks come in time, also when their interval has wrapped around to one that does. -/
def KicksInTime (w : Config.WatchdogConfig) : Prop :=
  let timeoutSec := cInt (Config.orDefault w.kernelWDTTimeoutSec 15)
  let kickSec := if w.kernelWDTKickSec < 1 then 5 else w.kernelWDTKickSec
  w.kernelWDTEnabled = true → 1 ≤ timeoutSec → timeoutSec ≤ 60 →
    kickSec < timeoutSec ∨
      (9223372036 < kickSec ∧ 0 < seconds kickSec ∧ seconds kickSec < timeoutSec * second)

/-- What the numbers in the file have to be. -/
structure Bounded (raw : Config) : Prop where
  polling : ∀ s ∈ raw.sensors, s.enabled = true → InRange s.pollingIntervalSec
  heartbeat : InRange raw.gateway.heartbeatSec
  maxOn : ∀ a ∈ raw.actuators, a.enabled = true → InRange a.maxOnDurationSec
  pins : ((raw.actuators.filter (·.enabled)).map (·.gpioPin)).Nodup
  slots : (raw.actuators.filter (·.enabled)).length ≤ maxGpioLines
  kicks : KicksInTime raw.watchdog

/-! ## Durations -/

theorem seconds_eq {n : ℤ} (h : 1 ≤ n ∧ n ≤ 9223372036) : seconds n = n * second := by
  unfold seconds wrap64 second
  rw [Int.bmod_def]
  omega

theorem seconds_lt (n : ℤ) : seconds n < 9223372036854775808 := by
  unfold seconds wrap64
  rw [Int.bmod_def]
  omega

/-- A ticker's interval, with a default for 0, is the number of seconds if and only if that
is positive and fits. -/
theorem newTicker_eq_iff {n c : ℤ} (hc : 1 ≤ c ∧ c ≤ 9223372036) :
    newTicker (if seconds n = 0 then c * second else seconds n) = some (n * second) ↔
      1 ≤ n ∧ n ≤ 9223372036 := by
  have hlt := seconds_lt n
  constructor
  · intro h
    by_cases hzero : seconds n = 0
    · rw [if_pos hzero] at h
      unfold newTicker at h
      split_ifs at h with hpos
      have hn : c * second = n * second := Option.some.inj h
      unfold second at hn
      omega
    · rw [if_neg hzero] at h
      unfold newTicker at h
      split_ifs at h with hpos
      have hn : seconds n = n * second := Option.some.inj h
      rw [hn] at hlt hpos
      unfold second at hlt hpos
      omega
  · intro h
    have hpos : 0 < n * second := Int.mul_pos (by omega) (by decide)
    rw [seconds_eq h, if_neg hpos.ne']
    exact if_pos hpos

theorem inRange_iff {n d : ℤ} (hd : 1 ≤ d ∧ d ≤ 9223372036) :
    InRange n ↔ 1 ≤ Config.orDefault n d ∧ Config.orDefault n d ≤ 9223372036 := by
  unfold InRange Config.orDefault
  split_ifs <;> omega

/-! ## Timers -/

variable {m : Manager} {st : ChannelState} {now : ℤ} {gpioSet : ℤ → ℤ → Except Err Unit} {req : CommandRequest}
  {value : ℤ}

/-- An executed request leaves its channel as the locked section has it. -/
theorem channel_executed (hchannel : m.channel req.actuatorChannelID = some st)
    (haction : actionToValue req.action = .ok value)
    (hexec : (execute m now gpioSet req).1.status = "executed") :
    (execute m now gpioSet req).2.1.channel req.actuatorChannelID = some (st.locked now value) := by
  rcases execute_cases m now gpioSet req with ⟨-, resp, heq, hst⟩ | ⟨-, st', value', resp, hcheck, heq, -⟩
  · rw [heq] at hexec
    rcases hst with hst | hst
    · exact absurd (hst.symm.trans hexec) (by decide)
    · exact absurd (hst.symm.trans hexec) (by decide)
  · have hvalue : value' = value := Except.ok.inj ((check_eq_ok hcheck).2.symm.trans haction)
    rw [heq, hvalue]
    exact Manager.channel_update_self (f := (·.locked now value)) (fun _ => rfl) hchannel

/-- What an ON command arms. -/
theorem locked_on (h : 0 < st.cfg.maxOnDurationSec) :
    (st.locked now 1).maxOnTimer = some ⟨now, now + max (seconds st.cfg.maxOnDurationSec) 0, false⟩ :=
  if_pos ⟨rfl, h⟩

/-- A request that finds nothing to object to. -/
def onRequest (channelID : String) : CommandRequest := ⟨"on", "", channelID, "ON", "", false⟩

theorem onRequest_executed (st : ChannelState) :
    (execute (singleManager st "") 0 (fun _ _ => .ok ()) (onRequest st.cfg.channelID)).1.status = "executed" := by
  have hchannel : (singleManager st "").channel st.cfg.channelID = some st := by
    rw [channel_single rfl]
    exact if_pos rfl
  have hcheck : check (singleManager st "") 0 (onRequest st.cfg.channelID) = .ok (st, 1) := by
    simp [check, onRequest, checkExpires, hchannel, actionToValue]
  simp only [execute, hcheck]
  rfl

theorem armsMaxOn_iff (a : Config.ActuatorChannel) :
    ArmsMaxOn a ↔ 1 ≤ a.maxOnDurationSec ∧ a.maxOnDurationSec ≤ 9223372036 := by
  constructor
  · rintro ⟨hpos, harms⟩
    have hcfg : 0 < (⟨a.cfg, 0, none⟩ : ChannelState).cfg.maxOnDurationSec := hpos
    have hchannel : (singleManager ⟨a.cfg, 0, none⟩ "").channel (onRequest a.cfg.channelID).actuatorChannelID =
        some ⟨a.cfg, 0, none⟩ := by
      rw [channel_single rfl]
      exact if_pos rfl
    have hexec := onRequest_executed ⟨a.cfg, 0, none⟩
    have h := harms _ _ 0 _ _ hchannel rfl rfl hexec
    rw [channel_executed hchannel rfl hexec, Option.map_some, locked_on hcfg] at h
    -- the timer that is armed has the wrapped duration, and that is the configured one
    have hdue : 0 + max (seconds a.maxOnDurationSec) 0 = 0 + a.maxOnDurationSec * second :=
      congrArg Timer.due (Option.some.inj (Option.some.inj h))
    have hlt := seconds_lt a.maxOnDurationSec
    unfold second at hdue
    omega
  · intro h
    refine ⟨by omega, fun m st now gpioSet req hchannel hcfg haction hexec => ?_⟩
    have hpos : 0 < st.cfg.maxOnDurationSec := by
      rw [hcfg]
      exact (show 0 < a.maxOnDurationSec by omega)
    have hmax : st.cfg.maxOnDurationSec = a.maxOnDurationSec := by rw [hcfg]; rfl
    have hdur : max (seconds a.maxOnDurationSec) 0 = a.maxOnDurationSec * second := by
      rw [seconds_eq h]
      exact max_eq_left (Int.mul_nonneg (by omega) (by decide))
    rw [channel_executed hchannel haction hexec, Option.map_some, locked_on hpos, hmax, hdur]

/-! ## The watchdog -/

theorem kicksInTime_iff (w : Config.WatchdogConfig) :
    KicksInTime w ↔ ∀ timeoutSec ∈ ({ w with
        kernelWDTTimeoutSec := Config.orDefault w.kernelWDTTimeoutSec 15
        kernelWDTKickSec := Config.orDefault w.kernelWDTKickSec 5 } : Config.WatchdogConfig).timeout,
      ∃ kick, newTicker (kickInterval (Config.orDefault w.kernelWDTKickSec 5)) = some kick ∧
        kick < timeoutSec * second := by
  have hkick : kickInterval (Config.orDefault w.kernelWDTKickSec 5) =
      seconds (if w.kernelWDTKickSec < 1 then 5 else w.kernelWDTKickSec) := by
    unfold kickInterval Config.orDefault
    congr 1
    split_ifs <;> omega
  rw [hkick]
  unfold KicksInTime Config.WatchdogConfig.timeout
  dsimp only
  set timeoutSec := cInt (Config.orDefault w.kernelWDTTimeoutSec 15)
  set kickSec := if w.kernelWDTKickSec < 1 then 5 else w.kernelWDTKickSec with hdef
  have hpos : 1 ≤ kickSec := by
    rw [hdef]
    split_ifs <;> omega
  -- an interval that is not cut is in time exactly when its seconds are
  have hticker : ∀ τ, 1 ≤ τ → τ ≤ 60 →
      ((∃ kick, newTicker (seconds kickSec) = some kick ∧ kick < τ * second) ↔ kickSec < τ ∨
        (9223372036 < kickSec ∧ 0 < seconds kickSec ∧ seconds kickSec < τ * second)) := by
    intro τ h1 h60
    have hnew : (∃ kick, newTicker (seconds kickSec) = some kick ∧ kick < τ * second) ↔
        0 < seconds kickSec ∧ seconds kickSec < τ * second := by
      unfold newTicker
      by_cases h : 0 < seconds kickSec
      · simp [h]
      · simp [h]
    rw [hnew]
    by_cases hfit : kickSec ≤ 9223372036
    · rw [seconds_eq ⟨hpos, hfit⟩]
      unfold second
      omega
    · omega
  constructor
  · intro h τ hτ
    split_ifs at hτ with hopen
    · cases hτ
      exact (hticker _ hopen.2.1 hopen.2.2).2 (h hopen.1 hopen.2.1 hopen.2.2)
    · cases hτ
  · intro h hen h1 h60
    refine (hticker _ h1 h60).1 (h timeoutSec ?_)
    rw [if_pos ⟨hen, h1, h60⟩]
    rfl

/-! ## A loaded configuration -/

theorem freshGpio_reserved : freshGpio.reserved = [] := by
  simp [freshGpio, Gpio.init, Gpio.off, Gpio.reserved, PinSlot.free]

theorem enabledPins_applyDefaults (actuators : List Config.ActuatorChannel) :
    enabledPins ((actuators.map Config.ActuatorChannel.applyDefaults).map (·.cfg)) =
      (actuators.filter (·.enabled)).map (·.gpioPin) := by
  unfold enabledPins
  simp only [List.map_map, List.filter_map]
  rfl

/-- **Safe exactly on bounded numbers.** A configuration that `Load` has accepted, outside
simulation, runs safely if and only if the numbers of its file are bounded. -/
theorem safe_iff {raw cfg : Config} (hload : Config.load raw = .ok cfg)
    (hsim : raw.simulation.enabled = false) : RunsSafely cfg ↔ Bounded raw := by
  obtain ⟨hvalid, rfl⟩ := Config.load_eq_ok.1 hload
  -- the parts, each on its own
  have hpolling : (∀ s ∈ raw.applyDefaults.sensors, s.enabled = true →
      newTicker s.interval = some (s.pollingIntervalSec * second)) ↔
      ∀ s ∈ raw.sensors, s.enabled = true → InRange s.pollingIntervalSec := by
    rw [Config.applyDefaults, List.forall_mem_map]
    refine forall₂_congr fun s _ => imp_congr Iff.rfl ?_
    exact (newTicker_eq_iff (by decide)).trans (inRange_iff (by decide)).symm
  have hheartbeat : newTicker (heartbeatInterval raw.applyDefaults.gateway.heartbeatSec) =
      some (raw.applyDefaults.gateway.heartbeatSec * second) ↔ InRange raw.gateway.heartbeatSec :=
    (newTicker_eq_iff (by decide)).trans (inRange_iff (by decide)).symm
  have hmaxOn : (∀ a ∈ raw.applyDefaults.actuators, a.enabled = true → ArmsMaxOn a) ↔
      ∀ a ∈ raw.actuators, a.enabled = true → InRange a.maxOnDurationSec := by
    rw [Config.applyDefaults, List.forall_mem_map]
    refine forall₂_congr fun a _ => imp_congr Iff.rfl ?_
    exact (armsMaxOn_iff _).trans (inRange_iff (by decide)).symm
  have hmanager : (∃ m g, newManager (fun _ => true) freshGpio (raw.applyDefaults.actuators.map (·.cfg))
      raw.applyDefaults.gateway.id raw.applyDefaults.simulation.enabled = (.ok m, g)) ↔
      ((raw.actuators.filter (·.enabled)).map (·.gpioPin)).Nodup ∧
        (raw.actuators.filter (·.enabled)).length ≤ maxGpioLines := by
    have hpins : ∀ ch ∈ raw.applyDefaults.actuators.map (·.cfg), 0 ≤ ch.gpioPin ∧ ch.gpioPin ≤ 53 := by
      intro ch hch
      obtain ⟨a, ha, rfl⟩ := List.mem_map.1 hch
      exact ((Config.applyDefaults_valid hvalid).actuators a ha).gpioPin
    have hoff : raw.applyDefaults.simulation.enabled = false := by
      simp only [Config.applyDefaults, Config.SimulationConfig.applyDefaults, hsim]
      exact hsim
    rw [hoff, newManager_eq_ok (fun _ => rfl) rfl freshGpio_reserved hpins]
    rw [Config.applyDefaults, enabledPins_applyDefaults, List.length_map]
  constructor
  · rintro ⟨h1, h2, h3, h4, h5⟩
    obtain ⟨hpins, hslots⟩ := hmanager.1 h4
    exact ⟨hpolling.1 h1, hheartbeat.1 h2, hmaxOn.1 h3, hpins, hslots, (kicksInTime_iff _).2 h5⟩
  · rintro ⟨h1, h2, h3, hpins, hslots, h5⟩
    exact ⟨hpolling.2 h1, hheartbeat.2 h2, hmaxOn.2 h3, hmanager.2 ⟨hpins, hslots⟩, (kicksInTime_iff _).1 h5⟩

/-! A gateway with one sensor, polled every `pollingIntervalSec` seconds, and one relay. -/

def barn (pollingIntervalSec : ℤ) : Config where
  gateway := ⟨"GW-TEST01", 30, 0⟩
  mqtt := ⟨"tcp://127.0.0.1:1883", 0, 0, 1⟩
  storage := ⟨"/tmp/test.db", 0, 0, 0⟩
  watchdog := ⟨0, true, 0, 0⟩
  sensors := [⟨"sensor-01", "shared/examples/nh3_rs485.json", "/dev/ttyUSB0", 9600, "N", 8, 1, 1,
    pollingIntervalSec, true⟩]
  actuators := [⟨"relay-01", "relay", 17, "off", 300, true⟩]
  simulation := ⟨false, "", 0⟩

/-- Ten seconds, and the defaults, are safe. -/
theorem barn_safe : Config.load (barn 10) = .ok (barn 10).applyDefaults ∧ RunsSafely (barn 10).applyDefaults := by
  have hload : Config.load (barn 10) = .ok (barn 10).applyDefaults := by decide +kernel
  refine ⟨hload, (safe_iff hload rfl).2 ⟨?_, ?_, ?_, ?_, ?_, ?_⟩⟩
  · simp [barn, InRange]
  · simp [barn, InRange]
  · simp [barn, InRange]
  · decide
  · decide
  · intro _ _ _
    left
    decide

/-- **A negative interval is loaded**, and `runChannel` panics. -/
theorem negative_interval : Config.load (barn (-1)) = .ok (barn (-1)).applyDefaults ∧
    (∀ s ∈ (barn (-1)).applyDefaults.sensors, newTicker s.interval = none) ∧
    ¬ RunsSafely (barn (-1)).applyDefaults := by
  have hpanic : ∀ s ∈ (barn (-1)).applyDefaults.sensors, newTicker s.interval = none := by decide +kernel
  refine ⟨by decide +kernel, hpanic, fun hsafe => ?_⟩
  have hsome := hsafe.polling _ List.mem_cons_self rfl
  rw [hpanic _ List.mem_cons_self] at hsome
  cases hsome

end Gateway
