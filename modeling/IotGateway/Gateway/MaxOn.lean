import IotGateway.Gateway.Plant

/-!
# The maximum ON time when the HAL may fail

One relay channel, default off, with a maximum. Commands and expiries of its timer are
processed one at a time, each pin write succeeding or failing on its own.

`maxOn_guarded_iff`: **the relay is never ON without an armed timer exactly when no
auto-OFF write fails.** A failed auto-OFF is not retried: the callback logs and
returns, and the relay stays ON (`stuck_on_after_failed_auto_off`).
-/

namespace Gateway

open Lts

/-- A fresh relay: the request of the output line has written the default level. -/
def newRelay (cfg : ActuatorChannel) (gatewayID : String) : Plant :=
  ⟨singleManager (newChannelState cfg) gatewayID, fun _ => (newChannelState cfg).currentValue⟩

/-- One step of the relay: a message, or the timer's expiry, with the HAL's answers. -/
inductive Turn where
  | command (now : ℤ) (gpioSet : ℤ → ℤ → Except Hal.Err Unit) (payload : Option CommandRequest)
  | expiry (gpioSet : ℤ → ℤ → Except Hal.Err Unit)

def turn (id : String) (p : Plant) : Turn → Option Plant
  | .command now gpioSet payload => some (p.deliver now gpioSet payload)
  | .expiry gpioSet => p.expire id gpioSet

/-- A relay that is ON has an armed timer. -/
def Guarded (cfg : ActuatorChannel) (p : Plant) : Prop :=
  p.level cfg.gpioPin = 1 → ∃ st, p.mgr.channel cfg.channelID = some st ∧ st.Armed

/-- The pin write of an expiry succeeds. -/
def OffSucceeds (cfg : ActuatorChannel) (_ : Plant) (e : Turn) (_ : Plant) : Prop :=
  match e with
  | .command _ _ _ => True
  | .expiry gpioSet => (gpioSet cfg.gpioPin 0).isOk = true

instance (cfg : ActuatorChannel) (p : Plant) (e : Turn) (p' : Plant) :
    Decidable (OffSucceeds cfg p e p') :=
  match e with
  | .command _ _ _ => isTrue trivial
  | .expiry gpioSet => inferInstanceAs (Decidable ((gpioSet cfg.gpioPin 0).isOk = true))

/-- The plant has the one channel of `cfg`, outside simulation, and a timer is armed
only while the relay is ON. -/
structure OneRelay (cfg : ActuatorChannel) (p : Plant) : Prop where
  real : p.mgr.simulation = false
  single : ∃ st, p.mgr.channels = [st] ∧ st.cfg = cfg ∧ (st.Armed → p.level cfg.gpioPin = 1)

variable {cfg : ActuatorChannel} {p p' : Plant} {m : Manager} {st : ChannelState}

/-- **A message at a relay**: nothing changes, or the pin and the channel take the value. -/
theorem deliver_relay (hp : OneRelay cfg p) (now : ℤ)
    (gpioSet : ℤ → ℤ → Except Hal.Err Unit) (payload : Option CommandRequest) :
    p.deliver now gpioSet payload = p ∨
    ∃ st v, p.mgr.channels = [st] ∧ st.cfg = cfg ∧ (v = 0 ∨ v = 1) ∧
      (p.deliver now gpioSet payload).mgr.channels = [st.locked now v] ∧
      (p.deliver now gpioSet payload).mgr.simulation = false ∧
      (p.deliver now gpioSet payload).level = Function.update p.level cfg.gpioPin v := by
  obtain ⟨st, hst, rfl, -⟩ := hp.single
  cases payload with
  | none => exact Or.inl rfl
  | some req =>
    rcases execute_cases p.mgr now gpioSet req with
      ⟨-, resp, hx, -⟩ | ⟨-, st', v, resp, hc, hx, -⟩
    · left
      simp [Plant.deliver, handleCommand, hx]
    · right
      obtain ⟨rfl, hid, hv⟩ := check_single hst hc
      refine ⟨st', v, hst, rfl, hv, ?_, ?_, ?_⟩
      · simp only [Plant.deliver, handleCommand, hx, hid]
        exact update_single hst _
      · simp only [Plant.deliver, handleCommand, hx]
        exact hp.real
      · simp only [Plant.deliver, handleCommand, hx]
        exact foldl_effects hp.real now st' v p.level

/-- **An expiry at a relay**: the timer was armed and has gone off; the pin is OFF
unless the write failed. -/
theorem expire_relay (hp : OneRelay cfg p) {gpioSet : ℤ → ℤ → Except Hal.Err Unit}
    (h : p.expire cfg.channelID gpioSet = some p') :
    ∃ st, p.mgr.channels = [st] ∧ st.cfg = cfg ∧ st.Armed ∧ p'.mgr.simulation = false ∧
      ((gpioSet cfg.gpioPin 0).isOk = true ∧ p'.mgr.channels = [st.fire.autoOff] ∧
          p'.level = Function.update p.level cfg.gpioPin 0 ∨
        (gpioSet cfg.gpioPin 0).isOk = false ∧ p'.mgr.channels = [st.fire] ∧ p'.level = p.level) := by
  obtain ⟨st, hst, rfl, -⟩ := hp.single
  unfold Plant.expire at h
  rw [channel_single hst, if_pos rfl] at h
  dsimp only at h
  split at h
  · cases h
  rename_i t ht
  rw [hp.real] at h
  split_ifs at h with hfired hfalse
  · cases hfalse
  have harm : st.Armed := ⟨t, ht, by simpa using hfired⟩
  cases hg : gpioSet st.cfg.gpioPin 0 with
  | error err =>
    rw [hg] at h
    cases h
    exact ⟨st, hst, rfl, harm, hp.real, Or.inr ⟨rfl, update_single hst fun st => st.fire_cfg, rfl⟩⟩
  | ok u =>
    rw [hg] at h
    cases h
    exact ⟨st, hst, rfl, harm, hp.real, Or.inl ⟨rfl, update_single hst fun st => st.fire.autoOff_cfg, rfl⟩⟩

theorem newRelay_one (hoff : cfg.defaultState = "off") (gatewayID : String) :
    OneRelay cfg (newRelay cfg gatewayID) ∧ Guarded cfg (newRelay cfg gatewayID) := by
  have h0 : (newChannelState cfg).currentValue = 0 := by simp [newChannelState, hoff]
  refine ⟨⟨rfl, newChannelState cfg, rfl, rfl, ?_⟩, ?_⟩
  · rintro ⟨t, ht, -⟩
    cases ht
  · intro h1
    have : (newChannelState cfg).currentValue = 1 := h1
    omega

theorem turn_one (hp : OneRelay cfg p) {e : Turn} (h : turn cfg.channelID p e = some p') :
    OneRelay cfg p' := by
  cases e with
  | command now gpioSet payload =>
    cases h
    rcases deliver_relay hp now gpioSet payload with hd | ⟨st, v, -, rfl, hv, hch, hsim, hlev⟩
    · rw [hd]; exact hp
    · refine ⟨hsim, st.locked now v, hch, rfl, fun harm => ?_⟩
      rw [hlev, Function.update_self]
      rcases hv with rfl | rfl
      · exact absurd harm (ChannelState.not_armed_locked_off now)
      · rfl
  | expiry gpioSet =>
    obtain ⟨st, -, rfl, -, hsim, ⟨-, hch, -⟩ | ⟨-, hch, -⟩⟩ := expire_relay hp h
    · exact ⟨hsim, st.fire.autoOff, hch, rfl, fun harm => absurd harm ChannelState.not_armed_fire⟩
    · exact ⟨hsim, st.fire, hch, rfl, fun harm => absurd harm ChannelState.not_armed_fire⟩

theorem guarded_single (h : p.mgr.channels = [st]) (hcfg : st.cfg = cfg) :
    Guarded cfg p ↔ (p.level cfg.gpioPin = 1 → st.Armed) := by
  unfold Guarded
  rw [channel_single h, hcfg, if_pos rfl]
  simp

/-- **One step** keeps the relay guarded exactly when it is no failed auto-OFF. -/
theorem turn_guarded (hmax : 0 < cfg.maxOnDurationSec) (hp : OneRelay cfg p) (hq : Guarded cfg p)
    {e : Turn} (h : turn cfg.channelID p e = some p') : Guarded cfg p' ↔ OffSucceeds cfg p e p' := by
  cases e with
  | command now gpioSet payload =>
    cases h
    refine ⟨fun _ => trivial, fun _ => ?_⟩
    rcases deliver_relay hp now gpioSet payload with hd | ⟨st, v, -, rfl, hv, hch, -, hlev⟩
    · rw [hd]; exact hq
    · rw [guarded_single hch (st.locked_cfg now v), hlev]
      intro h1
      have hv1 : v = 1 := by simpa using h1
      rw [hv1]
      exact ChannelState.armed_locked_on now hmax
  | expiry gpioSet =>
    obtain ⟨st, hst, rfl, harm, -, ⟨hok, hch, hlev⟩ | ⟨hok, hch, hlev⟩⟩ := expire_relay hp h
    · refine ⟨fun _ => hok, fun _ => ?_⟩
      rw [guarded_single hch (show st.fire.autoOff.cfg = st.cfg from rfl), hlev]
      intro h1
      simp at h1
    · -- the timer was armed, so the relay is ON, and after the failure nothing is armed
      obtain ⟨st', hst', -, hon⟩ := hp.single
      rw [hst] at hst'
      cases hst'
      rw [guarded_single hch st.fire_cfg, hlev]
      constructor
      · intro hg
        exact absurd (hg (hon harm)) ChannelState.not_armed_fire
      · intro hs
        simp only [OffSucceeds, hok] at hs
        cases hs

/-- **The maximum ON time under HAL failures.** From a fresh relay, default off, with a
maximum, in every state of a run the relay is OFF or its timer armed if and only if the
pin write of every expiry in the run succeeds. -/
theorem maxOn_guarded_iff (cfg : ActuatorChannel) (hoff : cfg.defaultState = "off")
    (hmax : 0 < cfg.maxOnDurationSec) (gatewayID : String) (es : List Turn) :
    Always (turn cfg.channelID) (Guarded cfg) (newRelay cfg gatewayID) es ↔
      Along (turn cfg.channelID) (OffSucceeds cfg) (newRelay cfg gatewayID) es :=
  always_iff_along (fun _ _ _ hp h => turn_one hp h)
    (fun _ _ _ hp hq h => turn_guarded hmax hp hq h)
    (newRelay_one hoff gatewayID).1 (newRelay_one hoff gatewayID).2

/-! A relay on pin 17 with a maximum of 60 s, switched ON; the auto-OFF write fails. -/

def halIo : ℤ → ℤ → Except Hal.Err Unit := fun _ _ => .error ⟨Hal.gwErrIo⟩

/-- After a failed auto-OFF the relay is ON and no timer is armed. -/
theorem stuck_on_after_failed_auto_off :
    ∃ p, run (turn "relay-vent") (newRelay relayVent "GW-1")
        [.command 0 halOk (some ventOn), .expiry halIo] = some p ∧
      p.level 17 = 1 ∧ ¬ Guarded relayVent p := by
  refine ⟨_, rfl, by decide +kernel, fun h => ?_⟩
  obtain ⟨st, hst, t, ht, hf⟩ := h (by decide +kernel)
  cases hst
  cases ht
  cases hf

/-- A run with a successful auto-OFF stays guarded. -/
theorem relayVent_guarded :
    Always (turn "relay-vent") (Guarded relayVent) (newRelay relayVent "GW-1")
      [.command 0 halOk (some ventOn), .expiry halOk] :=
  (maxOn_guarded_iff relayVent rfl (by decide) "GW-1" _).2 (by decide +kernel)

end Gateway
