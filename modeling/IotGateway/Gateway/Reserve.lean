import IotGateway.Gateway.Plant
import IotGateway.Gateway.Config
import IotGateway.Hal.Gpio

/-!
# The relays' channels

`actuator.NewManager`: outside simulation it reserves the pin of each enabled actuator, and
gives up at the first that is refused.

`newManager_eq_ok`: **on a library that grants every line, it succeeds exactly when the
pins are distinct, none of them is reserved, and there are slots for all.**
-/

namespace Gateway

open Hal

/-- The fields that the manager reads. -/
def Config.ActuatorChannel.cfg (a : Config.ActuatorChannel) : Gateway.ActuatorChannel :=
  ⟨a.channelID, a.gpioPin, a.defaultState, a.maxOnDurationSec, a.enabled⟩

def ActuatorChannel.initial (ch : ActuatorChannel) : ℤ := if ch.defaultState = "on" then 1 else 0

/-- A pin that `NewManager` did not get. -/
structure ReserveError where
  channelID : String
  gpioPin : ℤ
  err : Err
deriving DecidableEq, Repr

def ReserveError.error (e : ReserveError) : String :=
  "actuator " ++ e.channelID ++ " gpio " ++ toString e.gpioPin ++ ": " ++ e.err.error

namespace Manager

theorem keys_put {channels : List ChannelState} {st : ChannelState}
    (h : (channels.map (·.cfg.channelID)).Nodup) :
    ((channels.filter (·.cfg.channelID ≠ st.cfg.channelID) ++ [st]).map (·.cfg.channelID)).Nodup := by
  rw [List.map_append, List.nodup_append']
  refine ⟨h.sublist (List.filter_sublist.map _), List.nodup_singleton _, ?_⟩
  intro id hid hst
  obtain ⟨st', hst', rfl⟩ := List.mem_map.1 hid
  have hne := of_decide_eq_true (List.mem_filter.1 hst').2
  rw [List.map_singleton, List.mem_singleton] at hst
  exact hne hst

/-- `m.channels[id] = st` -/
def put (m : Manager) (st : ChannelState) : Manager :=
  { m with
    channels := m.channels.filter (·.cfg.channelID ≠ st.cfg.channelID) ++ [st]
    keys := keys_put m.keys }

/-- The loop of `NewManager` over the channels. -/
def reserve (grants : ℤ → Bool) : Manager → Gpio → List ActuatorChannel → Except ReserveError Manager × Gpio
  | m, g, [] => (.ok m, g)
  | m, g, ch :: chs =>
    if ch.enabled = false then reserve grants m g chs
    else if m.simulation then reserve grants (m.put (newChannelState ch)) g chs
    else match requestOutput grants g ch.gpioPin ch.initial with
      | (.error err, g') => (.error ⟨ch.channelID, ch.gpioPin, err⟩, g')
      | (.ok (), g') => reserve grants (m.put (newChannelState ch)) g' chs

end Manager

/-- `NewManager` -/
def newManager (grants : ℤ → Bool) (g : Gpio) (channels : List ActuatorChannel) (gatewayID : String)
    (simulation : Bool) : Except ReserveError Manager × Gpio :=
  Manager.reserve grants ⟨[], gatewayID, simulation, List.nodup_nil⟩ g channels

/-- The pins of the enabled channels. -/
def enabledPins (channels : List ActuatorChannel) : List ℤ := (channels.filter (·.enabled)).map (·.gpioPin)

variable {grants : ℤ → Bool} {m : Manager} {g : Gpio} {channels : List ActuatorChannel}

theorem initial_cases (ch : ActuatorChannel) : ch.initial = 0 ∨ ch.initial = 1 := by
  unfold ActuatorChannel.initial
  split_ifs
  · exact Or.inr rfl
  · exact Or.inl rfl

/-- A valid pin and its value go to the C library as they are. -/
theorem cInt_of_le {n : ℤ} (h : 0 ≤ n ∧ n ≤ 53) : cInt n = n := by
  unfold cInt
  rw [Int.bmod_def]
  omega

/-- One reservation. -/
theorem requestOutput_ok {ch : ActuatorChannel} (hgrants : ∀ l, grants l = true) (hinit : g.initialized = true)
    (hpin : 0 ≤ ch.gpioPin ∧ ch.gpioPin ≤ 53) :
    (ch.gpioPin ∉ g.reserved ∧ g.reserved.length < maxGpioLines ∧
      ∃ g', requestOutput grants g ch.gpioPin ch.initial = (.ok (), g') ∧ g'.initialized = true ∧
        g'.reserved.Perm (ch.gpioPin :: g.reserved)) ∨
    (¬ (ch.gpioPin ∉ g.reserved ∧ g.reserved.length < maxGpioLines) ∧
      ∃ err g', requestOutput grants g ch.gpioPin ch.initial = (.error err, g')) := by
  have hvalue := initial_cases ch
  obtain ⟨hiff, hperm⟩ := @Gpio.requestOutput_eq_ok g ch.gpioPin ch.initial grants hinit hpin hvalue
  unfold requestOutput
  rw [cInt_of_le hpin, cInt_of_le (show 0 ≤ ch.initial ∧ ch.initial ≤ 53 by omega)]
  dsimp only
  by_cases hok : (g.requestOutput grants ch.gpioPin ch.initial).1 = gwOk
  · obtain ⟨-, hnew, hroom⟩ := hiff.1 hok
    obtain ⟨hp, hi⟩ := hperm hok
    exact Or.inl ⟨hnew, hroom, _, Prod.ext (if_pos hok) rfl, hi, hp⟩
  · exact Or.inr ⟨fun h => hok (hiff.2 ⟨hgrants _, h⟩), _, _, Prod.ext (if_neg hok) rfl⟩

theorem reserve_eq_ok (hgrants : ∀ l, grants l = true) (channels : List ActuatorChannel) :
    ∀ (m : Manager) (g : Gpio), m.simulation = false → g.initialized = true →
      (∀ ch ∈ channels, 0 ≤ ch.gpioPin ∧ ch.gpioPin ≤ 53) →
      ((∃ m' g', Manager.reserve grants m g channels = (.ok m', g')) ↔
        (enabledPins channels ++ g.reserved).Nodup ∧
          (enabledPins channels ++ g.reserved).length ≤ maxGpioLines) := by
  induction channels with
  | nil =>
    intro m g _ _ _
    refine iff_of_true ⟨m, g, rfl⟩ ⟨g.distinct, ?_⟩
    rw [← g.size]
    exact List.length_filterMap_le ..
  | cons ch chs ih =>
    intro m g hsim hinit hpins
    have hpins' : ∀ c ∈ chs, 0 ≤ c.gpioPin ∧ c.gpioPin ≤ 53 := fun c hc => hpins c (List.mem_cons_of_mem _ hc)
    unfold Manager.reserve
    by_cases hen : ch.enabled = true
    · rw [if_neg (by simp [hen]), if_neg (by simp [hsim])]
      have hpinsCons : enabledPins (ch :: chs) = ch.gpioPin :: enabledPins chs := by
        simp [enabledPins, hen]
      rw [hpinsCons]
      -- the pin moves from the channels that are left to the reserved lines
      have hmove : (ch.gpioPin :: enabledPins chs ++ g.reserved).Perm
          (enabledPins chs ++ ch.gpioPin :: g.reserved) := List.perm_middle.symm
      rcases requestOutput_ok hgrants hinit (hpins ch List.mem_cons_self) with
        ⟨-, -, g', heq, hinit', hperm⟩ | ⟨hno, err, g', heq⟩
      · rw [heq]
        have hall := hmove.trans (hperm.symm.append_left (enabledPins chs))
        rw [hall.nodup_iff, hall.length_eq]
        exact ih _ g' hsim hinit' hpins'
      · rw [heq]
        refine iff_of_false (by simp) fun h => hno ⟨?_, ?_⟩
        · have hnodup := hmove.nodup_iff.1 h.1
          exact (List.nodup_cons.1 (List.nodup_append'.1 hnodup).2.1).1
        · have hlen := hmove.length_eq ▸ h.2
          rw [List.length_append, List.length_cons] at hlen
          omega
    · rw [if_pos (by simpa using hen)]
      have hskip : enabledPins (ch :: chs) = enabledPins chs := by
        simp [enabledPins, hen]
      rw [hskip]
      exact ih m g hsim hinit hpins'

/-- **`NewManager`** on a library with no line reserved. -/
theorem newManager_eq_ok (hgrants : ∀ l, grants l = true) (hinit : g.initialized = true) (hnone : g.reserved = [])
    (hpins : ∀ ch ∈ channels, 0 ≤ ch.gpioPin ∧ ch.gpioPin ≤ 53) (gatewayID : String) :
    (∃ m g', newManager grants g channels gatewayID false = (.ok m, g')) ↔
      (enabledPins channels).Nodup ∧ (enabledPins channels).length ≤ maxGpioLines := by
  have h := reserve_eq_ok hgrants channels ⟨[], gatewayID, false, List.nodup_nil⟩ g rfl hinit hpins
  rwa [hnone, List.append_nil] at h

end Gateway
