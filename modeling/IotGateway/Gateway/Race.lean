import IotGateway.Gateway.Plant

/-!
# Command handlers and max-on callbacks, interleaved

One channel, whose `handleCommand` executions and timer callbacks run in goroutines of
their own. Each first writes the pin, outside the mutex, and then updates the channel
under it; any number of them may be between the two steps. HAL calls do not fail.

`settled_iff`: **the channel agrees with its pin at rest exactly when every goroutine
that finishes last finds on the pin the level it wrote itself.** Two commands that write
in one order and update in the other leave a relay ON, recorded as OFF, with no timer
(`relay_on_without_timer`).
-/

namespace Gateway

open Lts

/-- A goroutine of the channel, after the guards of `execute` or after its timer went off. -/
inductive TaskKind where
  | command (value : ℤ)
  | autoOff
deriving DecidableEq, Repr

/-- The level a goroutine writes. -/
def TaskKind.value : TaskKind → ℤ
  | .command value => value
  | .autoOff => 0

/-- A goroutine in progress: has it written the pin? -/
structure Task where
  kind : TaskKind
  wrote : Bool
deriving DecidableEq, Repr

structure Race where
  st : ChannelState
  level : ℤ
  now : ℤ
  tasks : List Task

inductive RaceEvent where
  /-- a message arrives and its handler passes the guards, or returns -/
  | command (req : CommandRequest)
  /-- goroutine `i` calls `hal.GPIOSet` -/
  | gpioSet (i : ℕ)
  /-- goroutine `i` enters and leaves the mutex -/
  | locked (i : ℕ)
  /-- the armed timer goes off and starts its callback -/
  | fire
  | tick (d : ℕ)

namespace Race

/-- The timer lets `d` nanoseconds pass: it goes off when it is due. -/
def allows (st : ChannelState) (now : ℤ) (d : ℕ) : Bool :=
  match st.maxOnTimer with
  | some t => t.fired || now + d ≤ t.due
  | none => true

def step (gatewayID : String) (s : Race) : RaceEvent → Option Race
  | .command req =>
    match check (singleManager s.st gatewayID) s.now req with
    | .error _ => some s
    | .ok (_, value) => some { s with tasks := s.tasks ++ [⟨.command value, false⟩] }
  | .gpioSet i =>
    match s.tasks[i]? with
    | some ⟨kind, false⟩ => some { s with level := kind.value, tasks := s.tasks.set i ⟨kind, true⟩ }
    | _ => none
  | .locked i =>
    match s.tasks[i]? with
    | some ⟨.command value, true⟩ =>
      some { s with st := s.st.locked s.now value, tasks := s.tasks.eraseIdx i }
    | some ⟨.autoOff, true⟩ => some { s with st := s.st.autoOff, tasks := s.tasks.eraseIdx i }
    | _ => none
  | .fire =>
    match s.st.maxOnTimer with
    | some t =>
      if t.fired = false ∧ t.due ≤ s.now then
        some { s with st := s.st.fire, tasks := s.tasks ++ [⟨.autoOff, false⟩] }
      else none
    | none => none
  | .tick d => if allows s.st s.now d then some { s with now := s.now + d } else none

/-- A fresh channel, default off. -/
def init (cfg : ActuatorChannel) (now : ℤ) : Race :=
  ⟨newChannelState cfg, (newChannelState cfg).currentValue, now, []⟩

/-- The channel agrees with its pin, and an ON channel has an armed timer that goes off
at most the maximum after it was armed. -/
structure Consistent (s : Race) : Prop where
  value : s.level = s.st.currentValue
  guarded : s.level = 1 → ∃ t, s.st.maxOnTimer = some t ∧ t.fired = false ∧ s.now ≤ t.due ∧
    t.due ≤ t.armedAt + s.st.cfg.maxOnDurationSec * second

/-- At rest the channel is consistent. -/
def Settled (s : Race) : Prop := s.tasks = [] → Consistent s

/-- A goroutine that finishes last finds the level it wrote on the pin. -/
def FindsOwnLevel (s : Race) (e : RaceEvent) (_ : Race) : Prop :=
  match e with
  | .locked _ => ∀ t ∈ s.tasks, s.tasks = [t] → s.level = t.kind.value
  | _ => True

instance (s : Race) (e : RaceEvent) (s' : Race) : Decidable (FindsOwnLevel s e s') :=
  match e with
  | .locked _ => inferInstanceAs (Decidable (∀ t ∈ s.tasks, s.tasks = [t] → s.level = t.kind.value))
  | .command _ | .gpioSet _ | .fire | .tick _ => isTrue trivial

/-- The timer is never overdue and was armed for at most the maximum. -/
structure TimerOK (cfg : ActuatorChannel) (s : Race) : Prop where
  cfg_eq : s.st.cfg = cfg
  timer : ∀ t, s.st.maxOnTimer = some t → t.fired = false →
    s.now ≤ t.due ∧ t.due ≤ t.armedAt + cfg.maxOnDurationSec * second

variable {cfg : ActuatorChannel} {gatewayID : String} {s s' : Race}

/-- The timer an ON command arms. -/
theorem locked_timer (st : ChannelState) (now : ℤ) (value : ℤ) {t : Timer}
    (ht : (st.locked now value).maxOnTimer = some t) :
    now ≤ t.due ∧ t.due ≤ t.armedAt + st.cfg.maxOnDurationSec * second := by
  unfold ChannelState.locked at ht
  dsimp only at ht
  split_ifs at ht with hon
  cases ht
  -- a duration that overflows is shorter, and a negative one goes off at once
  have hle : seconds st.cfg.maxOnDurationSec ≤ st.cfg.maxOnDurationSec * second :=
    seconds_le hon.2.le
  have h0 : 0 ≤ st.cfg.maxOnDurationSec * second := Int.mul_nonneg hon.2.le (by decide)
  unfold afterFunc
  dsimp only
  omega

/-- What the mutex section of a goroutine does. -/
theorem step_locked {i : ℕ} (h : step gatewayID s (.locked i) = some s') :
    ∃ t, s.tasks[i]? = some t ∧ s'.tasks = s.tasks.eraseIdx i ∧ s'.level = s.level ∧
      s'.now = s.now ∧ (t.kind = .autoOff ∧ s'.st = s.st.autoOff ∨
        ∃ value, t.kind = .command value ∧ s'.st = s.st.locked s.now value) := by
  simp only [step] at h
  split at h
  · rename_i value ht
    cases h
    exact ⟨_, ht, rfl, rfl, rfl, Or.inr ⟨value, rfl, rfl⟩⟩
  · rename_i ht
    cases h
    exact ⟨_, ht, rfl, rfl, rfl, Or.inl ⟨rfl, rfl⟩⟩
  · cases h

/-- Every other step leaves a goroutine in progress, or the channel and its pin alone. -/
theorem step_other {e : RaceEvent} (he : ∀ i, e ≠ .locked i) (h : step gatewayID s e = some s') :
    s'.tasks ≠ [] ∨ (s'.tasks = s.tasks ∧ s'.level = s.level ∧ s'.st = s.st) := by
  cases e with
  | locked i => exact absurd rfl (he i)
  | command req =>
    simp only [step] at h
    split at h
    · cases h; exact Or.inr ⟨rfl, rfl, rfl⟩
    · cases h; exact Or.inl (by simp)
  | gpioSet i =>
    simp only [step] at h
    split at h
    · rename_i ht
      cases h
      obtain ⟨hi, -⟩ := List.getElem?_eq_some_iff.1 ht
      refine Or.inl fun hnil => ?_
      rw [List.set_eq_nil_iff] at hnil
      rw [hnil] at hi
      simp at hi
    · cases h
  | fire =>
    simp only [step] at h
    split at h
    · split_ifs at h
      cases h; exact Or.inl (by simp)
    · cases h
  | tick d =>
    simp only [step] at h
    split_ifs at h
    cases h
    exact Or.inr ⟨rfl, rfl, rfl⟩

theorem timerOK_step (hs : TimerOK cfg s) {e : RaceEvent} (h : step gatewayID s e = some s') :
    TimerOK cfg s' := by
  cases e with
  | command req =>
    simp only [step] at h
    split at h <;> (cases h; exact ⟨hs.cfg_eq, hs.timer⟩)
  | gpioSet i =>
    simp only [step] at h
    split at h
    · cases h; exact ⟨hs.cfg_eq, hs.timer⟩
    · cases h
  | locked i =>
    obtain ⟨t, -, -, -, hnow, ⟨-, hst⟩ | ⟨value, -, hst⟩⟩ := step_locked h
    · exact ⟨by rw [hst]; exact hs.cfg_eq, by rw [hst, hnow]; exact hs.timer⟩
    · refine ⟨by rw [hst]; exact hs.cfg_eq, ?_⟩
      rw [hst, hnow, ← hs.cfg_eq]
      exact fun t ht _ => locked_timer s.st s.now value ht
  | fire =>
    simp only [step] at h
    split at h
    · split_ifs at h
      cases h
      refine ⟨hs.cfg_eq, fun t ht hf => ?_⟩
      exact absurd ⟨t, ht, hf⟩ ChannelState.not_armed_fire
    · cases h
  | tick d =>
    simp only [step] at h
    split_ifs at h with hd
    cases h
    refine ⟨hs.cfg_eq, fun t ht hf => ⟨?_, (hs.timer t ht hf).2⟩⟩
    unfold allows at hd
    dsimp only at ht
    rw [ht] at hd
    simpa [hf] using hd

/-- Erasing an entry of a list leaves nothing exactly when it was the only one. -/
theorem eraseIdx_eq_nil_iff {l : List Task} {i : ℕ} {t : Task} (ht : l[i]? = some t) :
    l.eraseIdx i = [] ↔ l = [t] := by
  obtain ⟨hi, hget⟩ := List.getElem?_eq_some_iff.1 ht
  constructor
  · intro hnil
    have hlen : l.length = 1 := by
      have := List.length_eraseIdx_of_lt hi
      rw [hnil, List.length_nil] at this
      omega
    obtain ⟨t', rfl⟩ := List.length_eq_one_iff.1 hlen
    have : t' = t := by simpa using hget
    rw [this]
  · rintro rfl
    have : i = 0 := by simpa using hi
    rw [this]
    rfl

/-- **The last goroutine's update** leaves the channel consistent exactly when the pin
has the level it wrote. -/
theorem locked_consistent (hmax : 0 < cfg.maxOnDurationSec) (hs : TimerOK cfg s) {i : ℕ} {t : Task}
    (ht : s.tasks[i]? = some t) (h : step gatewayID s (.locked i) = some s') :
    Consistent s' ↔ s.level = t.kind.value := by
  obtain ⟨t', ht', -, hlevel, hnow, hkind⟩ := step_locked h
  rw [ht] at ht'
  cases ht'
  have hval : s'.st.currentValue = t.kind.value := by
    rcases hkind with ⟨hk, hst⟩ | ⟨value, hk, hst⟩ <;> rw [hk, hst] <;> rfl
  constructor
  · intro hc
    rw [← hlevel, hc.value, hval]
  · intro hown
    refine ⟨by rw [hlevel, hval, hown], fun hon => ?_⟩
    rw [hlevel, hown] at hon
    rcases hkind with ⟨hk, -⟩ | ⟨value, hk, hst⟩
    · rw [hk] at hon
      cases hon
    · -- an ON command arms the timer in the section in which it records the value
      rw [hk] at hon
      obtain rfl : value = 1 := hon
      obtain ⟨tm, htm, hf⟩ : (s.st.locked s.now 1).Armed :=
        ChannelState.armed_locked_on s.now (by rw [hs.cfg_eq]; exact hmax)
      obtain ⟨h1, h2⟩ := locked_timer s.st s.now 1 htm
      rw [hst, hnow]
      exact ⟨tm, htm, hf, h1, h2⟩

/-- **One step** keeps the channel settled exactly when a goroutine that finishes last
finds its own level. -/
theorem step_settled (hmax : 0 < cfg.maxOnDurationSec) (hs : TimerOK cfg s) (hq : Settled s)
    {e : RaceEvent} (h : step gatewayID s e = some s') :
    Settled s' ↔ FindsOwnLevel s e s' := by
  by_cases he : ∃ i, e = .locked i
  · obtain ⟨i, rfl⟩ := he
    obtain ⟨t, ht, htasks, -⟩ := step_locked h
    -- the goroutine is done: nothing is in progress after it iff it was the only one
    have hrest := eraseIdx_eq_nil_iff ht
    rw [← htasks] at hrest
    unfold Settled FindsOwnLevel
    rw [hrest, locked_consistent hmax hs ht h]
    constructor
    · intro hset t' _ ht'
      have hmem : t ∈ s.tasks := List.mem_of_getElem? ht
      rw [ht', List.mem_singleton] at hmem
      subst hmem
      exact hset ht'
    · intro hown hone
      exact hown t (List.mem_of_getElem? ht) hone
  · push Not at he
    have hfind : FindsOwnLevel s e s' := by
      cases e with
      | locked i => exact absurd rfl (he i)
      | _ => trivial
    refine ⟨fun _ => hfind, fun _ hnil => ?_⟩
    rcases step_other he h with hne | ⟨htasks, hlevel, hst⟩
    · exact absurd hnil hne
    · have hc := hq (by rw [← htasks]; exact hnil)
      have hs' := timerOK_step hs h
      refine ⟨by rw [hlevel, hst]; exact hc.value, fun hon => ?_⟩
      obtain ⟨t, ht, hf, -, h2⟩ := hc.guarded (by rw [← hlevel]; exact hon)
      have ht' : s'.st.maxOnTimer = some t := by rw [hst]; exact ht
      exact ⟨t, ht', hf, (hs'.timer t ht' hf).1, by rw [hst]; exact h2⟩

theorem init_ok (hoff : cfg.defaultState = "off") (now : ℤ) :
    TimerOK cfg (init cfg now) ∧ Settled (init cfg now) := by
  have h0 : (newChannelState cfg).currentValue = 0 := by simp [newChannelState, hoff]
  refine ⟨⟨rfl, fun t ht => by cases ht⟩, fun _ => ⟨rfl, fun h1 => ?_⟩⟩
  have : (newChannelState cfg).currentValue = 1 := h1
  omega

/-- **A channel's goroutines, interleaved in any order.** In every state of a run in
which no goroutine of the channel is in progress, the pin has the level recorded for the
channel and an ON channel has an armed timer due within the maximum, if and only if each
goroutine that finishes with no other in progress finds on the pin the level it wrote. -/
theorem settled_iff (cfg : ActuatorChannel) (hoff : cfg.defaultState = "off")
    (hmax : 0 < cfg.maxOnDurationSec) (gatewayID : String) (now : ℤ) (es : List RaceEvent) :
    Always (step gatewayID) Settled (init cfg now) es ↔
      Along (step gatewayID) FindsOwnLevel (init cfg now) es :=
  always_iff_along (fun _ _ _ hs h => timerOK_step hs h)
    (fun _ _ _ hs hq h => step_settled hmax hs hq h)
    (init_ok hoff now).1 (init_ok hoff now).2

/-- **An execution alone is `execute`**: with no other goroutine in progress, the three
steps of an admitted command end as the sequential function does. -/
theorem alone_eq_deliver (hidle : s.tasks = []) (level : ℤ → ℤ) {req : CommandRequest}
    (h : Admits (singleManager s.st gatewayID) s.now halOk req = true) :
    ∃ s', run (step gatewayID) s [.command req, .gpioSet 0, .locked 0] = some s' ∧
      s'.tasks = [] ∧
      ((⟨singleManager s.st gatewayID, level⟩ : Plant).deliver s.now halOk (some req)).mgr.channels =
        [s'.st] ∧
      ((⟨singleManager s.st gatewayID, level⟩ : Plant).deliver s.now halOk (some req)).level
        s.st.cfg.gpioPin = s'.level := by
  rcases execute_cases (singleManager s.st gatewayID) s.now halOk req with
    ⟨hno, -⟩ | ⟨-, st, v, resp, hc, hx, -⟩
  · rw [h] at hno
    cases hno
  · obtain ⟨rfl, hid, -⟩ := check_single (show (singleManager s.st gatewayID).channels = [s.st] from rfl) hc
    refine ⟨{ s with st := s.st.locked s.now v, level := v }, ?_, hidle, ?_, ?_⟩
    · simp [run, step, hc, hidle, TaskKind.value]
    · simp only [Plant.deliver, handleCommand, hx, hid]
      exact update_single (m := singleManager s.st gatewayID) rfl fun st => st.locked_cfg s.now v
    · simp only [Plant.deliver, handleCommand, hx]
      rw [foldl_effects rfl]
      simp

/-! An ON and an OFF command that write in one order and update in the other. -/

def ventOff : CommandRequest := { ventOn with commandID := "cmd-2", action := "OFF" }

/-- The relay is ON, recorded as OFF, and no timer is armed. -/
theorem relay_on_without_timer :
    ∃ s, run (step "GW-1") (init relayVent 0)
        [.command ventOn, .command ventOff, .gpioSet 1, .gpioSet 0, .locked 0, .locked 0] = some s ∧
      s.tasks = [] ∧ s.level = 1 ∧ s.st.currentValue = 0 ∧ s.st.maxOnTimer = none ∧
      ¬ Settled s := by
  refine ⟨_, rfl, rfl, rfl, rfl, rfl, fun h => ?_⟩
  have := (h rfl).value
  cases this

/-- The same commands, each with its update before the other's pin write, keep the
channel settled. -/
theorem relayVent_settled :
    Always (step "GW-1") Settled (init relayVent 0)
      [.command ventOn, .command ventOff, .gpioSet 0, .locked 0, .gpioSet 0, .locked 0] :=
  (settled_iff relayVent rfl (by decide) "GW-1" 0 _).2 (by decide +kernel)

end Race

end Gateway
