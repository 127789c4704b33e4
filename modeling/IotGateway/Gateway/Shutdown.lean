import IotGateway.Gateway.Race
import IotGateway.Hal.Gpio

/-!
# Shutdown

After the signal, `run` switches the channels off one by one (`assertAllOff`, holding the
manager's mutex), disconnects, makes two safe-state passes over the reserved output lines
(`hal.AssertSafeState`, `gw_hal_cleanup`) and gives the lines back (`gw_gpio_cleanup`).
Nothing stops the handlers and max-on callbacks that are in progress: `step` interleaves
any number of them, and new ones, with these steps.

`relays_off_iff`: **every relay is left OFF exactly when, of the pins that goroutines write
between the last safe-state pass and `gw_gpio_cleanup`, each is written 0 last.** A handler
that writes an ON there leaves its relay ON (`vent_left_on`).
-/

namespace Gateway

open Lts

/-- A goroutine in progress, for the channel its `state` points to. -/
structure ChannelTask where
  channel : ActuatorChannel
  task : Task
deriving DecidableEq, Repr

/-- What `run` does next. -/
inductive Phase where
  /-- waits for the signal -/
  | running
  /-- `assertAllOff` has these channels to go, and holds `m.mu` -/
  | allOff (todo : List String)
  | disconnect
  | assertSafeState
  /-- `gw_hal_cleanup`, first call -/
  | cleanupSafeState
  /-- `gw_hal_cleanup`, second call -/
  | cleanup
  | returned
deriving DecidableEq, Repr

/-- `gap` is a history: what goroutines wrote since the last safe-state pass, latest first. -/
structure Shutdown where
  hal : Hal.Gpio
  mgr : Manager
  tasks : List ChannelTask
  now : ℤ
  phase : Phase
  gap : List (ℤ × ℤ)

inductive ShutdownEvent where
  /-- a message arrives and its handler passes the guards, or returns -/
  | command (req : CommandRequest)
  /-- goroutine `i` calls `hal.GPIOSet` -/
  | gpioSet (i : ℕ)
  /-- goroutine `i` enters and leaves the mutex -/
  | locked (i : ℕ)
  /-- the armed timer of channel `id` goes off and starts its callback -/
  | fire (id : String)
  | tick (d : ℕ)
  /-- the signal: `assertAllOff` will visit the channels in this order -/
  | signal (order : List String)
  /-- `run` does its next step -/
  | main

/-- `assertAllOff` on one channel. A stopped timer is as good as none. -/
def ChannelState.assertOff (st : ChannelState) : ChannelState :=
  { st with currentValue := 0, maxOnTimer := none }

namespace Shutdown

/-- The manager's mutex is free. -/
def unlocked (s : Shutdown) : Bool :=
  match s.phase with
  | .allOff _ => false
  | _ => true

/-- One round of the loop of `assertAllOff`; what `hal.GPIOSet` answers is ignored. -/
def channelOff (s : Shutdown) (id : String) : Shutdown :=
  match s.mgr.channel id with
  | none => s
  | some st =>
    { s with
      hal := if s.mgr.simulation then s.hal else (Hal.gpioSet s.hal st.cfg.gpioPin 0).2
      mgr := s.mgr.update id (·.assertOff) fun _ => rfl }

/-- The next step of `run`. -/
def mainStep (s : Shutdown) : Option Shutdown :=
  match s.phase with
  | .running => none
  | .allOff [] => some { s with phase := .disconnect }
  | .allOff (id :: todo) => some { s.channelOff id with phase := .allOff todo }
  | .disconnect => some { s with phase := .assertSafeState }
  | .assertSafeState =>
    some { s with hal := s.hal.assertSafeState, gap := [], phase := .cleanupSafeState }
  | .cleanupSafeState => some { s with hal := s.hal.assertSafeState, gap := [], phase := .cleanup }
  | .cleanup => some { s with hal := s.hal.cleanup, phase := .returned }
  | .returned => none

/-- `hal.GPIOSet` of goroutine `i`: after an error, the goroutine returns. -/
def taskSet (s : Shutdown) (i : ℕ) (channel : ActuatorChannel) (kind : TaskKind) : Shutdown :=
  if s.mgr.simulation then { s with tasks := s.tasks.set i ⟨channel, ⟨kind, true⟩⟩ }
  else match Hal.gpioSet s.hal channel.gpioPin kind.value with
    | (.error _, _) => { s with tasks := s.tasks.eraseIdx i }
    | (.ok (), hal) => { s with
        hal
        tasks := s.tasks.set i ⟨channel, ⟨kind, true⟩⟩
        gap := (Hal.cInt channel.gpioPin, Hal.cInt kind.value) :: s.gap }

/-- The mutex section of a goroutine. -/
def taskLocked (s : Shutdown) (i : ℕ) (channel : ActuatorChannel) : TaskKind → Shutdown
  | .command value => { s with
      mgr := s.mgr.update channel.channelID (·.locked s.now value) fun _ => rfl
      tasks := s.tasks.eraseIdx i }
  | .autoOff => { s with
      mgr := s.mgr.update channel.channelID (·.autoOff) fun _ => rfl
      tasks := s.tasks.eraseIdx i }

def step (s : Shutdown) : ShutdownEvent → Option Shutdown
  | .command req =>
    -- the lookup of the channel takes the mutex
    if !s.unlocked then none
    else match check s.mgr s.now req with
      | .error _ => some s
      | .ok (st, value) => some { s with tasks := s.tasks ++ [⟨st.cfg, ⟨.command value, false⟩⟩] }
  | .gpioSet i =>
    match s.tasks[i]? with
    | some ⟨channel, ⟨kind, false⟩⟩ => some (s.taskSet i channel kind)
    | _ => none
  | .locked i =>
    if !s.unlocked then none
    else match s.tasks[i]? with
      | some ⟨channel, ⟨kind, true⟩⟩ => some (s.taskLocked i channel kind)
      | _ => none
  | .fire id =>
    match s.mgr.channel id with
    | none => none
    | some st =>
      if ∃ t ∈ st.maxOnTimer, t.fired = false ∧ t.due ≤ s.now then
        some { s with
          mgr := s.mgr.update id (·.fire) @ChannelState.fire_cfg
          tasks := s.tasks ++ [⟨st.cfg, ⟨.autoOff, false⟩⟩] }
      else none
  | .tick d => some { s with now := s.now + d }
  | .signal order =>
    if s.phase = .running ∧ order.Perm (s.mgr.channels.map (·.cfg.channelID)) then
      some { s with phase := .allOff order }
    else none
  | .main => s.mainStep

/-- Before the signal, with nothing given back yet. -/
def start (hal : Hal.Gpio) (mgr : Manager) (now : ℤ) (tasks : List ChannelTask) : Shutdown :=
  ⟨{ hal with released := [] }, mgr, tasks, now, .running, []⟩

/-- Once `run` has returned, the output lines `lines` are given back, each last written 0. -/
def RelaysOff (lines : List ℤ) (s : Shutdown) : Prop :=
  s.phase = .returned → s.hal.released = lines.map fun l => (l, 0)

/-- When `gw_gpio_cleanup` gives the lines back, each pin that a goroutine wrote since the
last safe-state pass was written 0 last. -/
def GapOff (s : Shutdown) (e : ShutdownEvent) (_ : Shutdown) : Prop :=
  match e with
  | .main => s.phase = .cleanup → ∀ w ∈ s.gap, s.gap.lookup w.1 = some 0
  | _ => True

instance (s : Shutdown) (e : ShutdownEvent) (s' : Shutdown) : Decidable (GapOff s e s') :=
  match e with
  | .main =>
    inferInstanceAs (Decidable (s.phase = .cleanup → ∀ w ∈ s.gap, s.gap.lookup w.1 = some 0))
  | .command _ | .gpioSet _ | .locked _ | .fire _ | .tick _ | .signal _ => isTrue trivial

/-- While the lines are held: the reserved outputs are `lines`, goroutines have written no
other, and after the last safe-state pass they alone decide the levels. -/
structure Held (lines : List ℤ) (s : Shutdown) : Prop where
  outputs : s.hal.outputs = lines
  released : s.hal.released = []
  gap : ∀ w ∈ s.gap, w.1 ∈ lines
  level : s.phase = .cleanup → ∀ l ∈ lines, s.hal.level l = (s.gap.lookup l).getD 0

/-- The lines are held until `run` returns. -/
def Inv (lines : List ℤ) (s : Shutdown) : Prop := s.phase ≠ .returned → Held lines s

variable {lines : List ℤ} {s s' : Shutdown}

/-- What a goroutine's pin write does: nothing, or it is logged and drives its line. -/
theorem taskSet_cases (s : Shutdown) (i : ℕ) (channel : ActuatorChannel) (kind : TaskKind) :
    ((s.taskSet i channel kind).hal = s.hal ∧ (s.taskSet i channel kind).gap = s.gap) ∨
    ∃ l v, l ∈ s.hal.outputs ∧ (s.taskSet i channel kind).gap = (l, v) :: s.gap ∧
      (s.taskSet i channel kind).hal = { s.hal with level := Function.update s.hal.level l v } := by
  unfold taskSet
  split_ifs with hsim
  · exact Or.inl ⟨rfl, rfl⟩
  · rcases h : Hal.gpioSet s.hal channel.gpioPin kind.value with ⟨e | u, hal⟩
    · exact Or.inl ⟨rfl, rfl⟩
    · obtain ⟨hmem, rfl⟩ := Hal.gpioSet_ok h
      exact Or.inr ⟨_, _, hmem, rfl, rfl⟩

theorem taskSet_phase (s : Shutdown) (i : ℕ) (channel : ActuatorChannel) (kind : TaskKind) :
    (s.taskSet i channel kind).phase = s.phase := by
  unfold taskSet
  split_ifs
  · rfl
  · split <;> rfl

/-- **What a step that is not `run`'s own does** to the lines and to where `run` is. -/
theorem step_goroutine {e : ShutdownEvent} (he : e ≠ .main) (h : step s e = some s') :
    (s'.phase = s.phase ∨ s.phase = .running ∧ ∃ order, s'.phase = .allOff order) ∧
    ((s'.hal = s.hal ∧ s'.gap = s.gap) ∨
      ∃ l v, l ∈ s.hal.outputs ∧ s'.gap = (l, v) :: s.gap ∧
        s'.hal = { s.hal with level := Function.update s.hal.level l v }) := by
  cases e with
  | main => exact absurd rfl he
  | command req =>
    simp only [step] at h
    split_ifs at h
    split at h <;> (cases h; exact ⟨Or.inl rfl, Or.inl ⟨rfl, rfl⟩⟩)
  | gpioSet i =>
    simp only [step] at h
    split at h
    · cases h
      exact ⟨Or.inl (taskSet_phase s i _ _), taskSet_cases s i _ _⟩
    · cases h
  | locked i =>
    simp only [step] at h
    split_ifs at h
    split at h
    · rename_i channel kind _
      cases h
      cases kind <;> exact ⟨Or.inl rfl, Or.inl ⟨rfl, rfl⟩⟩
    · cases h
  | fire id =>
    simp only [step] at h
    split at h
    · cases h
    · split_ifs at h
      cases h
      exact ⟨Or.inl rfl, Or.inl ⟨rfl, rfl⟩⟩
  | tick d =>
    cases h
    exact ⟨Or.inl rfl, Or.inl ⟨rfl, rfl⟩⟩
  | signal order =>
    simp only [step] at h
    split_ifs at h with hrun
    cases h
    exact ⟨Or.inr ⟨hrun.1, order, rfl⟩, Or.inl ⟨rfl, rfl⟩⟩

/-- A round of `assertAllOff` keeps the reserved lines and the log. -/
theorem channelOff_keeps (s : Shutdown) (id : String) :
    (s.channelOff id).hal.outputs = s.hal.outputs ∧
      (s.channelOff id).hal.released = s.hal.released ∧ (s.channelOff id).gap = s.gap := by
  unfold channelOff
  split
  · exact ⟨rfl, rfl, rfl⟩
  · dsimp only
    split_ifs
    · exact ⟨rfl, rfl, rfl⟩
    · exact ⟨(Hal.gpioSet_outputs s.hal _ 0).1, (Hal.gpioSet_outputs s.hal _ 0).2, rfl⟩

/-- A safe-state pass empties the log and puts every reserved line at 0. -/
theorem held_assertSafeState (hs : Held lines s) (phase : Phase) :
    Held lines { s with hal := s.hal.assertSafeState, gap := [], phase := phase } where
  outputs := hs.outputs
  released := hs.released
  gap := by simp
  level := fun _ l hl => Hal.Gpio.assertSafeState_level (by rw [hs.outputs]; exact hl)

/-- A goroutine's write keeps the lines held. -/
theorem held_write (hs : Held lines s) {l v : ℤ} (hl : l ∈ s.hal.outputs)
    (hphase : s'.phase = .cleanup → s.phase = .cleanup) (hgap : s'.gap = (l, v) :: s.gap)
    (hhal : s'.hal = { s.hal with level := Function.update s.hal.level l v }) : Held lines s' where
  outputs := by rw [hhal]; exact hs.outputs
  released := by rw [hhal]; exact hs.released
  gap := by
    rw [hgap]
    intro w hw
    rcases List.mem_cons.1 hw with rfl | hw
    · rw [← hs.outputs]
      exact hl
    · exact hs.gap w hw
  level := by
    intro hp l' hl'
    rw [hhal, hgap]
    by_cases heq : l' = l
    · -- the line written is the first the log knows
      subst heq
      simp
    · have hbeq : (l' == l) = false := by simpa using heq
      rw [List.lookup_cons, hbeq]
      simp only [Function.update_of_ne heq]
      exact hs.level (hphase hp) l' hl'

/-- **One step of `run` or of a goroutine keeps the lines held** until `run` returns. -/
theorem inv_step (hs : Inv lines s) {e : ShutdownEvent} (h : step s e = some s') : Inv lines s' := by
  intro hret
  by_cases he : e = .main
  · subst he
    change s.mainStep = some s' at h
    unfold mainStep at h
    split at h
    · cases h
    · rename_i hp
      cases h
      have hh := hs (by rw [hp]; simp)
      exact ⟨hh.outputs, hh.released, hh.gap, by simp⟩
    · -- a round of `assertAllOff`: the log has only what goroutines write
      rename_i id todo hp
      cases h
      have hh := hs (by rw [hp]; simp)
      obtain ⟨hout, hrel, hgap⟩ := channelOff_keeps s id
      refine ⟨hout.trans hh.outputs, hrel.trans hh.released, ?_, by simp⟩
      rw [hgap]
      exact hh.gap
    · rename_i hp
      cases h
      have hh := hs (by rw [hp]; simp)
      exact ⟨hh.outputs, hh.released, hh.gap, by simp⟩
    · rename_i hp
      cases h
      exact held_assertSafeState (hs (by rw [hp]; simp)) _
    · rename_i hp
      cases h
      exact held_assertSafeState (hs (by rw [hp]; simp)) _
    · cases h
      exact absurd rfl hret
    · cases h
  · -- a goroutine's step: `run` stays where it is, or gets the signal
    obtain ⟨hphase, hmem⟩ := step_goroutine he h
    have hret' : s.phase ≠ .returned := by
      intro hp
      rcases hphase with hp' | ⟨hrun, -⟩
      · exact hret (hp'.trans hp)
      · rw [hrun] at hp
        cases hp
    have hcleanup : s'.phase = .cleanup → s.phase = .cleanup := by
      intro hp
      rcases hphase with hp' | ⟨-, order, hp'⟩
      · rw [← hp', hp]
      · rw [hp'] at hp
        cases hp
    have hh := hs hret'
    rcases hmem with ⟨hhal, hgap⟩ | ⟨l, v, hl, hgap, hhal⟩
    · exact ⟨by rw [hhal]; exact hh.outputs, by rw [hhal]; exact hh.released,
        by rw [hgap]; exact hh.gap, fun hp => by rw [hhal, hgap]; exact hh.level (hcleanup hp)⟩
    · exact held_write hh hl hcleanup hgap hhal

/-- **Giving the lines back**: all are 0 exactly when the goroutines' log says so. -/
theorem cleanup_off (hs : Held lines s) (hp : s.phase = .cleanup) :
    s.hal.cleanup.released = lines.map (fun l => (l, (0 : ℤ))) ↔
      ∀ w ∈ s.gap, s.gap.lookup w.1 = some 0 := by
  have hlevel := hs.level hp
  rw [Hal.Gpio.cleanup_released, hs.released, hs.outputs, List.nil_append, List.map_inj_left]
  constructor
  · intro hoff w hw
    have h0 : s.hal.level w.1 = 0 := congrArg Prod.snd (hoff w.1 (hs.gap w hw))
    rw [hlevel w.1 (hs.gap w hw)] at h0
    -- a pin of the log has a last write
    obtain ⟨v, hv⟩ : ∃ v, s.gap.lookup w.1 = some v := by
      rw [← Option.isSome_iff_exists, List.lookup_isSome_iff]
      exact ⟨w, hw, beq_self_eq_true w.1⟩
    rw [hv] at h0 ⊢
    exact congrArg some h0
  · intro hgap l hl
    rw [hlevel l hl]
    cases hlk : s.gap.lookup l with
    | none => rfl
    | some v =>
      obtain ⟨l₁, l₂, heq, -⟩ := List.lookup_eq_some_iff.1 hlk
      have hmem : (l, v) ∈ s.gap := by rw [heq]; simp
      have h0 : s.gap.lookup l = some 0 := hgap (l, v) hmem
      rw [hlk] at h0
      cases h0
      rfl

/-- `run` returns only from the release of the lines. -/
theorem mainStep_returned (h : s.mainStep = some s') (hret : s'.phase = .returned) :
    s.phase = .cleanup := by
  unfold mainStep at h
  split at h
  case h_7 hp => exact hp
  all_goals cases h <;> cases hret

/-- **One step** leaves every relay OFF at the return exactly when it meets `GapOff`. -/
theorem step_relaysOff (hs : Inv lines s) (hq : RelaysOff lines s) {e : ShutdownEvent}
    (h : step s e = some s') : RelaysOff lines s' ↔ GapOff s e s' := by
  by_cases he : e = .main
  · subst he
    change s.mainStep = some s' at h
    by_cases hp : s.phase = .cleanup
    · have hh := hs (by rw [hp]; simp)
      unfold mainStep at h
      rw [hp] at h
      cases h
      have hiff := cleanup_off hh hp
      exact ⟨fun hoff _ => hiff.1 (hoff rfl), fun hgap _ => hiff.2 (hgap hp)⟩
    · have hnot : s'.phase ≠ .returned := fun hp' => hp (mainStep_returned h hp')
      exact ⟨fun _ hp' => absurd hp' hp, fun _ hp' => absurd hp' hnot⟩
  · have hguard : GapOff s e s' := by
      cases e with
      | main => exact absurd rfl he
      | _ => trivial
    refine ⟨fun _ => hguard, fun _ hp' => ?_⟩
    -- after the return nothing is given back any more
    obtain ⟨hphase, hmem⟩ := step_goroutine he h
    have hp : s.phase = .returned := by
      rcases hphase with hp | ⟨-, order, hp⟩
      · rw [← hp, hp']
      · rw [hp] at hp'
        cases hp'
    have hrel : s'.hal.released = s.hal.released := by
      rcases hmem with ⟨hhal, -⟩ | ⟨l, v, -, -, hhal⟩ <;> rw [hhal]
    rw [hrel]
    exact hq hp

/-- **Shutdown, interleaved with the manager's goroutines.** From any reserved lines, channel
table and goroutines in progress, and for every order of the steps: when `run` has returned,
each output line was last written 0 before it was given back, if and only if each pin that
goroutines wrote between the last safe-state pass and `gw_gpio_cleanup` was written 0 last. -/
theorem relays_off_iff (hal : Hal.Gpio) (mgr : Manager) (now : ℤ) (tasks : List ChannelTask)
    (es : List ShutdownEvent) :
    Always step (RelaysOff hal.outputs) (start hal mgr now tasks) es ↔
      Along step GapOff (start hal mgr now tasks) es :=
  always_iff_along (I := Inv hal.outputs) (fun _ _ _ hs h => inv_step hs h)
    (fun _ _ _ hs hq h => step_relaysOff hs hq h)
    (fun _ => ⟨rfl, rfl, by simp [start], by simp [start]⟩) (by simp [RelaysOff, start])

/-! A relay whose handler is between the guards and the pin write when the signal comes. -/

/-- The line of `relayVent`, reserved on a chip whose lines are all 0. -/
def ventLines : Hal.Gpio :=
  (Hal.requestOutput (fun _ => true)
    (Hal.Gpio.init true ⟨false, List.replicate Hal.maxGpioLines (.free false), fun _ => 0, [],
      Hal.freeSlots_size, Hal.freeSlots_distinct⟩).2 17 0).2

/-- The handler writes its ON between the last safe-state pass and the release. -/
theorem vent_left_on :
    ∃ s, run step (start ventLines (singleManager (newChannelState relayVent) "GW-1") 0 [])
        [.command ventOn, .signal ["relay-vent"], .main, .main, .main, .main, .main, .gpioSet 0,
          .main] = some s ∧
      s.phase = .returned ∧ s.hal.released = [(17, 1)] ∧ ventLines.outputs = [17] ∧
      ¬ RelaysOff ventLines.outputs s := by
  refine ⟨_, rfl, rfl, ?_, ?_, ?_⟩
  · decide +kernel
  · decide +kernel
  · intro h
    have := h rfl
    revert this
    decide +kernel

end Shutdown

end Gateway
