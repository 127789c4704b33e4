import IotGateway.Gateway.Race

/-!
# The auto-OFF of an earlier ON command

One channel, outside simulation. Commands are executed one at a time; a max-on timer that
has gone off runs its callback in a goroutine of its own, which may be delayed before
`hal.GPIOSet(pin, 0)` and before its locked update. `timer.Stop` does not stop a callback
that has started.

A state `BelongsToLatest` if, however the executions in progress end from there, no
callback of an earlier command's timer writes after a later command has returned
executed, and an acknowledged ON holds until its own timer goes off.

`auto_off_iff`: **this is so in every state of a run exactly when no execution overlaps a
callback.** A renewing ON command that overtakes a callback is acknowledged and switched
off (`renewed_on_switched_off`).
-/

namespace Gateway

open Lts

/-- A callback in progress: which executed command armed its timer, and has it written
the pin? -/
structure Callback where
  armedBy : ℕ
  wrote : Bool
deriving DecidableEq, Repr

/-- An `execute` in progress, past its guards. -/
structure Execution where
  value : ℤ
  wrote : Bool
deriving DecidableEq, Repr

/-- The channel, its pin, and what is in progress. `executed` counts the commands that
have returned executed; `acked` is the value of the last of them. -/
structure AutoOff where
  st : ChannelState
  level : ℤ
  now : ℤ
  command : Option Execution
  callbacks : List Callback
  executed : ℕ
  acked : Option ℤ

inductive AutoOffEvent where
  /-- a message arrives and `execute` passes its guards, or returns -/
  | command (req : CommandRequest)
  /-- the command calls `hal.GPIOSet` -/
  | gpioSet (res : Except Hal.Err Unit)
  /-- the command's locked section; it returns executed -/
  | locked
  /-- the armed timer goes off and starts its callback -/
  | fire
  /-- callback `i` calls `hal.GPIOSet(pin, 0)` -/
  | gpioOff (i : ℕ) (res : Except Hal.Err Unit)
  /-- callback `i`'s locked section -/
  | lockedOff (i : ℕ)
  | tick (d : ℕ)

namespace AutoOff

def step (gatewayID : String) (s : AutoOff) : AutoOffEvent → Option AutoOff
  | .command req =>
    match s.command with
    | some _ => none
    | none =>
      match check (singleManager s.st gatewayID) s.now req with
      | .error _ => some s
      | .ok (_, value) => some { s with command := some ⟨value, false⟩ }
  | .gpioSet res =>
    match s.command, res with
    | some ⟨value, false⟩, .ok _ => some { s with level := value, command := some ⟨value, true⟩ }
    -- the command returns failed
    | some ⟨_, false⟩, .error _ => some { s with command := none }
    | _, _ => none
  | .locked =>
    match s.command with
    | some ⟨value, true⟩ =>
      some { s with
        st := s.st.locked s.now value, command := none
        executed := s.executed + 1, acked := some value }
    | _ => none
  | .fire =>
    match s.st.maxOnTimer with
    | some t =>
      -- the armed timer is the last executed command's: its locked section replaced the others
      if t.fired = false ∧ t.due ≤ s.now then
        some { s with st := s.st.fire, callbacks := s.callbacks ++ [⟨s.executed, false⟩] }
      else none
    | none => none
  | .gpioOff i res =>
    match s.callbacks[i]?, res with
    | some ⟨armedBy, false⟩, .ok _ =>
      some { s with level := 0, callbacks := s.callbacks.set i ⟨armedBy, true⟩ }
    -- the callback logs the error and returns
    | some ⟨_, false⟩, .error _ => some { s with callbacks := s.callbacks.eraseIdx i }
    | _, _ => none
  | .lockedOff i =>
    match s.callbacks[i]? with
    | some ⟨_, true⟩ => some { s with st := s.st.autoOff, callbacks := s.callbacks.eraseIdx i }
    | _ => none
  | .tick d => some { s with now := s.now + d }

/-- A fresh channel, its pin at the default level. -/
def init (cfg : ActuatorChannel) (now : ℤ) : AutoOff :=
  ⟨newChannelState cfg, (newChannelState cfg).currentValue, now, none, [], 0, none⟩

/-- The last executed command's timer has gone off. -/
def expired (s : AutoOff) : Bool := s.st.maxOnTimer.any (·.fired)

/-- A callback that writes the pin or the value was armed by the last executed command. -/
def NoStaleWrite (s : AutoOff) (e : AutoOffEvent) (_ : AutoOff) : Prop :=
  match e with
  | .gpioOff i (.ok _) | .lockedOff i => ∀ c, s.callbacks[i]? = some c → c.armedBy = s.executed
  | _ => True

/-- An ON command that was acknowledged as executed holds, until its timer goes off or
another command writes the pin. -/
def StaysOn (s : AutoOff) : Prop :=
  s.acked = some 1 → s.expired = false → (∀ x, s.command = some x → x.wrote = false) →
    s.level = 1 ∧ s.st.currentValue = 1

/-- The event is a step of an execution or callback in progress. -/
def Proceeds : AutoOffEvent → Prop
  | .gpioSet _ | .locked | .gpioOff _ _ | .lockedOff _ => True
  | .command _ | .fire | .tick _ => False

/-- However what is in progress goes on, auto-OFFs belong to the latest command. -/
def BelongsToLatest (gatewayID : String) (s : AutoOff) : Prop :=
  ∀ es t, (∀ e ∈ es, Proceeds e) → run (step gatewayID) s es = some t →
    Along (step gatewayID) NoStaleWrite s es ∧ StaysOn t

/-- Executions and callbacks do not overlap: no callback is in progress when a command
passes the guards, and no command when the timer goes off. -/
def NoOverlap (gatewayID : String) (s : AutoOff) (e : AutoOffEvent) (_ : AutoOff) : Prop :=
  match e with
  | .command req =>
    (check (singleManager s.st gatewayID) s.now req).isOk = true → s.callbacks = []
  | .fire => s.command = none
  | _ => True

instance (s : AutoOff) (e : AutoOffEvent) (s' : AutoOff) : Decidable (NoStaleWrite s e s') :=
  match e with
  | .gpioOff i (.ok _) | .lockedOff i =>
    inferInstanceAs (Decidable (∀ c ∈ s.callbacks[i]?, c.armedBy = s.executed))
  | .command _ | .gpioSet _ | .locked | .fire | .gpioOff _ (.error _) | .tick _ => isTrue trivial

variable {gatewayID : String} {s s' : AutoOff}

/-! ## What the steps do -/

theorem step_command {req : CommandRequest} (h : step gatewayID s (.command req) = some s') :
    s.command = none ∧ (s' = s ∨ ∃ value, (check (singleManager s.st gatewayID) s.now req).isOk = true ∧
      s' = { s with command := some ⟨value, false⟩ }) := by
  simp only [step] at h
  split at h
  · cases h
  · rename_i hc
    refine ⟨hc, ?_⟩
    split at h
    · cases h; exact Or.inl rfl
    · rename_i st value hok
      cases h
      exact Or.inr ⟨value, by rw [hok]; rfl, rfl⟩

theorem step_gpioSet {res : Except Hal.Err Unit} (h : step gatewayID s (.gpioSet res) = some s') :
    ∃ value, s.command = some ⟨value, false⟩ ∧
      (s' = { s with level := value, command := some ⟨value, true⟩ } ∨ s' = { s with command := none }) := by
  simp only [step] at h
  split at h
  · rename_i hc
    cases h
    exact ⟨_, hc, Or.inl rfl⟩
  · rename_i hc
    cases h
    exact ⟨_, hc, Or.inr rfl⟩
  · cases h

theorem step_locked (h : step gatewayID s .locked = some s') :
    ∃ value, s.command = some ⟨value, true⟩ ∧
      s' = { s with
        st := s.st.locked s.now value, command := none
        executed := s.executed + 1, acked := some value } := by
  simp only [step] at h
  split at h
  · rename_i value hc
    cases h
    exact ⟨value, hc, rfl⟩
  · cases h

theorem step_fire (h : step gatewayID s .fire = some s') :
    (∃ t, s.st.maxOnTimer = some t) ∧
      s' = { s with st := s.st.fire, callbacks := s.callbacks ++ [⟨s.executed, false⟩] } := by
  simp only [step] at h
  split at h
  · rename_i t ht
    split_ifs at h
    cases h
    exact ⟨⟨t, ht⟩, rfl⟩
  · cases h

/-- A step of a callback: it writes the pin or returns. -/
theorem step_gpioOff {i : ℕ} {res : Except Hal.Err Unit}
    (h : step gatewayID s (.gpioOff i res) = some s') :
    ∃ c, s.callbacks[i]? = some c ∧
      (s' = { s with level := 0, callbacks := s.callbacks.set i ⟨c.armedBy, true⟩ } ∨
        s' = { s with callbacks := s.callbacks.eraseIdx i }) := by
  simp only [step] at h
  split at h
  · rename_i hc
    cases h
    exact ⟨_, hc, Or.inl rfl⟩
  · rename_i hc
    cases h
    exact ⟨_, hc, Or.inr rfl⟩
  · cases h

theorem step_lockedOff {i : ℕ} (h : step gatewayID s (.lockedOff i) = some s') :
    ∃ c, s.callbacks[i]? = some c ∧
      s' = { s with st := s.st.autoOff, callbacks := s.callbacks.eraseIdx i } := by
  simp only [step] at h
  split at h
  · rename_i hc
    cases h
    exact ⟨_, hc, rfl⟩
  · cases h

/-! ## Executions and callbacks apart -/

/-- Callbacks were armed by executed commands. -/
def Numbered (s : AutoOff) : Prop := ∀ c ∈ s.callbacks, c.armedBy ≤ s.executed

/-- Executions and callbacks have not overlapped so far. -/
structure Apart (s : AutoOff) : Prop where
  apart : s.command = none ∨ s.callbacks = []
  latest : ∀ c ∈ s.callbacks, c.armedBy = s.executed
  started : s.callbacks ≠ [] → s.expired = true
  wrote : ∀ x, s.command = some x → x.wrote = true → s.level = x.value
  on : s.acked = some 1 → s.expired = false →
    s.st.currentValue = 1 ∧ ((∀ x, s.command = some x → x.wrote = false) → s.level = 1)

theorem numbered_step (hs : Numbered s) {e : AutoOffEvent} (h : step gatewayID s e = some s') :
    Numbered s' := by
  cases e with
  | command req =>
    obtain ⟨-, rfl | ⟨value, -, rfl⟩⟩ := step_command h <;> exact hs
  | gpioSet res =>
    obtain ⟨value, -, rfl | rfl⟩ := step_gpioSet h <;> exact hs
  | locked =>
    obtain ⟨value, -, rfl⟩ := step_locked h
    exact fun c hc => Nat.le_succ_of_le (hs c hc)
  | fire =>
    obtain ⟨-, rfl⟩ := step_fire h
    intro c hc
    rcases List.mem_append.1 hc with hc | hc
    · exact hs c hc
    · rw [List.mem_singleton.1 hc]
  | gpioOff i res =>
    obtain ⟨c, hc, rfl | rfl⟩ := step_gpioOff h
    · intro c' hc'
      rcases List.mem_or_eq_of_mem_set hc' with hc' | rfl
      · exact hs c' hc'
      · exact hs c (List.mem_of_getElem? hc)
    · exact fun c' hc' => hs c' (List.mem_of_mem_eraseIdx hc')
  | lockedOff i =>
    obtain ⟨c, -, rfl⟩ := step_lockedOff h
    exact fun c' hc' => hs c' (List.mem_of_mem_eraseIdx hc')
  | tick d => cases h; exact hs

/-- A step of a callback: no command is in progress, and its timer has gone off. -/
theorem Apart.callback (hs : Apart s) {i : ℕ} {c : Callback} (hc : s.callbacks[i]? = some c) :
    s.command = none ∧ s.expired = true := by
  have hne : s.callbacks ≠ [] := List.ne_nil_of_mem (List.mem_of_getElem? hc)
  exact ⟨hs.apart.resolve_right hne, hs.started hne⟩

theorem apart_step (hs : Apart s) {e : AutoOffEvent} (h : step gatewayID s e = some s')
    (hno : NoOverlap gatewayID s e s') : Apart s' := by
  cases e with
  | command req =>
    obtain ⟨hc, rfl | ⟨value, hok, rfl⟩⟩ := step_command h
    · exact hs
    · refine ⟨Or.inr (hno hok), hs.latest, hs.started, ?_, ?_⟩
      · rintro x hx hw
        cases hx
        cases hw
      · intro ha he
        obtain ⟨hval, hlevel⟩ := hs.on ha he
        exact ⟨hval, fun _ => hlevel (by simp [hc])⟩
  | gpioSet res =>
    obtain ⟨value, hc, rfl | rfl⟩ := step_gpioSet h
    · have hidle : s.callbacks = [] := hs.apart.resolve_left (by simp [hc])
      refine ⟨Or.inr hidle, hs.latest, hs.started, ?_, ?_⟩
      · rintro x hx -
        cases hx
        rfl
      · intro ha he
        refine ⟨(hs.on ha he).1, fun hw => ?_⟩
        have := hw _ rfl
        cases this
    · refine ⟨Or.inl rfl, hs.latest, hs.started, by simp, ?_⟩
      intro ha he
      obtain ⟨hval, hlevel⟩ := hs.on ha he
      refine ⟨hval, fun _ => hlevel fun x hx => ?_⟩
      rw [hc] at hx
      cases hx
      rfl
  | locked =>
    obtain ⟨value, hc, rfl⟩ := step_locked h
    have hidle : s.callbacks = [] := hs.apart.resolve_left (by simp [hc])
    have hlevel : s.level = value := hs.wrote _ hc rfl
    refine ⟨Or.inl rfl, by simp [hidle], by simp [hidle], by simp, ?_⟩
    intro ha _
    have hv : value = 1 := Option.some.inj ha
    exact ⟨hv, fun _ => hlevel.trans hv⟩
  | fire =>
    obtain ⟨⟨t, ht⟩, rfl⟩ := step_fire h
    have hexp : s.st.fire.maxOnTimer.any (·.fired) = true := by simp [ChannelState.fire, ht]
    refine ⟨Or.inl hno, ?_, fun _ => hexp, hs.wrote, ?_⟩
    · intro c hc
      rcases List.mem_append.1 hc with hc | hc
      · exact hs.latest c hc
      · rw [List.mem_singleton.1 hc]
    · intro _ he
      exact absurd (hexp.symm.trans he) (by decide)
  | gpioOff i res =>
    obtain ⟨c, hc, rfl | rfl⟩ := step_gpioOff h
    · obtain ⟨hcmd, hexp⟩ := hs.callback hc
      refine ⟨Or.inl hcmd, ?_, fun _ => hexp, ?_, ?_⟩
      · intro c' hc'
        rcases List.mem_or_eq_of_mem_set hc' with hc' | rfl
        · exact hs.latest c' hc'
        · exact hs.latest c (List.mem_of_getElem? hc)
      · intro x hx
        rw [show s.command = some x from hx] at hcmd
        cases hcmd
      · intro _ he
        exact absurd (hexp.symm.trans he) (by decide)
    · obtain ⟨hcmd, hexp⟩ := hs.callback hc
      exact ⟨Or.inl hcmd, fun c' hc' => hs.latest c' (List.mem_of_mem_eraseIdx hc'),
        fun _ => hexp, hs.wrote, hs.on⟩
  | lockedOff i =>
    obtain ⟨c, hc, rfl⟩ := step_lockedOff h
    obtain ⟨hcmd, hexp⟩ := hs.callback hc
    refine ⟨Or.inl hcmd, fun c' hc' => hs.latest c' (List.mem_of_mem_eraseIdx hc'), fun _ => hexp,
      hs.wrote, ?_⟩
    intro _ he
    exact absurd (hexp.symm.trans he) (by decide)
  | tick d => cases h; exact ⟨hs.apart, hs.latest, hs.started, hs.wrote, hs.on⟩

theorem Apart.staysOn (hs : Apart s) : StaysOn s := by
  intro ha he hw
  obtain ⟨hval, hlevel⟩ := hs.on ha he
  exact ⟨hlevel hw, hval⟩

theorem Apart.noStaleWrite (hs : Apart s) (e : AutoOffEvent) : NoStaleWrite s e s' := by
  have hlatest : ∀ i (c : Callback), s.callbacks[i]? = some c → c.armedBy = s.executed :=
    fun i c hc => hs.latest c (List.mem_of_getElem? hc)
  cases e with
  | gpioOff i res =>
    cases res with
    | ok _ => exact hlatest i
    | error _ => trivial
  | lockedOff i => exact hlatest i
  | _ => trivial

/-- What is in progress starts nothing new. -/
theorem noOverlap_of_proceeds {e : AutoOffEvent} (h : Proceeds e) : NoOverlap gatewayID s e s' := by
  cases e with
  | command req => exact h.elim
  | fire => exact h.elim
  | _ => trivial

theorem Apart.belongsToLatest (hs : Apart s) : BelongsToLatest gatewayID s := by
  intro es t hes hr
  have hno : Along (step gatewayID) (NoOverlap gatewayID) s es :=
    (along_of_forall hes).imp fun _ _ _ _ => noOverlap_of_proceeds
  have hstep : ∀ s e s', Apart s → step gatewayID s e = some s' → NoOverlap gatewayID s e s' → Apart s' :=
    fun _ _ _ hs h hno => apart_step hs h hno
  constructor
  · exact along_of_along hstep (fun _ e _ hs _ _ => hs.noStaleWrite e) hs hno
  · exact (always_of_along hstep (fun _ hs => hs.staysOn) hs hno).last hr

/-- **An overlap can end in a stale write**: the command returns executed first. -/
theorem not_belongsToLatest (hs : Numbered s) (hc : s.command ≠ none) (hcb : s.callbacks ≠ []) :
    ¬ BelongsToLatest gatewayID s := by
  intro hb
  obtain ⟨⟨value, w⟩, hcmd⟩ := Option.ne_none_iff_exists'.1 hc
  obtain ⟨⟨n, wc⟩, rest, hrest⟩ := List.exists_cons_of_ne_nil hcb
  have hn : n ≤ s.executed := hs ⟨n, wc⟩ (by rw [hrest]; exact List.mem_cons_self ..)
  -- the rest of the command, then the next write of the first callback
  have hrun : ∀ w wc, s.command = some ⟨value, w⟩ → s.callbacks = ⟨n, wc⟩ :: rest →
      ∃ es t, (∀ e ∈ es, Proceeds e) ∧ run (step gatewayID) s es = some t ∧
        ¬ Along (step gatewayID) NoStaleWrite s es := by
    intro w wc hcmd hrest
    have hstale : ¬ n = s.executed + 1 := by omega
    cases w <;> cases wc
    · exact ⟨[.gpioSet (.ok ()), .locked, .gpioOff 0 (.ok ())], _,
        by simp [Proceeds], by simp [run, step, hcmd, hrest]; rfl,
        by simp [Along, step, hcmd, hrest, NoStaleWrite, hstale]⟩
    · exact ⟨[.gpioSet (.ok ()), .locked, .lockedOff 0], _,
        by simp [Proceeds], by simp [run, step, hcmd, hrest]; rfl,
        by simp [Along, step, hcmd, hrest, NoStaleWrite, hstale]⟩
    · exact ⟨[.locked, .gpioOff 0 (.ok ())], _,
        by simp [Proceeds], by simp [run, step, hcmd, hrest]; rfl,
        by simp [Along, step, hcmd, hrest, NoStaleWrite, hstale]⟩
    · exact ⟨[.locked, .lockedOff 0], _,
        by simp [Proceeds], by simp [run, step, hcmd, hrest]; rfl,
        by simp [Along, step, hcmd, hrest, NoStaleWrite, hstale]⟩
  obtain ⟨es, t, hes, hr, hno⟩ := hrun w wc hcmd hrest
  exact hno (hb es t hes hr).1

/-- A step after which auto-OFFs belong to the latest command starts no overlap. -/
theorem noOverlap_of_belongs (hs : Numbered s) {e : AutoOffEvent} (h : step gatewayID s e = some s')
    (hb : BelongsToLatest gatewayID s') : NoOverlap gatewayID s e s' := by
  have hapart : s'.command = none ∨ s'.callbacks = [] := by
    by_contra hnot
    push Not at hnot
    exact not_belongsToLatest (numbered_step hs h) hnot.1 hnot.2 hb
  cases e with
  | command req =>
    intro hok
    obtain ⟨hc, rfl | ⟨value, -, rfl⟩⟩ := step_command h
    · -- a command that passes its guards is in progress afterwards
      simp only [step, hc] at h
      split at h
      · rename_i herr
        rw [herr] at hok
        cases hok
      · have := congrArg AutoOff.command (Option.some.inj h)
        rw [hc] at this
        cases this
    · exact hapart.resolve_left (by simp)
  | fire =>
    obtain ⟨-, rfl⟩ := step_fire h
    exact hapart.resolve_right (by simp)
  | _ => trivial

theorem apart_init (cfg : ActuatorChannel) (now : ℤ) : Apart (init cfg now) where
  apart := Or.inl rfl
  latest := by simp [init]
  started := by simp [init]
  wrote := by simp [init]
  on := by simp [init]

/-- **An auto-OFF belongs to the latest ON, exactly without overlap.** In every state of a
run, however the executions and callbacks in progress go on, no callback of an earlier
command's timer writes after a later command returned executed and an acknowledged ON
holds until its timer goes off, if and only if no callback is in progress when a command
passes its guards and no command when the timer goes off. Such a run has no stale write,
and its acknowledged ON commands hold. -/
theorem auto_off_iff (cfg : ActuatorChannel) (gatewayID : String) (now : ℤ) (es : List AutoOffEvent) :
    (Always (step gatewayID) (BelongsToLatest gatewayID) (init cfg now) es ↔
      Along (step gatewayID) (NoOverlap gatewayID) (init cfg now) es) ∧
    (Along (step gatewayID) (NoOverlap gatewayID) (init cfg now) es →
      Along (step gatewayID) NoStaleWrite (init cfg now) es ∧
        Always (step gatewayID) StaysOn (init cfg now) es) := by
  have hstep : ∀ s e s', Apart s → step gatewayID s e = some s' → NoOverlap gatewayID s e s' → Apart s' :=
    fun _ _ _ hs h hno => apart_step hs h hno
  have h0 := apart_init cfg now
  refine ⟨⟨?_, ?_⟩, fun hno => ⟨?_, ?_⟩⟩
  · exact along_of_always (fun _ _ _ hs h => numbered_step hs h)
      (fun _ _ _ hs h hb => noOverlap_of_belongs hs h hb) (fun c hc => (h0.latest c hc).le)
  · exact always_of_along hstep (fun _ hs => hs.belongsToLatest) h0
  · exact along_of_along hstep (fun _ e _ hs _ _ => hs.noStaleWrite e) h0 hno
  · exact always_of_along hstep (fun _ hs => hs.staysOn) h0 hno

/-! An ON command renewed just after its timer went off. -/

def renewal : List AutoOffEvent :=
  [.command ventOn, .gpioSet (.ok ()), .locked, .tick 60000000000, .fire, .command ventOn,
    .gpioSet (.ok ()), .locked, .gpioOff 0 (.ok ()), .lockedOff 0]

/-- **The renewed ON is switched off at once**: the callback of the first timer writes after
the second ON was acknowledged, whose own timer has a minute to go. -/
theorem renewed_on_switched_off :
    ¬ Along (step "GW-1") NoStaleWrite (init relayVent 0) renewal ∧
      ∃ s, run (step "GW-1") (init relayVent 0) renewal = some s ∧ s.executed = 2 ∧ s.acked = some 1 ∧
        s.level = 0 ∧ s.st.currentValue = 0 ∧ s.expired = false ∧
        s.st.maxOnTimer = some ⟨60000000000, 120000000000, false⟩ ∧ ¬ StaysOn s := by
  refine ⟨by decide +kernel, _, rfl, rfl, rfl, rfl, rfl, rfl, rfl, fun h => ?_⟩
  have := (h rfl rfl (by intro x hx; cases hx)).1
  cases this

end AutoOff

end Gateway
