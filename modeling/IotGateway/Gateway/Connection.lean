import IotGateway.Lts.Run
import IotGateway.Gateway.Time

/-!
# The connection to the broker

`run` connects before it starts its goroutines. Each established connection starts a
goroutine of the library with the connect callback, which reads the field `OnConnect` when
it runs; `health.Agent.Run` sets the field, and `actuator.Manager.Run` calls `Subscribe`
once. A lost connection makes the broker publish the last will.

`announced_iff`: **a connected gateway is announced as online in every state, exactly when
`health.Agent.Run` does not start after the callback of the current connection**
(`early_connect_unannounced`). `commandable_iff`: **the broker has the subscription for
commands, exactly when `Subscribe` is called on a connection that lasts until it is
confirmed, and the session is not lost later** (`late_connect_deaf`).
-/

namespace Gateway

open Lts

/-- A retained message on `gw/{id}/state`. -/
structure StatePayload where
  gatewayID : String
  status : String
  reason : Option String
  timestamp : Option String
  appVersion : Option String
  uptimeSec : Option ℤ
deriving DecidableEq, Repr

/-- `time.Now().UTC().Format(time.RFC3339)` -/
def formatRFC3339 (now : ℤ) : String := formatRFC3339Nano (now / second * second)

/-- The last will. -/
def lwtPayload (gatewayID : String) : StatePayload := ⟨gatewayID, "offline", some "lwt", none, none, none⟩

/-- `PublishOnline`, with what the health agent adds. -/
def onlinePayload (gatewayID : String) (startTime now : ℤ) : StatePayload :=
  ⟨gatewayID, "online", none, some (formatRFC3339 now), some "0.1.0-pi4-phase0",
    some ((now - startTime).tdiv second)⟩

/-- What the health agent publishes last. -/
def shutdownPayload (gatewayID : String) (now : ℤ) : StatePayload :=
  ⟨gatewayID, "shutdown", none, some (formatRFC3339 now), none, none⟩

/-- Where `actuator.Manager.Run` is with its `Subscribe`. -/
inductive SubscribePhase where
  | notYet
  | sent
  | passed
deriving DecidableEq, Repr

/-- A call fails at once without a connection. -/
def SubscribePhase.call (connected : Bool) : SubscribePhase := if connected then .sent else .passed

/-- Without its confirmation the call fails, and the library does not repeat it. -/
def SubscribePhase.afterLoss : SubscribePhase → SubscribePhase
  | .sent => .passed
  | phase => phase

/-- The client, and what the broker keeps for it. -/
structure Connection where
  connected : Bool
  /-- connect callbacks that have not run -/
  callbacks : ℕ
  /-- `health.Agent.Run` has set `OnConnect` -/
  onConnect : Bool
  publishFailed : Bool
  shutdown : Bool
  retained : Option StatePayload
  subscribe : SubscribePhase
  /-- the broker's session holds the subscription to `gw/{id}/command/request` -/
  subscription : Bool
deriving DecidableEq, Repr

inductive ConnectionEvent where
  | connect
  | lost
  | sessionLost
  /-- a connect callback runs; `ok` if the broker takes its publish -/
  | callback (now : ℤ) (ok : Bool)
  /-- `health.Agent.Run` starts -/
  | healthRun
  /-- `actuator.Manager.Run` calls `Subscribe` -/
  | subscribe
  | subscribeAck
  /-- the context is cancelled, and the health agent says so -/
  | shutdown (now : ℤ)
deriving DecidableEq, Repr

namespace Connection

/-- Before `run` connects: what the broker has from earlier runs. -/
def init (retained : Option StatePayload) (subscription : Bool) : Connection :=
  ⟨false, 0, false, false, false, retained, .notYet, subscription⟩

/-- What is retained after the health agent's last publish. -/
def lastWords (gatewayID : String) (now : ℤ) (s : Connection) : Option StatePayload :=
  if s.connected ∧ s.onConnect then some (shutdownPayload gatewayID now) else s.retained

def step (gatewayID : String) (startTime : ℤ) (s : Connection) : ConnectionEvent → Option Connection
  | .connect => if s.connected then none else some { s with connected := true, callbacks := s.callbacks + 1 }
  | .lost =>
    if s.connected then
      some { s with
        connected := false
        retained := some (lwtPayload gatewayID)
        subscribe := s.subscribe.afterLoss }
    else none
  | .sessionLost => some { s with subscription := false }
  | .callback now ok =>
    if s.callbacks = 0 then none
    else if s.onConnect then
      if s.connected ∧ ok then
        some { s with
          callbacks := s.callbacks - 1
          retained := some (onlinePayload gatewayID startTime now) }
      else some { s with callbacks := s.callbacks - 1, publishFailed := true }
    else some { s with callbacks := s.callbacks - 1 }
  | .healthRun => if s.onConnect then none else some { s with onConnect := true }
  | .subscribe =>
    if s.subscribe = .notYet then some { s with subscribe := .call s.connected } else none
  | .subscribeAck =>
    if s.subscribe = .sent then some { s with subscribe := .passed, subscription := true } else none
  | .shutdown now =>
    if s.shutdown then none
    else some { s with shutdown := true, retained := s.lastWords gatewayID now }

/-- Connected, with `health.Agent.Run` running, no callback pending, no publish failed and no
shutdown: the retained message is that of `PublishOnline`. -/
def Announced (gatewayID : String) (startTime : ℤ) (s : Connection) : Prop :=
  s.connected = true → s.onConnect = true → s.callbacks = 0 → s.publishFailed = false →
    s.shutdown = false → ∃ now, s.retained = some (onlinePayload gatewayID startTime now)

/-- Connected, with `Subscribe` passed and no callback pending: the broker has the
subscription. -/
def Commandable (s : Connection) : Prop :=
  s.connected = true → s.subscribe = .passed → s.callbacks = 0 → s.subscription = true

/-- `health.Agent.Run` does not start after the callback of the current connection, unless
the gateway is announced all the same. -/
def RegisteredFirst (gatewayID : String) (startTime : ℤ) (s : Connection) (e : ConnectionEvent)
    (_ : Connection) : Prop :=
  match e with
  | .healthRun => s.connected = true → s.callbacks = 0 → s.publishFailed = false → s.shutdown = false →
      ∃ now, s.retained = some (onlinePayload gatewayID startTime now)
  | _ => True

/-- `Subscribe` is called on a connection that lasts until the confirmation, or the session
holds the subscription already; the session is not lost once `Subscribe` has passed. -/
def Subscribed (s : Connection) (e : ConnectionEvent) (_ : Connection) : Prop :=
  match e with
  | .subscribe => s.connected = true ∨ s.subscription = true
  | .lost => s.subscribe = .sent → s.subscription = true
  | .sessionLost => s.subscribe ≠ .passed
  | _ => True

instance (s : Connection) : Decidable (Commandable s) := by
  unfold Commandable
  infer_instance

instance (s : Connection) (e : ConnectionEvent) (s' : Connection) : Decidable (Subscribed s e s') := by
  unfold Subscribed
  cases e <;> infer_instance

variable {gatewayID : String} {startTime : ℤ} {s s' : Connection} {e : ConnectionEvent}

/-- **What each step does.** -/
theorem step_cases (h : step gatewayID startTime s e = some s') :
    match e with
    | .connect => s.connected = false ∧ s' = { s with connected := true, callbacks := s.callbacks + 1 }
    | .lost => s.connected = true ∧ s' = { s with
        connected := false
        retained := some (lwtPayload gatewayID)
        subscribe := s.subscribe.afterLoss }
    | .sessionLost => s' = { s with subscription := false }
    | .callback now _ => s.callbacks ≠ 0 ∧
        (s.onConnect = true ∧ s.connected = true ∧ s' = { s with
            callbacks := s.callbacks - 1
            retained := some (onlinePayload gatewayID startTime now) } ∨
          s.onConnect = true ∧ s' = { s with callbacks := s.callbacks - 1, publishFailed := true } ∨
          s.onConnect = false ∧ s' = { s with callbacks := s.callbacks - 1 })
    | .healthRun => s.onConnect = false ∧ s' = { s with onConnect := true }
    | .subscribe => s.subscribe = .notYet ∧
        s' = { s with subscribe := .call s.connected }
    | .subscribeAck => s.subscribe = .sent ∧ s' = { s with subscribe := .passed, subscription := true }
    | .shutdown now => s.shutdown = false ∧
        s' = { s with shutdown := true, retained := s.lastWords gatewayID now } := by
  cases e with
  | connect =>
    simp only [step] at h
    split_ifs at h with hc
    exact ⟨by simpa using hc, (Option.some.inj h).symm⟩
  | lost =>
    simp only [step] at h
    split_ifs at h with hc
    exact ⟨hc, (Option.some.inj h).symm⟩
  | sessionLost => exact (Option.some.inj h).symm
  | callback now ok =>
    simp only [step] at h
    split_ifs at h with hzero hset hok
    · exact ⟨hzero, Or.inl ⟨hset, hok.1, (Option.some.inj h).symm⟩⟩
    · exact ⟨hzero, Or.inr (Or.inl ⟨hset, (Option.some.inj h).symm⟩)⟩
    · exact ⟨hzero, Or.inr (Or.inr ⟨by simpa using hset, (Option.some.inj h).symm⟩)⟩
  | healthRun =>
    simp only [step] at h
    split_ifs at h with hset
    exact ⟨by simpa using hset, (Option.some.inj h).symm⟩
  | subscribe =>
    simp only [step] at h
    split_ifs at h with hphase
    exact ⟨hphase, (Option.some.inj h).symm⟩
  | subscribeAck =>
    simp only [step] at h
    split_ifs at h with hphase
    exact ⟨hphase, (Option.some.inj h).symm⟩
  | shutdown now =>
    simp only [step] at h
    split_ifs at h with hs
    exact ⟨by simpa using hs, (Option.some.inj h).symm⟩

/-! ## Announcing the gateway -/

/-- **One step** keeps a gateway announced exactly when it does not register the callback
too late. -/
theorem announced_step (hs : Announced gatewayID startTime s) (h : step gatewayID startTime s e = some s') :
    Announced gatewayID startTime s' ↔ RegisteredFirst gatewayID startTime s e s' := by
  cases e with
  | connect =>
    obtain ⟨-, rfl⟩ := step_cases h
    refine iff_of_true ?_ trivial
    intro _ _ hzero
    simp at hzero
  | lost =>
    obtain ⟨-, rfl⟩ := step_cases h
    refine iff_of_true ?_ trivial
    intro hc
    cases hc
  | sessionLost =>
    cases step_cases h
    exact iff_of_true hs trivial
  | callback now ok =>
    refine iff_of_true ?_ trivial
    obtain ⟨-, ⟨-, -, rfl⟩ | ⟨-, rfl⟩ | ⟨hset, rfl⟩⟩ := step_cases h
    · exact fun _ _ _ _ _ => ⟨now, rfl⟩
    · intro _ _ _ hok
      cases hok
    · -- the callback finds the field unset, and `Run` is not running
      intro _ hrun
      simp [hset] at hrun
  | healthRun =>
    obtain ⟨-, rfl⟩ := step_cases h
    constructor
    · exact fun ha hc hzero hok hup => ha hc rfl hzero hok hup
    · exact fun hfirst hc _ hzero hok hup => hfirst hc hzero hok hup
  | subscribe =>
    obtain ⟨-, rfl⟩ := step_cases h
    exact iff_of_true hs trivial
  | subscribeAck =>
    obtain ⟨-, rfl⟩ := step_cases h
    exact iff_of_true hs trivial
  | shutdown now =>
    obtain ⟨-, rfl⟩ := step_cases h
    refine iff_of_true ?_ trivial
    intro _ _ _ _ hup
    cases hup

/-- **Presence.** In every order of the events, whatever the broker has retained before: the
gateway is announced in every state, if and only if `health.Agent.Run` does not start on a
connection whose callback has run and that is not announced. -/
theorem announced_iff (gatewayID : String) (startTime : ℤ) (retained : Option StatePayload)
    (subscription : Bool) (es : List ConnectionEvent) :
    Always (step gatewayID startTime) (Announced gatewayID startTime) (init retained subscription) es ↔
      Along (step gatewayID startTime) (RegisteredFirst gatewayID startTime) (init retained subscription) es := by
  have hinit : Announced gatewayID startTime (init retained subscription) := by
    intro hc
    cases hc
  refine always_iff_along (I := fun _ => True) ?_ ?_ trivial hinit
  · intro s e s' _ _
    trivial
  · intro s e s' _ hs h
    exact announced_step hs h

/-- **A connection that is faster than `health.Agent.Run`**: its callback finds no `OnConnect`,
and the last will of an earlier run stays. -/
theorem early_connect_unannounced :
    (run (step "GW-001" 0) (init (some (lwtPayload "GW-001")) true) [.connect, .callback 1 true, .healthRun]) =
      some ⟨true, 0, true, false, false, some (lwtPayload "GW-001"), .notYet, true⟩ ∧
    ¬ Announced "GW-001" 0 ⟨true, 0, true, false, false, some (lwtPayload "GW-001"), .notYet, true⟩ := by
  refine ⟨by decide +kernel, fun h => ?_⟩
  obtain ⟨now, hnow⟩ := h rfl rfl rfl rfl rfl
  have hstatus : "offline" = "online" := congrArg StatePayload.status (Option.some.inj hnow)
  exact absurd hstatus (by decide)

/-! ## Subscribing to commands -/

/-- The subscription is there once `Subscribe` has passed. -/
def Kept (s : Connection) : Prop := s.subscribe = .passed → s.subscription = true

/-- **One step** keeps the subscription exactly when it is not the call on a lost connection,
the loss of an unconfirmed call's connection, or the loss of the session. -/
theorem kept_step (hs : Kept s) (h : step gatewayID startTime s e = some s') :
    Kept s' ↔ Subscribed s e s' := by
  cases e with
  | connect =>
    obtain ⟨-, rfl⟩ := step_cases h
    exact iff_of_true hs trivial
  | lost =>
    obtain ⟨-, rfl⟩ := step_cases h
    unfold Kept Subscribed
    cases hphase : s.subscribe with
    | notYet => simp [SubscribePhase.afterLoss]
    | sent => simp [SubscribePhase.afterLoss]
    | passed => simp [SubscribePhase.afterLoss, hs hphase]
  | sessionLost =>
    cases step_cases h
    simp [Kept, Subscribed]
  | callback now ok =>
    refine iff_of_true ?_ trivial
    obtain ⟨-, ⟨-, -, rfl⟩ | ⟨-, rfl⟩ | ⟨-, rfl⟩⟩ := step_cases h
    · exact hs
    · exact hs
    · exact hs
  | healthRun =>
    obtain ⟨-, rfl⟩ := step_cases h
    exact iff_of_true hs trivial
  | subscribe =>
    obtain ⟨-, rfl⟩ := step_cases h
    unfold Kept Subscribed
    cases s.connected <;> simp [SubscribePhase.call]
  | subscribeAck =>
    obtain ⟨-, rfl⟩ := step_cases h
    exact iff_of_true (fun _ => rfl) trivial
  | shutdown now =>
    obtain ⟨-, rfl⟩ := step_cases h
    exact iff_of_true hs trivial

/-- **Nothing subscribes again**: where the subscription is there, it has been all the time. -/
theorem kept_of_step (h : step gatewayID startTime s e = some s') (hs' : Kept s') : Kept s := by
  intro hpassed
  cases e with
  | connect =>
    obtain ⟨-, rfl⟩ := step_cases h
    exact hs' hpassed
  | lost =>
    obtain ⟨-, rfl⟩ := step_cases h
    exact hs' (by rw [hpassed]; rfl)
  | sessionLost =>
    cases step_cases h
    exact absurd (hs' hpassed) (by simp)
  | callback now ok =>
    obtain ⟨-, ⟨-, -, rfl⟩ | ⟨-, rfl⟩ | ⟨-, rfl⟩⟩ := step_cases h
    · exact hs' hpassed
    · exact hs' hpassed
    · exact hs' hpassed
  | healthRun =>
    obtain ⟨-, rfl⟩ := step_cases h
    exact hs' hpassed
  | subscribe =>
    obtain ⟨hphase, -⟩ := step_cases h
    rw [hphase] at hpassed
    cases hpassed
  | subscribeAck =>
    obtain ⟨hphase, -⟩ := step_cases h
    rw [hphase] at hpassed
    cases hpassed
  | shutdown now =>
    obtain ⟨-, rfl⟩ := step_cases h
    exact hs' hpassed

theorem always_kept_of_last {es : List ConnectionEvent} : ∀ {s t : Connection},
    run (step gatewayID startTime) s es = some t → Kept t →
      Kept s ∧ Always (step gatewayID startTime) Kept s es := by
  induction es with
  | nil =>
    intro s t hrun ht
    obtain rfl := Option.some.inj hrun
    exact ⟨ht, ht⟩
  | cons e es ih =>
    intro s t hrun ht
    obtain ⟨s', he, hrun'⟩ := run_cons_eq_some.1 hrun
    obtain ⟨hs', halways⟩ := ih hrun' ht
    have hs := kept_of_step he hs'
    refine ⟨hs, hs, fun s'' he' => ?_⟩
    rw [he] at he'
    cases he'
    exact halways

theorem kept_iff (retained : Option StatePayload) (subscription : Bool) (es : List ConnectionEvent) :
    Always (step gatewayID startTime) Kept (init retained subscription) es ↔
      Along (step gatewayID startTime) Subscribed (init retained subscription) es := by
  have hinit : Kept (init retained subscription) := by
    intro hpassed
    cases hpassed
  refine always_iff_along (I := fun _ => True) ?_ ?_ trivial hinit
  · intro s e s' _ _
    trivial
  · intro s e s' _ hs h
    exact kept_step hs h

/-- **Commands.** In every order of the events: if the subscription is made on a lasting
connection and the session is not lost later, the gateway can be commanded in every state.
And in any run that ends connected, with `Subscribe` passed and no callback pending, the
broker has the subscription only in that case. -/
theorem commandable_iff (gatewayID : String) (startTime : ℤ) (retained : Option StatePayload)
    (subscription : Bool) (es : List ConnectionEvent) :
    (Along (step gatewayID startTime) Subscribed (init retained subscription) es →
      Always (step gatewayID startTime) Commandable (init retained subscription) es) ∧
    ∀ t, run (step gatewayID startTime) (init retained subscription) es = some t → t.connected = true →
      t.subscribe = .passed → t.callbacks = 0 → (t.subscription = true ↔
        Along (step gatewayID startTime) Subscribed (init retained subscription) es) := by
  constructor
  · intro hsub
    have hkept := (kept_iff retained subscription es).2 hsub
    exact Always.imp (fun s hs _ hpassed _ => hs hpassed) hkept
  · intro t hrun _ hpassed _
    rw [← kept_iff]
    constructor
    · exact fun ht => (always_kept_of_last hrun fun _ => ht).2
    · exact fun halways => halways.last hrun hpassed

/-- **A connection that is slower than `actuator.Manager.Run`**: `Subscribe` fails, and the
gateway is connected later without a subscription. -/
theorem late_connect_deaf :
    (run (step "GW-001" 0) (init none false) [.healthRun, .subscribe, .connect, .callback 1 true]) =
      some ⟨true, 0, true, false, false, some (onlinePayload "GW-001" 0 1), .passed, false⟩ ∧
    ¬ Commandable ⟨true, 0, true, false, false, some (onlinePayload "GW-001" 0 1), .passed, false⟩ := by
  decide +kernel

/-- The subscription is made on the first connection, and survives the second. -/
def steady : List ConnectionEvent :=
  [.connect, .healthRun, .callback 1 true, .subscribe, .subscribeAck, .lost, .connect, .callback 2 true]

theorem steady_commandable : Always (step "GW-001" 0) Commandable (init none false) steady ∧
    ∃ t, run (step "GW-001" 0) (init none false) steady = some t ∧ t.subscription = true := by
  obtain ⟨halways, hlast⟩ := commandable_iff "GW-001" 0 none false steady
  have hsub : Along (step "GW-001" 0) Subscribed (init none false) steady := by decide +kernel
  exact ⟨halways hsub, _, rfl, (hlast _ rfl rfl rfl rfl).2 hsub⟩

/-- A session that is lost when `Subscribe` has passed is not subscribed again. -/
example : (run (step "GW-001" 0) (init none false)
    [.connect, .healthRun, .callback 1 true, .subscribe, .subscribeAck, .lost, .sessionLost, .connect,
      .callback 2 true]).map (fun s => (s.connected, s.callbacks, s.subscribe, s.subscription)) =
    some (true, 0, .passed, false) := by decide +kernel

end Connection

end Gateway
