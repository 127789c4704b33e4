import IotGateway.Go.Defer
import IotGateway.Gateway.Bus
import IotGateway.Gateway.Relays

/-!
# The ways out of `run`

`run` makes its calls one after the other and defers what undoes them. It can be left at any of
them: by an error, by a panic of its own goroutine, after the signal, or with the process, which
a panic in another goroutine ends too, and then nothing that is deferred runs. From `start` on,
other goroutines write to relays between any two calls.

* `Extends`: what the HAL's calls do to the lines before the cleanup.
* `left_safe`: **however `run` is left, unless the process dies, every line that was ever an
  output is OFF, every other as it was found, no line and nothing else is kept.** Only a write
  between the two halves of `gw_hal_cleanup` can leave a line ON, or a write of libgpiod that
  fails in the first half, whose error is ignored. The process dies only if it is ended from
  outside `run`'s goroutine, or by a ticker without a positive interval.
* `stays_on`: a relay that the writes of the safe state do not reach.
* `dies_on`: a loaded configuration that dies so, with its relay ON.
-/

namespace Gateway

open Go Hal

/-- A goroutine that `run` waits for makes a ticker that panics. -/
def Config.tickersPanic (cfg : Config) : Bool :=
  (cfg.sensors.any fun s => s.enabled && (newTicker s.interval).isNone) ||
    (newTicker (heartbeatInterval cfg.gateway.heartbeatSec)).isNone

namespace Main

/-- The calls of `run`, in order, and then those it defers. -/
inductive RunCall where
  | init
  | version
  | withCancel
  | watchdogOpen
  | openDb
  | newClient
  | connect
  | notifyReady
  | newSensors
  | newActuators
  /-- the four `go` statements -/
  | start
  /-- `<-sigCh` -/
  | wait
  | notifyStopping
  | cancel
  /-- `wg.Wait` -/
  | waitGroup
  | cleanup
  | assertSafeState
  /-- `hal.AssertSafeState`, of the function that recovers -/
  | recoveredSafeState
  | deferredCancel
  | watchdogClose
  | closeDb
  | disconnect
deriving DecidableEq, Repr

/-- What `run` takes, besides the lines. -/
inductive Resource where
  | context
  | watchdog
  | db
  | client
deriving DecidableEq, Repr

/-- The call that takes it. -/
def Resource.opener : Resource → RunCall
  | .context => .withCancel
  | .watchdog => .watchdogOpen
  | .db => .openDb
  | .client => .connect

/-- The deferred call that gives it back. -/
def Resource.closer : Resource → RunCall
  | .context => .deferredCancel
  | .watchdog => .watchdogClose
  | .db => .closeDb
  | .client => .disconnect

/-- What `run` meets. A call into C does not panic. -/
structure World where
  /-- `gpiod_chip_open` succeeds -/
  opens : Bool
  grants : ℤ → Bool
  readProfile : String → Except String (List Measurement)
  openTty : String → String → Except Err ℕ
  fails : RunCall → Option String
  panics : RunCall → Bool
  /-- the process ends before the call -/
  dies : RunCall → Bool
  /-- what other goroutines write to pins before the call, by the writes that succeed -/
  writes : RunCall → List (ℤ × ℤ)
  /-- the lines to which the call can write the safe state -/
  reaches : RunCall → ℤ → Bool
  /-- what they write between the two halves of `gw_hal_cleanup` -/
  gap : List (ℤ × ℤ)
  cgo : ∀ c ∈ [RunCall.cleanup, .assertSafeState, .recoveredSafeState], panics c = false

/-- `driven` is a history: the lines that have been outputs. -/
structure Process where
  hal : Gpio
  driven : List ℤ
  held : List Resource
  started : Bool

/-- `hal.GPIOSet`s of goroutines, which go on after an error. -/
def writeAll (g : Gpio) (writes : List (ℤ × ℤ)) : Gpio :=
  writes.foldl (fun g p => (gpioSet g p.1 p.2).2) g

namespace Process

def take (s : Process) (r : Resource) : Process := { s with held := r :: s.held }

def give (s : Process) (r : Resource) : Process := { s with held := s.held.filter (· ≠ r) }

/-- What the goroutines write before the call. -/
def meanwhile (s : Process) (w : World) (c : RunCall) : Process :=
  if s.started then { s with hal := writeAll s.hal (w.writes c) } else s

def record (s : Process) : Process := { s with driven := s.driven ++ s.hal.outputs }

end Process

/-- The result of a call that reports an error under `label`. -/
def reported {α : Type} (label : String) : Except String α → CallOutcome String
  | .ok _ => .ok
  | .error err => .error (label ++ err)

namespace World

variable (w : World) (cfg : Config)

/-- What the library or the system answers. -/
def answer (c : RunCall) : Except String Unit :=
  match w.fails c with
  | none => .ok ()
  | some err => .error err

/-- `hal.Init` -/
def init (s : Process) : CallOutcome String × Process :=
  (reported "hal init: " ((wrap (s.hal.init w.opens).1).mapError Err.error),
    { s with hal := (s.hal.init w.opens).2 })

/-- `hal.WatchdogOpen` -/
def watchdogOpen (s : Process) : CallOutcome String × Process :=
  match cfg.watchdog.timeout, w.fails .watchdogOpen with
  | none, _ => (.error (Err.error ⟨gwErrInvalid⟩), s)
  | some _, some err => (.error err, s)
  | some _, none => (.ok, s.take .watchdog)

/-- `localdb.Open` -/
def openDb (s : Process) : CallOutcome String × Process :=
  match w.fails .openDb with
  | some err => (.error ("localdb: " ++ err), s)
  | none => (.ok, s.take .db)

/-- `mqttpkg.New` -/
def newClient : CallOutcome String :=
  if cfg.mqtt.broker = "" ∨ cfg.gateway.id = "" then .error "mqtt new: broker and gateway_id required"
  else .ok

/-- `actuator.NewManager` -/
def newActuators (s : Process) : CallOutcome String × Process :=
  let (result, hal) := newManager w.grants s.hal (cfg.actuators.map (·.cfg)) cfg.gateway.id
    cfg.simulation.enabled
  (reported "actuator manager: " (result.mapError ReserveError.error), { s with hal })

/-- The call itself. -/
def does (s : Process) : RunCall → CallOutcome String × Process
  | .init => w.init s
  | .version => (reported "" (w.answer .version), s)
  | .withCancel => (.ok, s.take .context)
  | .watchdogOpen => w.watchdogOpen cfg s
  | .openDb => w.openDb s
  | .newClient => (newClient cfg, s)
  | .connect => (reported "" (w.answer .connect), s.take .client)
  | .notifyReady => (reported "" (w.answer .notifyReady), s)
  | .newSensors =>
    (reported "sensor manager: " (newSensorManager w.readProfile w.openTty cfg.sensors cfg.simulation), s)
  | .newActuators => w.newActuators cfg s
  | .start => (.ok, { s with started := true })
  | .wait => (.ok, s)
  | .notifyStopping => (reported "" (w.answer .notifyStopping), s)
  | .cancel => (.ok, s.give .context)
  | .waitGroup => (if cfg.tickersPanic then .dies else .ok, s)
  | .cleanup =>
    (.ok, { s with hal := (writeAll (s.hal.tryAssertSafeState (w.reaches .cleanup)) w.gap).cleanup })
  | .assertSafeState => (.ok, { s with hal := s.hal.tryAssertSafeState (w.reaches .assertSafeState) })
  | .recoveredSafeState =>
    (.ok, { s with hal := s.hal.tryAssertSafeState (w.reaches .recoveredSafeState) })
  | .deferredCancel => (.ok, s.give .context)
  | .watchdogClose => (.ok, s.give .watchdog)
  | .closeDb => (.ok, s.give .db)
  | .disconnect => (.ok, s.give .client)

def act (c : RunCall) (s : Process) : CallOutcome String × Process :=
  let s := s.meanwhile w c
  if w.dies c then (.dies, s)
  else if w.panics c then (.panics, s)
  else ((w.does cfg s c).1, (w.does cfg s c).2.record)

end World

/-- The statements of `run`. -/
def runCalls (kernelWDTEnabled : Bool) : List (Stmt RunCall) :=
  [⟨.init, .returns, [.call .cleanup, .call .assertSafeState, .recovered .recoveredSafeState]⟩,
    ⟨.version, .ignores, []⟩,
    ⟨.withCancel, .ignores, [.call .deferredCancel]⟩] ++
  (if kernelWDTEnabled then [⟨.watchdogOpen, .skips, [.call .watchdogClose]⟩] else []) ++
  [⟨.openDb, .returns, [.call .closeDb]⟩,
    ⟨.newClient, .returns, []⟩,
    ⟨.connect, .ignores, [.call .disconnect]⟩,
    ⟨.notifyReady, .ignores, []⟩,
    ⟨.newSensors, .returns, []⟩,
    ⟨.newActuators, .returns, []⟩,
    ⟨.start, .ignores, []⟩,
    ⟨.wait, .ignores, []⟩,
    ⟨.notifyStopping, .ignores, []⟩,
    ⟨.cancel, .ignores, []⟩,
    ⟨.waitGroup, .ignores, []⟩]

/-- `run`, after `config.Load`. -/
def run (w : World) (cfg : Config) (g : Gpio) : Exit String × Process :=
  perform (w.act cfg) (runCalls cfg.watchdog.kernelWDTEnabled) ⟨g, [], [], false⟩

/-! ## The lines -/

/-- What the HAL's calls do to the lines before the cleanup: only an output line changes its level,
and none is given back. -/
structure Extends (g g' : Gpio) : Prop where
  initialized : g'.initialized = g.initialized
  idle : g.initialized = false → g'.reserved = g.reserved
  outputs : ∀ l ∈ g.outputs, l ∈ g'.outputs
  level : ∀ l ∉ g'.outputs, g'.level l = g.level l

theorem Extends.refl (g : Gpio) : Extends g g := ⟨rfl, fun _ => rfl, fun _ h => h, fun _ _ => rfl⟩

theorem Extends.trans {g g' g'' : Gpio} (h : Extends g g') (h' : Extends g' g'') : Extends g g'' where
  initialized := h'.initialized.trans h.initialized
  idle hoff := (h'.idle (h.initialized.trans hoff)).trans (h.idle hoff)
  outputs l hl := h'.outputs l (h.outputs l hl)
  level l hl := (h'.level l hl).trans (h.level l fun hl' => hl (h'.outputs l hl'))

/-- An open library stays open, a closed one keeps no line. -/
theorem Extends.closing {g g' : Gpio} {p q : Prop} (h : Extends g g') (hpq : p → q)
    (hg : g.initialized = true ∧ p ∨ g.initialized = false ∧ g.reserved = []) :
    g'.initialized = true ∧ q ∨ g'.initialized = false ∧ g'.reserved = [] := by
  rcases hg with ⟨hon, hp⟩ | ⟨hoff, hfree⟩
  · exact Or.inl ⟨h.initialized.trans hon, hpq hp⟩
  · exact Or.inr ⟨h.initialized.trans hoff, (h.idle hoff).trans hfree⟩

theorem extends_gpioSet (g : Gpio) (pin value : ℤ) : Extends g (gpioSet g pin value).2 := by
  rcases h : gpioSet g pin value with ⟨err | u, g'⟩
  · rw [gpioSet_error h]
    exact Extends.refl g
  · obtain ⟨hmem, rfl⟩ := gpioSet_ok h
    refine ⟨rfl, fun _ => rfl, fun _ hl => hl, fun l hl => ?_⟩
    refine Function.update_of_ne ?_ _ _
    rintro rfl
    exact hl hmem

theorem extends_writeAll (writes : List (ℤ × ℤ)) (g : Gpio) : Extends g (writeAll g writes) := by
  induction writes generalizing g with
  | nil => exact Extends.refl g
  | cons p writes ih => exact (extends_gpioSet g p.1 p.2).trans (ih _)

theorem extends_assertSafeState (reaches : ℤ → Bool) (g : Gpio) : Extends g (g.tryAssertSafeState reaches) :=
  ⟨rfl, fun _ => rfl, fun _ hl => hl, fun _ hl => if_neg fun h => hl h.1⟩

theorem extends_requestOutput (grants : ℤ → Bool) (g : Gpio) (pin value : ℤ) :
    Extends g (requestOutput grants g pin value).2 := by
  unfold requestOutput
  dsimp only
  unfold Gpio.requestOutput
  obtain ⟨hlevel, hinit⟩ := @Gpio.request_level grants (cInt pin) true g
  split_ifs with hoff hrange hvalue
  · exact Extends.refl g
  · exact Extends.refl g
  · exact Extends.refl g
  · have hon : g.initialized = true := by simpa using hoff
    dsimp only
    split_ifs with hok
    · -- granted: the line is an output, and has its value
      have houts := Gpio.request_outputs hok
      refine ⟨hinit, fun hno => ?_, fun l hl => houts.mem_iff.2 (List.mem_cons_of_mem _ hl), fun l hl => ?_⟩
      · rw [hon] at hno
        cases hno
      · have hne : l ≠ cInt pin := by
          rintro rfl
          exact hl (houts.mem_iff.2 List.mem_cons_self)
        exact (Function.update_of_ne hne _ _).trans (congrFun hlevel l)
    · have houts := Gpio.request_refused hok
      refine ⟨hinit, fun hno => ?_, fun l hl => houts.symm ▸ hl, fun l _ => congrFun hlevel l⟩
      rw [hon] at hno
      cases hno

theorem extends_reserve (grants : ℤ → Bool) (chs : List ActuatorChannel) (m : Manager) (g : Gpio) :
    Extends g (Manager.reserve grants m g chs).2 := by
  induction chs generalizing m g with
  | nil => exact Extends.refl g
  | cons ch chs ih =>
    unfold Manager.reserve
    split_ifs
    · exact ih m g
    · exact ih _ g
    · have hrequest := extends_requestOutput grants g ch.gpioPin ch.initial
      split
      · rename_i err g' h
        rw [h] at hrequest
        exact hrequest
      · rename_i g' h
        rw [h] at hrequest
        exact hrequest.trans (ih _ g')

/-- A line that is OFF, but for a write of the safe state that fails in the cleanup, or a write
of a goroutine that comes after it. -/
def OffBut (w : World) (g : Gpio) (l : ℤ) : Prop :=
  g.level l ≠ 0 → w.reaches .cleanup l = false ∨ ∃ p ∈ w.gap, cInt p.1 = l ∧ cInt p.2 ≠ 0

/-- A line that is OFF is switched ON by a write only. -/
theorem written_of_on (writes : List (ℤ × ℤ)) (g : Gpio) (l : ℤ) (h : g.level l = 0)
    (hon : (writeAll g writes).level l ≠ 0) : ∃ p ∈ writes, cInt p.1 = l ∧ cInt p.2 ≠ 0 := by
  induction writes generalizing g with
  | nil => exact absurd h hon
  | cons p writes ih =>
    by_cases hwrite : (gpioSet g p.1 p.2).2.level l = 0
    · obtain ⟨q, hq, hline⟩ := ih _ hwrite hon
      exact ⟨q, List.mem_cons_of_mem _ hq, hline⟩
    · -- the line has just been written
      refine ⟨p, List.mem_cons_self, ?_⟩
      rcases hset : gpioSet g p.1 p.2 with ⟨err | u, g'⟩
      · rw [hset, gpioSet_error hset] at hwrite
        exact absurd h hwrite
      · obtain ⟨-, hg'⟩ := gpioSet_ok hset
        rw [hset, hg'] at hwrite
        dsimp only at hwrite
        by_cases hl : l = cInt p.1
        · rw [hl, Function.update_self] at hwrite
          exact ⟨hl.symm, hwrite⟩
        · rw [Function.update_of_ne hl] at hwrite
          exact absurd h hwrite

theorem writeAll_outputs (writes : List (ℤ × ℤ)) (g : Gpio) : (writeAll g writes).outputs = g.outputs := by
  induction writes generalizing g with
  | nil => rfl
  | cons p writes ih => exact (ih _).trans (gpioSet_outputs g p.1 p.2).1

theorem cleanup_reserved (g : Gpio) : g.cleanup.reserved = [] := by
  unfold Gpio.reserved Gpio.cleanup
  rw [List.filterMap_map, List.filterMap_eq_nil_iff]
  intro slot _
  dsimp only [Function.comp]
  split_ifs with hline
  · rfl
  · exact Option.not_isSome_iff_eq_none.1 hline

/-- **`gw_hal_cleanup`** switches the outputs OFF that it reaches, unless they are written
meanwhile, and gives every line back. -/
theorem cleanup_spec (w : World) (g : Gpio) :
    let g' := (writeAll (g.tryAssertSafeState (w.reaches .cleanup)) w.gap).cleanup
    g'.initialized = false ∧ g'.reserved = [] ∧ (∀ l ∉ g.outputs, g'.level l = g.level l) ∧
      ∀ l ∈ g.outputs, OffBut w g' l := by
  refine ⟨rfl, cleanup_reserved _, fun l hl => ?_, fun l hl hon => ?_⟩
  · have hkeeps := (extends_writeAll w.gap (g.tryAssertSafeState (w.reaches .cleanup))).level l
    rw [writeAll_outputs] at hkeeps
    exact (hkeeps hl).trans (if_neg fun h => hl h.1)
  · cases hreaches : w.reaches .cleanup l with
    | false => exact Or.inl rfl
    | true => exact Or.inr (written_of_on w.gap _ l (Gpio.tryAssertSafeState_level hl hreaches) hon)

/-! ## The calls -/

section Ways

variable {w : World} {cfg : Config} {g : Gpio} {s s' : Process} {c : RunCall} {ds : List (Deferred RunCall)}

/-- What each call but the first and the cleanup does to the lines. -/
theorem does_extends (w : World) (cfg : Config) (hinit : c ≠ .init) (hcleanup : c ≠ .cleanup) (s : Process) :
    Extends s.hal (w.does cfg s c).2.hal := by
  cases c with
  | init => exact absurd rfl hinit
  | cleanup => exact absurd rfl hcleanup
  | newActuators => exact extends_reserve w.grants _ _ s.hal
  | assertSafeState => exact extends_assertSafeState _ s.hal
  | recoveredSafeState => exact extends_assertSafeState _ s.hal
  | watchdogOpen =>
    unfold World.does World.watchdogOpen
    dsimp only
    split
    · exact Extends.refl s.hal
    · exact Extends.refl s.hal
    · exact Extends.refl s.hal
  | openDb =>
    unfold World.does World.openDb
    dsimp only
    split
    · exact Extends.refl s.hal
    · exact Extends.refl s.hal
  | _ => exact Extends.refl s.hal

/-- What is newly held has been opened by the call. -/
theorem does_held {r : Resource} (h : r ∈ (w.does cfg s c).2.held) :
    r ∈ s.held ∨ (r.opener = c ∧
      ((w.does cfg s c).1 = .ok ∨ c = .connect ∧ ∃ err, (w.does cfg s c).1 = .error err)) := by
  have hgive : ∀ r', r ∈ (s.give r').held → r ∈ s.held := fun r' hr => List.mem_of_mem_filter hr
  have htake : ∀ r', r ∈ (s.take r').held → r = r' ∨ r ∈ s.held := fun r' hr => List.mem_cons.1 hr
  cases c with
  | withCancel =>
    rcases htake .context h with rfl | hr
    · exact Or.inr ⟨rfl, Or.inl rfl⟩
    · exact Or.inl hr
  | connect =>
    rcases htake .client h with rfl | hr
    · refine Or.inr ⟨rfl, ?_⟩
      unfold World.does
      dsimp only
      cases w.answer .connect with
      | ok u => exact Or.inl rfl
      | error err => exact Or.inr ⟨rfl, _, rfl⟩
    · exact Or.inl hr
  | watchdogOpen =>
    unfold World.does World.watchdogOpen at h ⊢
    dsimp only at h ⊢
    split at h
    · exact Or.inl h
    · exact Or.inl h
    · rcases htake .watchdog h with rfl | hr
      · exact Or.inr ⟨rfl, Or.inl rfl⟩
      · exact Or.inl hr
  | openDb =>
    unfold World.does World.openDb at h ⊢
    dsimp only at h ⊢
    split at h
    · exact Or.inl h
    · rcases htake .db h with rfl | hr
      · exact Or.inr ⟨rfl, Or.inl rfl⟩
      · exact Or.inl hr
  | cancel => exact Or.inl (hgive .context h)
  | deferredCancel => exact Or.inl (hgive .context h)
  | watchdogClose => exact Or.inl (hgive .watchdog h)
  | closeDb => exact Or.inl (hgive .db h)
  | disconnect => exact Or.inl (hgive .client h)
  | _ => exact Or.inl h

/-- A closer gives its resource back. -/
theorem does_closer (r : Resource) : r ∉ (w.does cfg s r.closer).2.held := by
  have hgive : r ∉ (s.give r).held := by
    intro hr
    exact absurd rfl (of_decide_eq_true (List.mem_filter.1 hr).2)
  cases r with
  | context => exact hgive
  | watchdog => exact hgive
  | db => exact hgive
  | client => exact hgive

theorem does_driven : (w.does cfg s c).2.driven = s.driven := by
  cases c with
  | watchdogOpen =>
    unfold World.does World.watchdogOpen
    dsimp only
    split <;> rfl
  | openDb =>
    unfold World.does World.openDb
    dsimp only
    split <;> rfl
  | _ => rfl

/-- The call is made, unless the process ends or the call panics. -/
theorem act_cases (w : World) (cfg : Config) (c : RunCall) (s : Process) :
    w.dies c = true ∧ w.act cfg c s = (.dies, s.meanwhile w c) ∨
      w.panics c = true ∧ w.act cfg c s = (.panics, s.meanwhile w c) ∨
      w.panics c = false ∧ w.act cfg c s =
        ((w.does cfg (s.meanwhile w c) c).1, (w.does cfg (s.meanwhile w c) c).2.record) := by
  unfold World.act
  dsimp only
  by_cases hdies : w.dies c = true
  · exact Or.inl ⟨hdies, if_pos hdies⟩
  · rw [if_neg hdies]
    by_cases hpanics : w.panics c = true
    · exact Or.inr (Or.inl ⟨hpanics, if_pos hpanics⟩)
    · exact Or.inr (Or.inr ⟨by simpa using hpanics, if_neg hpanics⟩)

/-! ## The invariant -/

/-- The outputs are recorded; of the lines, only those that have been outputs have changed, and
those that are no more are OFF. -/
structure Lines (w : World) (g : Gpio) (s : Process) : Prop where
  outputs : ∀ l ∈ s.hal.outputs, l ∈ s.driven
  others : ∀ l ∉ s.driven, s.hal.level l = g.level l
  driven : ∀ l ∈ s.driven, l ∈ s.hal.outputs ∨ OffBut w s.hal l

/-- What is deferred by `run`. -/
def runDeferred : List (Deferred RunCall) :=
  [.call .cleanup, .call .assertSafeState, .recovered .recoveredSafeState, .call .deferredCancel,
    .call .watchdogClose, .call .closeDb, .call .disconnect]

/-- Held, and not for a panic of the call that gives it back. -/
def Held (w : World) (s : Process) (r : Resource) : Prop := r ∈ s.held ∧ w.panics r.closer = false

/-- The lines have a cleanup to come, or have had it, and so has what is held. -/
structure Inv (w : World) (g : Gpio) (ds : List (Deferred RunCall)) (s : Process) : Prop where
  deferred : ∀ d ∈ ds, d ∈ runDeferred
  lines : Lines w g s
  cleanup : s.hal.initialized = true ∧ .call .cleanup ∈ ds ∨ s.hal.initialized = false ∧ s.hal.reserved = []
  covered : Covered (fun c r => r.closer = c) (Held w s) ds

theorem Lines.moved (h : Lines w g s)
    (hout : ∀ l ∈ s.hal.outputs, l ∈ s'.hal.outputs ∨ OffBut w s'.hal l)
    (hlevel : ∀ l ∉ s.hal.outputs, l ∉ s'.hal.outputs → s'.hal.level l = s.hal.level l)
    (hdriven : ∀ l, l ∈ s'.driven ↔ l ∈ s.driven ∨ l ∈ s'.hal.outputs) : Lines w g s' := by
  refine ⟨fun l hl => (hdriven l).2 (Or.inr hl), fun l hl => ?_, fun l hl => ?_⟩
  · have hold : l ∉ s.driven := fun hmem => hl ((hdriven l).2 (Or.inl hmem))
    have hnew : l ∉ s'.hal.outputs := fun hmem => hl ((hdriven l).2 (Or.inr hmem))
    exact (hlevel l (fun hmem => hold (h.outputs l hmem)) hnew).trans (h.others l hold)
  · by_cases hnew : l ∈ s'.hal.outputs
    · exact Or.inl hnew
    · have hold : l ∈ s.driven := ((hdriven l).1 hl).resolve_right hnew
      by_cases hbefore : l ∈ s.hal.outputs
      · exact hout l hbefore
      · -- not an output before or after: its level is what it was
        right
        intro hne
        rw [hlevel l hbefore hnew] at hne
        exact ((h.driven l hold).resolve_left hbefore) hne

theorem Lines.extends (h : Lines w g s) (hext : Extends s.hal s'.hal)
    (hdriven : ∀ l, l ∈ s'.driven ↔ l ∈ s.driven ∨ l ∈ s'.hal.outputs) : Lines w g s' :=
  h.moved (fun l hl => Or.inl (hext.outputs l hl)) (fun l _ hl => hext.level l hl) hdriven

theorem Inv.meanwhile (h : Inv w g ds s) : Inv w g ds (s.meanwhile w c) := by
  unfold Process.meanwhile
  split_ifs
  · have hext := extends_writeAll (w.writes c) s.hal
    have houts := writeAll_outputs (w.writes c) s.hal
    refine ⟨h.deferred, h.lines.extends hext fun l => ?_, hext.closing id h.cleanup, h.covered⟩
    refine ⟨Or.inl, fun hl => hl.elim id fun hout => h.lines.outputs l ?_⟩
    exact houts ▸ hout
  · exact h

theorem outputs_eq_nil {g : Gpio} (h : g.reserved = []) : g.outputs = [] := by
  refine List.eq_nil_iff_forall_not_mem.2 fun l hl => ?_
  obtain ⟨slot, hslot, hline⟩ := List.mem_filterMap.1 hl
  have hmem : l ∈ g.reserved := List.mem_filterMap.2 ⟨slot, List.mem_of_mem_filter hslot, hline⟩
  rw [h] at hmem
  exact List.not_mem_nil hmem

/-- What `hal.Init` does: the levels stay, and after a success the library is initialised. -/
theorem init_spec (s : Process) :
    (∀ l, (w.init s).2.hal.level l = s.hal.level l) ∧
      (s.hal.initialized = true → (w.init s).2 = s) ∧
      (w.init s).2.driven = s.driven ∧ (w.init s).2.held = s.held ∧
      ((w.init s).1 = .ok ∧ (w.init s).2.hal.initialized = true ∨
        (∃ err, (w.init s).1 = .error err) ∧ (w.init s).2 = s) := by
  unfold World.init Gpio.init
  split_ifs with hinit hopens
  · exact ⟨fun _ => rfl, fun _ => rfl, rfl, rfl, Or.inl ⟨rfl, hinit⟩⟩
  · exact ⟨fun _ => rfl, fun _ => rfl, rfl, rfl, Or.inr ⟨⟨_, rfl⟩, rfl⟩⟩
  · exact ⟨fun _ => rfl, fun hno => absurd hno hinit, rfl, rfl, Or.inl ⟨rfl, rfl⟩⟩

/-- What a call does to the lines, made while the library is initialised or holds none. -/
theorem Lines.does (h : Lines w g s) (hfree : s.hal.initialized = false → s.hal.reserved = []) :
    Lines w g (w.does cfg s c).2.record := by
  have hdriven : ∀ l, l ∈ (w.does cfg s c).2.record.driven ↔
      l ∈ s.driven ∨ l ∈ (w.does cfg s c).2.record.hal.outputs := by
    intro l
    unfold Process.record
    dsimp only
    rw [does_driven]
    exact List.mem_append
  by_cases hinit : c = .init
  · subst hinit
    obtain ⟨hlevel, hsame, -⟩ := init_spec (w := w) s
    refine h.moved (fun l hl => Or.inl ?_) (fun l _ _ => hlevel l) hdriven
    cases hon : s.hal.initialized with
    | false =>
      rw [outputs_eq_nil (hfree hon)] at hl
      exact absurd hl List.not_mem_nil
    | true =>
      change l ∈ (w.init s).2.hal.outputs
      rw [hsame hon]
      exact hl
  · by_cases hcleanup : c = .cleanup
    · subst hcleanup
      obtain ⟨-, -, hothers, houts⟩ := cleanup_spec w s.hal
      exact h.moved (fun l hl => Or.inr (houts l hl)) (fun l hl _ => hothers l hl) hdriven
    · exact h.extends (does_extends w cfg hinit hcleanup s) hdriven

theorem Inv.free (h : Inv w g ds s) (hoff : s.hal.initialized = false) : s.hal.reserved = [] := by
  rcases h.cleanup with ⟨hon, -⟩ | ⟨-, hfree⟩
  · rw [hoff] at hon
    cases hon
  · exact hfree

def resources : List Resource := [.context, .watchdog, .db, .client]

theorem mem_resources (r : Resource) : r ∈ resources := by
  cases r <;> decide

/-- What the statements of `run` have in common: what a call takes, it defers to give back. -/
theorem runCalls_defer : ∀ b, ∀ st ∈ runCalls b, (∀ d ∈ st.defers, d ∈ runDeferred) ∧
    (st.call = .init → st.onError = .returns ∧ .call .cleanup ∈ st.defers) ∧ st.call ≠ .cleanup ∧
      (∀ r ∈ resources, r.opener = st.call → .call r.closer ∈ st.defers) ∧
        (st.call = .connect → st.onError = .ignores) ∧ (st.call = .newActuators → st.onError = .returns) := by
  decide

/-- What the deferred calls have in common: they take nothing. -/
theorem runDeferred_callee : ∀ d ∈ runDeferred, d.callee ≠ .init ∧ ∀ r ∈ resources, r.opener ≠ d.callee := by
  decide

/-- `run` goes on after `hal.Init` only with the library initialised, and the cleanup deferred. -/
theorem init_goesOn {st : Stmt RunCall} {ds' : List (Deferred RunCall)} (hreturns : st.onError = .returns)
    (hnext : st.next ds (w.init s).1 = .goesOn ds') :
    (w.init s).2.hal.initialized = true ∧ ∀ d ∈ st.defers, d ∈ ds' := by
  obtain ⟨-, -, -, -, hspec⟩ := init_spec (w := w) s
  rcases Stmt.next_goesOn hnext with ⟨rfl, hok | hignores⟩ | ⟨-, -, hskips⟩
  · rcases hspec with ⟨-, hon⟩ | ⟨⟨err, herr⟩, -⟩
    · exact ⟨hon, fun d hd => List.mem_append_left _ (List.mem_reverse.2 hd)⟩
    · exact absurd (herr.symm.trans hok) (nomatch ·)
  · rw [hreturns] at hignores
    cases hignores
  · rw [hreturns] at hskips
    cases hskips

theorem inv_goesOn {st : Stmt RunCall} {ds' : List (Deferred RunCall)} {b : Bool} (hst : st ∈ runCalls b)
    (h : Inv w g ds s) (hnext : st.next ds (w.act cfg st.call s).1 = .goesOn ds') :
    Inv w g ds' (w.act cfg st.call s).2 := by
  obtain ⟨hdefers, hinit, hcleanup, hopener, hconnect, -⟩ := runCalls_defer b st hst
  have hs := h.meanwhile (c := st.call)
  rcases act_cases w cfg st.call s with ⟨-, hact⟩ | ⟨-, hact⟩ | ⟨-, hact⟩
  · rw [hact] at hnext
    cases hnext
  · rw [hact] at hnext
    cases hnext
  · rw [hact] at hnext ⊢
    dsimp only at hnext ⊢
    set s₁ := s.meanwhile w st.call
    refine ⟨fun d hd => ?_, hs.lines.does hs.free, ?_, ?_⟩
    · exact ((Stmt.mem_goesOn hnext d).2 hd).elim (hdefers d) (h.deferred d)
    · by_cases hc : st.call = .init
      · obtain ⟨hreturns, hmem⟩ := hinit hc
        rw [hc] at hnext ⊢
        obtain ⟨hon, hall⟩ := init_goesOn hreturns hnext
        exact Or.inl ⟨hon, hall _ hmem⟩
      · exact (does_extends w cfg hc hcleanup s₁).closing (Stmt.mem_goesOn hnext _).1 hs.cleanup
    · rcases Stmt.next_goesOn hnext with ⟨rfl, -⟩ | ⟨rfl, hok, hskips⟩
      · refine hs.covered.taken _ fun r hr => ?_
        rcases does_held hr.1 with hheld | ⟨hopens, -⟩
        · exact Or.inl ⟨hheld, hr.2⟩
        · exact Or.inr ⟨r.closer, List.mem_reverse.2 (hopener r (mem_resources r) hopens), rfl⟩
      · refine hs.covered.taken [] fun r hr => ?_
        rcases does_held hr.1 with hheld | ⟨-, hok' | ⟨hcall, -⟩⟩
        · exact Or.inl ⟨hheld, hr.2⟩
        · exact absurd hok' hok
        · rw [hconnect hcall] at hskips
          cases hskips

theorem inv_leaves {st : Stmt RunCall} {ds' : List (Deferred RunCall)} {b : Bool} (hst : st ∈ runCalls b)
    (h : Inv w g ds s) {x : Exit String} (hx : x ≠ .died)
    (hnext : st.next ds (w.act cfg st.call s).1 = .leaves x ds') : Inv w g ds' (w.act cfg st.call s).2 := by
  obtain ⟨-, hinit, hcleanup, -, hconnect, -⟩ := runCalls_defer b st hst
  have hs := h.meanwhile (c := st.call)
  rcases Stmt.next_leaves hnext with ⟨hdied, -⟩ | ⟨-, -, rfl, hfails, hwhy⟩
  · exact absurd hdied hx
  rcases act_cases w cfg st.call s with ⟨-, hact⟩ | ⟨-, hact⟩ | ⟨-, hact⟩
  · rw [hact]
    exact hs
  · rw [hact]
    exact hs
  · rw [hact] at hfails hwhy ⊢
    dsimp only at hfails hwhy ⊢
    set s₁ := s.meanwhile w st.call
    refine ⟨h.deferred, hs.lines.does hs.free, ?_, ?_⟩
    · by_cases hc : st.call = .init
      · -- it has failed, and changed nothing
        rw [hc] at hfails ⊢
        obtain ⟨-, -, -, -, ⟨hok, -⟩ | ⟨-, hsame⟩⟩ := init_spec (w := w) s₁
        · exact absurd hok hfails
        · change (w.init s₁).2.hal.initialized = true ∧ _ ∨ (w.init s₁).2.hal.initialized = false ∧
            (w.init s₁).2.hal.reserved = []
          rw [hsame]
          exact hs.cleanup
      · exact (does_extends w cfg hc hcleanup s₁).closing id hs.cleanup
    · refine hs.covered.taken [] fun r hr => ?_
      rcases does_held hr.1 with hheld | ⟨-, hok | ⟨hcall, err, herr⟩⟩
      · exact Or.inl ⟨hheld, hr.2⟩
      · exact absurd hok hfails
      · rcases hwhy with hpanics | hreturns
        · exact absurd (herr.symm.trans hpanics) (nomatch ·)
        · rw [hconnect hcall] at hreturns
          cases hreturns

theorem Inv.tail {d : Deferred RunCall} (h : Inv w g (d :: ds) s) (hkeeps : .call .cleanup ≠ d)
    (hcovered : Covered (fun c r => r.closer = c) (Held w s) ds) : Inv w g ds s where
  deferred d' hd' := h.deferred d' (List.mem_cons_of_mem _ hd')
  lines := h.lines
  cleanup := h.cleanup.imp (fun hon => ⟨hon.1, (List.mem_cons.1 hon.2).resolve_left hkeeps⟩) id
  covered := hcovered

theorem inv_passed {d : Deferred RunCall} {x : Exit String} (h : Inv w g (d :: ds) s) (hmade : d.made x = none) :
    Inv w g ds s := by
  have hd := Deferred.made_eq_none hmade
  rw [hd] at h
  exact h.tail (nomatch ·) h.covered.passed

theorem inv_made {d : Deferred RunCall} {x : Exit String} (h : Inv w g (d :: ds) s) (hmade : d.made x = some c)
    (hx : x.after (w.act cfg c s).1 ≠ .died) : Inv w g ds (w.act cfg c s).2 := by
  have hcallee := Deferred.made_eq_some hmade
  obtain ⟨hinit, hopener⟩ := runDeferred_callee d (h.deferred d List.mem_cons_self)
  rw [hcallee] at hinit hopener
  have hs := h.meanwhile (c := c)
  rcases act_cases w cfg c s with ⟨-, hact⟩ | ⟨hpanics, hact⟩ | ⟨-, hact⟩
  · rw [hact] at hx
    exact absurd rfl hx
  · rw [hact]
    refine hs.tail ?_ (hs.covered.made fun r hr => ⟨hr, fun hcloser => ?_⟩)
    · -- the cleanup does not panic
      rintro rfl
      have hc : RunCall.cleanup = c := hcallee
      rw [← hc, w.cgo .cleanup List.mem_cons_self] at hpanics
      cases hpanics
    · have hno := hr.2
      rw [hcloser, hcallee, hpanics] at hno
      cases hno
  · rw [hact]
    dsimp only
    set s₁ := s.meanwhile w c
    refine ⟨fun d' hd' => h.deferred d' (List.mem_cons_of_mem _ hd'), hs.lines.does hs.free, ?_, ?_⟩
    · by_cases hc : c = .cleanup
      · right
        subst hc
        obtain ⟨hoff, hfree, -⟩ := cleanup_spec w s₁.hal
        exact ⟨hoff, hfree⟩
      · refine (does_extends w cfg hinit hc s₁).closing (fun hon => ?_) hs.cleanup
        refine (List.mem_cons.1 hon).resolve_left ?_
        rintro rfl
        exact hc hcallee.symm
    · refine hs.covered.made fun r hr => ?_
      rcases does_held hr.1 with hheld | ⟨hopens, -⟩
      · refine ⟨⟨hheld, hr.2⟩, fun hcloser => ?_⟩
        have hmem := hr.1
        rw [hcallee] at hcloser
        rw [← hcloser] at hmem
        exact does_closer r hmem
      · exact absurd hopens (hopener r (mem_resources r))

/-! ## The pins, and what ends the process -/

theorem reported_ne_dies {α : Type} (label : String) (result : Except String α) :
    reported label result ≠ .dies := by
  cases result <;> exact (nomatch ·)

theorem does_dies (h : (w.does cfg s c).1 = .dies) : cfg.tickersPanic = true := by
  cases c with
  | init => exact absurd h (reported_ne_dies _ _)
  | version => exact absurd h (reported_ne_dies _ _)
  | connect => exact absurd h (reported_ne_dies _ _)
  | notifyReady => exact absurd h (reported_ne_dies _ _)
  | newSensors => exact absurd h (reported_ne_dies _ _)
  | newActuators => exact absurd h (reported_ne_dies _ _)
  | notifyStopping => exact absurd h (reported_ne_dies _ _)
  | watchdogOpen =>
    unfold World.does World.watchdogOpen at h
    dsimp only at h
    split at h <;> cases h
  | openDb =>
    unfold World.does World.openDb at h
    dsimp only at h
    split at h <;> cases h
  | newClient =>
    unfold World.does World.newClient at h
    dsimp only at h
    split_ifs at h
  | waitGroup =>
    unfold World.does at h
    dsimp only at h
    split_ifs at h with hpanic
    exact hpanic
  | _ => cases h

/-- What ends the process: something outside of `run`'s goroutine. -/
def Ended (w : World) (cfg : Config) : Prop := (∃ c, w.dies c = true) ∨ cfg.tickersPanic = true

theorem ended_of_dies (h : (w.act cfg c s).1 = .dies) : Ended w cfg := by
  rcases act_cases w cfg c s with ⟨hdies, -⟩ | ⟨-, hact⟩ | ⟨-, hact⟩
  · exact Or.inl ⟨c, hdies⟩
  · rw [hact] at h
    cases h
  · rw [hact] at h
    exact Or.inr (does_dies h)

/-- Outside simulation, the pins of the enabled actuators have been outputs. -/
def PinsDriven (cfg : Config) (s : Process) : Prop :=
  cfg.simulation.enabled = false → ∀ a ∈ cfg.actuators, a.enabled = true → a.gpioPin ∈ s.driven

theorem act_driven {l : ℤ} (h : l ∈ s.driven) : l ∈ (w.act cfg c s).2.driven := by
  have hsame : ∀ s : Process, (s.meanwhile w c).driven = s.driven := by
    intro s
    unfold Process.meanwhile
    split_ifs <;> rfl
  rcases act_cases w cfg c s with ⟨-, hact⟩ | ⟨-, hact⟩ | ⟨-, hact⟩
  · rw [hact]
    exact (hsame s).symm ▸ h
  · rw [hact]
    exact (hsame s).symm ▸ h
  · rw [hact]
    refine List.mem_append_left _ ?_
    rw [does_driven, hsame]
    exact h

/-- `actuator.NewManager` has got every pin. -/
theorem act_newActuators (hvalid : cfg.Valid) (h : (w.act cfg .newActuators s).1 = .ok) :
    PinsDriven cfg (w.act cfg .newActuators s).2 := by
  intro hsim a ha henabled
  rcases act_cases w cfg .newActuators s with ⟨-, hact⟩ | ⟨-, hact⟩ | ⟨-, hact⟩
  · rw [hact] at h
    cases h
  · rw [hact] at h
    cases h
  · rw [hact] at h ⊢
    dsimp only at h ⊢
    set s₁ := s.meanwhile w .newActuators
    refine List.mem_append_right _ ?_
    change reported "actuator manager: " ((newManager w.grants s₁.hal (cfg.actuators.map (·.cfg))
      cfg.gateway.id cfg.simulation.enabled).1.mapError ReserveError.error) = _ at h
    change a.gpioPin ∈ (newManager w.grants s₁.hal (cfg.actuators.map (·.cfg)) cfg.gateway.id
      cfg.simulation.enabled).2.outputs
    generalize hnew : newManager w.grants s₁.hal (cfg.actuators.map (·.cfg)) cfg.gateway.id
      cfg.simulation.enabled = result at h ⊢
    rcases result with ⟨err | m, hal⟩
    · cases h
    · rw [hsim] at hnew
      have hpins : ∀ ch ∈ cfg.actuators.map (·.cfg), 0 ≤ ch.gpioPin ∧ ch.gpioPin ≤ 53 := by
        intro ch hch
        obtain ⟨a', ha', rfl⟩ := List.mem_map.1 hch
        exact (hvalid.actuators a' ha').gpioPin
      have hids : ((cfg.actuators.map (·.cfg)).map (·.channelID)).Nodup := by
        rw [List.map_map]
        exact (List.nodup_append'.1 hvalid.channelIDs).2.1
      obtain ⟨-, -, -, hall⟩ :=
        Relays.reserve_eq (m := ⟨[], cfg.gateway.id, false, List.nodup_nil⟩) _ rfl hpins hids hnew
      refine (hall a.gpioPin (List.mem_map.2 ⟨a.cfg, List.mem_filter.2 ⟨?_, henabled⟩, rfl⟩)).2
      exact List.mem_map_of_mem ha

/-! ## The ways out -/

/-- Before the calls that are left. -/
structure Before (w : World) (cfg : Config) (g : Gpio) (rest : List (Stmt RunCall))
    (ds : List (Deferred RunCall)) (s : Process) : Prop where
  suffix : rest <:+ runCalls cfg.watchdog.kernelWDTEnabled
  inv : Inv w g ds s
  pins : (∀ st ∈ rest, st.call ≠ .newActuators) → PinsDriven cfg s

/-- On the way out. -/
def Leaving (w : World) (cfg : Config) (g : Gpio) (x : Exit String) (ds : List (Deferred RunCall))
    (s : Process) : Prop :=
  if x = .died then Ended w cfg else Inv w g ds s ∧ (x = .returned none → PinsDriven cfg s)

theorem pinsDriven_act (h : PinsDriven cfg s) : PinsDriven cfg (w.act cfg c s).2 :=
  fun hsim a ha henabled => act_driven (h hsim a ha henabled)

theorem after_eq_died {x : Exit String} {r : CallOutcome String} (hx : x ≠ .died) (h : x.after r = .died) :
    r = .dies := by
  cases r with
  | dies => rfl
  | ok => exact absurd h hx
  | error err => exact absurd h hx
  | panics => cases h

theorem after_eq_returned {x : Exit String} {r : CallOutcome String} (h : x.after r = .returned none) :
    x = .returned none := by
  cases r with
  | ok => exact h
  | error err => exact h
  | panics => cases h
  | dies => cases h

/-- The rule's premises for `run`. -/
theorem rule_run (hvalid : cfg.Valid) : Rule (w.act cfg) (Before w cfg g) (Leaving w cfg g) where
  goesOn := by
    intro st rest ds s ds' h hnext
    have hst := h.suffix.subset List.mem_cons_self
    refine ⟨(List.suffix_cons st rest).trans h.suffix, inv_goesOn hst h.inv hnext, fun hpassed => ?_⟩
    by_cases hcall : st.call = .newActuators
    · obtain ⟨-, -, -, -, -, hreturns⟩ := runCalls_defer _ st hst
      rw [hcall] at hnext ⊢
      rcases Stmt.next_goesOn hnext with ⟨-, hok | hignores⟩ | ⟨-, -, hskips⟩
      · exact act_newActuators hvalid hok
      · rw [hreturns hcall] at hignores
        cases hignores
      · rw [hreturns hcall] at hskips
        cases hskips
    · exact pinsDriven_act (h.pins (List.forall_mem_cons.2 ⟨hcall, hpassed⟩))
  leaves := by
    intro st rest ds s x ds' h hnext
    have hst := h.suffix.subset List.mem_cons_self
    unfold Leaving
    split_ifs with hx
    · rcases Stmt.next_leaves hnext with ⟨-, hdies⟩ | ⟨hno, -⟩
      · exact ended_of_dies hdies
      · exact absurd hx hno
    · refine ⟨inv_leaves hst h.inv hx hnext, fun hnone => ?_⟩
      rcases Stmt.next_leaves hnext with ⟨hdied, -⟩ | ⟨-, hno, -⟩
      · exact absurd hdied hx
      · exact absurd hnone hno
  finished := by
    intro ds s h
    exact (if_neg (nomatch ·)).mpr ⟨h.inv, fun _ => h.pins (List.forall_mem_nil _)⟩
  made := by
    intro d ds x s c hx h hmade
    unfold Leaving at h ⊢
    rw [if_neg hx] at h
    split_ifs with hx'
    · exact ended_of_dies (after_eq_died hx hx')
    · exact ⟨inv_made h.1 hmade hx', fun hnone => pinsDriven_act (h.2 (after_eq_returned hnone))⟩
  passed := by
    intro d ds x s hx h hmade
    unfold Leaving at h ⊢
    rw [if_neg hx] at h ⊢
    exact ⟨inv_passed h.1 hmade, h.2⟩
  died := by
    intro d ds s h
    unfold Leaving at h ⊢
    rw [if_pos rfl] at h ⊢
    exact h

/-- **Every way out of `run`.** Unless the process dies, the library is closed and holds no line,
every line that has been an output is OFF, but for a write of the safe state that fails in the
cleanup and a write that comes after it, every other line is as it was found, and the context, the
watchdog, the database and the client have been given back, but for a panic of the call that does
it. After the signal, that is so of the pin of each enabled actuator, outside simulation. The
process dies only of what happens outside of `run`'s goroutine. -/
theorem left_safe {raw : Config} (hload : Config.load raw = .ok cfg) (hoff : g.initialized = false)
    (hfree : g.reserved = []) :
    ((run w cfg g).1 ≠ .died → (run w cfg g).2.hal.initialized = false ∧ (run w cfg g).2.hal.reserved = [] ∧
      (∀ l ∈ (run w cfg g).2.driven, OffBut w (run w cfg g).2.hal l) ∧
      (∀ l ∉ (run w cfg g).2.driven, (run w cfg g).2.hal.level l = g.level l) ∧
      (∀ r ∈ (run w cfg g).2.held, w.panics r.closer = true) ∧
      ((run w cfg g).1 = .returned none → PinsDriven cfg (run w cfg g).2)) ∧
    ((run w cfg g).1 = .died → Ended w cfg) := by
  have hvalid : cfg.Valid := Config.valid_of_load hload
  have hstart : Before w cfg g (runCalls cfg.watchdog.kernelWDTEnabled) [] ⟨g, [], [], false⟩ := by
    refine ⟨List.suffix_rfl, ⟨fun d hd => (nomatch hd), ⟨?_, fun _ _ => rfl, fun l hl => (nomatch hl)⟩,
      Or.inr ⟨hoff, hfree⟩, fun r hr => (nomatch hr.1)⟩, fun hno => ?_⟩
    · intro l hl
      rw [outputs_eq_nil hfree] at hl
      exact hl
    · -- `newActuators` is among the calls
      have hmem : ∀ b, (⟨.newActuators, .returns, []⟩ : Stmt RunCall) ∈ runCalls b := by decide
      exact absurd rfl (hno _ (hmem _))
  have hleft := (rule_run hvalid).left hstart
  unfold Leaving at hleft
  constructor
  · intro hx
    rw [run] at hx
    rw [if_neg hx] at hleft
    obtain ⟨hinv, hpins⟩ := hleft
    have hclosed := hinv.cleanup.resolve_left fun hon => List.not_mem_nil hon.2
    have houts := outputs_eq_nil hclosed.2
    refine ⟨hclosed.1, hclosed.2, fun l hl => ?_, hinv.lines.others, fun r hr => ?_, hpins⟩
    · refine (hinv.lines.driven l hl).resolve_left fun hout => ?_
      rw [houts] at hout
      exact List.not_mem_nil hout
    · by_contra hno
      exact covered_nil hinv.covered r ⟨hr, by simpa using hno⟩
  · intro hx
    rw [run] at hx
    rw [if_pos hx] at hleft
    exact hleft

end Ways

/-! The barn's gateway: a handler switches the relay ON while `run` waits for the signal. -/

def barnWorld : World where
  opens := true
  grants _ := true
  readProfile _ := .ok Bus.thProfile
  openTty _ _ := .ok 3
  fails _ := none
  panics _ := false
  dies _ := false
  writes c := if c = .wait then [(17, 1)] else []
  reaches _ _ := true
  gap := []
  cgo _ _ := rfl

theorem barn_left_safe : (run barnWorld (barn 10).applyDefaults Gpio.off).1 = .returned none ∧
    (run barnWorld (barn 10).applyDefaults Gpio.off).2.hal.level 17 = 0 ∧
      (run barnWorld (barn 10).applyDefaults Gpio.off).2.held = [] := by
  have hload : Config.load (barn 10) = .ok (barn 10).applyDefaults := by decide +kernel
  have hreturns : (run barnWorld (barn 10).applyDefaults Gpio.off).1 = .returned none := by decide +kernel
  have hfree : Gpio.off.reserved = [] := by decide
  obtain ⟨-, -, hdriven, -, hheld, hpins⟩ := (left_safe (w := barnWorld) hload rfl hfree).1 (by
    rw [hreturns]
    exact (nomatch ·))
  refine ⟨hreturns, ?_, List.eq_nil_iff_forall_not_mem.2 fun r hr => ?_⟩
  · have hpin : (17 : ℤ) ∈ (run barnWorld (barn 10).applyDefaults Gpio.off).2.driven :=
      hpins hreturns rfl _ List.mem_cons_self rfl
    by_contra hon
    rcases hdriven 17 hpin hon with hfails | ⟨p, hp, -⟩
    · cases hfails
    · exact List.not_mem_nil hp
  · cases hheld r hr

/-- **A write that fails** on the way out: the relay's line is given back while it is ON. -/
theorem stays_on : (run { barnWorld with reaches := fun _ _ => false } (barn 10).applyDefaults Gpio.off).1 =
      .returned none ∧
    (run { barnWorld with reaches := fun _ _ => false } (barn 10).applyDefaults Gpio.off).2.hal.level 17 = 1 := by
  decide +kernel

/-- Two relays, one ON from the start, and a sensor with a negative interval. -/
def negativeRelays : Config := { Relays.twoRelays with sensors := (barn (-1)).sensors }

/-- **A panic in a goroutine** ends the process without what `run` has deferred: the relay stays ON. -/
theorem dies_on : Config.load negativeRelays = .ok negativeRelays.applyDefaults ∧
    (run barnWorld negativeRelays.applyDefaults Gpio.off).1 = .died ∧
      (run barnWorld negativeRelays.applyDefaults Gpio.off).2.hal.level 27 = 1 := by
  decide +kernel

end Main

end Gateway
