import IotGateway.Lts.Run
import Mathlib.Data.List.Basic

/-!
# The worker's process

Three coroutines: `_main`, the consumer of the MQTT messages, and the one that tells systemd every
ten seconds that the process is alive. `_main` waits a minute for the consumer to subscribe, reports
READY, and from then on only for the signal. It looks at the consumer again when it shuts down.

* `kept_alive`: the messages to systemd are less than `WatchdogSec` apart, while the event loop is
  late by less than twenty seconds.
* `supervision`: **a process that no signal stops can come to its end exactly as long as it has not
  subscribed; and a consumer that has failed, before that or after, handles no message again.**
  After a lost connection the process stays as it is, and systemd goes on hearing from it.
-/

namespace Server

open Lts

/-- `_consume` -/
inductive Consumer where
  | connecting
  | consuming
  /-- it has raised; the task keeps the exception -/
  | failed
deriving DecidableEq, Repr

/-- `_main` -/
inductive WorkerMain where
  /-- `wait_for(ready_event.wait(), timeout=60)` -/
  | waiting
  /-- `stop.wait()` -/
  | serving
  | exited (code : ℕ)
deriving DecidableEq, Repr

/-- `arrived` and `handled` are histories: the messages of the broker, and those dispatched. -/
structure WorkerProcess (μ : Type) where
  now : ℤ
  main : WorkerMain
  /-- when `wait_for` gives up -/
  deadline : ℤ
  ready : Bool
  stop : Bool
  consumer : Consumer
  connected : Bool
  inbox : List μ
  arrived : List μ
  handled : List μ
  /-- the end of the `sleep` of `watchdog_loop` -/
  wakeAt : ℤ
  /-- the last `WATCHDOG=1`, or the start -/
  pinged : ℤ

inductive ProcessEvent (μ : Type) where
  | wait (d : ℕ)
  | subscribed
  | connectFails
  | arrive (m : μ)
  /-- one round of the consumer's loop; what `dispatch` raises is logged -/
  | dispatch
  | connectionLost
  | consumerFails
  /-- READY=1 -/
  | serve
  | giveUp
  | ping
  | signal
  /-- from `stop.wait()` to the end -/
  | shutdown
deriving DecidableEq

namespace WorkerProcess

variable {μ : Type}

/-- Seconds, in microseconds. -/
def sec (n : ℤ) : ℤ := n * 1000000

/-- `interval_sec` -/
def pingInterval : ℤ := sec 10

/-- `WatchdogSec` of the unit. -/
def watchdogSec : ℤ := sec 30

def alive (s : WorkerProcess μ) : Bool :=
  match s.main with
  | .exited _ => false
  | _ => true

/-- The tasks are created. -/
def start (now : ℤ) : WorkerProcess μ where
  now
  main := .waiting
  deadline := now + sec 60
  ready := false
  stop := false
  consumer := .connecting
  connected := false
  inbox := []
  arrived := []
  handled := []
  wakeAt := now + pingInterval
  pinged := now

def step (s : WorkerProcess μ) : ProcessEvent μ → Option (WorkerProcess μ)
  | .wait d => some { s with now := s.now + d }
  | .subscribed =>
    if s.alive = true ∧ s.consumer = .connecting then
      some { s with consumer := .consuming, connected := true, ready := true }
    else none
  | .connectFails =>
    if s.alive = true ∧ s.consumer = .connecting then some { s with consumer := .failed } else none
  | .arrive m =>
    if s.connected = true then some { s with inbox := s.inbox ++ [m], arrived := s.arrived ++ [m] } else none
  | .dispatch =>
    if s.alive = true ∧ s.consumer = .consuming then
      match s.inbox with
      | [] => none
      | m :: inbox => some { s with inbox, handled := s.handled ++ [m] }
    else none
  | .connectionLost => if s.connected = true then some { s with connected := false } else none
  | .consumerFails =>
    if s.alive = true ∧ s.consumer = .consuming ∧ s.connected = false then
      some { s with consumer := .failed }
    else none
  | .serve => if s.main = .waiting ∧ s.ready = true then some { s with main := .serving } else none
  | .giveUp =>
    if s.main = .waiting ∧ s.ready = false ∧ s.deadline ≤ s.now then
      -- `asyncio.run` cancels the tasks; the consumer's exception is dropped
      some { s with main := .exited 0, connected := false }
    else none
  | .ping =>
    if s.alive = true ∧ s.wakeAt ≤ s.now then
      some { s with wakeAt := s.now + pingInterval, pinged := s.now }
    else none
  | .signal => if s.alive = true then some { s with stop := true } else none
  | .shutdown =>
    if s.main = .serving ∧ s.stop = true then
      -- `await t` raises what the consumer has raised
      some { s with main := .exited (if s.consumer = .failed then 1 else 0), connected := false }
    else none

/-- The event loop is late by at most `lag`. -/
def InTime (lag : ℕ) (s : WorkerProcess μ) : Prop := s.alive = true → s.now ≤ s.wakeAt + lag

/-- Both states of the step are in time, and it is not the signal. -/
def Timely (lag : ℕ) (s : WorkerProcess μ) (e : ProcessEvent μ) (s' : WorkerProcess μ) : Prop :=
  InTime lag s ∧ InTime lag s' ∧ e ≠ .signal

instance (lag : ℕ) (s : WorkerProcess μ) : Decidable (InTime lag s) := by
  unfold InTime
  infer_instance

instance [DecidableEq μ] (lag : ℕ) (s : WorkerProcess μ) (e : ProcessEvent μ) (s' : WorkerProcess μ) :
    Decidable (Timely lag s e s') := by
  unfold Timely
  infer_instance

/-! ## In every run -/

structure Inv (s : WorkerProcess μ) : Prop where
  wakeAt : s.wakeAt = s.pinged + pingInterval
  serving : s.main = .serving → s.ready = true
  /-- only the deadline or the signal ends the process -/
  exited : s.alive = false → s.stop = true ∨ s.ready = false
  queue : s.arrived = s.handled ++ s.inbox

variable {s s' : WorkerProcess μ} {e : ProcessEvent μ} {lag : ℕ}

theorem inv_start (now : ℤ) : Inv (start now : WorkerProcess μ) :=
  ⟨rfl, fun h => (nomatch h), fun h => (nomatch h), rfl⟩

theorem alive_waiting (h : s.main = .waiting) : s.alive = true := by
  unfold alive
  rw [h]

theorem alive_serving (h : s.main = .serving) : s.alive = true := by
  unfold alive
  rw [h]

theorem inv_step (h : Inv s) (hstep : s.step e = some s') : Inv s' := by
  cases e with
  | wait d =>
    cases hstep
    exact ⟨h.wakeAt, h.serving, h.exited, h.queue⟩
  | subscribed =>
    obtain ⟨halive, ⟨⟩⟩ := Option.ite_none_right_eq_some.1 hstep
    refine ⟨h.wakeAt, fun _ => rfl, fun hdead => ?_, h.queue⟩
    exact absurd (halive.1.symm.trans hdead) (by decide)
  | connectFails =>
    obtain ⟨-, ⟨⟩⟩ := Option.ite_none_right_eq_some.1 hstep
    exact ⟨h.wakeAt, h.serving, h.exited, h.queue⟩
  | arrive m =>
    obtain ⟨-, ⟨⟩⟩ := Option.ite_none_right_eq_some.1 hstep
    refine ⟨h.wakeAt, h.serving, h.exited, ?_⟩
    dsimp only
    rw [h.queue, List.append_assoc]
  | dispatch =>
    obtain ⟨-, hnext⟩ := Option.ite_none_right_eq_some.1 hstep
    have hqueue := h.queue
    cases hinbox : s.inbox with
    | nil =>
      rw [hinbox] at hnext
      cases hnext
    | cons m inbox =>
      rw [hinbox] at hnext hqueue
      cases hnext
      refine ⟨h.wakeAt, h.serving, h.exited, ?_⟩
      dsimp only
      rw [hqueue, List.append_assoc]
      rfl
  | connectionLost =>
    obtain ⟨-, ⟨⟩⟩ := Option.ite_none_right_eq_some.1 hstep
    exact ⟨h.wakeAt, h.serving, h.exited, h.queue⟩
  | consumerFails =>
    obtain ⟨-, ⟨⟩⟩ := Option.ite_none_right_eq_some.1 hstep
    exact ⟨h.wakeAt, h.serving, h.exited, h.queue⟩
  | serve =>
    obtain ⟨⟨-, hready⟩, ⟨⟩⟩ := Option.ite_none_right_eq_some.1 hstep
    exact ⟨h.wakeAt, fun _ => hready, fun hdead => (nomatch hdead), h.queue⟩
  | giveUp =>
    obtain ⟨⟨-, hready, -⟩, ⟨⟩⟩ := Option.ite_none_right_eq_some.1 hstep
    exact ⟨h.wakeAt, fun hserving => (nomatch hserving), fun _ => Or.inr hready, h.queue⟩
  | ping =>
    obtain ⟨-, ⟨⟩⟩ := Option.ite_none_right_eq_some.1 hstep
    exact ⟨rfl, h.serving, h.exited, h.queue⟩
  | signal =>
    obtain ⟨-, ⟨⟩⟩ := Option.ite_none_right_eq_some.1 hstep
    exact ⟨h.wakeAt, h.serving, fun _ => Or.inl rfl, h.queue⟩
  | shutdown =>
    obtain ⟨⟨-, hstop⟩, ⟨⟩⟩ := Option.ite_none_right_eq_some.1 hstep
    exact ⟨h.wakeAt, fun hserving => (nomatch hserving), fun _ => Or.inl hstop, h.queue⟩

/-- A consumer that has failed stays so, and handles nothing. -/
theorem failed_step (h : s.consumer = .failed) (hstep : s.step e = some s') :
    s'.consumer = .failed ∧ s'.handled = s.handled := by
  cases e with
  | wait d =>
    cases hstep
    exact ⟨h, rfl⟩
  | subscribed =>
    obtain ⟨⟨-, hno⟩, -⟩ := Option.ite_none_right_eq_some.1 hstep
    exact absurd (h.symm.trans hno) (by decide)
  | dispatch =>
    obtain ⟨⟨-, hno⟩, -⟩ := Option.ite_none_right_eq_some.1 hstep
    exact absurd (h.symm.trans hno) (by decide)
  | connectFails =>
    obtain ⟨-, ⟨⟩⟩ := Option.ite_none_right_eq_some.1 hstep
    exact ⟨rfl, rfl⟩
  | consumerFails =>
    obtain ⟨-, ⟨⟩⟩ := Option.ite_none_right_eq_some.1 hstep
    exact ⟨rfl, rfl⟩
  | _ =>
    obtain ⟨-, ⟨⟩⟩ := Option.ite_none_right_eq_some.1 hstep
    exact ⟨h, rfl⟩

/-- What has been reported stays so, and no event but the signal sets `stop`. -/
theorem ready_step (hstep : s.step e = some s') : (s.ready = true → s'.ready = true) ∧
    (e ≠ .signal → s'.stop = s.stop) := by
  cases e with
  | wait d =>
    cases hstep
    exact ⟨id, fun _ => rfl⟩
  | dispatch =>
    obtain ⟨-, hnext⟩ := Option.ite_none_right_eq_some.1 hstep
    cases hinbox : s.inbox with
    | nil =>
      rw [hinbox] at hnext
      cases hnext
    | cons m inbox =>
      rw [hinbox] at hnext
      cases hnext
      exact ⟨id, fun _ => rfl⟩
  | subscribed =>
    obtain ⟨-, ⟨⟩⟩ := Option.ite_none_right_eq_some.1 hstep
    exact ⟨fun _ => rfl, fun _ => rfl⟩
  | signal =>
    obtain ⟨-, ⟨⟩⟩ := Option.ite_none_right_eq_some.1 hstep
    exact ⟨id, fun hno => absurd rfl hno⟩
  | _ =>
    obtain ⟨-, ⟨⟩⟩ := Option.ite_none_right_eq_some.1 hstep
    exact ⟨id, fun _ => rfl⟩

/-! ## With a timely event loop -/

/-- The messages to systemd come in time. -/
def Pinged (s : WorkerProcess μ) : Prop := s.alive = true → s.now < s.pinged + watchdogSec

theorem pinged_of_inTime (hlag : (lag : ℤ) < sec 20) (h : Inv s) (ht : InTime lag s) : Pinged s := by
  intro halive
  have hnow := ht halive
  have hwake := h.wakeAt
  unfold watchdogSec
  unfold pingInterval at hwake
  unfold sec at hlag hwake ⊢
  omega

theorem inTime_start (lag : ℕ) (now : ℤ) : InTime lag (start now : WorkerProcess μ) := by
  intro _
  dsimp only [start]
  unfold pingInterval sec
  omega

theorem always_inTime {es : List (ProcessEvent μ)} (h : Inv s) (ht : InTime lag s)
    (hes : Along step (Timely lag) s es) : Always step (fun t => Inv t ∧ InTime lag t) s es :=
  always_of_along (fun _ _ _ hs hstep htimely => ⟨inv_step hs.1 hstep, htimely.2.1⟩) (fun _ hs => hs)
    ⟨h, ht⟩ hes

/-- **The messages to systemd are less than `WatchdogSec` apart.** -/
theorem kept_alive (hlag : (lag : ℤ) < sec 20) (now : ℤ) {es : List (ProcessEvent μ)}
    (hes : Along step (Timely lag) (start now) es) : Always step Pinged (start now) es :=
  (always_inTime (inv_start now) (inTime_start lag now) hes).imp fun _ hs => pinged_of_inTime hlag hs.1 hs.2

/-- Time can pass, with the messages in between: `n` intervals and more. -/
theorem exists_wait {t : ℤ} (n : ℕ) (halive : s.alive = true) (ht : InTime lag s)
    (hn : t ≤ s.wakeAt + n * pingInterval) : ∃ es s', Along step (Timely lag) s es ∧
      run step s es = some s' ∧ t ≤ s'.now ∧ s'.main = s.main ∧ s'.ready = s.ready ∧ s'.deadline = s.deadline ∧
        InTime lag s' := by
  induction n generalizing s with
  | zero =>
    have hnow := ht halive
    set d := (t - s.now).toNat with hd
    have hin : InTime lag { s with now := s.now + d } := by
      intro _
      dsimp only
      push_cast at hn
      omega
    refine ⟨[.wait d], _, (along_cons_of_eq rfl).2 ⟨⟨ht, hin, (nomatch ·)⟩, trivial⟩, rfl, ?_, rfl, rfl, rfl, hin⟩
    dsimp only
    omega
  | succ n ih =>
    have hnow := ht halive
    have hpos : 0 < pingInterval := by decide
    set d := (s.wakeAt - s.now).toNat with hd
    -- to the end of the sleep, and the message
    let s₁ : WorkerProcess μ := { s with now := s.now + d }
    let s₂ : WorkerProcess μ := { s₁ with wakeAt := s₁.now + pingInterval, pinged := s₁.now }
    have hnow₁ : s₁.now = s.now + d := rfl
    have hwake₁ : s₁.wakeAt = s.wakeAt := rfl
    have hnow₂ : s₂.now = s₁.now := rfl
    have hwake₂ : s₂.wakeAt = s₁.now + pingInterval := rfl
    have hin₁ : InTime lag s₁ := fun _ => (by omega)
    have hin₂ : InTime lag s₂ := fun _ => (by omega)
    have hwake : s₁.wakeAt ≤ s₁.now := by omega
    have hping : step s₁ .ping = some s₂ := if_pos ⟨halive, hwake⟩
    have hn₂ : t ≤ s₂.wakeAt + n * pingInterval := by
      have hmul : ((n + 1 : ℕ) : ℤ) * pingInterval = n * pingInterval + pingInterval := by push_cast; ring
      rw [hmul] at hn
      omega
    obtain ⟨es, s', hes, hrun, hrest⟩ := ih (s := s₂) halive hin₂ hn₂
    refine ⟨.wait d :: .ping :: es, s', ?_, ?_, hrest⟩
    · have hwait : step s (.wait d) = some s₁ := rfl
      refine (along_cons_of_eq hwait).2 ⟨⟨ht, hin₁, (nomatch ·)⟩, ?_⟩
      exact (along_cons_of_eq hping).2 ⟨⟨hin₁, hin₂, (nomatch ·)⟩, hes⟩
    · exact run_cons_eq_some.2 ⟨s₁, rfl, run_cons_eq_some.2 ⟨s₂, hping, hrun⟩⟩

/-- **A process that has not subscribed** can come to its end, with exit code 0. -/
theorem exists_exit (h : Inv s) (ht : InTime lag s) (hready : s.ready = false) :
    ∃ es s', Along step (Timely lag) s es ∧ run step s es = some s' ∧ s'.alive = false := by
  cases hmain : s.main with
  | exited code =>
    refine ⟨[], s, trivial, rfl, ?_⟩
    unfold alive
    rw [hmain]
  | serving =>
    have hyes := h.serving hmain
    rw [hready] at hyes
    cases hyes
  | waiting =>
    have hn : s.deadline ≤ s.wakeAt + (s.deadline - s.wakeAt).toNat * pingInterval := by
      have hle : ((s.deadline - s.wakeAt).toNat : ℤ) ≤ (s.deadline - s.wakeAt).toNat * pingInterval :=
        le_mul_of_one_le_right (Int.natCast_nonneg _) (by decide)
      omega
    obtain ⟨es, s', hes, hrun, hnow, hmain', hready', hdeadline, hin⟩ :=
      exists_wait _ (alive_waiting hmain) ht hn
    rw [← hdeadline] at hnow
    have hgive : step s' .giveUp = some { s' with main := .exited 0, connected := false } :=
      if_pos ⟨hmain'.trans hmain, hready'.trans hready, hnow⟩
    refine ⟨es ++ [.giveUp], _, ?_, run_append_eq_some.2 ⟨s', hrun, run_cons_eq_some.2 ⟨_, hgive, rfl⟩⟩, rfl⟩
    refine Along.append hrun hes ((along_cons_of_eq hgive).2 ⟨⟨hin, ?_, (nomatch ·)⟩, trivial⟩)
    exact fun hdead => (nomatch hdead)

/-- In a timely run, what does not depend on the signal stays. -/
theorem ready_run {es : List (ProcessEvent μ)} (hes : Along step (Timely lag) s es)
    (hstop : s.stop = false) (hrun : run step s es = some s') :
    s'.stop = false ∧ (s.ready = true → s'.ready = true) := by
  have hkeeps : ∀ t e t', (t.stop = false ∧ (s.ready = true → t.ready = true)) → step t e = some t' →
      Timely (μ := μ) lag t e t' → t'.stop = false ∧ (s.ready = true → t'.ready = true) := by
    rintro t e t' ⟨hno, hready⟩ hstep ⟨-, -, hsignal⟩
    obtain ⟨hmono, hsame⟩ := ready_step hstep
    exact ⟨(hsame hsignal).trans hno, fun hs => hmono (hready hs)⟩
  exact (always_of_along hkeeps (fun _ ht => ht) ⟨hstop, id⟩ hes).last hrun

theorem failed_run {es : List (ProcessEvent μ)} (h : s.consumer = .failed) (hrun : run step s es = some s') :
    s'.consumer = .failed ∧ s'.handled = s.handled := by
  have hkeeps : ∀ t e t', (t.consumer = .failed ∧ t.handled = s.handled) → step t e = some t' →
      t'.consumer = .failed ∧ t'.handled = s.handled := by
    rintro t e t' ⟨hfailed, hhandled⟩ hstep
    obtain ⟨hfailed', hsame⟩ := failed_step hfailed hstep
    exact ⟨hfailed', hsame.trans hhandled⟩
  exact (always_of_inv hkeeps ⟨h, rfl⟩).last hrun

/-- **What the supervision sees.** In every run without the signal whose event loop is late by less
than twenty seconds, systemd hears from the process in time, and the messages are handled in the
order of their arrival. The process can come to its end if and only if the consumer has never
subscribed; and when the consumer has failed, no run whatsoever handles a message again. -/
theorem supervision (hlag : (lag : ℤ) < sec 20) {now : ℤ} {es : List (ProcessEvent μ)}
    (hes : Along step (Timely lag) (start now) es) (hrun : run step (start now) es = some s) :
    Pinged s ∧ s.arrived = s.handled ++ s.inbox ∧
      (s.ready = false ↔ ∃ es' s', Along step (Timely lag) s es' ∧ run step s es' = some s' ∧
        s'.alive = false) ∧
      (s.consumer = .failed → ∀ es' s', run step s es' = some s' → s'.handled = s.handled) := by
  obtain ⟨hinv, hin⟩ := (always_inTime (inv_start now) (inTime_start lag now) hes).last hrun
  obtain ⟨hstop, -⟩ := ready_run hes rfl hrun
  refine ⟨pinged_of_inTime hlag hinv hin, hinv.queue, ⟨exists_exit hinv hin, ?_⟩, ?_⟩
  · rintro ⟨es', s', hes', hrun', hdead⟩
    obtain ⟨hinv', -⟩ := (always_inTime hinv hin hes').last hrun'
    obtain ⟨hstop', hready⟩ := ready_run hes' hstop hrun'
    by_contra hno
    have hyes := hready (by simpa using hno)
    rcases hinv'.exited hdead with hstopped | hnot
    · rw [hstop'] at hstopped
      cases hstopped
    · rw [hyes] at hnot
      cases hnot
  · exact fun hfailed es' s' hrun' => (failed_run hfailed hrun').2

/-! The connection is lost after READY, when one message has been handled. -/

def lostConnection : List (ProcessEvent ℕ) :=
  [.wait 500000, .subscribed, .serve, .arrive 1, .dispatch, .connectionLost, .consumerFails]

theorem lost_supervision : ∃ s, run step (start 0) lostConnection = some s ∧ s.main = .serving ∧
    Pinged s ∧ s.handled = [1] ∧ ¬ (∃ es' s', Along step (Timely 1000000) s es' ∧ run step s es' = some s' ∧
      s'.alive = false) ∧ ∀ es' s', run step s es' = some s' → s'.handled = [1] := by
  have hes : Along step (Timely 1000000) (start 0) lostConnection := by decide
  obtain ⟨hpinged, -, hends, hfailed⟩ := supervision (by decide) hes rfl
  refine ⟨_, rfl, rfl, hpinged, rfl, fun hend => ?_, fun es' s' hrun' => hfailed rfl es' s' hrun'⟩
  exact absurd (hends.2 hend) (by decide)

end WorkerProcess

end Server
