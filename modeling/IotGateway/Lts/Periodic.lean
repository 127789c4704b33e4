import IotGateway.Lts.Run

/-!
# A loop that sweeps, and sleeps

`while True: try fn() except log; sleep(interval)`: each run of `fn` reads the clock when it
begins, and ends with its commit or an exception; either way the loop sleeps and goes on.
A **sweep** by the clock reading `t` closes an item unless it is due from `t` on or later.

Time is not under the program's control. `Timely` bounds it in each state: a run lasts at
most `run`, one that is due begins within `lag`, and at most `failures` runs in a row end
before their commit.

`Sweep.closed_in_time`: **in a run of timely states, an item is open for at most
`Limits.latency` after it was due, last changed, or the loop was started, whichever came
last.** Other systems have that from a simulation.
-/

namespace Lts

/-! ## The loop -/

inductive JobPhase where
  /-- a run, since `t`; has it committed? -/
  | running (t : ℤ) (committed : Bool)
  | sleeping (wakeAt : ℤ)
deriving DecidableEq, Repr

/-- A loop. `swept` is the clock reading of the last run that committed, or the time the
loop was started; `failures` counts the runs since then that did not. -/
structure Job where
  phase : JobPhase
  swept : ℤ
  failures : ℕ
deriving DecidableEq, Repr

namespace Job

/-- The first run begins at once. -/
def start (now : ℤ) : Job := ⟨.sleeping now, now, 0⟩

/-- The loop is awake, and begins a run. -/
def begin (now : ℤ) (j : Job) : Option Job :=
  match j.phase with
  | .sleeping wakeAt => if wakeAt ≤ now then some { j with phase := .running now false } else none
  | .running .. => none

/-- The run commits: its clock reading, and the loop. -/
def commit (j : Job) : Option (ℤ × Job) :=
  match j.phase with
  | .running t false => some (t, ⟨.running t true, t, 0⟩)
  | _ => none

/-- The run returns, or raises before or after its commit. -/
def finish (interval now : ℤ) (j : Job) : Option Job :=
  match j.phase with
  | .running _ committed =>
    some ⟨.sleeping (now + interval), j.swept, if committed then j.failures else j.failures + 1⟩
  | .sleeping _ => none

end Job

/-- How long things take at most. -/
structure Limits where
  interval : ℤ
  run : ℤ
  lag : ℤ
  failures : ℕ

namespace Limits

/-- From one run's beginning to the next's. -/
def period (l : Limits) : ℤ := l.run + l.interval + l.lag

/-- From a run's clock reading to the next commit. -/
def latency (l : Limits) : ℤ := (l.failures + 1) * l.period + l.run

/-- No limit is negative. -/
structure Proper (l : Limits) : Prop where
  interval : 0 ≤ l.interval
  run : 0 ≤ l.run
  lag : 0 ≤ l.lag

end Limits

namespace Job

/-- The loop is within its limits at `now`. -/
def Timely (l : Limits) (now : ℤ) (j : Job) : Prop :=
  j.failures ≤ l.failures ∧
    match j.phase with
    | .running t _ => now ≤ t + l.run
    | .sleeping wakeAt => now ≤ wakeAt + l.lag

instance (l : Limits) (now : ℤ) (j : Job) : Decidable (j.Timely l now) := by
  unfold Timely
  split <;> infer_instance

/-- Each run that fails delays the next sweep by a period. -/
structure Paced (l : Limits) (now : ℤ) (j : Job) : Prop where
  swept : j.swept ≤ now
  running : ∀ t c, j.phase = .running t c →
    t ≤ now ∧ t ≤ j.swept + (j.failures + 1) * l.period ∧ (c = true → j.swept = t ∧ j.failures = 0)
  sleeping : ∀ w, j.phase = .sleeping w → w + l.lag ≤ j.swept + (j.failures + 1) * l.period

variable {l : Limits} {now : ℤ} {j j' : Job}

theorem paced_start (hl : l.Proper) : (start now).Paced l now where
  swept := le_refl now
  running := fun t c h => by cases h
  sleeping := by
    intro w h
    cases h
    have h1 := hl.interval
    have h2 := hl.run
    simp only [start, Limits.period]
    omega

theorem Paced.tick (h : j.Paced l now) (d : ℕ) : j.Paced l (now + d) where
  swept := by
    have := h.swept
    omega
  running := by
    intro t c hp
    obtain ⟨h1, h2, h3⟩ := h.running t c hp
    exact ⟨by omega, h2, h3⟩
  sleeping := h.sleeping

theorem Paced.begin (h : j.Paced l now) (ht : j.Timely l now) (hj : j.begin now = some j') :
    j'.Paced l now := by
  unfold Job.begin at hj
  split at hj
  · rename_i w hw
    split_ifs at hj
    cases hj
    have hdue := h.sleeping w hw
    have hawake : now ≤ w + l.lag := by
      have := ht.2
      rw [hw] at this
      exact this
    refine ⟨h.swept, ?_, fun w hp => by cases hp⟩
    intro t c hp
    cases hp
    exact ⟨le_refl now, by dsimp only; omega, fun hc => by cases hc⟩
  · cases hj

theorem commit_eq_some {t : ℤ} (hj : j.commit = some (t, j')) :
    j.phase = .running t false ∧ j' = ⟨.running t true, t, 0⟩ := by
  unfold commit at hj
  split at hj
  · rename_i t' hp
    cases hj
    exact ⟨hp, rfl⟩
  · cases hj

theorem Paced.commit (hl : l.Proper) (h : j.Paced l now) {t : ℤ} (hj : j.commit = some (t, j')) :
    j'.Paced l now := by
  obtain ⟨hp, rfl⟩ := commit_eq_some hj
  obtain ⟨hnow, -, -⟩ := h.running t false hp
  refine ⟨hnow, ?_, fun w hp => by cases hp⟩
  intro t' c hp'
  cases hp'
  have h1 := hl.interval
  have h2 := hl.run
  have h3 := hl.lag
  refine ⟨hnow, ?_, fun _ => ⟨rfl, rfl⟩⟩
  simp only [Limits.period]
  omega

theorem Paced.finish (h : j.Paced l now) (ht : j.Timely l now)
    (hj : j.finish l.interval now = some j') : j'.Paced l now := by
  unfold Job.finish at hj
  split at hj
  · rename_i t c hp
    cases hj
    obtain ⟨-, hlate, hdone⟩ := h.running t c hp
    have hrun : now ≤ t + l.run := by
      have := ht.2
      rw [hp] at this
      exact this
    refine ⟨h.swept, fun t c hp' => (by cases hp'), ?_⟩
    intro w hw
    cases hw
    cases c with
    | true =>
      obtain ⟨hswept, hf⟩ := hdone rfl
      simp only [hf, hswept, if_true, Limits.period]
      push_cast
      omega
    | false =>
      have hnext : (j.failures + 1 + 1 : ℤ) * l.period = (j.failures + 1) * l.period + l.period := by ring
      simp only [Bool.false_eq_true, if_false]
      push_cast
      rw [hnext]
      simp only [Limits.period] at hlate ⊢
      omega
  · cases hj

/-- **The last sweep was not long ago.** -/
theorem Paced.now_le (hl : l.Proper) (h : j.Paced l now) (ht : j.Timely l now) :
    now ≤ j.swept + l.latency := by
  obtain ⟨hfew, hphase⟩ := ht
  have hperiod : 0 ≤ l.period := add_nonneg (add_nonneg hl.run hl.interval) hl.lag
  have hmul : (j.failures + 1 : ℤ) * l.period ≤ (l.failures + 1) * l.period := by
    refine mul_le_mul_of_nonneg_right ?_ hperiod
    exact_mod_cast Nat.succ_le_succ hfew
  have hrun := hl.run
  unfold Limits.latency
  cases hp : j.phase with
  | running t c =>
    obtain ⟨-, hlate, -⟩ := h.running t c hp
    rw [hp] at hphase
    dsimp only at hphase
    omega
  | sleeping w =>
    have hlate := h.sleeping w hp
    rw [hp] at hphase
    dsimp only at hphase
    omega

end Job

/-! ## What is swept -/

/-- A loop, and an item that is due from `due` on, if it is open. `changed` is the time of
its last change by others, or the start of the loop. -/
structure Sweep where
  now : ℤ
  job : Job
  due : Option ℤ
  changed : ℤ
deriving DecidableEq, Repr

inductive SweepEvent where
  | tick (d : ℕ)
  /-- others open the item, close it, or move its date -/
  | change (due : Option ℤ)
  | begin
  /-- a sweep, which closes the item unless it is due later -/
  | commit (due : Option ℤ)
  | finish
deriving DecidableEq, Repr

namespace Sweep

def step (l : Limits) (s : Sweep) : SweepEvent → Option Sweep
  | .tick d => some { s with now := s.now + d }
  | .change due => some { s with due, changed := s.now }
  | .begin => (s.job.begin s.now).map fun job => { s with job }
  | .commit due => do
    let (t, job) ← s.job.commit
    if ∀ d ∈ due, t ≤ d then some { s with job, due } else none
  | .finish => (s.job.finish l.interval s.now).map fun job => { s with job }

/-- The loop is started, with the item as it is. -/
def init (now : ℤ) (due : Option ℤ) : Sweep := ⟨now, .start now, due, now⟩

/-- The loop is within its limits before and after a step. -/
def Timely (l : Limits) (s s' : Sweep) : Prop :=
  s.job.Timely l s.now ∧ s'.job.Timely l s'.now

/-- An item that the last sweep left open was not due, or changed since. -/
structure Inv (l : Limits) (s : Sweep) : Prop where
  paced : s.job.Paced l s.now
  changed : s.changed ≤ s.now
  due : ∀ d, s.due = some d → s.job.swept ≤ max d s.changed
  timely : s.job.Timely l s.now

variable {l : Limits} {s s' : Sweep}

theorem inv_step (hl : l.Proper) (hs : Inv l s) {e : SweepEvent} (h : step l s e = some s')
    (ht : Timely l s s') : Inv l s' := by
  obtain ⟨hbefore, hafter⟩ := ht
  cases e with
  | tick d =>
    cases h
    have := hs.changed
    exact ⟨hs.paced.tick d, by dsimp only; omega, hs.due, hafter⟩
  | change due =>
    cases h
    refine ⟨hs.paced, le_refl _, ?_, hafter⟩
    intro d _
    have := hs.paced.swept
    dsimp only
    omega
  | begin =>
    obtain ⟨job, hj, rfl⟩ := Option.map_eq_some_iff.1 h
    refine ⟨hs.paced.begin hbefore hj, hs.changed, ?_, hafter⟩
    have hswept : job.swept = s.job.swept := by
      unfold Job.begin at hj
      split at hj
      · split_ifs at hj
        cases hj
        rfl
      · cases hj
    intro d hd
    rw [hswept]
    exact hs.due d hd
  | commit due =>
    obtain ⟨⟨t, job⟩, hj, h⟩ := Option.bind_eq_some_iff.1 h
    dsimp only at h
    split_ifs at h with hleft
    cases h
    refine ⟨hs.paced.commit hl hj, hs.changed, ?_, hafter⟩
    obtain ⟨-, rfl⟩ := Job.commit_eq_some hj
    intro d hd
    exact le_max_of_le_left (hleft d hd)
  | finish =>
    obtain ⟨job, hj, rfl⟩ := Option.map_eq_some_iff.1 h
    refine ⟨hs.paced.finish hbefore hj, hs.changed, ?_, hafter⟩
    have hswept : job.swept = s.job.swept := by
      unfold Job.finish at hj
      split at hj
      · cases hj
        rfl
      · cases hj
    intro d hd
    rw [hswept]
    exact hs.due d hd

/-- The item is open only for a while. -/
def InTime (l : Limits) (s : Sweep) : Prop := ∀ d, s.due = some d → s.now ≤ max d s.changed + l.latency

theorem inTime_of_inv (hl : l.Proper) (hs : Inv l s) : InTime l s := by
  intro d hd
  have hlast := hs.paced.now_le hl hs.timely
  have hdue := hs.due d hd
  omega

theorem inv_init (hl : l.Proper) (now : ℤ) (due : Option ℤ) : Inv l (init now due) where
  paced := Job.paced_start hl
  changed := le_refl now
  due := fun d _ => le_max_right d now
  timely := ⟨Nat.zero_le _, by
    have := hl.lag
    simp only [init, Job.start]
    omega⟩

/-- **Closed in time**, along every run of timely states, of any system that simulates the
loop and the item. -/
theorem closed_in_time {σ ε : Type*} {step' : σ → ε → Option σ} {abs : σ → Sweep} (hl : l.Proper)
    (hsim : ∀ s e s', step' s e = some s' → ∃ e', step l (abs s) e' = some (abs s')) {s : σ}
    (hs : Inv l (abs s)) (es : List ε)
    (ht : Along step' (fun s _ s' => Timely l (abs s) (abs s')) s es) :
    Always step' (fun s => InTime l (abs s)) s es := by
  refine always_of_along (I := fun s => Inv l (abs s)) ?_ (fun _ hs => inTime_of_inv hl hs) hs ht
  intro s e s' hs h ht
  obtain ⟨e', h'⟩ := hsim s e s' h
  exact inv_step hl hs h' ht

end Sweep

end Lts
