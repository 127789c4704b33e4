import IotGateway.Gateway.Startup
import IotGateway.Go.Ticker
import IotGateway.Lts.Run

/-!
# The kernel's watchdog

`WatchdogOpen` starts a count in the kernel, each `WatchdogKick` starts it anew, and when it
runs out the machine is reset. A goroutine kicks at the ticks of its ticker, until `run` returns
and cancels its context; `WatchdogClose` ends the count, but comes only after everything that
`run` waits for. A process that dies leaves the count running.

* `never_fires`, `fires_late`: what a run comes to within given bounds, and the run that uses
  them up.
* `crash_answered`: a dead process is followed by a reset.
* `watchdog_exact`: **on any configuration, no run within the bounds ends in a reset, exactly
  when the delay of the first tick, the ticks up to the first kick that works, its delay and the
  shutdown together are shorter than the timeout**, if a tick lags by less than the interval and
  `V` is written; and no crash goes without one.
-/

namespace Gateway

open Go Lts

/-- `kernelWDTLoop` -/
inductive KickLoop where
  /-- the goroutine has not made its ticker -/
  | starting
  | ticking (ticker : Ticker)
  | returned
deriving DecidableEq, Repr

/-- The device, its goroutine and `run`. `restarted` is when the count was last started, and
`failed` the number of kicks since then. -/
structure Watchdog where
  now : ℤ
  counting : Bool
  restarted : ℤ
  /-- the count has run out -/
  fired : Bool
  loop : KickLoop
  failed : ℕ
  /-- `run` returns: with an error, after the signal, or by a panic -/
  leaving : Option ℤ
  /-- the process dies without its deferred calls -/
  crashed : Option ℤ
deriving DecidableEq, Repr

inductive WatchdogEvent where
  | wait (d : ℕ)
  | makeTicker
  /-- a tick, and whether the `ioctl` succeeds -/
  | kick (ok : Bool)
  | leave
  | loopReturns
  /-- `WatchdogClose`, and whether its `V` is written -/
  | close (written : Bool)
  | crash
deriving DecidableEq, Repr

namespace Watchdog

variable (interval timeout : ℤ)

/-- After the `select` of the loop, a tick and the cancelled context are both possible. -/
def step (s : Watchdog) : WatchdogEvent → Option Watchdog
  | .wait d => some { s with
      now := s.now + d
      fired := s.fired || (s.counting && decide (s.restarted + timeout ≤ s.now + d)) }
  | .makeTicker =>
    if s.crashed = none ∧ s.loop = .starting then
      some { s with loop := .ticking (.new interval s.now) }
    else none
  | .kick ok =>
    match s.loop with
    | .ticking ticker =>
      if s.crashed = none then
        (ticker.receive s.now).map fun ticker =>
          if ok then { s with loop := .ticking ticker, restarted := s.now, failed := 0 }
          else { s with loop := .ticking ticker, failed := s.failed + 1 }
      else none
    | _ => none
  | .leave =>
    if s.crashed = none ∧ s.leaving = none then some { s with leaving := some s.now } else none
  | .loopReturns =>
    if s.crashed = none ∧ s.leaving.isSome = true then some { s with loop := .returned } else none
  | .close written =>
    if s.crashed = none ∧ s.leaving.isSome = true then
      some { s with counting := s.counting && !written }
    else none
  | .crash => if s.crashed = none then some { s with crashed := some s.now } else none

/-- `WatchdogOpen` has returned. -/
def start (now : ℤ) : Watchdog := ⟨now, true, now, false, .starting, 0, none, none⟩

/-! ## Bounds -/

/-- How long things take at most, and how many kicks in a row may fail. -/
structure Bounds where
  /-- from `WatchdogOpen` to the ticker -/
  boot : ℕ
  /-- from a tick to its kick -/
  lag : ℕ
  failures : ℕ
  /-- from the end of `run` to `WatchdogClose` -/
  shutdown : ℕ

/-- The longest count. -/
def Bounds.longest (b : Bounds) : ℤ := b.boot + (b.failures + 1) * interval + b.lag + b.shutdown

/-- The process lives, and is in time. -/
structure InTime (b : Bounds) (s : Watchdog) : Prop where
  alive : s.crashed = none
  failed : s.failed ≤ b.failures
  starting : s.leaving = none → s.loop = .starting → s.now ≤ s.restarted + b.boot
  ticking : s.leaving = none → ∀ ticker, s.loop = .ticking ticker → s.now ≤ ticker.due + b.lag
  closing : s.counting = true → ∀ t, s.leaving = some t → s.now ≤ t + b.shutdown

/-- Both states of the step are in time, and `V` is written. -/
def Timely (b : Bounds) (s : Watchdog) (e : WatchdogEvent) (s' : Watchdog) : Prop :=
  InTime b s ∧ InTime b s' ∧ e ≠ .close false

variable {interval timeout} {b : Bounds} {s s' : Watchdog} {e : WatchdogEvent}

theorem step_kick {ok : Bool} (h : s.step interval timeout (.kick ok) = some s') : ∃ ticker ticker',
    s.loop = .ticking ticker ∧ s.crashed = none ∧ ticker.receive s.now = some ticker' ∧
      s' = if ok then { s with loop := .ticking ticker', restarted := s.now, failed := 0 }
        else { s with loop := .ticking ticker', failed := s.failed + 1 } := by
  unfold step at h
  dsimp only at h
  split at h
  · rename_i ticker hloop
    by_cases hcrashed : s.crashed = none
    · rw [if_pos hcrashed] at h
      obtain ⟨ticker', hreceive, heq⟩ := Option.map_eq_some_iff.1 h
      exact ⟨ticker, ticker', hloop, hcrashed, hreceive, heq.symm⟩
    · rw [if_neg hcrashed] at h
      cases h
  · cases h

/-! ## Within the bounds -/

/-- While `run` goes on, the next tick is due early enough; when it returned, it was. -/
structure Inv (interval : ℤ) (b : Bounds) (s : Watchdog) : Prop where
  fired : s.fired = false
  ticker : ∀ ticker, s.loop = .ticking ticker → ticker.interval = interval
  returned : s.loop = .returned → s.leaving ≠ none
  due : s.leaving = none → ∀ ticker, s.loop = .ticking ticker →
    ticker.due ≤ s.restarted + b.boot + (s.failed + 1) * interval
  left : ∀ t, s.leaving = some t → t ≤ s.restarted + b.boot + (b.failures + 1) * interval + b.lag
  restarted : s.restarted ≤ s.now

/-- How long the count is while `run` goes on. -/
theorem now_le (hpos : 0 < interval) (h : Inv interval b s) (ht : InTime b s) (hleaving : s.leaving = none) :
    s.now ≤ s.restarted + b.boot + (b.failures + 1) * interval + b.lag := by
  have hfailed : ((s.failed : ℤ) + 1) * interval ≤ (b.failures + 1) * interval :=
    Int.mul_le_mul_of_nonneg_right (by exact_mod_cast Nat.succ_le_succ ht.failed) hpos.le
  have hnonneg : 0 ≤ ((b.failures : ℤ) + 1) * interval := by positivity
  cases hloop : s.loop with
  | starting =>
    have hstarting := ht.starting hleaving hloop
    omega
  | ticking ticker =>
    have hdue := h.due hleaving ticker hloop
    have hticking := ht.ticking hleaving ticker hloop
    omega
  | returned => exact absurd hleaving (h.returned hloop)

/-- **Nothing takes longer than the longest count.** -/
theorem now_lt (hpos : 0 < interval) (hbound : b.longest interval < timeout) (h : Inv interval b s)
    (ht : InTime b s) (hcounting : s.counting = true) : s.now < s.restarted + timeout := by
  unfold Bounds.longest at hbound
  cases hleaving : s.leaving with
  | some t =>
    have hleft := h.left t hleaving
    have hclosing := ht.closing hcounting t hleaving
    omega
  | none =>
    have hnow := now_le hpos h ht hleaving
    omega

/-- **One step.** -/
theorem inv_step (hpos : 0 < interval) (hlag : (b.lag : ℤ) < interval) (hbound : b.longest interval < timeout)
    (h : Inv interval b s) (hstep : s.step interval timeout e = some s') (ht : Timely b s e s') :
    Inv interval b s' := by
  obtain ⟨hin, hin', hclose⟩ := ht
  cases e with
  | wait d =>
    cases hstep
    have hinv : ∀ fired, fired = false → Inv interval b { s with now := s.now + d, fired := fired } := by
      intro fired hfired
      refine ⟨hfired, h.ticker, h.returned, h.due, h.left, ?_⟩
      have hrestarted := h.restarted
      dsimp only
      omega
    refine hinv _ ?_
    rw [h.fired, Bool.false_or]
    by_cases hcounting : s.counting = true
    · have hin : InTime b { s with now := s.now + d, fired := false } :=
        ⟨hin'.alive, hin'.failed, hin'.starting, hin'.ticking, hin'.closing⟩
      have hlt := now_lt hpos hbound (hinv _ rfl) hin hcounting
      dsimp only at hlt
      simp only [Bool.and_eq_false_iff, decide_eq_false_iff_not, not_le]
      exact .inr hlt
    · simp [hcounting]
  | makeTicker =>
    simp only [step] at hstep
    split_ifs at hstep with hstart
    cases hstep
    refine ⟨h.fired, ?_, fun hret => (by cases hret), ?_, h.left, h.restarted⟩
    · intro ticker hloop
      cases hloop
      rfl
    · intro hleaving ticker hloop
      cases hloop
      have hboot := hin.starting hleaving hstart.2
      have hfailed : (0 : ℤ) ≤ s.failed * interval := by positivity
      have hmul : ((s.failed : ℤ) + 1) * interval = s.failed * interval + interval := by ring
      dsimp only [Ticker.new]
      rw [hmul]
      omega
  | kick ok =>
    obtain ⟨ticker, ticker', hloop, -, hreceive, rfl⟩ := step_kick hstep
    have hinterval := h.ticker ticker hloop
    obtain ⟨hdue, -⟩ := Ticker.receive_eq_some hreceive
    have hsame : ticker'.interval = interval := by
      obtain ⟨-, rfl⟩ := Ticker.receive_eq_some hreceive
      exact hinterval
    cases ok with
    | true =>
      rw [if_pos rfl]
      refine ⟨h.fired, ?_, fun hret => (by cases hret), ?_, ?_, le_rfl⟩
      · intro t ht
        cases ht
        exact hsame
      · intro hleaving t ht
        cases ht
        obtain ⟨-, hnext⟩ := Ticker.receive_due (hinterval ▸ hpos) hreceive
        push_cast
        omega
      · intro t hleaving
        have hleft := h.left t hleaving
        have hrestarted := h.restarted
        dsimp only
        omega
    | false =>
      rw [if_neg (by decide)]
      refine ⟨h.fired, ?_, fun hret => (by cases hret), ?_, h.left, h.restarted⟩
      · intro t ht
        cases ht
        exact hsame
      · intro hleaving t ht
        cases ht
        have hlate := hin.ticking hleaving ticker hloop
        have hnext := Ticker.receive_next hreceive (by omega)
        have hold := h.due hleaving ticker hloop
        rw [hnext]
        dsimp only
        push_cast
        have hmul : ((s.failed : ℤ) + 1 + 1) * interval = (s.failed + 1) * interval + interval := by ring
        rw [hmul]
        omega
  | leave =>
    simp only [step] at hstep
    split_ifs at hstep with hleave
    cases hstep
    refine ⟨h.fired, h.ticker, fun _ => (by simp), fun hno => (by cases hno), ?_, h.restarted⟩
    intro t ht
    cases ht
    exact now_le hpos h hin hleave.2
  | loopReturns =>
    simp only [step] at hstep
    split_ifs at hstep with hleave
    cases hstep
    refine ⟨h.fired, fun t ht => (by cases ht), ?_, fun _ t ht => (by cases ht), h.left, h.restarted⟩
    intro _ hnone
    rw [hnone] at hleave
    simp at hleave
  | close written =>
    simp only [step] at hstep
    split_ifs at hstep with hleave
    cases hstep
    exact ⟨h.fired, h.ticker, h.returned, h.due, h.left, h.restarted⟩
  | crash =>
    simp only [step] at hstep
    split_ifs at hstep
    cases hstep
    exact ⟨h.fired, h.ticker, h.returned, h.due, h.left, h.restarted⟩

/-- **Within the bounds** the count never runs out, if it is longer than the longest count. -/
theorem never_fires (hpos : 0 < interval) (hlag : (b.lag : ℤ) < interval) (hbound : b.longest interval < timeout)
    (now : ℤ) {es : List WatchdogEvent} (hes : Along (step interval timeout) (Timely b) (start now) es) :
    Always (step interval timeout) (fun s => s.fired = false) (start now) es := by
  have hinit : Inv interval b (start now) :=
    ⟨rfl, fun _ h => (by cases h), fun h => (by cases h), fun _ _ h => (by cases h),
      fun _ h => (by cases h), le_rfl⟩
  have hstep : ∀ s e s', Inv interval b s → step interval timeout s e = some s' → Timely b s e s' →
      Inv interval b s' := fun s e s' hs he ht => inv_step hpos hlag hbound hs he ht
  exact always_of_along hstep (fun s hs => hs.fired) hinit hes

/-! ## The run that uses the bounds up -/

/-- So many failing kicks, each at its tick. -/
def failing (interval : ℤ) (n : ℕ) : List WatchdogEvent :=
  (List.replicate n [.wait interval.toNat, .kick false]).flatten

def slowest (interval : ℤ) (b : Bounds) : List WatchdogEvent :=
  [.wait b.boot, .makeTicker] ++ (failing interval b.failures ++
    [.wait (interval.toNat + b.lag), .leave, .wait b.shutdown])

theorem inTime_of_ticking {ticker : Ticker} (hcrashed : s.crashed = none) (hleaving : s.leaving = none)
    (hfailed : s.failed ≤ b.failures) (hloop : s.loop = .ticking ticker) (hnow : s.now ≤ ticker.due + b.lag) :
    InTime b s where
  alive := hcrashed
  failed := hfailed
  starting _ hstarting := by
    rw [hloop] at hstarting
    cases hstarting
  ticking _ ticker' hloop' := by
    rw [hloop] at hloop'
    cases hloop'
    exact hnow
  closing _ t ht := by
    rw [hleaving] at ht
    cases ht

/-- The next tick is a whole interval away, and `n` kicks have failed. -/
structure Ticking (interval : ℤ) (n : ℕ) (s : Watchdog) : Prop where
  counting : s.counting = true
  leaving : s.leaving = none
  crashed : s.crashed = none
  failed : s.failed = n
  loop : s.loop = .ticking ⟨interval, s.now + interval⟩

theorem Ticking.inTime (hpos : 0 < interval) {n : ℕ} (h : Ticking interval n s) (hn : n ≤ b.failures) :
    InTime b s :=
  inTime_of_ticking h.crashed h.leaving (h.failed ▸ hn) h.loop (by dsimp only; omega)

/-- The failing kicks are in time. -/
theorem run_failing (hpos : 0 < interval) (k : ℕ) : ∀ {n : ℕ} {s : Watchdog}, Ticking interval n s →
    n + k ≤ b.failures → ∃ s', run (step interval timeout) s (failing interval k) = some s' ∧
      Along (step interval timeout) (Timely b) s (failing interval k) ∧ Ticking interval (n + k) s' ∧
      s'.restarted = s.restarted ∧ s'.now = s.now + k * interval := by
  induction k with
  | zero =>
    intro n s h _
    exact ⟨s, rfl, trivial, h, rfl, by simp⟩
  | succ k ih =>
    intro n s h hk
    have htoNat : (interval.toNat : ℤ) = interval := Int.toNat_of_nonneg hpos.le
    obtain ⟨s₁, hwait, hnow₁, hsame₁⟩ : ∃ s₁, step interval timeout s (.wait interval.toNat) = some s₁ ∧
        s₁.now = s.now + interval ∧ s₁ = { s with now := s₁.now, fired := s₁.fired } := by
      refine ⟨_, rfl, ?_, rfl⟩
      dsimp only
      rw [htoNat]
    have hloop₁ : s₁.loop = .ticking ⟨interval, s₁.now⟩ := by
      rw [hsame₁, hnow₁]
      exact h.loop
    have hcrashed₁ : s₁.crashed = none := by rw [hsame₁]; exact h.crashed
    have hleaving₁ : s₁.leaving = none := by rw [hsame₁]; exact h.leaving
    have hfailed₁ : s₁.failed = n := by rw [hsame₁]; exact h.failed
    have hin₁ : InTime b s₁ :=
      inTime_of_ticking hcrashed₁ hleaving₁ (by omega) hloop₁ (by dsimp only; omega)
    -- the tick is due now, and the next one an interval later
    have hreceive : (⟨interval, s₁.now⟩ : Ticker).receive s₁.now = some ⟨interval, s₁.now + interval⟩ := by
      simp [Ticker.receive]
    obtain ⟨s₂, hkick, hsame₂⟩ : ∃ s₂, step interval timeout s₁ (.kick false) = some s₂ ∧
        s₂ = { s₁ with loop := .ticking ⟨interval, s₁.now + interval⟩, failed := s₁.failed + 1 } := by
      refine ⟨_, ?_, rfl⟩
      simp only [step, hloop₁]
      rw [if_pos hcrashed₁, hreceive]
      rfl
    have h₂ : Ticking interval (n + 1) s₂ := by
      rw [hsame₂]
      refine ⟨?_, hleaving₁, hcrashed₁, by rw [← hfailed₁], rfl⟩
      dsimp only
      rw [hsame₁]
      exact h.counting
    obtain ⟨s', hrun, halong, hticking, hrestarted, hnow⟩ := ih h₂ (by omega)
    refine ⟨s', ?_, ?_, ?_, ?_, ?_⟩
    · have hsplit : failing interval (k + 1) = [.wait interval.toNat, .kick false] ++ failing interval k := rfl
      rw [hsplit, run_append_eq_some]
      exact ⟨s₂, by simp [run, hwait, hkick], hrun⟩
    · have hin₂ : InTime b s₂ := h₂.inTime hpos (by omega)
      have hwaited : Timely b s (.wait interval.toNat) s₁ := ⟨h.inTime hpos (by omega), hin₁, by simp⟩
      have hkicked : Timely b s₁ (.kick false) s₂ := ⟨hin₁, hin₂, by simp⟩
      exact (along_cons_of_eq hwait).2 ⟨hwaited, (along_cons_of_eq hkick).2 ⟨hkicked, halong⟩⟩
    · rw [show n + (k + 1) = n + 1 + k by omega]
      exact hticking
    · rw [hrestarted, hsame₂, hsame₁]
    · rw [hnow, hsame₂]
      dsimp only
      rw [hnow₁]
      push_cast
      ring

/-- **The slowest run** is within the bounds, and as long as the longest count. -/
theorem fires_late (hpos : 0 < interval) (hbound : timeout ≤ b.longest interval) (now : ℤ) :
    ∃ s, run (step interval timeout) (start now) (slowest interval b) = some s ∧ s.fired = true ∧
      Along (step interval timeout) (Timely b) (start now) (slowest interval b) := by
  have htoNat : (interval.toNat : ℤ) = interval := Int.toNat_of_nonneg hpos.le
  -- the first ticker
  obtain ⟨s₁, hboot, hsame₁⟩ : ∃ s₁, step interval timeout (start now) (.wait b.boot) = some s₁ ∧
      s₁ = { start now with now := now + b.boot, fired := s₁.fired } := ⟨_, rfl, rfl⟩
  have hloop₁ : s₁.loop = .starting := by rw [hsame₁]; rfl
  have hcrashed₁ : s₁.crashed = none := by rw [hsame₁]; rfl
  obtain ⟨s₂, hmake, hsame₂⟩ : ∃ s₂, step interval timeout s₁ .makeTicker = some s₂ ∧
      s₂ = { s₁ with loop := .ticking (.new interval s₁.now) } := by
    refine ⟨_, ?_, rfl⟩
    simp only [step]
    rw [if_pos ⟨hcrashed₁, hloop₁⟩]
  have h₂ : Ticking interval 0 s₂ := by
    rw [hsame₂, hsame₁]
    exact ⟨rfl, rfl, rfl, rfl, rfl⟩
  have hin₀ : InTime b (start now) := by
    refine ⟨rfl, Nat.zero_le _, fun _ _ => ?_, fun _ _ h => (by cases h), fun _ _ h => (by cases h)⟩
    simp [start]
  have hin₁ : InTime b s₁ := by
    rw [hsame₁]
    exact ⟨rfl, Nat.zero_le _, fun _ _ => le_rfl, fun _ _ h => (by cases h), fun _ _ h => (by cases h)⟩
  have hin₂ : InTime b s₂ := h₂.inTime hpos (Nat.zero_le _)
  -- the failing kicks
  obtain ⟨s₃, hrun, halong, h₃, hrestarted, hnow₃⟩ :=
    @run_failing interval timeout b hpos b.failures 0 s₂ h₂ (by omega)
  have hin₃ : InTime b s₃ := h₃.inTime hpos (by omega)
  have hrestarted₃ : s₃.restarted = now := by rw [hrestarted, hsame₂, hsame₁]; rfl
  have hnow₂ : s₂.now = now + b.boot := by rw [hsame₂, hsame₁]
  -- the last tick is never served, since `run` returns
  obtain ⟨s₄, hlast, hsame₄⟩ : ∃ s₄, step interval timeout s₃ (.wait (interval.toNat + b.lag)) = some s₄ ∧
      s₄ = { s₃ with now := s₃.now + (interval.toNat + b.lag : ℕ), fired := s₄.fired } := ⟨_, rfl, rfl⟩
  have hcrashed₄ : s₄.crashed = none := by rw [hsame₄]; exact h₃.crashed
  have hleaving₄ : s₄.leaving = none := by rw [hsame₄]; exact h₃.leaving
  have hloop₄ : s₄.loop = .ticking ⟨interval, s₃.now + interval⟩ := by rw [hsame₄]; exact h₃.loop
  have hfailed₄ : s₄.failed = b.failures := by rw [hsame₄]; exact h₃.failed.trans (Nat.zero_add _)
  have hnow₄ : s₄.now = s₃.now + interval + b.lag := by
    rw [hsame₄]
    dsimp only
    push_cast
    rw [htoNat, add_assoc]
  have hin₄ : InTime b s₄ := inTime_of_ticking hcrashed₄ hleaving₄ hfailed₄.le hloop₄ hnow₄.le
  obtain ⟨s₅, hleave, hsame₅⟩ : ∃ s₅, step interval timeout s₄ .leave = some s₅ ∧
      s₅ = { s₄ with leaving := some s₄.now } := by
    refine ⟨_, ?_, rfl⟩
    simp only [step]
    rw [if_pos ⟨hcrashed₄, hleaving₄⟩]
  have hin₅ : InTime b s₅ := by
    rw [hsame₅]
    refine ⟨hcrashed₄, hfailed₄.le, fun h => (by cases h), fun h => (by cases h), fun _ t ht => ?_⟩
    cases ht
    dsimp only
    omega
  obtain ⟨s₆, hclose, hsame₆, hfired⟩ : ∃ s₆, step interval timeout s₅ (.wait b.shutdown) = some s₆ ∧
      s₆ = { s₅ with now := s₅.now + b.shutdown, fired := s₆.fired } ∧
      s₆.fired = (s₅.fired || (s₅.counting && decide (s₅.restarted + timeout ≤ s₅.now + b.shutdown))) :=
    ⟨_, rfl, rfl, rfl⟩
  have hin₆ : InTime b s₆ := by
    rw [hsame₆, hsame₅]
    refine ⟨hcrashed₄, hfailed₄.le, fun h => (by cases h), fun h => (by cases h), fun _ t ht => ?_⟩
    cases ht
    exact le_rfl
  refine ⟨s₆, ?_, ?_, ?_⟩
  · rw [slowest, run_append_eq_some]
    refine ⟨s₂, by simp [run, hboot, hmake], ?_⟩
    rw [run_append_eq_some]
    exact ⟨s₃, hrun, by simp [run, hlast, hleave, hclose]⟩
  · have hcounting : s₅.counting = true := by rw [hsame₅, hsame₄]; exact h₃.counting
    have hrestarted₅ : s₅.restarted = now := by rw [hsame₅, hsame₄]; exact hrestarted₃
    have hnow₅ : s₅.now = now + b.boot + b.failures * interval + interval + b.lag := by
      rw [hsame₅]
      dsimp only
      rw [hnow₄, hnow₃, hnow₂]
    have hlate : s₅.restarted + timeout ≤ s₅.now + b.shutdown := by
      unfold Bounds.longest at hbound
      have hmul : ((b.failures : ℤ) + 1) * interval = b.failures * interval + interval := by ring
      rw [hmul] at hbound
      omega
    rw [hfired, hcounting, decide_eq_true hlate]
    simp
  · have hstart : Along (step interval timeout) (Timely b) (start now) [.wait b.boot, .makeTicker] :=
      (along_cons_of_eq hboot).2 ⟨⟨hin₀, hin₁, by simp⟩,
        (along_cons_of_eq hmake).2 ⟨⟨hin₁, hin₂, by simp⟩, trivial⟩⟩
    have hend : Along (step interval timeout) (Timely b) s₃
        [.wait (interval.toNat + b.lag), .leave, .wait b.shutdown] :=
      (along_cons_of_eq hlast).2 ⟨⟨hin₃, hin₄, by simp⟩, (along_cons_of_eq hleave).2 ⟨⟨hin₄, hin₅, by simp⟩,
        (along_cons_of_eq hclose).2 ⟨⟨hin₅, hin₆, by simp⟩, trivial⟩⟩⟩
    exact Along.append (by simp [run, hboot, hmake]) hstart (Along.append hrun halong hend)

/-! ## A process that dies -/

/-- The count, against the clock. -/
structure Counted (timeout : ℤ) (s : Watchdog) : Prop where
  fired : s.counting = true → s.restarted + timeout ≤ s.now → s.fired = true
  restarted : s.restarted ≤ s.now
  crashed : ∀ t, s.crashed = some t → s.restarted ≤ t

theorem counted_step (hpos : 0 < timeout) (h : Counted timeout s) (hstep : s.step interval timeout e = some s') :
    Counted timeout s' := by
  cases e with
  | wait d =>
    cases hstep
    have hrestarted := h.restarted
    refine ⟨fun hcounting hlate => ?_, by dsimp only; omega, h.crashed⟩
    dsimp only at hcounting hlate ⊢
    rw [hcounting, decide_eq_true hlate]
    simp
  | makeTicker =>
    simp only [step] at hstep
    split_ifs at hstep
    cases hstep
    exact ⟨h.fired, h.restarted, h.crashed⟩
  | kick ok =>
    obtain ⟨ticker, ticker', -, hcrashed, -, rfl⟩ := step_kick hstep
    cases ok with
    | true =>
      rw [if_pos rfl]
      refine ⟨fun _ hlate => ?_, le_rfl, fun t ht => ?_⟩
      · dsimp only at hlate
        omega
      · dsimp only at ht
        rw [hcrashed] at ht
        cases ht
    | false =>
      rw [if_neg (by decide)]
      exact ⟨h.fired, h.restarted, h.crashed⟩
  | leave =>
    simp only [step] at hstep
    split_ifs at hstep
    cases hstep
    exact ⟨h.fired, h.restarted, h.crashed⟩
  | loopReturns =>
    simp only [step] at hstep
    split_ifs at hstep
    cases hstep
    exact ⟨h.fired, h.restarted, h.crashed⟩
  | close written =>
    simp only [step] at hstep
    split_ifs at hstep
    cases hstep
    refine ⟨fun hcounting => ?_, h.restarted, h.crashed⟩
    rw [Bool.and_eq_true] at hcounting
    exact h.fired hcounting.1
  | crash =>
    simp only [step] at hstep
    split_ifs at hstep
    cases hstep
    refine ⟨h.fired, h.restarted, fun t ht => ?_⟩
    cases ht
    exact h.restarted

/-- **A crash is answered**: the machine is reset before the timeout is over, unless the count
had been ended. -/
theorem crash_answered (hpos : 0 < timeout) (now : ℤ) {es : List WatchdogEvent}
    (hrun : run (step interval timeout) (start now) es = some s) {t : ℤ} (hcrashed : s.crashed = some t)
    (hcounting : s.counting = true) (hlate : t + timeout ≤ s.now) : s.fired = true := by
  have hinit : Counted timeout (start now) :=
    ⟨fun _ hlate => (by simp only [start] at hlate; omega), le_rfl, fun _ h => (by cases h)⟩
  have hstep : ∀ s e s', Counted timeout s → step interval timeout s e = some s' → Counted timeout s' :=
    fun s e s' hs he => counted_step hpos hs he
  have h : Counted timeout s := (always_of_inv hstep hinit).last hrun
  have hbefore := h.crashed t hcrashed
  exact h.fired hcounting (by omega)

/-! ## A configuration -/

/-- **The watchdog, exactly.** On any configuration that opens it and makes the ticker, and for
bounds whose lag is less than its interval: no run within the bounds ends in a reset, if and
only if the longest count is shorter than the timeout; and after a crash the machine is reset in
time, unless the count had been ended. -/
theorem watchdog_exact (cfg : Config) {timeoutSec : ℤ} (htimeout : timeoutSec ∈ cfg.watchdog.timeout) {kick : ℤ}
    (hkick : newTicker (kickInterval cfg.watchdog.kernelWDTKickSec) = some kick) (b : Bounds)
    (hlag : (b.lag : ℤ) < kick) (now : ℤ) :
    ((∀ es, Along (step kick (timeoutSec * second)) (Timely b) (start now) es →
        Always (step kick (timeoutSec * second)) (fun s => s.fired = false) (start now) es) ↔
      b.longest kick < timeoutSec * second) ∧
    ∀ es s t, run (step kick (timeoutSec * second)) (start now) es = some s → s.crashed = some t →
      s.counting = true → t + timeoutSec * second ≤ s.now → s.fired = true := by
  have hpos : 0 < kick := by
    unfold newTicker at hkick
    split_ifs at hkick with hpos
    exact Option.some.inj hkick ▸ hpos
  have htime : 0 < timeoutSec * second := by
    unfold Config.WatchdogConfig.timeout at htimeout
    dsimp only at htimeout
    split_ifs at htimeout with hopen
    · cases htimeout
      have hone := hopen.2.1
      unfold second
      omega
    · cases htimeout
  constructor
  · constructor
    · intro hall
      by_contra hlong
      obtain ⟨s, hrun, hfired, halong⟩ :=
        @fires_late kick (timeoutSec * second) b hpos (not_lt.1 hlong) now
      have hno : s.fired = false := (hall _ halong).last hrun
      rw [hfired] at hno
      cases hno
    · intro hbound es hes
      exact never_fires hpos hlag hbound now hes
  · intro es s t hrun hcrashed hcounting hlate
    exact crash_answered htime now hrun hcrashed hcounting hlate

/-! The defaults: a kick every 5 seconds, and a timeout of 15. -/

/-- Ticks within a second, no kick that fails, and 8 seconds to shut down. -/
def usual : Bounds := ⟨0, 1000000000, 0, 8000000000⟩

/-- The broker answers none of the two last messages: each `WaitTimeout` takes 5 seconds, and
`Disconnect` 0.7 more. -/
def brokerGone : Bounds := ⟨0, 0, 0, 10700000000⟩

/-- **The defaults, as loaded**: they bear a usual shutdown, but not one without the broker. -/
theorem barn_exact : (∀ es, Along (step (5 * second) (15 * second)) (Timely usual) (start 0) es →
        Always (step (5 * second) (15 * second)) (fun s => s.fired = false) (start 0) es) ∧
    ¬ ∀ es, Along (step (5 * second) (15 * second)) (Timely brokerGone) (start 0) es →
        Always (step (5 * second) (15 * second)) (fun s => s.fired = false) (start 0) es := by
  have htimeout : 15 ∈ (barn 10).applyDefaults.watchdog.timeout := rfl
  have hkick : newTicker (kickInterval (barn 10).applyDefaults.watchdog.kernelWDTKickSec) =
      some (5 * second) := rfl
  refine ⟨(watchdog_exact _ htimeout hkick usual (by decide) 0).1.2 (by decide), fun hall => ?_⟩
  exact absurd ((watchdog_exact _ htimeout hkick brokerGone (by decide) 0).1.1 hall) (by decide)

end Watchdog

end Gateway
