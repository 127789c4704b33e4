import Mathlib.Tactic

/-!
# Tickers

`time.NewTicker`: a tick is sent every `interval`, on a channel with room for one, and one that
finds the channel full is dropped. `receive_next`: **who receives each tick before the next one
is sent gets them all.**
-/

namespace Go

/-- A ticker, and when the tick is sent that the next receive gets. -/
structure Ticker where
  interval : ℤ
  due : ℤ
deriving DecidableEq, Repr

namespace Ticker

/-- `time.NewTicker(interval)` -/
def new (interval now : ℤ) : Ticker := ⟨interval, now + interval⟩

/-- `<-ticker.C`; the ticks since the one it gets are dropped. -/
def receive (now : ℤ) (t : Ticker) : Option Ticker :=
  if t.due ≤ now then some { t with due := t.due + ((now - t.due) / t.interval + 1) * t.interval } else none

variable {t t' : Ticker} {now : ℤ}

theorem receive_eq_some (h : t.receive now = some t') : t.due ≤ now ∧
    t' = { t with due := t.due + ((now - t.due) / t.interval + 1) * t.interval } := by
  unfold receive at h
  split_ifs at h with hdue
  exact ⟨hdue, (Option.some.inj h).symm⟩

/-- **The next tick** is the first one after the receive. -/
theorem receive_due (hpos : 0 < t.interval) (h : t.receive now = some t') :
    now < t'.due ∧ t'.due ≤ now + t.interval := by
  obtain ⟨-, rfl⟩ := receive_eq_some h
  have hdiv := Int.mul_ediv_add_emod (now - t.due) t.interval
  have hlo := Int.emod_nonneg (now - t.due) hpos.ne'
  have hhi := Int.emod_lt_of_pos (now - t.due) hpos
  have hmul : ((now - t.due) / t.interval + 1) * t.interval =
      t.interval * ((now - t.due) / t.interval) + t.interval := by ring
  dsimp only
  rw [hmul]
  constructor
  · omega
  · omega

/-- **No tick is dropped** that is received before the next one. -/
theorem receive_next (h : t.receive now = some t') (hnext : now < t.due + t.interval) :
    t' = { t with due := t.due + t.interval } := by
  obtain ⟨hdue, rfl⟩ := receive_eq_some h
  have hzero : (now - t.due) / t.interval = 0 := Int.ediv_eq_zero_of_lt (by omega) (by omega)
  rw [hzero, zero_add, one_mul]

end Ticker

end Go
