import Mathlib.Order.Monotone.Basic
import IotGateway.Text.Calendar

/-!
# Months in a row

The months of all years, numbered from January of year 0. `monthStart` is the day number of
the first of a month; from one month to the next it grows by the days of the month, across
year ends too.
-/

namespace Calendar

variable {y m : ℤ}

/-- The number of a month. -/
def monthIndex (y m : ℤ) : ℤ := 12 * y + (m - 1)

/-- The first day of a month. -/
def monthStart (i : ℤ) : ℤ := toDays (i / 12) (i % 12 + 1) 1

theorem monthStart_index (h₁ : 1 ≤ m) (h₁₂ : m ≤ 12) : monthStart (monthIndex y m) = toDays y m 1 := by
  have hdiv : monthIndex y m / 12 = y := by unfold monthIndex; omega
  have hmod : monthIndex y m % 12 + 1 = m := by unfold monthIndex; omega
  rw [monthStart, hdiv, hmod]

theorem daysBeforeYear_succ (y : ℤ) :
    daysBeforeYear (y + 1) = daysBeforeYear y + if isLeap y then 366 else 365 := by
  have hleap : isLeap y = true ↔ y % 4 = 0 ∧ (y % 100 ≠ 0 ∨ y % 400 = 0) := by
    simp [isLeap]
  unfold daysBeforeYear
  split_ifs with h
  · rw [hleap] at h
    omega
  · rw [hleap] at h
    omega

/-- The first of the next month. -/
theorem toDays_next (h₁ : 1 ≤ m) (h₁₂ : m ≤ 12) :
    (if m < 12 then toDays y (m + 1) 1 else toDays (y + 1) 1 1) = toDays y m 1 + daysInMonth y m := by
  have hsucc := daysBeforeMonth_succ y h₁
  unfold toDays
  split_ifs with h
  · omega
  · have hm : m = 12 := by omega
    subst hm
    have hyear := daysBeforeYear_succ y
    have htotal := daysBeforeMonth_thirteen y
    have hfirst : daysBeforeMonth (y + 1) 1 = 0 := rfl
    have hthirteen : (12 : ℤ) + 1 = 13 := rfl
    rw [hthirteen] at hsucc
    omega

theorem daysInMonth_pos (y m : ℤ) : 0 < daysInMonth y m := by
  unfold daysInMonth
  split_ifs <;> norm_num

/-- **A month ends where the next begins.** -/
theorem monthStart_succ (i : ℤ) : monthStart (i + 1) = monthStart i + daysInMonth (i / 12) (i % 12 + 1) := by
  have h := toDays_next (y := i / 12) (m := i % 12 + 1) (by omega) (by omega)
  rw [monthStart, monthStart, ← h]
  split_ifs with hm
  · have hdiv : (i + 1) / 12 = i / 12 := by omega
    have hmod : (i + 1) % 12 = i % 12 + 1 := by omega
    rw [hdiv, hmod]
  · have hdiv : (i + 1) / 12 = i / 12 + 1 := by omega
    have hmod : (i + 1) % 12 + 1 = 1 := by omega
    rw [hdiv, hmod]

theorem monthStart_strictMono : StrictMono monthStart := by
  apply strictMono_int_of_lt_succ
  intro i
  rw [monthStart_succ]
  have := daysInMonth_pos (i / 12) (i % 12 + 1)
  omega

end Calendar
