import IotGateway.Text.Lexicographic
import IotGateway.Text.Months

/-!
# Written dates and times of day in order

Fixed-width digits are in the order of the numbers (`before_showDigits`), and the fields of a
date in the order of the days (`ofDays_lt`): `before_showDate` and `before_showClock` put them
together.
-/

namespace Calendar

open Lexicographic

/-! ## Digits -/

theorem before_showDigits (w : ℕ) : ∀ {a b : ℕ}, a < b → b < 10 ^ w → Before (showDigits w a) (showDigits w b) := by
  have hchar : ∀ e < 10, ∀ d < e, Char.ofNat ('0'.toNat + d) < Char.ofNat ('0'.toNat + e) := by decide
  induction w with
  | zero =>
    intro a b hab hb
    omega
  | succ w ih =>
    intro a b hab hb
    rw [Nat.pow_succ] at hb
    rw [showDigits, showDigits]
    apply before_parts
    rcases Nat.lt_or_ge (a / 10) (b / 10) with hlt | hge
    · exact .inl (ih hlt (by omega))
    · -- the last digit decides
      have hfront : a / 10 = b / 10 := by omega
      have hlast := hchar (b % 10) (Nat.mod_lt b (by decide)) (a % 10) (by omega)
      exact .inr ⟨by rw [hfront], .head hlast⟩

theorem zero_le_of_isDigit {c : Char} (h : c.isDigit = true) : '0' ≤ c := by
  rw [Char.isDigit, Bool.and_eq_true, decide_eq_true_eq] at h
  exact h.1

/-! ## Dates -/

/-- A date's day is in its month. -/
theorem ofDays_month {z : ℤ} : ∃ i, monthIndex (ofDays z).1 (ofDays z).2.1 = i ∧
    z = monthStart i + ((ofDays z).2.2 - 1) ∧ monthStart i ≤ z ∧ z < monthStart (i + 1) ∧
    1 ≤ (ofDays z).2.1 ∧ (ofDays z).2.1 ≤ 12 := by
  obtain ⟨hvalid, hday⟩ := ofDays_spec z
  generalize ofDays z = date at *
  obtain ⟨y, m, d⟩ := date
  dsimp only at *
  unfold validDate at hvalid
  simp only [Bool.and_eq_true, decide_eq_true_eq] at hvalid
  obtain ⟨⟨⟨hm₁, hm₂⟩, hd₁⟩, hd₂⟩ := hvalid
  have hstart := monthStart_index (y := y) hm₁ hm₂
  have hnext := monthStart_succ (monthIndex y m)
  have hdiv : monthIndex y m / 12 = y := by unfold monthIndex; omega
  have hmod : monthIndex y m % 12 + 1 = m := by unfold monthIndex; omega
  rw [hdiv, hmod] at hnext
  unfold toDays at hstart hday
  refine ⟨monthIndex y m, rfl, ?_, ?_, ?_, hm₁, hm₂⟩ <;> omega

/-- **A later day has a later date**: the year decides, then the month, then the day. -/
theorem ofDays_lt {z z' : ℤ} (h : z < z') : (ofDays z).1 < (ofDays z').1 ∨ (ofDays z).1 = (ofDays z').1 ∧
    ((ofDays z).2.1 < (ofDays z').2.1 ∨ (ofDays z).2.1 = (ofDays z').2.1 ∧ (ofDays z).2.2 < (ofDays z').2.2) := by
  obtain ⟨i, hi, hz, hle, hlt, hm₁, hm₂⟩ := ofDays_month (z := z)
  obtain ⟨i', hi', hz', hle', hlt', hm₁', hm₂'⟩ := ofDays_month (z := z')
  -- a month that is not later cannot end before it
  have hmonth : i ≤ i' := by
    by_contra hgt
    have hmono := monthStart_strictMono.monotone (show i' + 1 ≤ i by omega)
    omega
  unfold monthIndex at hi hi'
  rcases hmonth.lt_or_eq with hmonth | rfl
  · omega
  · omega

/-- `2006-01-02` -/
def showDate (z : ℤ) : List Char :=
  let (y, m, d) := ofDays z
  showDigits 4 y.toNat ++ '-' :: (showDigits 2 m.toNat ++ '-' :: showDigits 2 d.toNat)

/-- **Dates are written in their order**, in years 1 to 9999. -/
theorem before_showDate {z z' : ℤ} (h₀ : firstDay ≤ z) (h : z < z') (h₁ : z' < 2932897) :
    Before (showDate z) (showDate z') := by
  have hlt := ofDays_lt h
  obtain ⟨y, mo, d, hdate, hy, hmo, hd, -⟩ := ofDays_fields h₀ (h.trans h₁)
  obtain ⟨y', mo', d', hdate', hy', hmo', hd', -⟩ := ofDays_fields (h₀.trans h.le) h₁
  unfold showDate
  rw [hdate, hdate'] at hlt ⊢
  dsimp only at hlt ⊢
  simp only [Int.toNat_natCast]
  rcases hlt with hlt | ⟨heq, hlt⟩
  · exact (before_showDigits 4 (by omega) hy'.2).append _ _
  · obtain rfl : y = y' := by omega
    refine .append_left (.tail ?_) _
    rcases hlt with hlt | ⟨heq, hlt⟩
    · exact (before_showDigits 2 (by omega) hmo').append _ _
    · obtain rfl : mo = mo' := by omega
      exact .append_left (.tail (before_showDigits 2 (by omega) hd')) _

/-! ## Times of day -/

/-- `15:04:05`, of a second of a day -/
def showClock (sod : ℕ) : List Char :=
  showDigits 2 (sod / 3600) ++ ':' :: (showDigits 2 (sod / 60 % 60) ++ ':' :: showDigits 2 (sod % 60))

/-- **Times of day are written in their order.** -/
theorem before_showClock {sod sod' : ℕ} (h : sod < sod') (h₁ : sod' < 86400) :
    Before (showClock sod) (showClock sod') := by
  unfold showClock
  rcases Nat.lt_or_ge (sod / 3600) (sod' / 3600) with hhour | hhour
  · exact (before_showDigits 2 hhour (by omega)).append _ _
  · have hhour' : sod / 3600 = sod' / 3600 := by omega
    rw [hhour']
    refine .append_left (.tail ?_) _
    rcases Nat.lt_or_ge (sod / 60 % 60) (sod' / 60 % 60) with hmin | hmin
    · exact (before_showDigits 2 hmin (by omega)).append _ _
    · have hmin' : sod / 60 % 60 = sod' / 60 % 60 := by omega
      rw [hmin']
      exact .append_left (.tail (before_showDigits 2 (by omega) (by omega))) _

end Calendar
