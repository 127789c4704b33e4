import Mathlib.Tactic

/-!
# The proleptic Gregorian calendar and decimal digits

Days are counted from 1970-01-01. `toDays` and `ofDays` convert between a date
and its day number, `isoWeekDays` finds a day from an ISO 8601 week date. The
digit helpers read and write fixed-width decimals in a list of characters.

`ofDays_spec`: the date of a day from 0001-01-01 on is valid, and `toDays` leads back to
the day. `takeDigits_showDigits`: written digits are read back.
-/

namespace Calendar

def isLeap (y : ℤ) : Bool := y % 4 = 0 && (y % 100 ≠ 0 || y % 400 = 0)

def daysInMonth (y m : ℤ) : ℤ :=
  if m = 2 then (if isLeap y then 29 else 28)
  else if m = 4 ∨ m = 6 ∨ m = 9 ∨ m = 11 then 30 else 31

/-- Days from 0001-01-01 to the first day of year `y`. -/
def daysBeforeYear (y : ℤ) : ℤ := 365 * (y - 1) + (y - 1) / 4 - (y - 1) / 100 + (y - 1) / 400

/-- Days of year `y` before month `m`. -/
def daysBeforeMonth (y m : ℤ) : ℤ :=
  ((List.range (m - 1).toNat).map fun i => daysInMonth y (i + 1)).sum

/-- The day number of 0001-01-01. -/
def firstDay : ℤ := -719162

/-- The day number of a date. -/
def toDays (y m d : ℤ) : ℤ := firstDay + daysBeforeYear y + daysBeforeMonth y m + (d - 1)

/-- The month and day at offset `n` of year `y`, searching from month `m`. -/
def monthDay (y : ℤ) : ℕ → ℤ → ℤ → ℤ × ℤ
  | 0, m, n => (m, n + 1)
  | fuel + 1, m, n =>
    if n < daysInMonth y m then (m, n + 1) else monthDay y fuel (m + 1) (n - daysInMonth y m)

/-- The date of a day number: whole cycles of 400, 100, 4 and 1 years are taken
off the days since 0001-01-01. -/
def ofDays (z : ℤ) : ℤ × ℤ × ℤ :=
  let n := z - firstDay
  let c400 := n / 146097
  let n := n % 146097
  -- the last day of a 400 or 4 year cycle is day 366 of its last year
  let c100 := min (n / 36524) 3
  let n := n - c100 * 36524
  let c4 := n / 1461
  let n := n % 1461
  let c1 := min (n / 365) 3
  let n := n - c1 * 365
  let y := 400 * c400 + 100 * c100 + 4 * c4 + c1 + 1
  (y, monthDay y 11 1 n)

/-- A date's month and day are in range. -/
def validDate (y m d : ℤ) : Bool := 1 ≤ m && m ≤ 12 && 1 ≤ d && d ≤ daysInMonth y m

/-- The weekday of a day number, Monday = 0. -/
def weekday (z : ℤ) : ℤ := (z + 3) % 7

/-- The Monday of the first ISO week of year `y`: the week of 4 January. -/
def isoWeek1Monday (y : ℤ) : ℤ := toDays y 1 4 - weekday (toDays y 1 4)

/-- The number of ISO weeks in year `y`. -/
def isoWeeksInYear (y : ℤ) : ℤ := (isoWeek1Monday (y + 1) - isoWeek1Monday y) / 7

/-- The day number of an ISO week date, if the week and the day exist. -/
def isoWeekDays (y w d : ℤ) : Option ℤ :=
  if 1 ≤ w ∧ w ≤ isoWeeksInYear y ∧ 1 ≤ d ∧ d ≤ 7 then
    some (isoWeek1Monday y + (w - 1) * 7 + (d - 1))
  else none

example : toDays 1970 1 1 = 0 ∧ toDays 2024 2 29 = 19782 ∧ toDays 9999 12 31 = 2932896 := by decide
example : ofDays 19782 = (2024, 2, 29) ∧ ofDays 2932896 = (9999, 12, 31) ∧
    ofDays (-719162) = (1, 1, 1) := by decide

/-! ## The date of a day -/

section Dates

variable {y m n : ℤ}

theorem daysBeforeMonth_succ (y : ℤ) (hm : 1 ≤ m) :
    daysBeforeMonth y (m + 1) = daysBeforeMonth y m + daysInMonth y m := by
  obtain ⟨k, hk⟩ := Int.eq_ofNat_of_zero_le (show 0 ≤ m - 1 by omega)
  have hsucc : (m + 1 - 1).toNat = k + 1 := by omega
  have hk' : (m - 1).toNat = k := by omega
  have hm' : (k : ℤ) + 1 = m := by omega
  unfold daysBeforeMonth
  rw [hsucc, hk', List.range_succ]
  simp [hm']

/-- The days of a year. -/
theorem daysBeforeMonth_thirteen (y : ℤ) : daysBeforeMonth y 13 = if isLeap y then 366 else 365 := by
  unfold daysBeforeMonth daysInMonth
  cases isLeap y <;> decide

/-- The search for the month finds the one that the offset is in. -/
theorem monthDay_spec (y : ℤ) (fuel : ℕ) : ∀ {m n : ℤ}, 1 ≤ m → 0 ≤ n →
    n < daysBeforeMonth y (m + fuel + 1) - daysBeforeMonth y m →
    m ≤ (monthDay y fuel m n).1 ∧ (monthDay y fuel m n).1 ≤ m + fuel ∧ 1 ≤ (monthDay y fuel m n).2 ∧
      (monthDay y fuel m n).2 ≤ daysInMonth y (monthDay y fuel m n).1 ∧
      daysBeforeMonth y (monthDay y fuel m n).1 + ((monthDay y fuel m n).2 - 1) =
        daysBeforeMonth y m + n := by
  induction fuel with
  | zero =>
    intro m n hm hn hlt
    have hsucc := daysBeforeMonth_succ y hm
    simp only [Nat.cast_zero, add_zero] at hlt
    unfold monthDay
    dsimp only
    refine ⟨le_rfl, by omega, by omega, by omega, by omega⟩
  | succ fuel ih =>
    intro m n hm hn hlt
    have hsucc := daysBeforeMonth_succ y hm
    unfold monthDay
    split_ifs with hmonth
    · dsimp only
      refine ⟨le_rfl, by omega, by omega, by omega, by omega⟩
    · have hnext : m + (fuel + 1 : ℕ) + 1 = m + 1 + fuel + 1 := by push_cast; ring
      rw [hnext] at hlt
      obtain ⟨h₁, h₂, h₃, h₄, h₅⟩ := ih (m := m + 1) (n := n - daysInMonth y m) (by omega) (by omega) (by omega)
      refine ⟨by omega, by push_cast; omega, h₃, h₄, by omega⟩

/-- The days before a year, from its place in the cycles of 400, 100 and 4 years. -/
theorem daysBeforeYear_cycles {a b c d : ℤ} (hb : 0 ≤ b ∧ b ≤ 3) (hc : 0 ≤ c ∧ c ≤ 24) (hd : 0 ≤ d ∧ d ≤ 3) :
    daysBeforeYear (400 * a + 100 * b + 4 * c + d + 1) = 146097 * a + 36524 * b + 1461 * c + 365 * d := by
  have h4 : (400 * a + 100 * b + 4 * c + d) / 4 = 100 * a + 25 * b + c := by omega
  have h100 : (400 * a + 100 * b + 4 * c + d) / 100 = 4 * a + b := by omega
  have h400 : (400 * a + 100 * b + 4 * c + d) / 400 = a := by omega
  unfold daysBeforeYear
  rw [add_sub_cancel_right, h4, h100, h400]
  ring

/-- A leap year is the last of four, but not of a hundred other than the fourth. -/
theorem isLeap_cycles {a b c d : ℤ} (hb : 0 ≤ b ∧ b ≤ 3) (hc : 0 ≤ c ∧ c ≤ 24) (hd : 0 ≤ d ∧ d ≤ 3) :
    isLeap (400 * a + 100 * b + 4 * c + d + 1) = true ↔ d = 3 ∧ (c ≠ 24 ∨ b = 3) := by
  have h4 : (400 * a + 100 * b + 4 * c + d + 1) % 4 = 0 ↔ d = 3 := by omega
  have h100 : (400 * a + 100 * b + 4 * c + d + 1) % 100 = 0 ↔ d = 3 ∧ c = 24 := by omega
  have h400 : (400 * a + 100 * b + 4 * c + d + 1) % 400 = 0 ↔ d = 3 ∧ c = 24 ∧ b = 3 := by omega
  unfold isLeap
  simp only [Bool.and_eq_true, Bool.or_eq_true, decide_eq_true_eq, ne_eq, h4, h100, h400]
  constructor
  · rintro ⟨hd3, hno | ⟨-, -, hb3⟩⟩
    · exact ⟨hd3, Or.inl fun hc24 => hno ⟨hd3, hc24⟩⟩
    · exact ⟨hd3, Or.inr hb3⟩
  · rintro ⟨hd3, hc24 | hb3⟩
    · exact ⟨hd3, Or.inl fun h => hc24 h.2⟩
    · by_cases hc24 : c = 24
      · exact ⟨hd3, Or.inr ⟨hd3, hc24, hb3⟩⟩
      · exact ⟨hd3, Or.inl fun h => hc24 h.2⟩

/-- **The year of a day**, and the days of the year before it. -/
theorem year_spec {n a b c d r : ℤ} (ha : a = n / 146097) (hb : b = min (n % 146097 / 36524) 3)
    (hc : c = (n % 146097 - b * 36524) / 1461)
    (hd : d = min ((n % 146097 - b * 36524) % 1461 / 365) 3)
    (hr : r = (n % 146097 - b * 36524) % 1461 - d * 365) :
    daysBeforeYear (400 * a + 100 * b + 4 * c + d + 1) + r = n ∧ 0 ≤ r ∧
      r < if isLeap (400 * a + 100 * b + 4 * c + d + 1) then 366 else 365 := by
  have hb' : 0 ≤ b ∧ b ≤ 3 := by omega
  have hc' : 0 ≤ c ∧ c ≤ 24 := by omega
  have hd' : 0 ≤ d ∧ d ≤ 3 := by omega
  rw [daysBeforeYear_cycles hb' hc' hd']
  refine ⟨by omega, by omega, ?_⟩
  by_cases hleap : isLeap (400 * a + 100 * b + 4 * c + d + 1) = true
  · rw [if_pos hleap]
    omega
  · rw [if_neg hleap]
    rw [isLeap_cycles hb' hc' hd'] at hleap
    -- day 366 is left only at the end of a whole cycle
    by_cases hd3 : d = 3
    · have hc24 : c = 24 := by
        by_contra hne
        exact hleap ⟨hd3, Or.inl hne⟩
      have hb3 : b ≠ 3 := fun hb3 => hleap ⟨hd3, Or.inr hb3⟩
      omega
    · omega

theorem ofDays_eq (z : ℤ) : ∃ a b c d r, a = (z - firstDay) / 146097 ∧
    b = min ((z - firstDay) % 146097 / 36524) 3 ∧ c = ((z - firstDay) % 146097 - b * 36524) / 1461 ∧
    d = min (((z - firstDay) % 146097 - b * 36524) % 1461 / 365) 3 ∧
    r = ((z - firstDay) % 146097 - b * 36524) % 1461 - d * 365 ∧
    ofDays z = (400 * a + 100 * b + 4 * c + d + 1, monthDay (400 * a + 100 * b + 4 * c + d + 1) 11 1 r) :=
  ⟨_, _, _, _, _, rfl, rfl, rfl, rfl, rfl, rfl⟩

/-- **The date of a day** is valid, and of that day. -/
theorem ofDays_spec (z : ℤ) :
    validDate (ofDays z).1 (ofDays z).2.1 (ofDays z).2.2 = true ∧
      toDays (ofDays z).1 (ofDays z).2.1 (ofDays z).2.2 = z := by
  obtain ⟨a, b, c, d, r, ha, hb, hc, hd, hr, hdate⟩ := ofDays_eq z
  obtain ⟨hyear, hr₀, hr₁⟩ := year_spec ha hb hc hd hr
  rw [hdate]
  generalize 400 * a + 100 * b + 4 * c + d + 1 = y at hyear hr₁
  have htotal := daysBeforeMonth_thirteen y
  have hfirst : daysBeforeMonth y 1 = 0 := rfl
  obtain ⟨h₁, h₂, h₃, h₄, h₅⟩ := monthDay_spec y 11 (m := 1) (n := r) le_rfl hr₀
    (by rw [hfirst]; norm_num; omega)
  push_cast at h₂
  constructor
  · unfold validDate
    simp only [Bool.and_eq_true, decide_eq_true_eq]
    exact ⟨⟨⟨h₁, by omega⟩, h₃⟩, h₄⟩
  · unfold toDays
    dsimp only
    omega

/-- Days from 0001-01-01 to 9999-12-31 have years of four digits. -/
theorem ofDays_year {z : ℤ} (h₀ : firstDay ≤ z) (h₁ : z < 2932897) :
    1 ≤ (ofDays z).1 ∧ (ofDays z).1 ≤ 9999 := by
  obtain ⟨a, b, c, d, r, ha, hb, hc, hd, -, hdate⟩ := ofDays_eq z
  rw [hdate]
  unfold firstDay at *
  dsimp only
  omega

/-- **The fields of such a date** as natural numbers of four and two digits. -/
theorem ofDays_fields {z : ℤ} (h₀ : firstDay ≤ z) (h₁ : z < 2932897) : ∃ y mo d : ℕ,
    ofDays z = ((y : ℤ), (mo : ℤ), (d : ℤ)) ∧ (1 ≤ y ∧ y < 10 ^ 4) ∧ mo < 10 ^ 2 ∧ d < 10 ^ 2 ∧
      validDate y mo d = true ∧ toDays y mo d = z := by
  obtain ⟨hvalid, hday⟩ := ofDays_spec z
  obtain ⟨hy₁, hy₂⟩ := ofDays_year h₀ h₁
  generalize ofDays z = date at *
  obtain ⟨y, mo, d⟩ := date
  dsimp only at hvalid hday hy₁ hy₂
  have hdate := hvalid
  unfold validDate at hdate
  simp only [Bool.and_eq_true, decide_eq_true_eq] at hdate
  obtain ⟨⟨⟨hmo₁, hmo₂⟩, hd₁⟩, hd₂⟩ := hdate
  have hd₃ : daysInMonth y mo ≤ 31 := by
    unfold daysInMonth
    split_ifs <;> omega
  obtain ⟨y, rfl⟩ := Int.eq_ofNat_of_zero_le (show 0 ≤ y by omega)
  obtain ⟨mo, rfl⟩ := Int.eq_ofNat_of_zero_le (show 0 ≤ mo by omega)
  obtain ⟨d, rfl⟩ := Int.eq_ofNat_of_zero_le (show 0 ≤ d by omega)
  exact ⟨y, mo, d, rfl, ⟨by omega, by omega⟩, by omega, by omega, hvalid, hday⟩

end Dates

/-! ## Digits -/

def digit? (c : Char) : Option ℕ := if c.isDigit then some (c.toNat - '0'.toNat) else none

/-- Exactly `w` decimal digits from the front of a text. -/
def takeDigits : ℕ → List Char → Option (ℕ × List Char)
  | 0, s => some (0, s)
  | _ + 1, [] => none
  | w + 1, c :: s => do
    let d ← digit? c
    let (n, s') ← takeDigits w s
    pure (d * 10 ^ w + n, s')

/-- The last `w` decimal digits of `n`. -/
def showDigits : ℕ → ℕ → List Char
  | 0, _ => []
  | w + 1, n => showDigits w (n / 10) ++ [Char.ofNat ('0'.toNat + n % 10)]

/-- One given character from the front of a text. -/
def expect (c : Char) : List Char → Option (List Char)
  | [] => none
  | c' :: s => if c' = c then some s else none

/-- A given text from the front of another. -/
def expectAll : List Char → List Char → Option (List Char)
  | [], s => some s
  | c :: t, s => (expect c s).bind (expectAll t)

example : takeDigits 2 ['0', '7', 'Z'] = some (7, ['Z']) ∧ showDigits 4 73 = ['0', '0', '7', '3'] := by
  decide

/-! ## Digits read back -/

section Digits

variable {w n d : ℕ} {c : Char} {s s' : List Char}

theorem digit?_ofNat (h : d < 10) : digit? (Char.ofNat ('0'.toNat + d)) = some d := by
  have hall : ∀ d < 10, digit? (Char.ofNat ('0'.toNat + d)) = some d := by decide
  exact hall d h

theorem isDigit_ofNat (h : d < 10) : (Char.ofNat ('0'.toNat + d)).isDigit = true := by
  have hall : ∀ d < 10, (Char.ofNat ('0'.toNat + d)).isDigit = true := by decide
  exact hall d h

/-- One more digit, at the end. -/
theorem takeDigits_succ (hc : digit? c = some d) : ∀ {w n : ℕ} {s : List Char},
    takeDigits w s = some (n, c :: s') → takeDigits (w + 1) s = some (n * 10 + d, s') := by
  intro w
  induction w with
  | zero =>
    intro n s h
    cases h
    simp [takeDigits, hc]
  | succ w ih =>
    intro n s h
    cases s with
    | nil => cases h
    | cons c₀ s₀ =>
      simp only [takeDigits, Option.bind_eq_bind, Option.bind_eq_some_iff] at h
      obtain ⟨d₀, hd₀, ⟨n₀, s₁⟩, hrest, heq⟩ := h
      cases heq
      rw [takeDigits, hd₀]
      simp only [Option.bind_eq_bind, Option.bind_some, ih hrest, Option.pure_def, Option.some.injEq,
        Prod.mk.injEq, and_true]
      ring

/-- **Written digits are read back.** -/
theorem takeDigits_showDigits (w : ℕ) : ∀ (n : ℕ) (s : List Char),
    takeDigits w (showDigits w n ++ s) = some (n % 10 ^ w, s) := by
  induction w with
  | zero => exact fun n s => by simp [takeDigits, showDigits, Nat.mod_one]
  | succ w ih =>
    intro n s
    have hd : n % 10 < 10 := Nat.mod_lt n (by decide)
    have hprefix := ih (n / 10) (Char.ofNat ('0'.toNat + n % 10) :: s)
    rw [showDigits, List.append_assoc, List.singleton_append, takeDigits_succ (digit?_ofNat hd) hprefix,
      Option.some.injEq, Prod.mk.injEq, Nat.pow_succ, Nat.mul_comm (10 ^ w) 10, Nat.mod_mul]
    exact ⟨by ring, rfl⟩

theorem length_showDigits (w : ℕ) : ∀ n : ℕ, (showDigits w n).length = w := by
  induction w with
  | zero => exact fun n => rfl
  | succ w ih => exact fun n => by simp [showDigits, ih]

theorem isDigit_showDigits (w : ℕ) : ∀ n : ℕ, ∀ c ∈ showDigits w n, c.isDigit = true := by
  induction w with
  | zero => exact fun n c hc => absurd hc List.not_mem_nil
  | succ w ih =>
    intro n c hc
    rw [showDigits, List.mem_append, List.mem_singleton] at hc
    rcases hc with hc | rfl
    · exact ih (n / 10) c hc
    · exact isDigit_ofNat (Nat.mod_lt n (by decide))

/-- The first digits and the last ones. -/
theorem showDigits_append (a n : ℕ) : ∀ b : ℕ,
    showDigits (a + b) n = showDigits a (n / 10 ^ b) ++ showDigits b n := by
  intro b
  induction b generalizing n with
  | zero => simp [showDigits]
  | succ b ih =>
    have hpow : n / 10 / 10 ^ b = n / 10 ^ (b + 1) := by
      rw [Nat.div_div_eq_div_mul, Nat.pow_succ, Nat.mul_comm]
    rw [← Nat.add_assoc, showDigits, showDigits, ih (n / 10), hpow, List.append_assoc]

/-- Zeros at the end multiply by ten. -/
theorem showDigits_mul_pow (w n : ℕ) : ∀ k : ℕ,
    showDigits (w + k) (n * 10 ^ k) = showDigits w n ++ List.replicate k '0' := by
  intro k
  induction k with
  | zero => simp
  | succ k ih =>
    have hpow : n * 10 ^ (k + 1) = n * 10 ^ k * 10 := by rw [Nat.pow_succ, Nat.mul_assoc]
    have hdiv : n * 10 ^ (k + 1) / 10 = n * 10 ^ k := by omega
    have hmod : n * 10 ^ (k + 1) % 10 = 0 := by omega
    rw [← Nat.add_assoc, showDigits, hdiv, hmod, ih, List.replicate_succ', List.append_assoc]
    rfl

/-- A number without leading zeros is its digits. -/
theorem toDigits_eq_showDigits (w : ℕ) : ∀ {n : ℕ}, 10 ^ w ≤ n → n < 10 ^ (w + 1) →
    Nat.toDigits 10 n = showDigits (w + 1) n := by
  have hchar : ∀ d < 10, Nat.digitChar d = Char.ofNat ('0'.toNat + d) := by decide
  induction w with
  | zero =>
    intro n _ h₁
    have hn : n < 10 := by omega
    rw [Nat.toDigits_of_lt_base hn, hchar n hn, showDigits, showDigits, Nat.mod_eq_of_lt hn]
    rfl
  | succ w ih =>
    intro n h₀ h₁
    have hpow₀ : 10 ^ (w + 1) = 10 ^ w * 10 := Nat.pow_succ 10 w
    have hpow₁ : 10 ^ (w + 1 + 1) = 10 ^ (w + 1) * 10 := Nat.pow_succ 10 (w + 1)
    have hpos : 0 < 10 ^ w := Nat.pow_pos (by decide)
    have hfront := ih (n := n / 10) (by omega) (by omega)
    rw [Nat.toDigits_of_base_le (by decide) (by omega), hfront, hchar _ (Nat.mod_lt n (by decide))]
    rfl

theorem expect_cons (c : Char) (s : List Char) : expect c (c :: s) = some s := if_pos rfl

theorem expectAll_append (t s : List Char) : expectAll t (t ++ s) = some s := by
  induction t with
  | nil => rfl
  | cons c t ih => rw [List.cons_append, expectAll, expect_cons, Option.bind_some, ih]

end Digits

end Calendar
