import Mathlib
import IotGateway.Lts.Run
import IotGateway.Num.Tiling
import IotGateway.Text.Months

/-!
# The monthly partitions of `telemetry`

Migration 0001 creates `telemetry_default` and the partitions of four months;
`partition_manager.run` creates those of the four months from its clock's on, in one
transaction. A row goes to the partition that its `ts` is in, or to `telemetry_default`,
and stays there.

In PostgreSQL a partition is not created over rows that are already in the default one, and
a statement that fails undoes the whole transaction. `ensured_iff`: **every run leaves its
four partitions in place exactly when no row comes before the partition of its month and a
later run needs that month.** Such a row also costs the other months of the run
(`june_row_blocks_may`).
-/

namespace Server

open Calendar Lts

/-- A partition of `telemetry`: its name, and the year and month of its first day and of the
day it ends before. -/
structure Partition where
  name : String
  lower : ℤ × ℤ
  upper : ℤ × ℤ
deriving DecidableEq, Repr

/-- `_month_partition_sql`, in the migration and in the job. -/
def monthPartitionSql (year month : ℤ) : Partition where
  name := "telemetry_" ++ toString year ++ "_" ++ String.ofList (showDigits 2 month.toNat)
  lower := (year, month)
  upper := if month < 12 then (year, month + 1) else (year + 1, 1)

/-- The partition of a month, by the month's number. -/
def monthPartition (i : ℤ) : Partition := monthPartitionSql (i / 12) (i % 12 + 1)

/-- Year and month of an instant in UTC, in microseconds. -/
def yearMonth (now : ℤ) : ℤ × ℤ := ((ofDays (now / 86400000000)).1, (ofDays (now / 86400000000)).2.1)

/-- The number of the month of an instant. -/
def monthOf (now : ℤ) : ℤ := monthIndex (yearMonth now).1 (yearMonth now).2

/-- `LOOKAHEAD_MONTHS` -/
def lookaheadMonths : ℕ := 4

/-- `telemetry` with its partitions. Of a row only `ts` matters. -/
structure TelemetryTable where
  partitions : List Partition
  /-- in `telemetry_default` -/
  defaultRows : List ℤ
  /-- in a partition, with its name -/
  rows : List (String × ℤ)
deriving DecidableEq, Repr

inductive PartitionEvent where
  | insert (ts : ℤ)
  | run (now : ℤ)
deriving DecidableEq, Repr

/-- The times at which the job runs. -/
def runTimes (es : List PartitionEvent) : List ℤ := es.filterMap fun
  | .insert _ => none
  | .run now => some now

namespace TelemetryTable

section Database

-- the instant at which a day starts in the time zone of the database's sessions
variable (midnight : ℤ → ℤ)

def lowerBound (p : Partition) : ℤ := midnight (toDays p.lower.1 p.lower.2 1)

def upperBound (p : Partition) : ℤ := midnight (toDays p.upper.1 p.upper.2 1)

def holds (p : Partition) (ts : ℤ) : Bool := lowerBound midnight p ≤ ts && ts < upperBound midnight p

def overlaps (p q : Partition) : Bool :=
  lowerBound midnight p < upperBound midnight q && lowerBound midnight q < upperBound midnight p

/-- An `INSERT`. -/
def insert (s : TelemetryTable) (ts : ℤ) : TelemetryTable :=
  match s.partitions.find? (holds midnight · ts) with
  | some p => { s with rows := s.rows ++ [(p.name, ts)] }
  | none => { s with defaultRows := s.defaultRows ++ [ts] }

/-- `CREATE TABLE IF NOT EXISTS … PARTITION OF telemetry`; `none` is an error. -/
def create (s : TelemetryTable) (p : Partition) : Option TelemetryTable :=
  if s.partitions.any (·.name = p.name) then some s
  else if s.partitions.any (overlaps midnight p) then none
  else if s.defaultRows.any (holds midnight p) then none
  else some { s with partitions := s.partitions ++ [p] }

/-- The loop over the months, `n` of them left. -/
def ensure : ℕ → ℤ → ℤ → TelemetryTable → Option TelemetryTable
  | 0, _, _, s => some s
  | n + 1, y, m, s =>
    (create midnight s (monthPartitionSql y m)).bind fun s' =>
      if 12 < m + 1 then ensure n (y + 1) 1 s' else ensure n y (m + 1) s'

/-- `partition_manager.run`; `none` is an exception, and the transaction is undone. -/
def run (s : TelemetryTable) (now : ℤ) : Option TelemetryTable :=
  ensure midnight lookaheadMonths (yearMonth now).1 (yearMonth now).2 s

/-- Migration 0001, as far as it is about `telemetry`. -/
def upgrade (now : ℤ) : Option TelemetryTable :=
  ensure midnight 4 (yearMonth now).1 (yearMonth now).2 ⟨[], [], []⟩

def step (s : TelemetryTable) : PartitionEvent → Option TelemetryTable
  | .insert ts => some (s.insert midnight ts)
  | .run now => some ((s.run midnight now).getD s)

/-- A run of the job succeeds, and then the partitions of its month and of the three months
after it are there. -/
def Ensured (s : TelemetryTable) (e : PartitionEvent) (s' : TelemetryTable) : Prop :=
  match e with
  | .insert _ => True
  | .run now => (s.run midnight now).isSome = true ∧
      ∀ k < 4, monthPartition (monthOf now + (k : ℕ)) ∈ s'.partitions

/-- The row is of one of the four months from that of `now` on. -/
def Covers (now ts : ℤ) : Prop :=
  midnight (monthStart (monthOf now)) ≤ ts ∧ ts < midnight (monthStart (monthOf now + 4))

instance (now ts : ℤ) : Decidable (Covers midnight now ts) :=
  inferInstanceAs (Decidable (_ ∧ _))

/-- The loop by the number of its month. -/
def ensureMonths : ℕ → ℤ → TelemetryTable → Option TelemetryTable
  | 0, _, s => some s
  | n + 1, i, s => (create midnight s (monthPartition i)).bind (ensureMonths n (i + 1))

/-- A default row is of one of `n` months from `i` on. -/
def Blocked (s : TelemetryTable) (i : ℤ) (n : ℕ) : Prop :=
  ∃ ts ∈ s.defaultRows, ∃ k < n, holds midnight (monthPartition (i + (k : ℕ))) ts = true

/-- The partitions are months', and the default rows are in none of them. -/
structure Inv (s : TelemetryTable) : Prop where
  months : ∀ p ∈ s.partitions, ∃ i, p = monthPartition i
  defaultRows : ∀ ts ∈ s.defaultRows, ∀ p ∈ s.partitions, holds midnight p ts = false

/-- The partitions are those of the times at which they were made. -/
structure Linked (times : List ℤ) (s : TelemetryTable) : Prop where
  inv : Inv midnight s
  partitions : ∀ p, p ∈ s.partitions ↔ ∃ t ∈ times, ∃ k < 4, p = monthPartition (monthOf t + (k : ℕ))

/-- Each row that a later run covers is covered by one of the times before it. -/
def Timely (times : List ℤ) (es : List PartitionEvent) : Prop :=
  ∀ pre ts post, es = pre ++ .insert ts :: post → ∀ now ∈ runTimes post,
    Covers midnight now ts → ∃ t ∈ times ++ runTimes pre, Covers midnight t ts

end Database

end TelemetryTable

/-! ## Names and ranges -/

theorem monthPartitionSql_eq {y m : ℤ} (h₁ : 1 ≤ m) (h₁₂ : m ≤ 12) :
    monthPartitionSql y m = monthPartition (monthIndex y m) := by
  have hdiv : monthIndex y m / 12 = y := by unfold monthIndex; omega
  have hmod : monthIndex y m % 12 + 1 = m := by unfold monthIndex; omega
  rw [monthPartition, hdiv, hmod]

/-- **Different months have different names.** -/
theorem monthPartition_name_injective {i j : ℤ} (h : (monthPartition i).name = (monthPartition j).name) :
    i = j := by
  have hchars := congrArg String.toList h
  simp only [monthPartition, monthPartitionSql, String.toList_append, String.toList_ofList,
    List.append_assoc, List.append_cancel_left_eq] at hchars
  obtain ⟨hyear, hmonth⟩ := List.append_inj' hchars (by simp [length_showDigits])
  have hdiv : i / 12 = j / 12 := Int.repr_inj.1 (String.toList_inj.1 hyear)
  have hdigits : showDigits 2 (i % 12 + 1).toNat = showDigits 2 (j % 12 + 1).toNat :=
    List.append_cancel_left hmonth
  have hread := congrArg (fun s => takeDigits 2 (s ++ [])) hdigits
  simp only [takeDigits_showDigits, Option.some.injEq, Prod.mk.injEq, and_true] at hread
  omega

namespace TelemetryTable

variable {midnight : ℤ → ℤ}

theorem lowerBound_month (i : ℤ) : lowerBound midnight (monthPartition i) = midnight (monthStart i) := rfl

theorem upperBound_month (i : ℤ) :
    upperBound midnight (monthPartition i) = midnight (monthStart (i + 1)) := by
  have hnext : monthStart (i + 1) = toDays (monthPartition i).upper.1 (monthPartition i).upper.2 1 := by
    have h := toDays_next (y := i / 12) (m := i % 12 + 1) (by omega) (by omega)
    rw [monthStart_succ, monthStart, ← h, monthPartition, monthPartitionSql]
    dsimp only
    split_ifs <;> rfl
  rw [upperBound, hnext]

theorem holds_month_iff (i ts : ℤ) :
    holds midnight (monthPartition i) ts = true ↔ ts ∈ Tiling.tile (fun j => midnight (monthStart j)) i := by
  rw [holds, Bool.and_eq_true, decide_eq_true_eq, decide_eq_true_eq, upperBound_month, Tiling.mem_tile]
  exact Iff.rfl

/-! ## One statement, one run -/

theorem yearMonth_valid (now : ℤ) : 1 ≤ (yearMonth now).2 ∧ (yearMonth now).2 ≤ 12 := by
  have h := (ofDays_spec (now / 86400000000)).1
  simp only [validDate, Bool.and_eq_true, decide_eq_true_eq] at h
  exact ⟨h.1.1.1, h.1.1.2⟩

/-- The loop's own month arithmetic counts months. -/
theorem ensure_eq (n : ℕ) : ∀ {s : TelemetryTable} {y m : ℤ}, 1 ≤ m → m ≤ 12 →
    ensure midnight n y m s = ensureMonths midnight n (monthIndex y m) s := by
  induction n with
  | zero => exact fun _ _ => rfl
  | succ n ih =>
    intro s y m h₁ h₁₂
    rw [ensure, ensureMonths, monthPartitionSql_eq h₁ h₁₂]
    congr 1
    funext s'
    split_ifs with h
    · rw [ih (by omega) (by omega)]
      congr 1
      unfold monthIndex
      omega
    · rw [ih (by omega) (by omega)]
      congr 1
      unfold monthIndex
      omega

section Steps

variable (hzone : StrictMono midnight) {s s' : TelemetryTable}
include hzone

theorem bounds_strictMono : StrictMono fun j => midnight (monthStart j) :=
  hzone.comp monthStart_strictMono

/-- A row of one of several months in a row. -/
theorem mem_months_iff (i ts : ℤ) (n : ℕ) :
    midnight (monthStart i) ≤ ts ∧ ts < midnight (monthStart (i + n)) ↔
      ∃ k < n, holds midnight (monthPartition (i + (k : ℕ))) ts = true := by
  simp only [holds_month_iff]
  exact Tiling.mem_row_iff (bounds_strictMono hzone) n

theorem overlaps_month_iff (i j : ℤ) :
    overlaps midnight (monthPartition i) (monthPartition j) = true ↔ i = j := by
  rw [overlaps, Bool.and_eq_true, decide_eq_true_eq, decide_eq_true_eq, upperBound_month, upperBound_month]
  exact Tiling.overlap_iff (bounds_strictMono hzone)

/-- **What a `CREATE` does** for a month: it fails on a default row of that month only. -/
theorem create_cases (hs : Inv midnight s) (i : ℤ) :
    (∃ ts ∈ s.defaultRows, holds midnight (monthPartition i) ts = true) ∧
        create midnight s (monthPartition i) = none ∨
      (∀ ts ∈ s.defaultRows, holds midnight (monthPartition i) ts = false) ∧
        ∃ s', create midnight s (monthPartition i) = some s' ∧ Inv midnight s' ∧
          s'.defaultRows = s.defaultRows ∧
          ∀ p, p ∈ s'.partitions ↔ p ∈ s.partitions ∨ p = monthPartition i := by
  by_cases hin : monthPartition i ∈ s.partitions
  · -- the table is there already, and no default row is in it
    right
    have hany : s.partitions.any (·.name = (monthPartition i).name) = true :=
      List.any_eq_true.2 ⟨_, hin, decide_eq_true rfl⟩
    refine ⟨fun ts hts => hs.defaultRows ts hts _ hin, s, if_pos hany, hs, rfl, fun p => ?_⟩
    constructor
    · exact Or.inl
    · rintro (hp | rfl)
      · exact hp
      · exact hin
  · have hname : s.partitions.any (·.name = (monthPartition i).name) = false := by
      rw [List.any_eq_false]
      intro p hp heq
      obtain ⟨j, rfl⟩ := hs.months p hp
      rw [monthPartition_name_injective (of_decide_eq_true heq)] at hp
      exact hin hp
    have hoverlap : s.partitions.any (overlaps midnight (monthPartition i)) = false := by
      rw [List.any_eq_false]
      intro p hp heq
      obtain ⟨j, rfl⟩ := hs.months p hp
      rw [← (overlaps_month_iff hzone i j).1 heq] at hp
      exact hin hp
    unfold create
    rw [hname, hoverlap, if_neg Bool.false_ne_true, if_neg Bool.false_ne_true]
    cases hrow : s.defaultRows.any (holds midnight (monthPartition i)) with
    | true =>
      left
      exact ⟨List.any_eq_true.1 hrow, if_pos rfl⟩
    | false =>
      right
      have hfree : ∀ ts ∈ s.defaultRows, holds midnight (monthPartition i) ts = false := by
        intro ts hts
        simpa using List.any_eq_false.1 hrow ts hts
      refine ⟨hfree, _, if_neg Bool.false_ne_true, ⟨?_, ?_⟩, rfl, fun p => ?_⟩
      · intro p hp
        rcases List.mem_append.1 hp with hp | hp
        · exact hs.months p hp
        · exact ⟨i, List.mem_singleton.1 hp⟩
      · intro ts hts p hp
        rcases List.mem_append.1 hp with hp | hp
        · exact hs.defaultRows ts hts p hp
        · rw [List.mem_singleton.1 hp]
          exact hfree ts hts
      · rw [List.mem_append, List.mem_singleton]

/-- **What the loop does**: it fails exactly on a default row of one of its months. -/
theorem ensureMonths_cases (n : ℕ) : ∀ {s : TelemetryTable} {i : ℤ}, Inv midnight s →
    Blocked midnight s i n ∧ ensureMonths midnight n i s = none ∨
      ¬ Blocked midnight s i n ∧
        ∃ s', ensureMonths midnight n i s = some s' ∧ Inv midnight s' ∧ s'.defaultRows = s.defaultRows ∧
          ∀ p, p ∈ s'.partitions ↔ p ∈ s.partitions ∨ ∃ k < n, p = monthPartition (i + (k : ℕ)) := by
  induction n with
  | zero =>
    intro s i hs
    right
    refine ⟨?_, s, rfl, hs, rfl, by simp⟩
    rintro ⟨ts, -, k, hk, -⟩
    exact Nat.not_lt_zero k hk
  | succ n ih =>
    intro s i hs
    have hnext : ∀ k : ℕ, i + ((k + 1 : ℕ) : ℤ) = i + 1 + (k : ℕ) := by
      intro k
      push_cast
      ring
    have hblocked : Blocked midnight s i (n + 1) ↔
        (∃ ts ∈ s.defaultRows, holds midnight (monthPartition i) ts = true) ∨
          Blocked midnight s (i + 1) n := by
      simp only [Blocked, Nat.exists_lt_succ_left, hnext, Nat.cast_zero, add_zero, and_or_left, exists_or]
    rw [hblocked, ensureMonths]
    rcases create_cases hzone hs i with ⟨hrow, hnone⟩ | ⟨hfree, s₁, hsome, hs₁, hdef₁, hmem₁⟩
    · left
      rw [hnone]
      exact ⟨Or.inl hrow, rfl⟩
    · have hno : ¬ ∃ ts ∈ s.defaultRows, holds midnight (monthPartition i) ts = true := by
        rintro ⟨ts, hts, hheld⟩
        rw [hfree ts hts] at hheld
        cases hheld
      have hsame : Blocked midnight s₁ (i + 1) n ↔ Blocked midnight s (i + 1) n := by
        unfold Blocked
        rw [hdef₁]
      rw [hsome, Option.bind_some, or_iff_right hno, ← hsame]
      rcases ih (i := i + 1) hs₁ with hrest | ⟨hfree', s', hs', hinv', hdef', hmem'⟩
      · exact Or.inl hrest
      · refine Or.inr ⟨hfree', s', hs', hinv', hdef'.trans hdef₁, fun p => ?_⟩
        rw [hmem', hmem₁, Nat.exists_lt_succ_left, or_assoc]
        simp only [hnext, Nat.cast_zero, add_zero]

theorem blocked_iff (now : ℤ) :
    Blocked midnight s (monthOf now) 4 ↔ ∃ ts ∈ s.defaultRows, Covers midnight now ts := by
  unfold Blocked Covers
  simp only [← mem_months_iff hzone (monthOf now) _ 4]
  exact Iff.rfl

/-- **What a run of the job does.** -/
theorem run_cases (hs : Inv midnight s) (now : ℤ) :
    (∃ ts ∈ s.defaultRows, Covers midnight now ts) ∧ s.run midnight now = none ∨
      (¬ ∃ ts ∈ s.defaultRows, Covers midnight now ts) ∧
        ∃ s', s.run midnight now = some s' ∧ Inv midnight s' ∧ s'.defaultRows = s.defaultRows ∧
          ∀ p, p ∈ s'.partitions ↔ p ∈ s.partitions ∨ ∃ k < 4, p = monthPartition (monthOf now + (k : ℕ)) := by
  obtain ⟨h₁, h₁₂⟩ := yearMonth_valid now
  rw [← blocked_iff hzone, run, ensure_eq _ h₁ h₁₂]
  exact ensureMonths_cases hzone 4 hs

/-! ## Runs -/

variable {times : List ℤ}

/-- There is a partition for a row exactly when some time covers its month. -/
theorem holds_iff_covers (hs : Linked midnight times s) (ts : ℤ) :
    (∃ p ∈ s.partitions, holds midnight p ts = true) ↔ ∃ t ∈ times, Covers midnight t ts := by
  constructor
  · rintro ⟨p, hp, hheld⟩
    obtain ⟨t, ht, k, hk, rfl⟩ := (hs.partitions p).1 hp
    exact ⟨t, ht, (mem_months_iff hzone (monthOf t) ts 4).2 ⟨k, hk, hheld⟩⟩
  · rintro ⟨t, ht, hcovers⟩
    obtain ⟨k, hk, hheld⟩ := (mem_months_iff hzone (monthOf t) ts 4).1 hcovers
    exact ⟨_, (hs.partitions _).2 ⟨t, ht, k, hk, rfl⟩, hheld⟩

theorem linked_insert (hs : Linked midnight times s) (ts : ℤ) :
    Linked midnight times (s.insert midnight ts) ∧
      (s.insert midnight ts).defaultRows =
        if ∃ t ∈ times, Covers midnight t ts then s.defaultRows else s.defaultRows ++ [ts] := by
  have hcovers := holds_iff_covers hzone hs ts
  unfold insert
  cases hfind : s.partitions.find? (holds midnight · ts) with
  | some p =>
    have hfound := List.find?_some hfind
    have hheld : ∃ p ∈ s.partitions, holds midnight p ts = true :=
      ⟨p, List.mem_of_find?_eq_some hfind, hfound⟩
    rw [if_pos (hcovers.1 hheld)]
    exact ⟨⟨⟨hs.inv.months, hs.inv.defaultRows⟩, hs.partitions⟩, rfl⟩
  | none =>
    have hfree : ∀ p ∈ s.partitions, holds midnight p ts = false := by
      intro p hp
      simpa using List.find?_eq_none.1 hfind p hp
    have hno : ¬ ∃ p ∈ s.partitions, holds midnight p ts = true := by
      rintro ⟨p, hp, hheld⟩
      rw [hfree p hp] at hheld
      cases hheld
    rw [if_neg (mt hcovers.2 hno)]
    refine ⟨⟨⟨hs.inv.months, fun row hrow => ?_⟩, hs.partitions⟩, rfl⟩
    rcases List.mem_append.1 hrow with hrow | hrow
    · exact hs.inv.defaultRows row hrow
    · rw [List.mem_singleton.1 hrow]
      exact hfree

/-- A run that commits. -/
theorem linked_run (hs : Linked midnight times s) {now : ℤ}
    (hfree : ¬ ∃ ts ∈ s.defaultRows, Covers midnight now ts) :
    ∃ s', s.run midnight now = some s' ∧ Linked midnight (times ++ [now]) s' ∧
      s'.defaultRows = s.defaultRows := by
  rcases run_cases hzone hs.inv now with ⟨hrow, -⟩ | ⟨-, s', hrun, hinv, hdef, hmem⟩
  · exact absurd hrow hfree
  · refine ⟨s', hrun, ⟨hinv, fun p => ?_⟩, hdef⟩
    simp only [hmem, hs.partitions, List.mem_append, List.mem_singleton, or_and_right, exists_or,
      exists_eq_left]

/-- **One run is as it should be** exactly when no default row is of its months. -/
theorem ensured_run_iff (hs : Linked midnight times s) {now : ℤ}
    (h : step midnight s (.run now) = some s') :
    Ensured midnight s (.run now) s' ↔ ¬ ∃ ts ∈ s.defaultRows, Covers midnight now ts := by
  rcases run_cases hzone hs.inv now with ⟨hrow, hnone⟩ | ⟨hfree, t, hrun, -, -, hmem⟩
  · have hfail : ¬ Ensured midnight s (.run now) s' := by
      intro hens
      have hsome := hens.1
      rw [hnone] at hsome
      cases hsome
    exact ⟨fun hens => absurd hens hfail, fun hfree => absurd hrow hfree⟩
  · have ht : s' = t := by
      rw [step, hrun] at h
      exact (Option.some.inj h).symm
    have hens : Ensured midnight s (.run now) s' := by
      refine ⟨by rw [hrun]; rfl, fun k hk => ?_⟩
      rw [ht, hmem]
      exact Or.inr ⟨k, hk, rfl⟩
    exact ⟨fun _ => hfree, fun _ => hens⟩

omit hzone in
theorem timely_insert (ts : ℤ) (es : List PartitionEvent) :
    Timely midnight times (.insert ts :: es) ↔
      (∀ now ∈ runTimes es, Covers midnight now ts → ∃ t ∈ times, Covers midnight t ts) ∧
        Timely midnight times es := by
  have hnil : times ++ runTimes [] = times := List.append_nil times
  constructor
  · intro h
    refine ⟨?_, fun pre ts' post hes => h (.insert ts :: pre) ts' post (by rw [hes]; rfl)⟩
    have hfirst := h [] ts es rfl
    rwa [hnil] at hfirst
  · rintro ⟨hfirst, hrest⟩ pre ts' post hes
    rcases List.cons_eq_append_iff.1 hes with ⟨rfl, hcons⟩ | ⟨pre', rfl, hes'⟩
    · cases hcons
      rwa [hnil]
    · exact hrest pre' ts' post hes'

omit hzone in
theorem timely_run (now : ℤ) (es : List PartitionEvent) :
    Timely midnight times (.run now :: es) ↔ Timely midnight (times ++ [now]) es := by
  have hcons : ∀ pre, times ++ runTimes (.run now :: pre) = times ++ [now] ++ runTimes pre := by
    intro pre
    rw [List.append_assoc]
    rfl
  constructor
  · intro h pre ts post hes
    have hrest := h (.run now :: pre) ts post (by rw [hes]; rfl)
    rwa [hcons] at hrest
  · intro h pre ts post hes
    rcases List.cons_eq_append_iff.1 hes with ⟨rfl, hcons'⟩ | ⟨pre', rfl, hes'⟩
    · cases hcons'
    · rw [hcons]
      exact h pre' ts post hes'

/-- **Along a run**, from the times so far and the default rows. -/
theorem along_ensured_iff (es : List PartitionEvent) : ∀ {times : List ℤ} {s : TelemetryTable},
    Linked midnight times s →
      (Along (step midnight) (Ensured midnight) s es ↔
        (∀ ts ∈ s.defaultRows, ∀ now ∈ runTimes es, ¬ Covers midnight now ts) ∧
          Timely midnight times es) := by
  induction es with
  | nil =>
    intro times s _
    simp [Along, runTimes, Timely]
  | cons e es ih =>
    intro times s hs
    cases e with
    | insert ts =>
      obtain ⟨hlinked, hdef⟩ := linked_insert hzone hs ts
      have hens : Ensured midnight s (.insert ts) (s.insert midnight ts) := trivial
      have hruns : runTimes (.insert ts :: es) = runTimes es := rfl
      rw [along_cons_of_eq rfl, and_iff_right hens, ih hlinked, hdef, timely_insert, hruns]
      split_ifs with hcovered
      · -- the row goes to a partition
        constructor
        · rintro ⟨hrows, htimely⟩
          exact ⟨hrows, fun _ _ _ => hcovered, htimely⟩
        · rintro ⟨hrows, -, htimely⟩
          exact ⟨hrows, htimely⟩
      · -- the row is one more in the default partition
        constructor
        · rintro ⟨hrows, htimely⟩
          refine ⟨fun row hrow => hrows row (List.mem_append_left _ hrow), fun now hnow hcov => ?_, htimely⟩
          exact absurd hcov (hrows ts (by simp) now hnow)
        · rintro ⟨hrows, hts, htimely⟩
          refine ⟨fun row hrow now hnow hcov => ?_, htimely⟩
          rcases List.mem_append.1 hrow with hrow | hrow
          · exact hrows row hrow now hnow hcov
          · rw [List.mem_singleton.1 hrow] at hcov
            exact hcovered (hts now hnow hcov)
    | run now =>
      have hruns : runTimes (.run now :: es) = now :: runTimes es := rfl
      rw [along_cons_of_eq rfl, ensured_run_iff hzone hs rfl, timely_run, hruns]
      by_cases hfree : ∃ ts ∈ s.defaultRows, Covers midnight now ts
      · obtain ⟨ts, hts, hcov⟩ := hfree
        constructor
        · exact fun h => absurd ⟨ts, hts, hcov⟩ h.1
        · exact fun h => absurd hcov (h.1 ts hts now List.mem_cons_self)
      · obtain ⟨s', hrun, hlinked, hdef⟩ := linked_run hzone hs hfree
        rw [hrun, Option.getD_some, and_iff_right hfree, ih hlinked, hdef]
        simp only [List.forall_mem_cons, forall_and]
        constructor
        · rintro ⟨hrows, htimely⟩
          exact ⟨⟨fun ts hts hcov => hfree ⟨ts, hts, hcov⟩, hrows⟩, htimely⟩
        · rintro ⟨⟨-, hrows⟩, htimely⟩
          exact ⟨hrows, htimely⟩

/-- **Partitions are always there.** Migration 0001 at any time leaves a database from which,
for every sequence of inserted rows and runs of the job, each run succeeds and leaves the
partitions of its month and of the next three in place, if and only if every row that a
later run's months cover is covered by the migration or by a run before it. -/
theorem ensured_iff (migrated : ℤ) :
    ∃ s₀, upgrade midnight migrated = some s₀ ∧ ∀ es,
      Along (step midnight) (Ensured midnight) s₀ es ↔ Timely midnight [migrated] es := by
  have hempty : Linked midnight [] ⟨[], [], []⟩ := ⟨⟨by simp, by simp⟩, by simp⟩
  have hfree : ¬ ∃ ts ∈ ([] : List ℤ), Covers midnight migrated ts := by simp
  obtain ⟨s₀, hrun, hlinked, hdef⟩ := linked_run hzone hempty hfree
  refine ⟨s₀, hrun, fun es => ?_⟩
  rw [along_ensured_iff hzone es hlinked, hdef]
  simp

end Steps

/-! A database in UTC, migrated in January 2026. -/

def utc (day : ℤ) : ℤ := 86400000000 * day

theorem utc_strictMono : StrictMono utc := by
  intro a b h
  unfold utc
  omega

/-- The start of a day of 2026. -/
def day2026 (m d : ℤ) : ℤ := utc (toDays 2026 m d)

/-- A row of April comes, and the job runs in March. -/
theorem april_row_ensured :
    ∃ s₀, upgrade utc (day2026 1 15) = some s₀ ∧
      Along (step utc) (Ensured utc) s₀ [.insert (day2026 4 10), .run (day2026 3 1)] := by
  obtain ⟨s₀, hs₀, hiff⟩ := ensured_iff utc_strictMono (day2026 1 15)
  refine ⟨s₀, hs₀, (hiff _).2 ?_⟩
  rw [timely_insert, timely_run]
  refine ⟨fun _ _ _ => ⟨day2026 1 15, List.mem_singleton_self _, by decide +kernel⟩, ?_⟩
  intro pre ts post hes
  exact absurd hes (by simp)

/-- A row dated in June comes before the job runs in March: the run fails, and May has no
partition either. -/
theorem june_row_blocks_may :
    ∃ s₀, upgrade utc (day2026 1 15) = some s₀ ∧
      ¬ Along (step utc) (Ensured utc) s₀ [.insert (day2026 6 10), .run (day2026 3 1)] ∧
      (Lts.run (step utc) s₀ [.insert (day2026 6 10), .run (day2026 3 1)]).map
          (·.partitions.map (·.name)) =
        some ["telemetry_2026_01", "telemetry_2026_02", "telemetry_2026_03", "telemetry_2026_04"] := by
  have hrun : (upgrade utc (day2026 1 15)).map (fun s =>
      ((run utc (insert utc s (day2026 6 10)) (day2026 3 1)).isSome,
        (Lts.run (step utc) s [.insert (day2026 6 10), .run (day2026 3 1)]).map
          (·.partitions.map (·.name)))) =
      some (false,
        some ["telemetry_2026_01", "telemetry_2026_02", "telemetry_2026_03", "telemetry_2026_04"]) := by
    decide +kernel
  obtain ⟨s₀, hs₀, hsum⟩ := Option.map_eq_some_iff.1 hrun
  refine ⟨s₀, hs₀, fun halong => ?_, congrArg Prod.snd hsum⟩
  obtain ⟨-, hrest⟩ := halong _ rfl
  obtain ⟨⟨hsome, -⟩, -⟩ := hrest _ rfl
  have hnone := congrArg Prod.fst hsum
  rw [hsome] at hnone
  cases hnone

end TelemetryTable

end Server
