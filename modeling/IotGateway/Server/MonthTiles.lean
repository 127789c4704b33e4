import IotGateway.Server.Partitions

/-!
# The partitions tile time

`_month_partition_sql` builds a text, and the database reads the name and the two dates of
it. In years of four digits it reads the first of the month and the first of the next
(`readStatement_sql`), so the statements of a run do what `TelemetryTable.run` says
(`runSql_eq`).

`tiles_of_runs`: **at every moment of every history after the migration the partitions are
whole months, one for each name and without overlap, and a run that commits leaves the four
months from its clock's on without a gap.** With no rows in the default partition every run
commits.
-/

namespace Server

open Calendar Lts

/-! ## The texts -/

/-- The `{year}-{month:02d}-01` of the statement. -/
def firstOfMonth (year month : ℤ) : List Char :=
  (toString year).toList ++ '-' :: (showDigits 2 month.toNat ++ ['-', '0', '1'])

def createTable : List Char := "CREATE TABLE IF NOT EXISTS ".toList

def valuesFrom : List Char := " PARTITION OF telemetry FOR VALUES FROM ('".toList

def valuesTo : List Char := "') TO ('".toList

def closing : List Char := "');".toList

/-- The `sql` of `_month_partition_sql`, of which `monthPartitionSql` has the name. -/
def monthPartitionStatement (year month : ℤ) : List Char :=
  let (nextYear, nextMonth) := if month < 12 then (year, month + 1) else (year + 1, 1)
  createTable ++ ((monthPartitionSql year month).name.toList ++ (valuesFrom ++
    (firstOfMonth year month ++ (valuesTo ++ (firstOfMonth nextYear nextMonth ++ closing)))))

/-- The statements of a run in their order, `n` of them left. -/
def statements : ℕ → ℤ → ℤ → List (List Char)
  | 0, _, _ => []
  | n + 1, y, m => monthPartitionStatement y m ::
    if 12 < m + 1 then statements n (y + 1) 1 else statements n y (m + 1)

/-- A date `YYYY-MM-DD` from the front of a text. -/
def takeDate (s : List Char) : Option ((ℤ × ℤ × ℤ) × List Char) := do
  let (y, s) ← takeDigits 4 s
  let s ← expect '-' s
  let (m, s) ← takeDigits 2 s
  let s ← expect '-' s
  let (d, s) ← takeDigits 2 s
  if 1 ≤ y ∧ validDate y m d = true then some ((y, m, d), s) else none

/-- The statement as the database reads it. The bounds of a `Partition` are firsts of months. -/
def readStatement (sql : List Char) : Option Partition := do
  let s ← expectAll createTable sql
  -- an unquoted identifier ends at the blank
  let name := s.takeWhile (· ≠ ' ')
  let s ← expectAll valuesFrom (s.dropWhile (· ≠ ' '))
  let (lower, s) ← takeDate s
  let s ← expectAll valuesTo s
  let (upper, s) ← takeDate s
  let s ← expectAll closing s
  if s = [] ∧ lower.2.2 = 1 ∧ upper.2.2 = 1 then
    some ⟨String.ofList name, (lower.1, lower.2.1), (upper.1, upper.2.1)⟩
  else none

/-- The first of a month of a year with four digits is read as such. -/
theorem takeDate_firstOfMonth {y m : ℤ} (h₁ : 1 ≤ m) (h₁₂ : m ≤ 12) (hlow : 1000 ≤ y) (hhigh : y ≤ 9999)
    (s : List Char) : takeDate (firstOfMonth y m ++ s) = some ((y, m, 1), s) := by
  have hyear : (toString y).toList = showDigits 4 y.toNat := by
    obtain ⟨n, rfl⟩ := Int.eq_ofNat_of_zero_le (show 0 ≤ y by omega)
    have hdigits := toDigits_eq_showDigits 3 (n := n) (by omega) (by omega)
    rw [Int.toNat_natCast, ← hdigits, ← Nat.toList_repr]
    rfl
  have hvalid : validDate y m 1 = true := by
    have := daysInMonth_pos y m
    simp only [validDate, Bool.and_eq_true, decide_eq_true_eq]
    exact ⟨⟨⟨h₁, h₁₂⟩, le_rfl⟩, this⟩
  have hy : ((y.toNat % 10 ^ 4 : ℕ) : ℤ) = y := by omega
  have hm : ((m.toNat % 10 ^ 2 : ℕ) : ℤ) = m := by omega
  have hd : takeDigits 2 ('0' :: '1' :: s) = some (1, s) := takeDigits_showDigits 2 1 s
  rw [firstOfMonth, hyear, takeDate, List.append_assoc, takeDigits_showDigits]
  simp only [Option.bind_eq_bind, Option.bind_some, List.cons_append, List.append_assoc, expect_cons,
    takeDigits_showDigits, List.nil_append, hd, hy, hm]
  rw [Nat.cast_one, if_pos ⟨by omega, hvalid⟩]

/-- The name has no blank. -/
theorem blank_not_mem_name (y m : ℤ) (hy : 0 ≤ y) : ' ' ∉ (monthPartitionSql y m).name.toList := by
  obtain ⟨n, rfl⟩ := Int.eq_ofNat_of_zero_le hy
  have hyear : ' ' ∉ (toString (n : ℤ)).toList := by
    intro hmem
    have hdigits : (toString (n : ℤ)).toList = Nat.toDigits 10 n := Nat.toList_repr
    rw [hdigits] at hmem
    exact absurd (Nat.isDigit_of_mem_toDigits (by decide) (by decide) hmem) (by decide)
  have hmonth : ' ' ∉ showDigits 2 m.toNat := fun hmem =>
    absurd (isDigit_showDigits 2 _ _ hmem) (by decide)
  have hstem : ' ' ∉ "telemetry_".toList := by decide
  have hbar : ' ' ∉ "_".toList := by decide
  simp only [monthPartitionSql, String.toList_append, String.toList_ofList, List.mem_append, not_or]
  exact ⟨⟨⟨hstem, hyear⟩, hbar⟩, hmonth⟩

/-- **The statement says what it is for**, before December 9999. -/
theorem readStatement_sql {y m : ℤ} (h₁ : 1 ≤ m) (h₁₂ : m ≤ 12) (hlow : 1000 ≤ y)
    (hhigh : 12 * y + m < 12 * 9999 + 12) :
    readStatement (monthPartitionStatement y m) = some (monthPartitionSql y m) := by
  have hname : ∀ c ∈ (monthPartitionSql y m).name.toList, decide (c ≠ ' ') = true := by
    intro c hc
    refine decide_eq_true fun heq => ?_
    rw [heq] at hc
    exact blank_not_mem_name y m (by omega) hc
  -- the name is what comes before the first blank
  obtain ⟨rest, hblank⟩ : ∃ t, valuesFrom = ' ' :: t := ⟨_, rfl⟩
  have htake : ∀ s, (valuesFrom ++ s).takeWhile (· ≠ ' ') = [] := by
    intro s
    rw [hblank, List.cons_append, List.takeWhile_cons_of_neg (by decide)]
  have hdrop : ∀ s, (valuesFrom ++ s).dropWhile (· ≠ ' ') = valuesFrom ++ s := by
    intro s
    rw [hblank, List.cons_append, List.dropWhile_cons_of_neg (by decide)]
  have hclosing : expectAll closing closing = some [] := by
    have h := expectAll_append closing []
    rwa [List.append_nil] at h
  obtain ⟨ny, nm, hnext, hny, hnm₁, hnm₁₂⟩ : ∃ ny nm,
      (if m < 12 then (y, m + 1) else (y + 1, 1)) = (ny, nm) ∧ (1000 ≤ ny ∧ ny ≤ 9999) ∧ 1 ≤ nm ∧ nm ≤ 12 := by
    split_ifs with h
    · exact ⟨_, _, rfl, by omega, by omega, by omega⟩
    · exact ⟨_, _, rfl, by omega, by omega, by omega⟩
  have hpartition : monthPartitionSql y m = ⟨(monthPartitionSql y m).name, (y, m), (ny, nm)⟩ := by
    rw [← hnext]
    rfl
  rw [readStatement, monthPartitionStatement, hnext]
  dsimp only
  rw [expectAll_append]
  simp only [Option.bind_eq_bind, Option.bind_some, List.takeWhile_append_of_pos hname,
    List.dropWhile_append_of_pos hname, htake, hdrop, expectAll_append,
    takeDate_firstOfMonth h₁ h₁₂ hlow (by omega : y ≤ 9999), takeDate_firstOfMonth hnm₁ hnm₁₂ hny.1 hny.2, hclosing]
  rw [if_pos ⟨trivial, trivial, trivial⟩, List.append_nil, String.ofList_toList, ← hpartition]

namespace TelemetryTable

section Definitions

variable (midnight : ℤ → ℤ)

/-- One statement as a text; `none` is an error. -/
def execute (s : TelemetryTable) (sql : List Char) : Option TelemetryTable :=
  (readStatement sql).bind (create midnight s)

/-- `partition_manager.run` on texts. -/
def runSql (s : TelemetryTable) (now : ℤ) : Option TelemetryTable :=
  (statements lookaheadMonths (yearMonth now).1 (yearMonth now).2).foldlM (execute midnight) s

/-- Migration 0001 on texts. -/
def upgradeSql (now : ℤ) : Option TelemetryTable :=
  (statements 4 (yearMonth now).1 (yearMonth now).2).foldlM (execute midnight) ⟨[], [], []⟩

def sqlStep (s : TelemetryTable) : PartitionEvent → Option TelemetryTable
  | .insert ts => some (s.insert midnight ts)
  | .run now => some ((s.runSql midnight now).getD s)

/-- The clock shows a year from 1000 to 9998. -/
def FourDigits (now : ℤ) : Prop := 1000 ≤ (yearMonth now).1 ∧ (yearMonth now).1 ≤ 9998

/-- The rows' times a partition is for. -/
def range (p : Partition) : Set ℤ := Set.Ico (lowerBound midnight p) (upperBound midnight p)

/-- Whole months, one for each name and without overlap. -/
structure Tiles (ps : List Partition) : Prop where
  disjoint : ps.Pairwise fun p q => Disjoint (range midnight p) (range midnight q)
  name_iff : ∀ p ∈ ps, ∀ q ∈ ps, p.name = q.name ↔ p.lower = q.lower
  unique : ∀ p ∈ ps, ∀ q ∈ ps, p.lower = q.lower → p = q
  month : ∀ p ∈ ps, ∃ i, p = monthPartition i ∧ lowerBound midnight p = midnight (monthStart i) ∧
    upperBound midnight p = lowerBound midnight (monthPartition (i + 1))

/-- The four months from that of `now` on have their partitions, and no time of them is left out. -/
structure CoversMonths (now : ℤ) (s : TelemetryTable) : Prop where
  /-- the month is the one the clock is in -/
  clock : 86400000000 * monthStart (monthOf now) ≤ now ∧ now < 86400000000 * monthStart (monthOf now + 1)
  months : ∀ k < 4, monthPartition (monthOf now + (k : ℕ)) ∈ s.partitions
  gapless : ∀ ts, Covers midnight now ts → ∃ p ∈ s.partitions, ts ∈ range midnight p

/-- No partition goes, and a run that commits covers its months. -/
def Extends (s : TelemetryTable) (e : PartitionEvent) (s' : TelemetryTable) : Prop :=
  s.partitions <+: s'.partitions ∧
    ∀ now, e = .run now → (s.runSql midnight now).isSome = true → CoversMonths midnight now s'

end Definitions

/-- The loop on texts does what the loop on partitions does. -/
theorem foldlM_statements {midnight : ℤ → ℤ} (n : ℕ) : ∀ {y m : ℤ} {s : TelemetryTable}, 1 ≤ m → m ≤ 12 →
    1000 ≤ y → 12 * y + m + n ≤ 12 * 9999 + 12 →
    (statements n y m).foldlM (execute midnight) s = ensure midnight n y m s := by
  induction n with
  | zero => exact fun _ _ _ _ => rfl
  | succ n ih =>
    intro y m s h₁ h₁₂ hlow hhigh
    push_cast at hhigh
    rw [statements, ensure, List.foldlM_cons, execute, readStatement_sql h₁ h₁₂ hlow (by omega),
      Option.bind_some, Option.bind_eq_bind]
    congr 1
    funext s'
    split_ifs with h
    · exact ih (by omega) (by omega) (by omega) (by omega)
    · exact ih (by omega) (by omega) (by omega) (by omega)

variable {midnight : ℤ → ℤ}

/-- **A run's texts do what the run does.** -/
theorem runSql_eq {now : ℤ} (hyear : FourDigits now) (s : TelemetryTable) :
    s.runSql midnight now = s.run midnight now := by
  obtain ⟨h₁, h₁₂⟩ := yearMonth_valid now
  -- the last of the four months is in 9999 at the latest
  have hlast : 12 * (yearMonth now).1 + (yearMonth now).2 + (lookaheadMonths : ℕ) ≤ 12 * 9999 + 12 := by
    have := hyear.2
    have hmonths : ((lookaheadMonths : ℕ) : ℤ) = 4 := rfl
    omega
  exact foldlM_statements _ h₁ h₁₂ hyear.1 hlast

theorem upgradeSql_eq {now : ℤ} (hyear : FourDigits now) :
    upgradeSql midnight now = upgrade midnight now :=
  runSql_eq hyear ⟨[], [], []⟩

/-- A day is in its month. -/
theorem clock_month (now : ℤ) :
    86400000000 * monthStart (monthOf now) ≤ now ∧ now < 86400000000 * monthStart (monthOf now + 1) := by
  obtain ⟨hvalid, hday⟩ := ofDays_spec (now / 86400000000)
  simp only [validDate, Bool.and_eq_true, decide_eq_true_eq] at hvalid
  obtain ⟨⟨⟨h₁, h₁₂⟩, hd₁⟩, hd⟩ := hvalid
  have hstart : monthStart (monthOf now) = toDays (yearMonth now).1 (yearMonth now).2 1 :=
    monthStart_index h₁ h₁₂
  have hnext := monthStart_succ (monthOf now)
  have hdiv : monthOf now / 12 = (yearMonth now).1 := by
    unfold monthOf monthIndex yearMonth
    omega
  have hmod : monthOf now % 12 + 1 = (yearMonth now).2 := by
    unfold monthOf monthIndex yearMonth
    omega
  rw [hdiv, hmod] at hnext
  unfold yearMonth at hstart hnext
  unfold toDays at hstart hday
  dsimp only at hstart hnext
  omega

/-! ## What is kept -/

/-- The months of some clocks, each with its own name. -/
structure Distinct (midnight : ℤ → ℤ) (s : TelemetryTable) : Prop where
  linked : ∃ times, Linked midnight times s
  nodup : (s.partitions.map (·.name)).Nodup

/-- A `CREATE` adds at the end, and no name twice. -/
theorem create_extends {s s' : TelemetryTable} {p : Partition} (h : create midnight s p = some s')
    (hs : (s.partitions.map (·.name)).Nodup) :
    s.partitions <+: s'.partitions ∧ (s'.partitions.map (·.name)).Nodup := by
  unfold create at h
  split_ifs at h with hname hoverlap hrow
  · cases h
    exact ⟨List.prefix_rfl, hs⟩
  · cases h
    refine ⟨List.prefix_append _ _, ?_⟩
    rw [List.map_append, List.map_singleton, List.nodup_append]
    refine ⟨hs, List.nodup_singleton _, fun name hmem name' hmem' heq => ?_⟩
    obtain ⟨q, hq, rfl⟩ := List.mem_map.1 hmem
    rw [List.mem_singleton] at hmem'
    exact hname (List.any_eq_true.2 ⟨q, hq, decide_eq_true (heq.trans hmem')⟩)

theorem ensure_extends (n : ℕ) : ∀ {y m : ℤ} {s s' : TelemetryTable}, ensure midnight n y m s = some s' →
    (s.partitions.map (·.name)).Nodup →
      s.partitions <+: s'.partitions ∧ (s'.partitions.map (·.name)).Nodup := by
  induction n with
  | zero =>
    intro y m s s' h hs
    cases h
    exact ⟨List.prefix_rfl, hs⟩
  | succ n ih =>
    intro y m s s' h hs
    rw [ensure, Option.bind_eq_some_iff] at h
    obtain ⟨s₁, hcreate, hrest⟩ := h
    obtain ⟨hfirst, hs₁⟩ := create_extends hcreate hs
    obtain ⟨y', m', hnext⟩ : ∃ y' m', ensure midnight n y' m' s₁ = some s' := by
      split_ifs at hrest
      · exact ⟨_, _, hrest⟩
      · exact ⟨_, _, hrest⟩
    obtain ⟨hmore, hs'⟩ := ih hnext hs₁
    exact ⟨hfirst.trans hmore, hs'⟩

section Steps

variable (hzone : StrictMono midnight) {s s' : TelemetryTable}
include hzone

/-- **Whole months with names of their own tile time.** -/
theorem Distinct.tiles (hs : Distinct midnight s) : Tiles midnight s.partitions := by
  obtain ⟨⟨times, hlinked⟩, hnodup⟩ := hs
  have hmonths := hlinked.inv.months
  have hmono := bounds_strictMono hzone
  have hlower : ∀ i j, (monthPartition i).lower = (monthPartition j).lower → i = j := by
    intro i j h
    simp only [monthPartition, monthPartitionSql, Prod.mk.injEq] at h
    omega
  have hrange : ∀ i, range midnight (monthPartition i) = Tiling.tile (fun j => midnight (monthStart j)) i := by
    intro i
    rw [range, lowerBound_month, upperBound_month]
    rfl
  refine ⟨?_, ?_, ?_, ?_⟩
  · have hpair := List.pairwise_map.1 hnodup
    refine hpair.imp_of_mem fun {p q} hp hq hne => ?_
    obtain ⟨i, rfl⟩ := hmonths p hp
    obtain ⟨j, rfl⟩ := hmonths q hq
    rw [hrange, hrange, Set.disjoint_left]
    intro ts hi hj
    rw [Tiling.eq_of_mem hmono hi hj] at hne
    exact hne rfl
  · intro p hp q hq
    obtain ⟨i, rfl⟩ := hmonths p hp
    obtain ⟨j, rfl⟩ := hmonths q hq
    constructor
    · intro h
      rw [monthPartition_name_injective h]
    · intro h
      rw [hlower i j h]
  · intro p hp q hq h
    obtain ⟨i, rfl⟩ := hmonths p hp
    obtain ⟨j, rfl⟩ := hmonths q hq
    rw [hlower i j h]
  · intro p hp
    obtain ⟨i, rfl⟩ := hmonths p hp
    exact ⟨i, rfl, lowerBound_month i, by rw [upperBound_month, lowerBound_month]⟩

/-- The four months in place are covered without a gap. -/
theorem coversMonths_of_mem {now : ℤ}
    (hmem : ∀ k < 4, monthPartition (monthOf now + (k : ℕ)) ∈ s.partitions) :
    CoversMonths midnight now s := by
  refine ⟨clock_month now, hmem, fun ts hts => ?_⟩
  obtain ⟨k, hk, hheld⟩ := (mem_months_iff hzone (monthOf now) ts 4).1 hts
  refine ⟨_, hmem k hk, ?_⟩
  rw [holds, Bool.and_eq_true, decide_eq_true_eq, decide_eq_true_eq] at hheld
  exact hheld

/-- **A run that commits.** -/
theorem distinct_run (hs : Distinct midnight s) {now : ℤ} (hrun : s.run midnight now = some s') :
    Distinct midnight s' ∧ s.partitions <+: s'.partitions ∧ CoversMonths midnight now s' ∧
      s'.defaultRows = s.defaultRows := by
  obtain ⟨⟨times, hlinked⟩, hnodup⟩ := hs
  obtain ⟨hmore, hnodup'⟩ := ensure_extends _ hrun hnodup
  rcases run_cases hzone hlinked.inv now with ⟨-, hnone⟩ | ⟨hfree, -⟩
  · -- a default row is in the way, and the run does not commit
    rw [hnone] at hrun
    cases hrun
  · obtain ⟨t, ht, hlinked', hdef⟩ := linked_run hzone hlinked hfree
    cases hrun.symm.trans ht
    refine ⟨⟨⟨_, hlinked'⟩, hnodup'⟩, hmore, coversMonths_of_mem hzone fun k hk => ?_, hdef⟩
    exact (hlinked'.partitions _).2 ⟨now, by simp, k, hk, rfl⟩

/-- **What one event does.** -/
theorem distinct_step (hs : Distinct midnight s) {e : PartitionEvent} (he : ∀ now, e = .run now → FourDigits now)
    (h : sqlStep midnight s e = some s') : Distinct midnight s' ∧ Extends midnight s e s' := by
  cases e with
  | insert ts =>
    cases h
    obtain ⟨⟨times, hlinked⟩, hnodup⟩ := hs
    have hsame : (s.insert midnight ts).partitions = s.partitions := by
      unfold insert
      split <;> rfl
    -- a row changes no partition
    refine ⟨⟨⟨times, (linked_insert hzone hlinked ts).1⟩, by rwa [hsame]⟩, ?_, nofun⟩
    rw [hsame]
  | run now =>
    have hsql : s.runSql midnight now = s.run midnight now := runSql_eq (he now rfl) s
    rw [sqlStep, hsql] at h
    cases hrun : s.run midnight now with
    | none =>
      -- the transaction is undone
      rw [hrun] at h
      cases h
      refine ⟨hs, List.prefix_rfl, fun t ht hsome => ?_⟩
      cases ht
      rw [hsql, hrun] at hsome
      cases hsome
    | some t =>
      rw [hrun] at h
      cases h
      obtain ⟨hs', hmore, hcovers, -⟩ := distinct_run hzone hs hrun
      refine ⟨hs', hmore, fun t ht _ => ?_⟩
      cases ht
      exact hcovers

/-- With no default rows every run commits. -/
theorem commits_step (hs : Distinct midnight s) (hrows : s.defaultRows = []) {now : ℤ} (hyear : FourDigits now) :
    ∃ s', s.runSql midnight now = some s' ∧ Distinct midnight s' ∧ s'.defaultRows = [] := by
  obtain ⟨times, hlinked⟩ := hs.linked
  have hfree : ¬ ∃ ts ∈ s.defaultRows, Covers midnight now ts := by simp [hrows]
  obtain ⟨s', hrun, -, hdef⟩ := linked_run hzone hlinked hfree
  rw [runSql_eq hyear]
  exact ⟨s', hrun, (distinct_run hzone hs hrun).1, hdef.trans hrows⟩

/-- **Monthly partitions tile time.** Migration 0001 in any year from 1000 to 9998 succeeds.
For every sequence of runs of the job in such years, and of inserted rows, the partitions at
each moment are whole months that do not overlap, different months have different names and
a month has one partition; each begins on the first of its month and ends where the
partition of the next month begins; none goes; and the migration, and each run that commits,
covers the four months from its clock's on without a gap. If no rows are inserted, each run
commits. -/
theorem tiles_of_runs {migrated : ℤ} {es : List PartitionEvent}
    (hyears : ∀ now ∈ migrated :: runTimes es, FourDigits now) :
    ∃ s₀, upgradeSql midnight migrated = some s₀ ∧ Tiles midnight s₀.partitions ∧
      CoversMonths midnight migrated s₀ ∧
      Always (sqlStep midnight) (fun s => Tiles midnight s.partitions) s₀ es ∧
      Along (sqlStep midnight) (Extends midnight) s₀ es ∧
      ((∀ ts, .insert ts ∉ es) →
        Along (sqlStep midnight) (fun s e _ => ∀ now, e = .run now → (s.runSql midnight now).isSome = true) s₀ es) := by
  have hempty : Distinct midnight ⟨[], [], []⟩ := ⟨⟨[], ⟨by simp, by simp⟩, by simp⟩, List.nodup_nil⟩
  have hmigrated : FourDigits migrated := hyears _ List.mem_cons_self
  obtain ⟨s₀, hupgrade, hs₀, hrows⟩ := commits_step hzone hempty rfl hmigrated
  rw [runSql_eq hmigrated] at hupgrade
  obtain ⟨-, -, hcovers, -⟩ := distinct_run hzone hempty hupgrade
  have hclocks : ∀ e ∈ es, ∀ now, e = .run now → FourDigits now := by
    rintro e he now rfl
    exact hyears _ (List.mem_cons_of_mem _ (List.mem_filterMap.2 ⟨_, he, rfl⟩))
  have hvalid : Along (sqlStep midnight) (fun _ e _ => ∀ now, e = .run now → FourDigits now) s₀ es :=
    along_of_forall hclocks
  have hstep : ∀ s e s', Distinct midnight s → sqlStep midnight s e = some s' →
      (∀ now, e = .run now → FourDigits now) → Distinct midnight s' ∧ Extends midnight s e s' :=
    fun s e s' hs he hv => distinct_step hzone hs hv he
  refine ⟨s₀, (upgradeSql_eq hmigrated).trans hupgrade, hs₀.tiles hzone, hcovers, ?_, ?_, ?_⟩
  · exact always_of_along (fun s e s' hs he hv => (hstep s e s' hs he hv).1)
      (fun s hs => hs.tiles hzone) hs₀ hvalid
  · exact along_of_along (fun s e s' hs he hv => (hstep s e s' hs he hv).1)
      (fun s e s' hs he hv => (hstep s e s' hs he hv).2) hs₀ hvalid
  · intro hruns
    -- no row, and so no default row, ever
    have hevents : ∀ e ∈ es, ∃ now, e = .run now ∧ FourDigits now := by
      intro e he
      cases e with
      | insert ts => exact absurd he (hruns ts)
      | run now => exact ⟨now, rfl, hclocks _ he now rfl⟩
    have hvalid' : Along (sqlStep midnight) (fun _ e _ => ∃ now, e = .run now ∧ FourDigits now) s₀ es :=
      along_of_forall hevents
    refine along_of_along (I := fun s => Distinct midnight s ∧ s.defaultRows = []) ?_ ?_ ⟨hs₀, hrows⟩ hvalid'
    · rintro s e s' ⟨hs, hno⟩ he ⟨now, rfl, hyear⟩
      obtain ⟨t, hrun, ht, hno'⟩ := commits_step hzone hs hno hyear
      rw [sqlStep, hrun] at he
      cases he
      exact ⟨ht, hno'⟩
    · rintro s e s' ⟨hs, hno⟩ he ⟨now, rfl, hyear⟩ now' heq
      cases heq
      obtain ⟨t, hrun, -, -⟩ := commits_step hzone hs hno hyear
      rw [hrun]
      rfl

end Steps

/-- The job runs on the last day of 2026 and on the second of 2027. -/
def newYearRuns : List PartitionEvent := [.run (day2026 12 31), .run (utc (toDays 2027 1 2))]

/-- A database in UTC, migrated in November 2026. -/
theorem newYear_tiles :
    ∃ s₀, upgradeSql utc (day2026 11 20) = some s₀ ∧ Tiles utc s₀.partitions ∧
      CoversMonths utc (day2026 11 20) s₀ ∧
      Always (sqlStep utc) (fun s => Tiles utc s.partitions) s₀ newYearRuns ∧
      Along (sqlStep utc) (Extends utc) s₀ newYearRuns ∧
      ((∀ ts, .insert ts ∉ newYearRuns) → Along (sqlStep utc)
        (fun s e _ => ∀ now, e = .run now → (s.runSql utc now).isSome = true) s₀ newYearRuns) := by
  have hyears : ∀ now ∈ day2026 11 20 :: runTimes newYearRuns,
      1000 ≤ (yearMonth now).1 ∧ (yearMonth now).1 ≤ 9998 := by
    decide +kernel
  exact tiles_of_runs utc_strictMono hyears

end TelemetryTable

end Server
