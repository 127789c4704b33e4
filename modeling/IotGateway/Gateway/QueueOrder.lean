import IotGateway.Gateway.Drain
import IotGateway.Text.DateOrder

/-!
# Queue order is time order

`created_at` holds the text of a time. `ORDER BY created_at` and `created_at < ?` compare such
texts, whose fractions have from none to nine digits and are followed by a space, the zone, and
a monotonic reading if there is one.

* `before_string`: **in UTC and years 1000 to 9999 an earlier time has a smaller text**,
  whatever the fractions and the monotonic readings.
* `recorded_step`: a row keeps the text of the time that `Enqueue` stamped it with.
* `queue_order`: **`PeekBatch`, the eviction and `PurgeOld` go by the times that `Enqueue`
  stamped.**
-/

namespace Gateway

open Calendar Lexicographic Lts

/-! ## The text of a time -/

/-- A fraction ends with a space, which is before the point and the digits. -/
theorem before_showFraction {n n' : ℕ} (h : n < n') (h₁ : n' < 10 ^ 9) (s s' : List Char) :
    Before (showFraction n ++ ' ' :: s) (showFraction n' ++ ' ' :: s') := by
  have hdigits : ∀ k, ∀ c ∈ showDigits 9 k, '0' ≤ c :=
    fun k c hc => zero_le_of_isDigit (isDigit_showDigits 9 k c hc)
  have hwhole := before_showDigits 9 h h₁
  have hshort := hwhole.rdropWhile (show ' ' < '0' by decide) (hdigits n) (hdigits n') s s'
  have hne := hwhole.rdropWhile_ne_nil (hdigits n)
  unfold showFraction
  cases hds' : (showDigits 9 n').rdropWhile (· = '0') with
  | nil => exact absurd hds' hne
  | cons d' ds' =>
    cases hds : (showDigits 9 n).rdropWhile (· = '0') with
    | nil => exact .head (by decide)
    | cons d ds =>
      rw [hds, hds'] at hshort
      exact .tail hshort

namespace GoTime

/-- `t.UTC()`; it drops the monotonic reading too. -/
def utc (t : GoTime) : GoTime := ⟨t.instant, 0, "UTC", none⟩

/-- In UTC, with or without a monotonic reading. -/
structure IsUtc (t : GoTime) : Prop where
  offset : t.offset = 0
  zoneName : t.zoneName = "UTC"

/-- In years 1000 to 9999. -/
def FourDigitYear (t : GoTime) : Prop :=
  toDays 1000 1 1 * 86400 * second ≤ t.instant ∧ t.instant < toDays 10000 1 1 * 86400 * second

instance (t : GoTime) : Decidable t.FourDigitYear := inferInstanceAs (Decidable (_ ∧ _))

variable {t u : GoTime}

/-- The text of a time in UTC. -/
theorem toList_string (ht : t.IsUtc) : ∃ s, t.string.toList = showDate (t.instant / second / 86400) ++
    ' ' :: (showClock (t.instant / second % 86400).toNat ++ (showFraction (t.instant % second).toNat ++ ' ' :: s)) := by
  have hwall : t.instant + t.offset * second = t.instant := by rw [ht.offset, zero_mul, add_zero]
  refine ⟨showOffset t.offset ++ ' ' :: ((if t.zoneName = "" then showOffset t.offset else t.zoneName.toList) ++
    showMonotonic t.monotonic), ?_⟩
  unfold string showDate showClock
  dsimp only
  rw [hwall, String.toList_ofList]
  simp only [List.append_assoc, List.cons_append]

/-- **An earlier time has a smaller text.** -/
theorem before_string (ht : t.IsUtc) (hu : u.IsUtc) (hty : t.FourDigitYear) (huy : u.FourDigitYear)
    (h : t.instant < u.instant) : Before t.string.toList u.string.toList := by
  have hfirst : toDays 1000 1 1 = -354285 := by decide
  have hlast : toDays 10000 1 1 = 2932897 := by decide
  unfold FourDigitYear second at hty huy
  obtain ⟨s, hs⟩ := toList_string ht
  obtain ⟨s', hs'⟩ := toList_string hu
  have hparts : t.instant / second / 86400 < u.instant / second / 86400 ∨
      t.instant / second / 86400 = u.instant / second / 86400 ∧
        ((t.instant / second % 86400).toNat < (u.instant / second % 86400).toNat ∨
          (t.instant / second % 86400).toNat = (u.instant / second % 86400).toNat ∧
            (t.instant % second).toNat < (u.instant % second).toNat) := by
    unfold second
    omega
  rw [hs, hs']
  apply before_parts
  rcases hparts with hday | ⟨hday, hparts⟩
  · exact .inl (before_showDate (by unfold firstDay second; omega) hday (by unfold second; omega))
  · refine .inr ⟨by rw [hday], .tail (before_parts ?_)⟩
    rcases hparts with hsod | ⟨hsod, hnsec⟩
    · exact .inl (before_showClock hsod (by omega))
    · exact .inr ⟨by rw [hsod], before_showFraction hnsec (by unfold second; omega) s s'⟩

/-- A time in UTC and those years. -/
structure IsStamp (t : GoTime) : Prop where
  isUtc : t.IsUtc
  year : t.FourDigitYear

instance (t : GoTime) : Decidable t.IsStamp :=
  decidable_of_iff ((t.offset = 0 ∧ t.zoneName = "UTC") ∧ t.FourDigitYear)
    ⟨fun h => ⟨⟨h.1.1, h.1.2⟩, h.2⟩, fun h => ⟨⟨h.isUtc.offset, h.isUtc.zoneName⟩, h.year⟩⟩

theorem string_lt (ht : t.IsStamp) (hu : u.IsStamp) (h : t.instant < u.instant) : t.string < u.string :=
  String.lt_iff_toList_lt.mpr (before_string ht.isUtc hu.isUtc ht.year hu.year h).lt

theorem isUtc_utc (t : GoTime) : t.utc.IsUtc := ⟨rfl, rfl⟩

/-- `Add` stays in UTC. -/
theorem IsUtc.add (h : t.IsUtc) (d : ℤ) : (t.add d).IsUtc := ⟨h.offset, h.zoneName⟩

/-- **Without monotonic readings** equal times have equal texts, so that texts compare as the
times do. -/
theorem string_lt_iff (ht : t.IsStamp) (hu : u.IsStamp) (htu : t.utc = t) (huu : u.utc = u) :
    t.string < u.string ↔ t.instant < u.instant := by
  constructor
  · intro h
    rcases lt_trichotomy t.instant u.instant with hlt | heq | hgt
    · exact hlt
    · have hutc : t.utc = u.utc := by rw [utc, utc, heq]
      rw [htu, huu] at hutc
      rw [hutc] at h
      exact absurd h (lt_irrefl _)
    · exact absurd (string_lt hu ht hgt) (lt_asymm h)
  · exact string_lt ht hu

/-- `Add` adds no monotonic reading. -/
theorem utc_add (t : GoTime) (d : ℤ) : (t.utc.add d).utc = t.utc.add d := rfl

end GoTime

/-! ## The stamps of the rows -/

/-- The queue, and a record of the times that `Enqueue` stamped: for a call in progress, and
for a row by its id. -/
structure StampedQueue where
  queue : Draining
  callers : List (Option GoTime)
  rows : ℤ → Option GoTime

inductive QueueEvent where
  | statement (e : DrainStep)
  /-- the agent stops, and starts again with the same file -/
  | restart

/-- A clock that `Enqueue` stamps a message with shows UTC and years 1000 to 9999. -/
def QueueEvent.Clocked : QueueEvent → Prop
  | .statement (.count now msg) => msg.createdAt.isZero = true → now.IsStamp
  | .statement _ | .restart => True

instance (e : QueueEvent) : Decidable e.Clocked :=
  match e with
  | .statement (.count now msg) => inferInstanceAs (Decidable (msg.createdAt.isZero = true → now.IsStamp))
  | .statement (.evict _ _) | .statement (.insert _ _) | .statement (.purgeOld _) | .statement (.peek _)
  | .statement .delete | .restart => isTrue trivial

namespace StampedQueue

def start (db : DB) : StampedQueue := ⟨.start db [], [], fun _ => none⟩

/-- A message that has no time of its own is stamped. -/
def stamp (now : GoTime) (msg : QueuedMessage) : Option GoTime :=
  if msg.createdAt.isZero then some now else none

/-- The record after a statement. -/
def record (s : StampedQueue) : DrainStep → List (Option GoTime) × (ℤ → Option GoTime)
  | .count now msg => (s.callers ++ [stamp now msg], s.rows)
  | .insert i succeeds =>
    (s.callers.eraseIdx i,
      if succeeds then Function.update s.rows (s.queue.db.sequence + 1) s.callers[i]?.join else s.rows)
  | .evict _ _ | .purgeOld _ | .peek _ | .delete => (s.callers, s.rows)

def step (s : StampedQueue) : QueueEvent → Option StampedQueue
  | .statement e => (s.queue.step e).map fun queue => ⟨queue, (s.record e).1, (s.record e).2⟩
  | .restart => some ⟨.start s.queue.db [], [], s.rows⟩

/-- A row that `Enqueue` stamped, and the time. -/
def Stamped (s : StampedQueue) (r : QueueRow) (t : GoTime) : Prop :=
  r ∈ s.queue.db.rows ∧ s.rows r.id = some t

/-- The statements that compare `created_at` go by the times of the stamps. -/
structure InTimeOrder (s : StampedQueue) : Prop where
  createdAt : ∀ a t b u, s.Stamped a t → s.Stamped b u → t.instant < u.instant → a.createdAt < b.createdAt
  /-- of one priority the earlier row comes first, and is not left out -/
  peekBatch : ∀ n a t b u, s.Stamped a t → s.Stamped b u → a.priority = b.priority →
    t.instant < u.instant → b ∈ s.queue.db.peekBatch n → [a, b].Sublist (s.queue.db.peekBatch n)
  /-- telemetry is evicted with all that is earlier -/
  evict : ∀ a t b u, s.Stamped a t → s.Stamped b u → a.priority = 3 → b.priority = 3 →
    t.instant < u.instant → b ∉ s.queue.db.evict.rows → a ∉ s.queue.db.evict.rows
  /-- what is earlier than the cutoff is purged, and nothing that is later -/
  purgeOld : ∀ clock : GoTime, clock.IsUtc → (s.queue.db.cutoff clock).FourDigitYear → ∀ r t, s.Stamped r t →
    (t.instant < (s.queue.db.cutoff clock).instant → r ∉ (s.queue.db.purgeOld clock).rows) ∧
      ((s.queue.db.cutoff clock).instant < t.instant → r ∈ (s.queue.db.purgeOld clock).rows)
  /-- and nothing else, if the times are such as `UTC()` gives them -/
  purgeOldUtc : ∀ clock : GoTime, (s.queue.db.cutoff clock.utc).FourDigitYear → ∀ r t, s.Stamped r t → t.utc = t →
    (r ∉ (s.queue.db.purgeOld clock.utc).rows ↔ t.instant < (s.queue.db.cutoff clock.utc).instant)

/-- A caller has the time that it stamped, and a row its text. -/
structure Recorded (s : StampedQueue) : Prop where
  length : s.callers.length = s.queue.callers.length
  callers : ∀ (i : ℕ) (c : Caller) (t : GoTime), s.queue.callers[i]? = some c →
    s.callers[i]? = some (some t) → t.IsStamp ∧ c.msg.createdAt = t
  rows : ∀ r t, s.Stamped r t → t.IsStamp ∧ r.createdAt = t.string

variable {s s' : StampedQueue}

/-! ### What a recorded queue shows -/

theorem Recorded.createdAt_lt (h : Recorded s) {a b : QueueRow} {t u : GoTime} (ha : s.Stamped a t)
    (hb : s.Stamped b u) (htu : t.instant < u.instant) : a.createdAt < b.createdAt := by
  obtain ⟨ht, hat⟩ := h.rows a t ha
  obtain ⟨hu, hbu⟩ := h.rows b u hb
  rw [hat, hbu]
  exact GoTime.string_lt ht hu htu

/-- `PurgeOld` compares with the text of the cutoff. -/
theorem mem_purgeOld {db : DB} {now : GoTime} {r : QueueRow} (hr : r ∈ db.rows) :
    r ∈ (db.purgeOld now).rows ↔ ¬ r.createdAt < (db.cutoff now).string := by
  rw [DB.purgeOld, DB.deleteWhere, List.mem_filter, and_iff_right hr]
  simp

theorem inTimeOrder (h : Recorded s) : InTimeOrder s where
  createdAt _ _ _ _ := h.createdAt_lt
  peekBatch n a t b u ha hb hpriority htu hmem := by
    have hlt := h.createdAt_lt ha hb htu
    have hrank : DB.rank a < DB.rank b := Prod.Lex.lt_iff.mpr (.inr ⟨hpriority, hlt⟩)
    exact Smallest.pair_sublist_smallest ha.1 hmem hrank
  evict a t b u ha hb ha₃ hb₃ htu hgone := by
    have hlt := h.createdAt_lt ha hb htu
    rw [DB.mem_evict_iff hb.1, not_not, DB.oldestTelemetry_eq] at hgone
    rw [DB.mem_evict_iff ha.1, not_not, DB.oldestTelemetry_eq]
    have hrow : a ∈ s.queue.db.telemetryRows := List.mem_filter.mpr ⟨ha.1, decide_eq_true ha₃⟩
    exact (Smallest.pair_sublist_smallest hrow hgone hlt).subset List.mem_cons_self
  purgeOld clock hutc hyear r t hr := by
    obtain ⟨ht, hrt⟩ := h.rows r t hr
    have hcutoff : (s.queue.db.cutoff clock).IsStamp := ⟨hutc.add _, hyear⟩
    rw [mem_purgeOld hr.1, not_not, hrt]
    exact ⟨GoTime.string_lt ht hcutoff, fun hlater => lt_asymm (GoTime.string_lt hcutoff ht hlater)⟩
  purgeOldUtc clock hyear r t hr hutc := by
    obtain ⟨ht, hrt⟩ := h.rows r t hr
    have hcutoff : (s.queue.db.cutoff clock.utc).IsStamp := ⟨(GoTime.isUtc_utc clock).add _, hyear⟩
    have hiff := GoTime.string_lt_iff ht hcutoff hutc (GoTime.utc_add clock _)
    rw [mem_purgeOld hr.1, not_not, hrt, hiff]

/-! ### The record is kept -/

theorem recorded_start (db : DB) : Recorded (start db) where
  length := rfl
  callers _ _ _ _ ht := by simp [start] at ht
  rows _ _ hr := by simp [Stamped, start] at hr

/-- Rows go, and the calls in progress stay the same. -/
theorem Recorded.shrink (h : Recorded s) (queue : Draining) (hcallers : queue.callers = s.queue.callers)
    (hrows : ∀ r ∈ queue.db.rows, r ∈ s.queue.db.rows) : Recorded { s with queue } where
  length := by rw [hcallers]; exact h.length
  callers i c t hc ht := h.callers i c t (hcallers ▸ hc) ht
  rows r t hr := h.rows r t ⟨hrows r hr.1, hr.2⟩

theorem Recorded.restart (h : Recorded s) : Recorded ⟨.start s.queue.db [], [], s.rows⟩ where
  length := rfl
  callers _ _ _ _ ht := by simp at ht
  rows r t hr := h.rows r t hr

/-- A call begins. -/
theorem Recorded.count (h : Recorded s) {now : GoTime} {msg : QueuedMessage}
    (hnow : msg.createdAt.isZero = true → now.IsStamp) (evicts : Bool) :
    Recorded ⟨{ s.queue with callers := s.queue.callers ++ [⟨msg.normalize now, evicts⟩] },
      s.callers ++ [stamp now msg], s.rows⟩ where
  length := by simp [h.length]
  callers i c t hc ht := by
    dsimp only at hc ht
    rw [List.getElem?_append] at hc ht
    rw [h.length] at ht
    split_ifs at hc ht with hi
    · exact h.callers i c t hc ht
    · -- the new call
      rw [List.getElem?_singleton] at hc ht
      split_ifs at hc ht
      have hstamp : stamp now msg = some t := Option.some.inj ht
      cases hc
      unfold stamp at hstamp
      split_ifs at hstamp with hzero
      cases hstamp
      exact ⟨hnow hzero, if_pos hzero⟩
  rows r t hr := h.rows r t hr

/-- A caller leaves the eviction behind. -/
theorem Recorded.evict (h : Recorded s) {i : ℕ} {msg : QueuedMessage} {evicts : Bool}
    (hi : s.queue.callers[i]? = some ⟨msg, evicts⟩) (db : DB) (hrows : ∀ r ∈ db.rows, r ∈ s.queue.db.rows) :
    Recorded ⟨{ s.queue with db, callers := s.queue.callers.set i ⟨msg, false⟩ }, s.callers, s.rows⟩ where
  length := by simp [h.length]
  callers j c t hc ht := by
    dsimp only at hc ht
    rw [List.getElem?_set] at hc
    split_ifs at hc with hij
    · subst hij
      cases hc
      exact h.callers i ⟨msg, evicts⟩ t hi ht
    · exact h.callers j c t hc ht
  rows r t hr := h.rows r t ⟨hrows r hr.1, hr.2⟩

/-- A caller returns. -/
theorem Recorded.leave (h : Recorded s) (i : ℕ) :
    Recorded ⟨{ s.queue with callers := s.queue.callers.eraseIdx i }, s.callers.eraseIdx i, s.rows⟩ where
  length := by rw [List.length_eraseIdx, List.length_eraseIdx, h.length]
  callers j c t hc ht := by
    dsimp only at hc ht
    rw [List.getElem?_eraseIdx] at hc ht
    split_ifs at hc ht with hji
    · exact h.callers j c t hc ht
    · exact h.callers (j + 1) c t hc ht
  rows r t hr := h.rows r t hr

/-- The row of a caller has the text of its time; the id is new. -/
theorem Recorded.insert (h : Recorded s) {i : ℕ} {c : Caller} (hi : s.queue.callers[i]? = some c) :
    Recorded ⟨{ s.queue with db := s.queue.db.insert c.msg }, s.callers,
      Function.update s.rows (s.queue.db.sequence + 1) s.callers[i]?.join⟩ where
  length := h.length
  callers := h.callers
  rows r t hr := by
    obtain ⟨hmem, hrec⟩ := hr
    dsimp only at hmem hrec
    rcases List.mem_append.mp hmem with hmem | hmem
    · have hle := s.queue.db.below r hmem
      rw [Function.update_of_ne (by omega)] at hrec
      exact h.rows r t ⟨hmem, hrec⟩
    · rw [List.mem_singleton.mp hmem, Function.update_self, Option.join_eq_some_iff] at hrec
      obtain ⟨ht, hcreated⟩ := h.callers i c t hi hrec
      rw [List.mem_singleton.mp hmem, hcreated]
      exact ⟨ht, rfl⟩

/-- **A step keeps the record.** -/
theorem recorded_step (h : Recorded s) {e : QueueEvent} (he : e.Clocked) (hstep : s.step e = some s') :
    Recorded s' := by
  cases e with
  | restart =>
    cases hstep
    exact h.restart
  | statement e =>
    obtain ⟨queue, hqueue, rfl⟩ := Option.map_eq_some_iff.mp hstep
    cases e with
    | count now msg =>
      cases hqueue
      exact h.count he _
    | evict i succeeds =>
      obtain ⟨msg, hi, rfl⟩ := Draining.step_evict hqueue
      cases succeeds with
      | false => exact h.evict hi _ fun _ hr => hr
      | true => exact h.evict hi _ fun _ => DB.mem_evict
    | insert i succeeds =>
      obtain ⟨msg, hi, rfl⟩ := Draining.step_insert hqueue
      cases succeeds with
      | false => exact h.leave i
      | true => exact (h.insert hi).leave i
    | purgeOld now =>
      cases hqueue
      exact h.shrink _ rfl fun _ => Draining.mem_deleteWhere
    | peek n =>
      obtain ⟨-, rfl⟩ := Draining.step_peek hqueue
      exact h.shrink _ rfl fun _ hr => hr
    | delete =>
      obtain ⟨r, pending, -, rfl⟩ := Draining.step_delete hqueue
      exact h.shrink _ rfl fun _ => Draining.mem_deleteWhere

/-- **Queue order is time order.** Of two times in UTC and years 1000 to 9999 the earlier one has
the smaller text, byte by byte, whatever their fractions and monotonic readings. And in any
interleaving of calls, with restarts, the order of `PeekBatch`, that of the eviction and the test
of `PurgeOld` go by the times of the messages that `Enqueue` stamped itself; its stamps, of
`time.Now().UTC()`, have no monotonic reading, and then the test is exact. -/
theorem queue_order (db : DB) {es : List QueueEvent} (hes : ∀ e ∈ es, e.Clocked) :
    (∀ t u : GoTime, t.IsUtc → u.IsUtc → t.FourDigitYear → u.FourDigitYear → t.instant < u.instant →
      bytes t.string < bytes u.string) ∧ Always step InTimeOrder (start db) es := by
  constructor
  · intro t u ht hu hty huy h
    rw [← lt_iff_bytes_lt]
    exact String.lt_iff_toList_lt.mpr (GoTime.before_string ht hu hty huy h).lt
  · have hclocked : Along step (fun _ e _ => e.Clocked) (start db) es := along_of_forall hes
    have hkeep : ∀ s e s', Recorded s → step s e = some s' → e.Clocked → Recorded s' :=
      fun _ _ _ hs hstep he => recorded_step hs he hstep
    exact always_of_along hkeep (fun _ => inTimeOrder) (recorded_start db) hclocked

/-- Two readings of the clock, one a whole second. -/
def bootClock : GoTime := ⟨1777863600000000000, 0, "UTC", none⟩
def laterClock : GoTime := ⟨1777863600500000000, 0, "UTC", none⟩

/-- A second message after a restart. -/
theorem queue_order_two :
    let es := [.statement (.count bootClock (DB.message 3)), .statement (.insert 0 true), .restart,
      .statement (.count laterClock (DB.message 3)), .statement (.insert 0 true)]
    (∀ t u : GoTime, t.IsUtc → u.IsUtc → t.FourDigitYear → u.FourDigitYear → t.instant < u.instant →
      bytes t.string < bytes u.string) ∧ Always step InTimeOrder (start (.empty 7 10)) es :=
  queue_order _ (by decide)

/-- Both rows are stamped. -/
example : ∃ s, run step (start (.empty 7 10)) [.statement (.count bootClock (DB.message 3)),
    .statement (.insert 0 true), .restart, .statement (.count laterClock (DB.message 3)),
    .statement (.insert 0 true)] = some s ∧ s.rows 1 = some bootClock ∧ s.rows 2 = some laterClock :=
  ⟨_, rfl, rfl, rfl⟩

end StampedQueue

end Gateway
