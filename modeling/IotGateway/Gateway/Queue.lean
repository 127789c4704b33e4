import IotGateway.Gateway.LocalDb
import IotGateway.Lts.Run

/-!
# The limit of the offline queue

`Enqueue` counts the rows, makes room if the queue is full, and inserts. It makes room by
evicting telemetry only.

* `bounded_iff`: **calls made one at a time keep the queue within its limit exactly when
  every `Enqueue` that finds the queue full finds a telemetry row in it.** Events and
  command responses can fill the queue beyond it (`events_overflow`).
* `concurrent_bounded_iff`: **with concurrent calls, whose three statements interleave,
  every completion of a run of telemetry calls ends within the limit exactly when each
  count leaves room for the callers that have counted before it.** Two callers that count
  the same free row both insert (`two_callers_overflow`).
-/

namespace Gateway

open Lts

namespace DB

/-- At most `maxQueueRows` rows. -/
def Bounded (db : DB) : Prop := db.queueLen ≤ db.maxQueueRows

instance (db : DB) : Decidable db.Bounded := inferInstanceAs (Decidable (_ ≤ _))

/-! ## One call at a time -/

inductive Call where
  | enqueue (now : GoTime) (msg : QueuedMessage)
  | delete (id : ℤ)
  | purgeOld (now : GoTime)

def step (db : DB) : Call → Option DB
  | .enqueue now msg => some (db.enqueue now msg)
  | .delete id => some (db.delete id)
  | .purgeOld now => some (db.purgeOld now)

/-- An `Enqueue` on a full queue finds a telemetry row. -/
def FindsTelemetry (db : DB) (e : Call) (_ : DB) : Prop :=
  match e with
  | .enqueue _ _ => db.Full → ∃ r ∈ db.rows, r.priority = 3
  | .delete _ | .purgeOld _ => True

instance (db : DB) (e : Call) (db' : DB) : Decidable (FindsTelemetry db e db') :=
  match e with
  | .enqueue _ _ => inferInstanceAs (Decidable (db.Full → ∃ r ∈ db.rows, r.priority = 3))
  | .delete _ | .purgeOld _ => isTrue trivial

variable {db db' : DB}

theorem enqueue_maxQueueRows (now : GoTime) (msg : QueuedMessage) :
    (db.enqueue now msg).maxQueueRows = db.maxQueueRows := by
  unfold enqueue
  split_ifs <;> rfl

theorem telemetryRows_ne_nil : db.telemetryRows ≠ [] ↔ ∃ r ∈ db.rows, r.priority = 3 := by
  simp [telemetryRows]

/-- **One `Enqueue`** within the limit stays within it exactly when it is not full or can
evict. -/
theorem enqueue_bounded (hb : db.Bounded) (now : GoTime) (msg : QueuedMessage) :
    (db.enqueue now msg).Bounded ↔ (db.Full → ∃ r ∈ db.rows, r.priority = 3) := by
  rw [Bounded, enqueue_maxQueueRows, ← telemetryRows_ne_nil, ← List.length_pos_iff]
  have hlen := db.evict_length
  have hle : (db.rows.length : ℤ) ≤ db.maxQueueRows := hb
  by_cases hfull : db.Full
  · have hge : db.maxQueueRows ≤ (db.rows.length : ℤ) := hfull
    rw [enqueue, if_pos hfull, queueLen_insert, queueLen]
    constructor
    · intro h _
      omega
    · intro h
      have := h hfull
      omega
  · have hlt : ¬ db.maxQueueRows ≤ (db.rows.length : ℤ) := hfull
    rw [enqueue, if_neg hfull, queueLen_insert, queueLen]
    exact iff_of_true (by omega) fun h => absurd h hfull

theorem step_bounded (hb : db.Bounded) {e : Call} (h : step db e = some db') :
    db'.Bounded ↔ FindsTelemetry db e db' := by
  cases e with
  | enqueue now msg =>
    cases h
    exact enqueue_bounded hb now msg
  | delete id =>
    cases h
    exact iff_of_true ((queueLen_deleteWhere_le _).trans hb) trivial
  | purgeOld now =>
    cases h
    exact iff_of_true ((queueLen_deleteWhere_le _).trans hb) trivial

/-- **The queue is bounded** after every call of a sequence on an empty file, if and only if
each `Enqueue` that finds the queue full finds a telemetry row to evict. -/
theorem bounded_iff (retentionDays maxQueueRows : ℤ) (hmax : 1 ≤ maxQueueRows) (es : List Call) :
    Always step Bounded (empty retentionDays maxQueueRows) es ↔
      Along step FindsTelemetry (empty retentionDays maxQueueRows) es := by
  have hstep : ∀ db e db', True → Bounded db → step db e = some db' →
      (Bounded db' ↔ FindsTelemetry db e db') := fun _ _ _ _ hb h => step_bounded hb h
  have h0 : (0 : ℤ) ≤ maxQueueRows := by omega
  exact always_iff_along (fun _ _ _ _ _ => trivial) hstep trivial h0

/-! Messages of three priorities on a queue of one row. -/

def bootTime : GoTime := ⟨1777863600000000000, 0, "UTC", some 0⟩

def message (priority : ℤ) : QueuedMessage := ⟨"gw/GW-1/event", [123, 125], priority, .zero⟩

/-- Telemetry replaces telemetry. -/
theorem telemetry_bounded :
    Always step Bounded (empty 7 1) [.enqueue bootTime (message 3), .enqueue bootTime (message 0)] :=
  (bounded_iff 7 1 (by decide) _).2 (by decide +kernel)

/-- **Two events in a queue of one row.** -/
theorem events_overflow :
    ¬ Always step Bounded (empty 7 1) [.enqueue bootTime (message 1), .enqueue bootTime (message 1)] := by
  intro h
  have hlast : (((empty 7 1).enqueue bootTime (message 1)).enqueue bootTime (message 1)).Bounded :=
    h.last rfl
  exact absurd hlast (by decide +kernel)

end DB

/-! ## Concurrent calls -/

/-- An `Enqueue` between its count and its insert. -/
structure Caller where
  msg : QueuedMessage
  evicts : Bool
deriving DecidableEq, Repr

/-- The file and the calls in progress. -/
structure Enqueues where
  db : DB
  callers : List Caller

/-- The statements of telemetry calls, in the order in which they are carried out. -/
inductive Statement where
  /-- a call of `Enqueue` with priority 3 begins and counts -/
  | count (now : GoTime) (topic : String) (payload : List UInt8) (createdAt : GoTime)
  /-- caller `i` evicts -/
  | evict (i : ℕ)
  /-- caller `i` inserts its row and returns -/
  | insert (i : ℕ)

namespace Enqueues

def step (s : Enqueues) : Statement → Option Enqueues
  | .count now topic payload createdAt =>
    let msg := (QueuedMessage.mk topic payload 3 createdAt).normalize now
    some { s with callers := s.callers ++ [⟨msg, s.db.Full⟩] }
  | .evict i =>
    match s.callers[i]? with
    | some ⟨msg, true⟩ => some ⟨s.db.evict, s.callers.set i ⟨msg, false⟩⟩
    | _ => none
  | .insert i =>
    match s.callers[i]? with
    | some ⟨msg, false⟩ => some ⟨s.db.insert msg, s.callers.eraseIdx i⟩
    | _ => none

/-- The statement is one of a call in progress. -/
def Proceeds : Statement → Prop
  | .count _ _ _ _ => False
  | .evict _ | .insert _ => True

/-- However the calls in progress are completed, the queue is within its limit then. -/
def EndsBounded (s : Enqueues) : Prop :=
  ∀ es t, (∀ e ∈ es, Proceeds e) → run step s es = some t → t.callers = [] → t.db.Bounded

/-- The callers that have still to evict. -/
def evicting (s : Enqueues) : ℕ := s.callers.countP (·.evicts)

/-- The rows that stay after `n` evictions of telemetry. -/
def remaining (s : Enqueues) (n : ℕ) : ℤ := max 0 (s.db.queueLen - 1000 * n)

/-- A count leaves room: after all evictions decided on, its own included, there is a free
row besides those for the callers in progress. -/
def LeavesRoom (s : Enqueues) (e : Statement) (_ : Enqueues) : Prop :=
  match e with
  | .count _ _ _ _ =>
    s.remaining (s.evicting + if s.db.Full then 1 else 0) + s.callers.length < s.db.maxQueueRows
  | .evict _ | .insert _ => True

instance (s : Enqueues) (e : Statement) (s' : Enqueues) : Decidable (LeavesRoom s e s') :=
  match e with
  | .count _ _ _ _ => inferInstanceAs (Decidable (_ < _))
  | .evict _ | .insert _ => isTrue trivial

/-- The rows at the end if all evictions come first: the most there can be. -/
def worst (s : Enqueues) : ℤ := s.remaining s.evicting + s.callers.length

/-- Telemetry rows, and calls that insert telemetry. -/
structure OnlyTelemetry (s : Enqueues) : Prop where
  rows : ∀ r ∈ s.db.rows, r.priority = 3
  callers : ∀ c ∈ s.callers, c.msg.priority = 3

variable {s s' : Enqueues}

/-! ### What the statements do -/

theorem step_evict {i : ℕ} (h : step s (.evict i) = some s') :
    ∃ msg, s.callers[i]? = some ⟨msg, true⟩ ∧ s' = ⟨s.db.evict, s.callers.set i ⟨msg, false⟩⟩ := by
  simp only [step] at h
  split at h
  · rename_i msg hc
    cases h
    exact ⟨msg, hc, rfl⟩
  · cases h

theorem step_insert {i : ℕ} (h : step s (.insert i) = some s') :
    ∃ msg, s.callers[i]? = some ⟨msg, false⟩ ∧ s' = ⟨s.db.insert msg, s.callers.eraseIdx i⟩ := by
  simp only [step] at h
  split at h
  · rename_i msg hc
    cases h
    exact ⟨msg, hc, rfl⟩
  · cases h

theorem step_maxQueueRows {e : Statement} (h : step s e = some s') :
    s'.db.maxQueueRows = s.db.maxQueueRows := by
  cases e with
  | count now topic payload createdAt => cases h; rfl
  | evict i => obtain ⟨msg, -, rfl⟩ := step_evict h; rfl
  | insert i => obtain ⟨msg, -, rfl⟩ := step_insert h; rfl

theorem onlyTelemetry_step (hs : OnlyTelemetry s) {e : Statement} (h : step s e = some s') :
    OnlyTelemetry s' := by
  cases e with
  | count now topic payload createdAt =>
    cases h
    refine ⟨hs.rows, fun c hc => ?_⟩
    rcases List.mem_append.1 hc with hc | hc
    · exact hs.callers c hc
    · rw [List.mem_singleton.1 hc]
      rfl
  | evict i =>
    obtain ⟨msg, hc, rfl⟩ := step_evict h
    refine ⟨fun r hr => hs.rows r (DB.mem_evict hr), fun c hc' => ?_⟩
    rcases List.mem_or_eq_of_mem_set hc' with hc' | rfl
    · exact hs.callers c hc'
    · exact hs.callers ⟨msg, true⟩ (List.mem_of_getElem? hc)
  | insert i =>
    obtain ⟨msg, hc, rfl⟩ := step_insert h
    refine ⟨fun r hr => ?_, fun c hc' => hs.callers c (List.mem_of_mem_eraseIdx hc')⟩
    rcases List.mem_append.1 hr with hr | hr
    · exact hs.rows r hr
    · rw [List.mem_singleton.1 hr]
      exact hs.callers ⟨msg, false⟩ (List.mem_of_getElem? hc)

/-- The eviction of a queue of telemetry removes 1000 rows, or all. -/
theorem queueLen_evict (hs : OnlyTelemetry s) : s.db.evict.queueLen = max 0 (s.db.queueLen - 1000) := by
  have htel : s.db.telemetryRows = s.db.rows :=
    List.filter_eq_self.2 fun r hr => decide_eq_true (hs.rows r hr)
  have hlen := s.db.evict_length
  rw [htel] at hlen
  unfold DB.queueLen
  omega

/-! ### The worst completion -/

theorem worst_count (now : GoTime) (topic : String) (payload : List UInt8) (createdAt : GoTime)
    (h : step s (.count now topic payload createdAt) = some s') :
    s'.worst = s.remaining (s.evicting + if s.db.Full then 1 else 0) + s.callers.length + 1 := by
  cases h
  have hev : ∀ c : Caller, (s.callers ++ [c]).countP (·.evicts) = s.evicting + if c.evicts then 1 else 0 := by
    intro c
    rw [List.countP_append, List.countP_singleton]
    rfl
  simp only [worst, remaining, evicting, hev, List.length_append, List.length_singleton, decide_eq_true_eq]
  push_cast
  ring

/-- An eviction that was decided on leaves the worst completion as it is. -/
theorem worst_evict (hs : OnlyTelemetry s) {i : ℕ} (h : step s (.evict i) = some s') :
    s'.worst = s.worst := by
  obtain ⟨msg, hc, rfl⟩ := step_evict h
  obtain ⟨hi, hget⟩ := List.getElem?_eq_some_iff.1 hc
  have hpos : 0 < s.callers.countP (·.evicts) := List.countP_pos_iff.2 ⟨_, List.mem_of_getElem? hc, rfl⟩
  have hev : (s.callers.set i ⟨msg, false⟩).countP (·.evicts) + 1 = s.callers.countP (·.evicts) := by
    rw [List.countP_set hi, hget]
    simp only [if_true, Bool.false_eq_true, if_false]
    omega
  have hlen := queueLen_evict hs
  simp only [worst, remaining, evicting, List.length_set, hlen]
  omega

/-- An insert takes the place of its caller. -/
theorem insert_callers {i : ℕ} (h : step s (.insert i) = some s') :
    s'.db.queueLen = s.db.queueLen + 1 ∧ s'.callers.length + 1 = s.callers.length ∧
      s'.evicting = s.evicting := by
  obtain ⟨msg, hc, rfl⟩ := step_insert h
  obtain ⟨hi, hget⟩ := List.getElem?_eq_some_iff.1 hc
  have hperm := List.getElem_cons_eraseIdx_perm hi
  refine ⟨DB.queueLen_insert, ?_, ?_⟩
  · simpa using hperm.length_eq
  · have hcount := hperm.countP_eq (·.evicts)
    rw [List.countP_cons, hget] at hcount
    exact hcount

theorem worst_proceeds (hs : OnlyTelemetry s) {e : Statement} (he : Proceeds e)
    (h : step s e = some s') : s'.worst ≤ s.worst := by
  cases e with
  | count now topic payload createdAt => exact he.elim
  | evict i => exact (worst_evict hs h).le
  | insert i =>
    obtain ⟨hrows, hlen, hev⟩ := insert_callers h
    simp only [worst, remaining, hrows, hev]
    omega

/-- The calls in progress can be completed with the worst outcome: evictions first. -/
theorem exists_worst (n : ℕ) : ∀ {s : Enqueues}, OnlyTelemetry s → s.callers.length + s.evicting = n →
    ∃ es t, (∀ e ∈ es, Proceeds e) ∧ run step s es = some t ∧ t.callers = [] ∧
      t.db.queueLen = s.worst ∧ t.db.maxQueueRows = s.db.maxQueueRows := by
  induction n with
  | zero =>
    intro s _ hn
    have hnil : s.callers = [] := List.length_eq_zero_iff.1 (by omega)
    refine ⟨[], s, by simp, rfl, hnil, ?_, rfl⟩
    have := s.db.queueLen_nonneg
    simp only [worst, remaining, evicting, hnil, List.countP_nil, List.length_nil]
    omega
  | succ n ih =>
    intro s hs hn
    -- one more step, which keeps the worst outcome
    obtain ⟨e, s₁, he, hstep, hworst, hn₁⟩ : ∃ e s₁, Proceeds e ∧ step s e = some s₁ ∧
        s₁.worst = s.worst ∧ s₁.callers.length + s₁.evicting = n := by
      by_cases hev : s.evicting = 0
      · have hpos : 0 < s.callers.length := by omega
        have hget : s.callers[0]? = some s.callers[0] := List.getElem?_eq_getElem hpos
        have hno : s.callers[0].evicts = false := by
          have := List.countP_eq_zero.1 hev _ (List.getElem_mem hpos)
          simpa using this
        have hstep : step s (.insert 0) = some ⟨s.db.insert s.callers[0].msg, s.callers.eraseIdx 0⟩ := by
          cases hc : s.callers[0] with
          | mk msg evicts =>
            rw [hc] at hget hno
            cases hno
            simp [step, hget]
        obtain ⟨hrows, hlen, hev'⟩ := insert_callers hstep
        refine ⟨.insert 0, _, trivial, hstep, ?_, by omega⟩
        have := s.db.queueLen_nonneg
        dsimp only at hlen
        simp only [worst, remaining, hrows, hev', hev]
        omega
      · obtain ⟨c, hc, hcev⟩ := List.countP_pos_iff.1 (Nat.pos_of_ne_zero hev)
        obtain ⟨i, hi⟩ := List.getElem?_of_mem hc
        cases c with
        | mk msg evicts =>
          obtain rfl : evicts = true := hcev
          have hstep : step s (.evict i) = some ⟨s.db.evict, s.callers.set i ⟨msg, false⟩⟩ := by
            simp [step, hi]
          have hworst := worst_evict hs hstep
          refine ⟨.evict i, _, trivial, hstep, hworst, ?_⟩
          obtain ⟨hlt, hget⟩ := List.getElem?_eq_some_iff.1 hi
          have : 0 < s.callers.countP (·.evicts) := Nat.pos_of_ne_zero hev
          simp only [evicting, List.length_set, List.countP_set hlt, hget, if_true, Bool.false_eq_true,
            if_false] at hn ⊢
          omega
    obtain ⟨es, t, hes, hrun, ht, hlen, hmax⟩ := ih (onlyTelemetry_step hs hstep) hn₁
    refine ⟨e :: es, t, ?_, run_cons_eq_some.2 ⟨s₁, hstep, hrun⟩, ht, hlen.trans hworst,
      hmax.trans (step_maxQueueRows hstep)⟩
    intro e' he'
    rcases List.mem_cons.1 he' with rfl | he'
    · exact he
    · exact hes e' he'

/-- **Every completion ends within the limit exactly when the worst does.** -/
theorem endsBounded_iff (hs : OnlyTelemetry s) : EndsBounded s ↔ s.worst ≤ s.db.maxQueueRows := by
  constructor
  · intro h
    obtain ⟨es, t, hes, hrun, ht, hlen, hmax⟩ := exists_worst _ hs rfl
    have hb : t.db.queueLen ≤ t.db.maxQueueRows := h es t hes hrun ht
    omega
  · intro hw es t hes hrun ht
    have hI : ∀ s e s', OnlyTelemetry s ∧ s.worst ≤ s.db.maxQueueRows → step s e = some s' → Proceeds e →
        OnlyTelemetry s' ∧ s'.worst ≤ s'.db.maxQueueRows := by
      rintro s e s' ⟨hs, hw⟩ h he
      refine ⟨onlyTelemetry_step hs h, ?_⟩
      rw [step_maxQueueRows h]
      exact (worst_proceeds hs he h).trans hw
    obtain ⟨-, hwt⟩ := (always_of_along hI (fun _ h => h) ⟨hs, hw⟩ (along_of_forall hes)).last hrun
    -- nothing is left to be done
    simp only [worst, remaining, evicting, ht, List.countP_nil, List.length_nil] at hwt
    unfold DB.Bounded
    omega

theorem step_endsBounded (hs : OnlyTelemetry s) (hb : EndsBounded s) {e : Statement}
    (h : step s e = some s') : EndsBounded s' ↔ LeavesRoom s e s' := by
  rw [endsBounded_iff (onlyTelemetry_step hs h), step_maxQueueRows h]
  cases e with
  | count now topic payload createdAt =>
    rw [worst_count now topic payload createdAt h]
    exact Int.add_one_le_iff
  | evict i =>
    have hle := worst_proceeds (e := .evict i) hs trivial h
    exact iff_of_true (hle.trans ((endsBounded_iff hs).1 hb)) trivial
  | insert i =>
    have hle := worst_proceeds (e := .insert i) hs trivial h
    exact iff_of_true (hle.trans ((endsBounded_iff hs).1 hb)) trivial

/-- With no other call in progress there is room. -/
theorem alone_leavesRoom (hmax : 1 ≤ s.db.maxQueueRows) (hb : s.db.Bounded) (hidle : s.callers = [])
    (e : Statement) : LeavesRoom s e s' := by
  cases e with
  | count now topic payload createdAt =>
    have hb' : s.db.queueLen ≤ s.db.maxQueueRows := hb
    simp only [LeavesRoom, remaining, evicting, hidle, List.countP_nil, List.length_nil]
    by_cases hfull : s.db.Full
    · rw [if_pos hfull]
      omega
    · have hlt : ¬ s.db.maxQueueRows ≤ s.db.queueLen := hfull
      rw [if_neg hfull]
      omega
  | _ => trivial

/-- **A call alone is `Enqueue`.** -/
theorem alone_eq_enqueue (hidle : s.callers = []) (now : GoTime) (topic : String)
    (payload : List UInt8) (createdAt : GoTime) :
    run step s (.count now topic payload createdAt ::
        if s.db.Full then [.evict 0, .insert 0] else [.insert 0]) =
      some ⟨s.db.enqueue now ⟨topic, payload, 3, createdAt⟩, []⟩ := by
  unfold DB.enqueue
  by_cases hfull : s.db.Full <;> simp [run, step, hidle, hfull]

/-- **The limit under concurrent calls.** Of a queue of telemetry within its limit, every
completion of every state of a run of concurrent telemetry calls is within the limit, if
and only if each count leaves room for the calls in progress. In such a run the queue is
within its limit whenever no call is in progress. -/
theorem concurrent_bounded_iff (db : DB) (htel : ∀ r ∈ db.rows, r.priority = 3) (hb : db.Bounded)
    (es : List Statement) :
    (Always step EndsBounded ⟨db, []⟩ es ↔ Along step LeavesRoom ⟨db, []⟩ es) ∧
    (Along step LeavesRoom ⟨db, []⟩ es →
      Always step (fun s => s.callers = [] → s.db.Bounded) ⟨db, []⟩ es) := by
  have h0 : OnlyTelemetry ⟨db, []⟩ := ⟨htel, by simp⟩
  have hends : EndsBounded ⟨db, []⟩ := by
    rw [endsBounded_iff h0]
    have hb' : db.queueLen ≤ db.maxQueueRows := hb
    have := db.queueLen_nonneg
    simp only [worst, remaining, evicting, List.countP_nil, List.length_nil]
    omega
  have hiff : Always step EndsBounded ⟨db, []⟩ es ↔ Along step LeavesRoom ⟨db, []⟩ es :=
    always_iff_along (fun _ _ _ hs h => onlyTelemetry_step hs h)
      (fun _ _ _ hs hb h => step_endsBounded hs hb h) h0 hends
  refine ⟨hiff, fun hroom => (hiff.2 hroom).imp ?_⟩
  exact fun s hb hidle => hb [] s (by simp) rfl hidle

/-! Two polling goroutines and a queue of one row. -/

def count : Statement := .count DB.bootTime "gw/GW-1/telemetry" [123, 125] .zero

/-- One after the other, the second evicts the row of the first. -/
theorem one_by_one_bounded :
    Always step (fun s => s.callers = [] → s.db.Bounded) ⟨.empty 7 1, []⟩
      [count, .insert 0, count, .evict 0, .insert 0] :=
  (concurrent_bounded_iff (.empty 7 1) (by simp [DB.empty]) (by decide) _).2 (by decide +kernel)

/-- **Both count the empty queue**, and both insert. -/
theorem two_callers_overflow :
    ∃ s, run step ⟨.empty 7 1, []⟩ [count, count, .insert 0, .insert 0] = some s ∧
      s.callers = [] ∧ s.db.queueLen = 2 ∧ ¬ s.db.Bounded :=
  ⟨_, rfl, rfl, rfl, by decide +kernel⟩

end Enqueues

end Gateway
