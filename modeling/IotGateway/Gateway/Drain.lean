import IotGateway.Db.Smallest
import IotGateway.Gateway.Queue
import Mathlib.Data.String.Basic

/-!
# What leaves the offline queue

Rows leave `queued_messages` by the eviction of `Enqueue`, by `PurgeOld`, and by a drainer that
repeats `PeekBatch` and then `Delete` for each row it was given.

* `enqueue_evicts`: **a single `Enqueue` adds its row, and drops only the oldest telemetry.**
* `inv_step`: whatever else goes on, a row that was given is known by its id, since ids are
  never used again.
* `drain_exact`: **draining hands out what it deletes, in order, and nothing twice.**
-/

namespace Gateway

open Lts

namespace DB

variable {db : DB} {now : GoTime} {msg : QueuedMessage} {r s : QueueRow}

/-! ## Eviction -/

/-- The rows that stay. -/
theorem mem_evict_iff (hr : r ∈ db.rows) : r ∈ db.evict.rows ↔ r ∉ db.oldestTelemetry := by
  rw [evict, deleteWhere, List.mem_filter, and_iff_right hr, ← id_mem_oldestTelemetry hr]
  simp

/-- The row that an `Enqueue` inserts. -/
def inserted (db : DB) (now : GoTime) (msg : QueuedMessage) : QueueRow :=
  ⟨db.sequence + 1, msg.topic, msg.payload, (msg.normalize now).priority,
    (msg.normalize now).createdAt.string⟩

/-- Its id is new. -/
theorem inserted_not_mem : db.inserted now msg ∉ db.rows := by
  intro hmem
  have hle : db.sequence + 1 ≤ db.sequence := db.below _ hmem
  omega

theorem mem_enqueue : r ∈ (db.enqueue now msg).rows ↔
    r = db.inserted now msg ∨ r ∈ db.rows ∧ (db.Full → r ∉ db.oldestTelemetry) := by
  unfold enqueue
  split_ifs with hfull
  · have hkept : r ∈ db.evict.rows ↔ r ∈ db.rows ∧ (db.Full → r ∉ db.oldestTelemetry) := by
      constructor
      · exact fun h => ⟨mem_evict h, fun _ => (mem_evict_iff (mem_evict h)).mp h⟩
      · exact fun h => (mem_evict_iff h.1).mpr (h.2 hfull)
    rw [insert, List.mem_append, List.mem_singleton, or_comm, hkept]
    rfl
  · have hkept : r ∈ db.rows ↔ r ∈ db.rows ∧ (db.Full → r ∉ db.oldestTelemetry) :=
      ⟨fun h => ⟨h, fun hf => absurd hf hfull⟩, fun h => h.1⟩
    rw [insert, List.mem_append, List.mem_singleton, or_comm, ← hkept]
    rfl

/-- The rows that an `Enqueue` removes. -/
def removed (db : DB) (now : GoTime) (msg : QueuedMessage) : List QueueRow :=
  db.rows.filter fun r => r ∉ (db.enqueue now msg).rows

theorem mem_removed : r ∈ db.removed now msg ↔ db.Full ∧ r ∈ db.oldestTelemetry := by
  rw [removed, List.mem_filter, decide_eq_true_eq, mem_enqueue]
  constructor
  · rintro ⟨hr, hno⟩
    by_contra hin
    exact hno (.inr ⟨hr, fun hfull hold => hin ⟨hfull, hold⟩⟩)
  · rintro ⟨hfull, hold⟩
    have hr := (mem_oldestTelemetry hold).1
    refine ⟨hr, ?_⟩
    rintro (rfl | ⟨-, hno⟩)
    · exact inserted_not_mem hr
    · exact hno hfull hold

/-- **One `Enqueue`**: its row is there, with a new id; nothing else is inserted or altered; a
queue that is not full loses nothing; a full one loses telemetry, 1000 rows or all, and none
that is later than one that stays. -/
theorem enqueue_evicts (db : DB) (now : GoTime) (msg : QueuedMessage) :
    (∃ row ∈ (db.enqueue now msg).rows, row.topic = msg.topic ∧ row.payload = msg.payload ∧
      (∀ r ∈ db.rows, r.id < row.id) ∧ ∀ r ∈ (db.enqueue now msg).rows, r = row ∨ r ∈ db.rows) ∧
    (¬ db.maxQueueRows ≤ db.queueLen → db.removed now msg = []) ∧
    (db.maxQueueRows ≤ db.queueLen →
      (db.removed now msg).length = min 1000 (db.rows.filter fun r => r.priority = 3).length) ∧
    ∀ r ∈ db.removed now msg, r.priority = 3 ∧ ∀ s ∈ db.rows, s ∈ (db.enqueue now msg).rows →
      s.priority = 3 → r.createdAt ≤ s.createdAt := by
  refine ⟨⟨db.inserted now msg, mem_enqueue.mpr (.inl rfl), rfl, rfl, fun r hr => ?_, fun r hr => ?_⟩,
    fun hroom => ?_, fun hfull => ?_, fun r hr => ?_⟩
  · have hle := db.below r hr
    have hid : (db.inserted now msg).id = db.sequence + 1 := rfl
    omega
  · exact (mem_enqueue.mp hr).imp_right fun h => h.1
  · refine List.eq_nil_iff_forall_not_mem.mpr fun r hr => ?_
    exact hroom (mem_removed.mp hr).1
  · -- the removed rows are the selected ones, in another order
    have hperm : (db.removed now msg).Perm db.oldestTelemetry := by
      refine Smallest.filter_perm db.nodup_rows nodup_oldestTelemetry fun r => ?_
      have hmem : r ∈ db.removed now msg ↔ r ∈ db.oldestTelemetry := mem_removed.trans (and_iff_right hfull)
      rwa [removed, List.mem_filter] at hmem
    rw [hperm.length_eq, length_oldestTelemetry]
    rfl
  · obtain ⟨hfull, hold⟩ := mem_removed.mp hr
    refine ⟨(mem_oldestTelemetry hold).2, fun s hs hstays hthree => ?_⟩
    have hout : s ∉ db.oldestTelemetry := by
      rcases mem_enqueue.mp hstays with rfl | ⟨-, hno⟩
      · exact absurd hs inserted_not_mem
      · exact hno hfull
    rw [oldestTelemetry_eq] at hold hout
    exact Smallest.le_of_not_mem hold (List.mem_filter.mpr ⟨hs, decide_eq_true hthree⟩) hout

/-! ## Draining -/

/-- `ORDER BY priority ASC, created_at ASC` -/
def rank (r : QueueRow) : ℤ ×ₗ String := toLex (r.priority, r.createdAt)

/-- `PeekBatch(n)`; the index keeps rows of one time in the order of their ids. -/
def peekBatch (db : DB) (n : ℕ) : List QueueRow := Smallest.smallest rank n db.rows

/-- `a` is not after `b` in the order of `PeekBatch`. -/
def NotAfter (a b : QueueRow) : Prop :=
  a.priority < b.priority ∨ a.priority = b.priority ∧ a.createdAt ≤ b.createdAt

theorem notAfter_of_rank {a b : QueueRow} (h : rank a ≤ rank b) : NotAfter a b :=
  Prod.Lex.le_iff.mp h

/-- The `n` smallest rows in order, or all if there are fewer. -/
structure IsBatch (db : DB) (n : ℕ) (batch : List QueueRow) : Prop where
  rows : ∀ r ∈ batch, r ∈ db.rows
  nodup : batch.Nodup
  sorted : batch.Pairwise NotAfter
  length : batch.length = min n db.rows.length
  smallest : ∀ r ∈ batch, ∀ s ∈ db.rows, s ∉ batch → NotAfter r s

theorem peekBatch_sorted (db : DB) (n : ℕ) :
    (db.peekBatch n).Pairwise fun a b => rank a ≤ rank b :=
  Smallest.pairwise_smallest

theorem isBatch_peekBatch (db : DB) (n : ℕ) : IsBatch db n (db.peekBatch n) where
  rows _ hr := Smallest.mem_of_mem_smallest hr
  nodup := Smallest.nodup_smallest db.nodup_rows
  sorted := (db.peekBatch_sorted n).imp fun h => notAfter_of_rank h
  length := Smallest.length_smallest
  smallest _ hr _ hs hno := notAfter_of_rank (Smallest.le_of_not_mem hr hs hno)

/-- The loop of a drainer: `PeekBatch(n)` and a `Delete` for each row, until a batch is empty.
`none`: more rounds are needed. -/
def drain (n : ℕ) : ℕ → DB → Option (List QueueRow × DB)
  | 0, _ => none
  | rounds + 1, db =>
    let batch := db.peekBatch n
    if batch = [] then some ([], db)
    else (drain n rounds (batch.foldl (fun db r => db.delete r.id) db)).map fun last =>
      (batch ++ last.1, last.2)

/-- A `Delete` removes the row that has the id. -/
theorem delete_rows (hknown : ∀ x ∈ db.rows, x.id = r.id → x = r) :
    (db.delete r.id).rows = db.rows.filter (· ≠ r) := by
  refine List.filter_congr fun x hx => ?_
  have hid : x.id = r.id ↔ x = r := ⟨hknown x hx, fun h => h ▸ rfl⟩
  simp [hid]

theorem foldl_delete_rows (db : DB) {batch : List QueueRow}
    (hknown : ∀ r ∈ batch, ∀ x ∈ db.rows, x.id = r.id → x = r) :
    (batch.foldl (fun db r => db.delete r.id) db).rows = db.rows.filter (· ∉ batch) := by
  induction batch generalizing db with
  | nil => simp
  | cons r batch ih =>
    have hrows := delete_rows (hknown r List.mem_cons_self)
    rw [List.foldl_cons, ih, hrows, List.filter_filter]
    · refine List.filter_congr fun x _ => ?_
      simp [Bool.and_comm]
    · intro q hq x hx
      rw [hrows] at hx
      exact hknown q (List.mem_cons_of_mem _ hq) x (List.mem_of_mem_filter hx)

/-- On the rows it is `Smallest.drain`. -/
theorem drain_rows (db : DB) {n : ℕ} (hn : 0 < n) (rounds : ℕ) :
    (db.drain n rounds).map (fun last => (last.1, last.2.rows)) =
      (Smallest.drain rank n rounds db.rows).map fun out => (out, []) := by
  induction rounds generalizing db with
  | zero => rfl
  | succ rounds ih =>
    have hbatch : db.peekBatch n = Smallest.smallest rank n db.rows := rfl
    simp only [drain, Smallest.drain, ← hbatch]
    split_ifs with hnil
    · rw [hbatch, Smallest.smallest_eq_nil hn] at hnil
      rw [Option.map_some, Option.map_some, hnil]
    · have hrows := db.foldl_delete_rows fun r hr x hx hid =>
        eq_of_id hx ((isBatch_peekBatch db n).rows r hr) hid
      have hrest := congrArg (Option.map fun last => (db.peekBatch n ++ last.1, last.2))
        (ih ((db.peekBatch n).foldl (fun db r => db.delete r.id) db))
      rw [hrows] at hrest
      simpa only [Option.map_map, Function.comp_def] using hrest

/-- **A drainer alone** hands out every row once, in order, and leaves none. -/
theorem drain_all {n : ℕ} (hn : 0 < n) {rounds : ℕ} (hrounds : db.rows.length < rounds) :
    ∃ handed last, db.drain n rounds = some (handed, last) ∧ handed.Perm db.rows ∧ handed.Nodup ∧
      handed.Pairwise NotAfter ∧ last.rows = [] := by
  obtain ⟨out, hout, hperm, hsorted⟩ : ∃ out, Smallest.drain rank n rounds db.rows = some out ∧
      out.Perm db.rows ∧ out.Pairwise fun a b => rank a ≤ rank b :=
    Smallest.drain_eq_some hn db.nodup_rows hrounds
  have hrows := db.drain_rows hn rounds
  rw [hout, Option.map_some, Option.map_eq_some_iff] at hrows
  obtain ⟨⟨handed, last⟩, hdrain, heq⟩ := hrows
  obtain ⟨rfl, hlast⟩ := Prod.mk.inj heq
  exact ⟨handed, last, hdrain, hperm, hperm.nodup_iff.mpr db.nodup_rows,
    hsorted.imp fun h => notAfter_of_rank h, hlast⟩

end DB

/-! ### With other calls in between -/

/-- The file, the calls of `Enqueue` in progress, and the drainer: the rows of its batch that it
has still to delete, and those for which it has called `Delete`. -/
structure Draining where
  db : DB
  callers : List Caller
  pending : List QueueRow
  deleted : List QueueRow

/-- The statements, in the order in which they are carried out. -/
inductive DrainStep where
  /-- a call of `Enqueue` begins and counts -/
  | count (now : GoTime) (msg : QueuedMessage)
  /-- caller `i` evicts, or fails to, which it only logs -/
  | evict (i : ℕ) (succeeds : Bool)
  /-- caller `i` inserts its row, or fails to, and returns -/
  | insert (i : ℕ) (succeeds : Bool)
  | purgeOld (now : GoTime)
  /-- the drainer, with nothing left to delete, calls `PeekBatch(n)` -/
  | peek (n : ℕ)
  /-- it calls `Delete` for the next row of its batch -/
  | delete

namespace Draining

def step (s : Draining) : DrainStep → Option Draining
  | .count now msg => some { s with callers := s.callers ++ [⟨msg.normalize now, s.db.Full⟩] }
  | .evict i succeeds =>
    match s.callers[i]? with
    | some ⟨msg, true⟩ =>
      some { s with db := if succeeds then s.db.evict else s.db, callers := s.callers.set i ⟨msg, false⟩ }
    | _ => none
  | .insert i succeeds =>
    match s.callers[i]? with
    | some ⟨msg, false⟩ =>
      some { s with db := if succeeds then s.db.insert msg else s.db, callers := s.callers.eraseIdx i }
    | _ => none
  | .purgeOld now => some { s with db := s.db.purgeOld now }
  | .peek n => if s.pending = [] then some { s with pending := s.db.peekBatch n } else none
  | .delete =>
    match s.pending with
    | [] => none
    | r :: pending => some { s with db := s.db.delete r.id, pending, deleted := r :: s.deleted }

/-- A `Delete` removes no other message than the one that was given, and a batch has no message
that was deleted before; it is what `PeekBatch` promises. -/
def Exact (s : Draining) (e : DrainStep) (s' : Draining) : Prop :=
  match e with
  | .delete => ∀ r ∈ s.pending.head?, ∀ x ∈ s.db.rows, x ∉ s'.db.rows → x = r
  | .peek n => s.db.IsBatch n s'.pending ∧ ∀ x ∈ s'.pending, ∀ r ∈ s.deleted, x.id ≠ r.id
  | _ => True

/-- A row that was given is known by its id, and after its `Delete` the id is in no row. -/
structure Inv (s : Draining) : Prop where
  pending : ∀ r ∈ s.pending, r.id ≤ s.db.sequence ∧ ∀ x ∈ s.db.rows, x.id = r.id → x = r
  deleted : ∀ r ∈ s.deleted, r.id ≤ s.db.sequence ∧ ∀ x ∈ s.db.rows, x.id ≠ r.id

variable {s s' : Draining} {e : DrainStep}

/-- Rows go, and none come. -/
theorem Inv.shrink (h : Inv s) (db : DB) (hseq : db.sequence = s.db.sequence)
    (hrows : ∀ r ∈ db.rows, r ∈ s.db.rows) : Inv { s with db } := by
  refine ⟨fun r hr => ?_, fun r hr => ?_⟩
  · obtain ⟨hle, hknown⟩ := h.pending r hr
    exact ⟨hle.trans hseq.ge, fun x hx => hknown x (hrows x hx)⟩
  · obtain ⟨hle, hgone⟩ := h.deleted r hr
    exact ⟨hle.trans hseq.ge, fun x hx => hgone x (hrows x hx)⟩

/-- A row comes, with an id that is new. -/
theorem Inv.grow (h : Inv s) (msg : QueuedMessage) : Inv { s with db := s.db.insert msg } := by
  have hnew : ∀ x ∈ (s.db.insert msg).rows, x ∈ s.db.rows ∨ x.id = s.db.sequence + 1 := by
    intro x hx
    rcases List.mem_append.mp hx with hx | hx
    · exact .inl hx
    · rw [List.mem_singleton.mp hx]
      exact .inr rfl
  have hseq : (s.db.insert msg).sequence = s.db.sequence + 1 := rfl
  refine ⟨fun r hr => ?_, fun r hr => ?_⟩
  · obtain ⟨hle, hknown⟩ := h.pending r hr
    refine ⟨by dsimp only; omega, fun x hx hid => ?_⟩
    rcases hnew x hx with hx | hx
    · exact hknown x hx hid
    · omega
  · obtain ⟨hle, hgone⟩ := h.deleted r hr
    refine ⟨by dsimp only; omega, fun x hx hid => ?_⟩
    rcases hnew x hx with hx | hx
    · exact hgone x hx hid
    · omega

theorem mem_deleteWhere {db : DB} {p : QueueRow → Bool} {r : QueueRow}
    (h : r ∈ (db.deleteWhere p).rows) : r ∈ db.rows := List.mem_of_mem_filter h

/-- The callers do not matter to it. -/
theorem Inv.callers (h : Inv s) (callers : List Caller) : Inv { s with callers } :=
  ⟨h.pending, h.deleted⟩

/-- A `Delete`. -/
theorem Inv.delete (h : Inv s) {r : QueueRow} {pending : List QueueRow} (hp : s.pending = r :: pending) :
    Inv { s with db := s.db.delete r.id, pending, deleted := r :: s.deleted } := by
  have hless := h.shrink (s.db.delete r.id) rfl fun _ => mem_deleteWhere
  refine ⟨fun q hq => hless.pending q ?_, List.forall_mem_cons.mpr ⟨⟨?_, fun x hx => ?_⟩, hless.deleted⟩⟩
  · rw [hp]
    exact List.mem_cons_of_mem _ hq
  · exact (h.pending r (hp ▸ List.mem_cons_self)).1
  · simpa using (List.mem_filter.mp hx).2

/-! ### What the statements do -/

theorem step_evict {i : ℕ} {succeeds : Bool} (hstep : s.step (.evict i succeeds) = some s') :
    ∃ msg, s.callers[i]? = some ⟨msg, true⟩ ∧
      s' = { s with db := if succeeds then s.db.evict else s.db, callers := s.callers.set i ⟨msg, false⟩ } := by
  simp only [step] at hstep
  split at hstep
  · rename_i msg hi
    cases hstep
    exact ⟨msg, hi, rfl⟩
  · cases hstep

theorem step_insert {i : ℕ} {succeeds : Bool} (hstep : s.step (.insert i succeeds) = some s') :
    ∃ msg, s.callers[i]? = some ⟨msg, false⟩ ∧
      s' = { s with db := if succeeds then s.db.insert msg else s.db, callers := s.callers.eraseIdx i } := by
  simp only [step] at hstep
  split at hstep
  · rename_i msg hi
    cases hstep
    exact ⟨msg, hi, rfl⟩
  · cases hstep

theorem step_peek {n : ℕ} (hstep : s.step (.peek n) = some s') :
    s.pending = [] ∧ s' = { s with pending := s.db.peekBatch n } := by
  simp only [step] at hstep
  split_ifs at hstep with hnil
  cases hstep
  exact ⟨hnil, rfl⟩

/-- A `Delete` is of the first pending row. -/
theorem step_delete (hstep : s.step .delete = some s') : ∃ r pending, s.pending = r :: pending ∧
    s' = { s with db := s.db.delete r.id, pending, deleted := r :: s.deleted } := by
  cases hp : s.pending with
  | nil => simp [step, hp] at hstep
  | cons r pending =>
    simp only [step, hp] at hstep
    cases hstep
    exact ⟨r, pending, rfl, rfl⟩

/-! ### Every step -/

theorem inv_step (h : Inv s) (hstep : s.step e = some s') : Inv s' := by
  cases e with
  | count now msg =>
    cases hstep
    exact h.callers _
  | evict i succeeds =>
    obtain ⟨msg, -, rfl⟩ := step_evict hstep
    cases succeeds with
    | false => exact h.callers _
    | true => exact (h.shrink s.db.evict rfl fun _ => DB.mem_evict).callers _
  | insert i succeeds =>
    obtain ⟨msg, -, rfl⟩ := step_insert hstep
    cases succeeds with
    | false => exact h.callers _
    | true => exact (h.grow msg).callers _
  | purgeOld now =>
    cases hstep
    exact h.shrink _ rfl fun _ => mem_deleteWhere
  | peek n =>
    obtain ⟨-, rfl⟩ := step_peek hstep
    refine ⟨fun r hr => ?_, h.deleted⟩
    have hmem := (s.db.isBatch_peekBatch n).rows r hr
    exact ⟨s.db.below r hmem, fun x hx hid => DB.eq_of_id hx hmem hid⟩
  | delete =>
    obtain ⟨r, pending, hp, rfl⟩ := step_delete hstep
    exact h.delete hp

theorem exact_step (h : Inv s) (hstep : s.step e = some s') : Exact s e s' := by
  cases e with
  | peek n =>
    obtain ⟨-, rfl⟩ := step_peek hstep
    have hbatch := s.db.isBatch_peekBatch n
    exact ⟨hbatch, fun x hx r hr => (h.deleted r hr).2 x (hbatch.rows x hx)⟩
  | delete =>
    obtain ⟨r, pending, hp, rfl⟩ := step_delete hstep
    have hknown := (h.pending r (hp ▸ List.mem_cons_self)).2
    rintro q hq x hx hgone
    rw [hp, List.head?_cons, Option.mem_some_iff] at hq
    subst hq
    refine hknown x hx (by_contra fun hne => hgone ?_)
    exact List.mem_filter.mpr ⟨hx, by simpa using hne⟩
  | count now msg => trivial
  | evict i succeeds => trivial
  | insert i succeeds => trivial
  | purgeOld now => trivial

/-- A drainer that starts on a queue. -/
def start (db : DB) (callers : List Caller) : Draining := ⟨db, callers, [], []⟩

/-- **Draining is exact**, whatever the queue and the batch size. In any interleaving with the
statements of `Enqueue` and `PurgeOld`, a `Delete` removes at most the message that was given, a
batch is made of the smallest rows, and no message comes again after its `Delete`. Without other
calls the loop ends, having handed out every row once and in order. -/
theorem drain_exact {n : ℕ} (hn : 0 < n) (db : DB) :
    (∀ callers es, Along step Exact (start db callers) es) ∧
      ∀ rounds, db.rows.length < rounds → ∃ handed last, db.drain n rounds = some (handed, last) ∧
        handed.Perm db.rows ∧ handed.Nodup ∧ handed.Pairwise DB.NotAfter ∧ last.rows = [] := by
  have hstart : ∀ callers, Inv (start db callers) := fun callers =>
    ⟨fun r hr => absurd hr List.not_mem_nil, fun r hr => absurd hr List.not_mem_nil⟩
  refine ⟨fun callers es => ?_, fun rounds => DB.drain_all hn⟩
  exact along_of_inv (fun _ _ _ => inv_step) (fun _ _ _ => exact_step) (hstart callers)

/-- An event goes before telemetry. -/
theorem drain_exact_two :
    let db := ((DB.empty 7 10).insert (DB.message 3)).insert (DB.message 1)
    (∀ callers es, Along step Exact (start db callers) es) ∧
      ∀ rounds, db.rows.length < rounds → ∃ handed last, db.drain 1 rounds = some (handed, last) ∧
        handed.Perm db.rows ∧ handed.Nodup ∧ handed.Pairwise DB.NotAfter ∧ last.rows = [] :=
  drain_exact (by decide) _

end Draining

end Gateway
