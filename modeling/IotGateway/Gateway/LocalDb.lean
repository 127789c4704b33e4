import Mathlib.Data.String.Basic
import IotGateway.Db.Smallest
import IotGateway.Gateway.Time

/-!
# The offline queue of the package `localdb`

The table `queued_messages` of the agent's SQLite file, and the statements of `Enqueue`,
`Delete`, `PurgeOld` and `QueueLen` on it. Rows are kept in the order of their ids, which
AUTOINCREMENT never gives twice. A time is stored as the text `Time.String` gives, and
texts compare bytewise.

`evict_length`: the eviction of `Enqueue` removes the telemetry rows, up to 1000 of them.
-/

namespace Gateway

open Calendar

/-- A `time.Time`: the instant in nanoseconds since the epoch, its zone (seconds east of
UTC and abbreviation), and the monotonic clock reading that `time.Now` adds. -/
structure GoTime where
  instant : ℤ
  offset : ℤ
  zoneName : String
  monotonic : Option ℤ
deriving DecidableEq, Repr

namespace GoTime

/-- The `Time` that is not set: the first instant of year 1. -/
def zero : GoTime := ⟨firstDay * 86400 * second, 0, "UTC", none⟩

/-- `t.IsZero()` -/
def isZero (t : GoTime) : Bool := t.instant = zero.instant

/-- `t.Add(d)`: a monotonic reading that leaves the `int64` range is dropped. -/
def add (t : GoTime) (d : ℤ) : GoTime :=
  { t with
    instant := t.instant + d
    monotonic := t.monotonic.bind fun m => if wrap64 (m + d) = m + d then some (m + d) else none }

/-- The offset `-0700`, in whole minutes. -/
def showOffset (offset : ℤ) : List Char :=
  let mins := offset.natAbs / 60
  (if offset.tdiv 60 < 0 then '-' else '+') :: showDigits 2 (mins / 60) ++ showDigits 2 (mins % 60)

/-- The suffix `m=±seconds.nanoseconds`. -/
def showMonotonic : Option ℤ → List Char
  | none => []
  | some m =>
    " m=".toList ++ (if m < 0 then '-' else '+') :: (Nat.repr (m.natAbs / 1000000000)).toList ++
      '.' :: showDigits 9 (m.natAbs % 1000000000)

/-- `t.String()`: layout `2006-01-02 15:04:05.999999999 -0700 MST`, years of four digits. -/
def string (t : GoTime) : String :=
  let wall := t.instant + t.offset * second
  let secs := wall / second
  let (y, m, d) := ofDays (secs / 86400)
  let sod := (secs % 86400).toNat
  String.ofList (showDigits 4 y.toNat ++ '-' :: showDigits 2 m.toNat ++ '-' :: showDigits 2 d.toNat ++
    ' ' :: showDigits 2 (sod / 3600) ++ ':' :: showDigits 2 (sod / 60 % 60) ++ ':' ::
    showDigits 2 (sod % 60) ++ showFraction (wall % second).toNat ++ ' ' :: showOffset t.offset ++
    ' ' :: (if t.zoneName = "" then showOffset t.offset else t.zoneName.toList) ++
    showMonotonic t.monotonic)

end GoTime

/-- `QueuedMessage`, as `Enqueue` is given it. -/
structure QueuedMessage where
  topic : String
  payload : List UInt8
  priority : ℤ
  createdAt : GoTime
deriving DecidableEq, Repr

/-- A row of `queued_messages`. -/
structure QueueRow where
  id : ℤ
  topic : String
  payload : List UInt8
  priority : ℤ
  createdAt : String
deriving DecidableEq, Repr

/-- `DB`: its limits, the rows, and the largest id given so far (`sqlite_sequence`). -/
structure DB where
  retentionDays : ℤ
  maxQueueRows : ℤ
  rows : List QueueRow
  sequence : ℤ
  increasing : rows.Pairwise fun a b => a.id < b.id
  below : ∀ r ∈ rows, r.id ≤ sequence

/-- The defaults of `Enqueue`. -/
def QueuedMessage.normalize (msg : QueuedMessage) (now : GoTime) : QueuedMessage :=
  { msg with
    priority := if msg.priority = 0 then 3 else msg.priority
    createdAt := if msg.createdAt.isZero then now else msg.createdAt }

namespace DB

/-- The file after `Open` has made the schema. -/
def empty (retentionDays maxQueueRows : ℤ) : DB :=
  ⟨retentionDays, maxQueueRows, [], 0, List.Pairwise.nil, by simp⟩

/-- `SELECT COUNT(*) FROM queued_messages`; `QueueLen` -/
def queueLen (db : DB) : ℤ := db.rows.length

/-- `DELETE FROM queued_messages WHERE …` -/
def deleteWhere (db : DB) (p : QueueRow → Bool) : DB :=
  { db with
    rows := db.rows.filter fun r => !p r
    increasing := db.increasing.filter _
    below := fun r hr => db.below r (List.mem_of_mem_filter hr) }

/-- The rows of priority 3. -/
def telemetryRows (db : DB) : List QueueRow := db.rows.filter fun r => r.priority = 3

/-- `SELECT id … WHERE priority=3 ORDER BY created_at ASC LIMIT 1000`; the index keeps
rows of one time in the order of their ids. -/
def oldestTelemetry (db : DB) : List QueueRow :=
  (db.telemetryRows.insertionSort fun a b => a.createdAt ≤ b.createdAt).take 1000

/-- The eviction of `Enqueue`. -/
def evict (db : DB) : DB := db.deleteWhere fun r => r.id ∈ db.oldestTelemetry.map (·.id)

/-- The `INSERT` of `Enqueue`. -/
def insert (db : DB) (msg : QueuedMessage) : DB :=
  { db with
    rows := db.rows ++
      [⟨db.sequence + 1, msg.topic, msg.payload, msg.priority, msg.createdAt.string⟩]
    sequence := db.sequence + 1
    increasing := by
      rw [List.pairwise_append]
      refine ⟨db.increasing, List.pairwise_singleton _ _, ?_⟩
      intro a ha b hb
      rw [List.mem_singleton.1 hb]
      have := db.below a ha
      dsimp only
      omega
    below := by
      intro r hr
      rcases List.mem_append.1 hr with hr | hr
      · have := db.below r hr
        omega
      · rw [List.mem_singleton.1 hr] }

/-- The queue has reached its limit: `count >= d.maxQueueRows`. -/
def Full (db : DB) : Prop := db.maxQueueRows ≤ db.queueLen

instance (db : DB) : Decidable db.Full := inferInstanceAs (Decidable (_ ≤ _))

/-- `Enqueue`, every statement succeeding. -/
def enqueue (db : DB) (now : GoTime) (msg : QueuedMessage) : DB :=
  if db.Full then db.evict.insert (msg.normalize now) else db.insert (msg.normalize now)

/-- `Delete` -/
def delete (db : DB) (id : ℤ) : DB := db.deleteWhere fun r => r.id = id

/-- The cutoff of `PurgeOld`. -/
def cutoff (db : DB) (now : GoTime) : GoTime := now.add (wrap64 (-db.retentionDays * 24 * 3600 * second))

/-- `PurgeOld` -/
def purgeOld (db : DB) (now : GoTime) : DB :=
  db.deleteWhere fun r => r.createdAt < (db.cutoff now).string

variable {db : DB} {msg : QueuedMessage}

@[simp] theorem deleteWhere_maxQueueRows (p : QueueRow → Bool) :
    (db.deleteWhere p).maxQueueRows = db.maxQueueRows := rfl
@[simp] theorem evict_maxQueueRows : db.evict.maxQueueRows = db.maxQueueRows := rfl
@[simp] theorem insert_maxQueueRows : (db.insert msg).maxQueueRows = db.maxQueueRows := rfl

@[simp] theorem queueLen_insert : (db.insert msg).queueLen = db.queueLen + 1 := by
  simp [queueLen, insert]

theorem queueLen_nonneg : 0 ≤ db.queueLen := Int.natCast_nonneg _

theorem queueLen_deleteWhere_le (p : QueueRow → Bool) : (db.deleteWhere p).queueLen ≤ db.queueLen :=
  Int.ofNat_le.2 (List.length_filter_le _ _)

theorem mem_evict {r : QueueRow} (h : r ∈ db.evict.rows) : r ∈ db.rows := List.mem_of_mem_filter h

/-- A row is known by its id. -/
theorem eq_of_id {a b : QueueRow} (ha : a ∈ db.rows) (hb : b ∈ db.rows) (h : a.id = b.id) : a = b := by
  have hnodup : (db.rows.map (·.id)).Nodup := by
    rw [List.Nodup, List.pairwise_map]
    exact db.increasing.imp fun hlt => ne_of_lt hlt
  exact List.inj_on_of_nodup_map hnodup ha hb h

theorem nodup_rows : db.rows.Nodup := db.increasing.imp fun hlt heq => by rw [heq] at hlt; exact lt_irrefl _ hlt

/-- The telemetry that an eviction selects. -/
theorem oldestTelemetry_eq :
    db.oldestTelemetry = Smallest.smallest QueueRow.createdAt 1000 db.telemetryRows := rfl

theorem mem_oldestTelemetry {r : QueueRow} (h : r ∈ db.oldestTelemetry) : r ∈ db.rows ∧ r.priority = 3 := by
  have hrow : r ∈ db.telemetryRows := Smallest.mem_of_mem_smallest h
  simpa [telemetryRows] using hrow

theorem nodup_oldestTelemetry : db.oldestTelemetry.Nodup :=
  Smallest.nodup_smallest (db.nodup_rows.filter _)

theorem length_oldestTelemetry : db.oldestTelemetry.length = min 1000 db.telemetryRows.length :=
  Smallest.length_smallest

/-- The statement deletes by id. -/
theorem id_mem_oldestTelemetry {r : QueueRow} (hr : r ∈ db.rows) :
    r.id ∈ db.oldestTelemetry.map (·.id) ↔ r ∈ db.oldestTelemetry := by
  rw [List.mem_map]
  constructor
  · rintro ⟨q, hq, hid⟩
    rwa [← eq_of_id (mem_oldestTelemetry hq).1 hr hid]
  · exact fun h => ⟨r, h, rfl⟩

/-- **The eviction removes telemetry rows**, 1000 or all of them. -/
theorem evict_length : db.evict.rows.length + min 1000 db.telemetryRows.length = db.rows.length := by
  -- the removed rows are the selected ones, in another order
  have hperm : (db.rows.filter fun r => r.id ∈ db.oldestTelemetry.map (·.id)).Perm db.oldestTelemetry := by
    refine Smallest.filter_perm db.nodup_rows nodup_oldestTelemetry fun r => ?_
    rw [decide_eq_true_eq]
    constructor
    · rintro ⟨hr, hid⟩
      exact (id_mem_oldestTelemetry hr).1 hid
    · intro h
      have hr := (mem_oldestTelemetry h).1
      exact ⟨hr, (id_mem_oldestTelemetry hr).2 h⟩
  rw [← length_oldestTelemetry, ← hperm.length_eq, Nat.add_comm]
  exact (List.length_eq_length_filter_add _).symm

end DB

example : (GoTime.mk 1777863600500000000 0 "UTC" (some 12000000034)).string =
    "2026-05-04 03:00:00.5 +0000 UTC m=+12.000000034" := by decide +kernel

end Gateway
