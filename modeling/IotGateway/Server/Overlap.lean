import IotGateway.Server.LastSeen

/-!
# A message and the offline detector

The worker's handler reads the gateway's row, and later commits the columns that it
changed: the status is one of them only if the row it read was not online. The detector
is one conditional `UPDATE` of another process, before, between or after the two.

`online_iff`: **after a message newer than the detector's threshold the gateway is online,
except where the detector's `UPDATE` takes it offline between the handler's read and its
commit** (`online_overwritten`).
-/

namespace Server

open Lts Python

/-! ## The handlers, in two steps -/

/-- The columns that a commit writes: those that differ from what was read. -/
structure GatewayChanges where
  lastSeenAt : Option ℤ
  status : Option String

def Gateway.changes (read written : Gateway) : GatewayChanges where
  lastSeenAt := if written.lastSeenAt = read.lastSeenAt then none else written.lastSeenAt
  status := if written.status = read.status then none else some written.status

/-- `UPDATE gateways SET … WHERE id = …` -/
def Gateway.apply (c : GatewayChanges) (gw : Gateway) : Gateway :=
  { gw with
    lastSeenAt := c.lastSeenAt.or gw.lastSeenAt
    status := c.status.getD gw.status }

theorem Gateway.apply_id (c : GatewayChanges) (gw : Gateway) : (gw.apply c).id = gw.id := rfl

/-- A message whose handler only says that the gateway is there. -/
inductive Sign where
  | heartbeat (body : List (Str × Json))
  | telemetry (cache : Cache) (mono : ℤ) (body : List (Str × Json))

namespace Sign

def body : Sign → List (Str × Json)
  | heartbeat body => body
  | telemetry _ _ body => body

/-- What the handler assigns to the columns of the row it has read. -/
def assign (t : ℤ) : Sign → Gateway → Gateway
  | heartbeat _ => Gateway.beat t
  | telemetry _ _ _ => Gateway.seen t

/-- The time of the message and the rows to insert, if the handler comes to commit. -/
def toCommit (store : Store) (now : ℤ) (gatewayId : UUID) :
    Sign → Option (ℤ × List (Telemetry × TelemetryLatest))
  | heartbeat body => (messageTime now body).map fun t => (t, [])
  | telemetry cache mono body => Server.toCommit store cache mono now gatewayId body

end Sign

/-- What a handler holds between its read and its commit. -/
structure Pending where
  changes : GatewayChanges
  rows : List (Telemetry × TelemetryLatest)

/-- The handler up to its commit, if it comes there. -/
def Sign.read (store : Store) (now : ℤ) (gatewayId : UUID) (m : Sign) : Option Pending := do
  let gw ← store.gateways.find? gatewayId
  let (t, rows) ← m.toCommit store now gatewayId
  some ⟨gw.changes (m.assign t gw), rows⟩

def Store.commitPending (store : Store) (gatewayId : UUID) (p : Pending) : Store :=
  let s := Session.addAll ⟨store.telemetry, store.latest⟩ p.rows
  { store with
    gateways := store.gateways.modify gatewayId (·.apply p.changes) (Gateway.apply_id p.changes)
    telemetry := s.telemetry
    latest := s.latest }

section Handlers

variable {store : Store} {now t : ℤ} {gatewayId : UUID} {m : Sign} {gw : Gateway} {p : Pending}

/-- What was changed in the row that was read is what was assigned. -/
theorem apply_changes (m : Sign) (t : ℤ) (gw : Gateway) :
    gw.apply (gw.changes (m.assign t gw)) = m.assign t gw := by
  cases m with
  | heartbeat body =>
    unfold Gateway.apply Gateway.changes Sign.assign Gateway.beat
    congr 1
    · dsimp only
      split <;> simp_all
    · dsimp only
      split <;> simp_all
  | telemetry cache mono body =>
    unfold Gateway.apply Gateway.changes Sign.assign Gateway.seen
    congr 1
    · dsimp only
      split <;> simp_all
    · dsimp only
      split <;> simp_all

theorem read_eq_some (h : m.read store now gatewayId = some p) : ∃ gw t,
    store.gateways.find? gatewayId = some gw ∧ m.toCommit store now gatewayId = some (t, p.rows) ∧
      p.changes = gw.changes (m.assign t gw) := by
  unfold Sign.read at h
  simp only [Option.bind_eq_bind, Option.bind_eq_some_iff] at h
  obtain ⟨gw, hgw, ⟨t, rows⟩, hcommit, heq⟩ := h
  cases heq
  exact ⟨gw, t, hgw, hcommit, rfl⟩

/-- The handler's time is the message's. -/
theorem messageTime_of_toCommit {rows : List (Telemetry × TelemetryLatest)}
    (h : m.toCommit store now gatewayId = some (t, rows)) : messageTime now m.body = some t := by
  cases m with
  | heartbeat body =>
    obtain ⟨t', ht', heq⟩ := Option.map_eq_some_iff.1 h
    cases heq
    exact ht'
  | telemetry cache mono body => exact (toCommit_eq_some.1 h).2.1

/-- **The two steps without another between them** are the handler. -/
theorem commitPending_read (h : m.read store now gatewayId = some p) :
    match m with
    | .heartbeat body => heartbeat store now gatewayId body = some (store.commitPending gatewayId p)
    | .telemetry cache mono body =>
      (telemetry store cache mono now gatewayId body).2 = some (store.commitPending gatewayId p) := by
  obtain ⟨gw, t, hgw, hcommit, hchanges⟩ := read_eq_some h
  have hrow : store.gateways.modify gatewayId (·.apply p.changes) (Gateway.apply_id p.changes) =
      store.gateways.modify gatewayId (m.assign t) (by cases m <;> exact fun _ => rfl) := by
    refine Db.Table.modify_congr _ _ fun r hr => ?_
    rw [hgw] at hr
    cases hr
    rw [hchanges, apply_changes]
  cases m with
  | heartbeat body =>
    obtain ⟨t', ht', heq⟩ := Option.map_eq_some_iff.1 hcommit
    obtain ⟨rfl, hrows⟩ := Prod.mk.inj heq
    unfold heartbeat
    simp only [hgw]
    rw [← messageTime, ht']
    simp only [Option.bind_eq_bind, Option.bind_some, Store.commitPending, hrow, ← hrows]
    rfl
  | telemetry cache mono body =>
    simp only
    rw [telemetry_of_toCommit hcommit]
    simp only [Store.commitPending, hrow]
    rfl

end Handlers

/-! ## Their steps -/

inductive Handler where
  | waiting
  | read (p : Pending)
  | committed

/-- The database, one handler, and whether the detector has run. -/
structure Overlap where
  store : Store
  handler : Handler
  detected : Bool

inductive OverlapEvent where
  | read
  | commit
  | detect
deriving DecidableEq, Repr

namespace Overlap

def init (store : Store) : Overlap := ⟨store, .waiting, false⟩

/-- The handler processes `m` at server time `now`; the detector starts at `now'`. -/
def step (gatewayId : UUID) (m : Sign) (now thresholdSec now' : ℤ) (s : Overlap) :
    OverlapEvent → Option Overlap
  | .read =>
    match s.handler with
    | .waiting => (m.read s.store now gatewayId).map fun p => { s with handler := .read p }
    | _ => none
  | .commit =>
    match s.handler with
    | .read p => some { s with store := s.store.commitPending gatewayId p, handler := .committed }
    | _ => none
  | .detect =>
    if s.detected then none
    else some { s with store := offlineDetector s.store thresholdSec now', detected := true }

variable {gatewayId : UUID} {m : Sign} {now thresholdSec now' : ℤ} {s s' : Overlap} {e : OverlapEvent}

theorem step_cases (h : step gatewayId m now thresholdSec now' s e = some s') :
    match e with
    | .read => s.handler = .waiting ∧ ∃ p, m.read s.store now gatewayId = some p ∧
        s' = { s with handler := .read p }
    | .commit => ∃ p, s.handler = .read p ∧
        s' = { s with store := s.store.commitPending gatewayId p, handler := .committed }
    | .detect => s.detected = false ∧
        s' = { s with store := offlineDetector s.store thresholdSec now', detected := true } := by
  cases e with
  | read =>
    simp only [step] at h
    split at h
    · rename_i hw
      obtain ⟨p, hp, rfl⟩ := Option.map_eq_some_iff.1 h
      exact ⟨hw, p, hp, rfl⟩
    · cases h
  | commit =>
    simp only [step] at h
    split at h
    · rename_i p hp
      exact ⟨p, hp, (Option.some.inj h).symm⟩
    · cases h
  | detect =>
    simp only [step] at h
    split_ifs at h with hd
    exact ⟨by simpa using hd, (Option.some.inj h).symm⟩

/-- The orders of the events that are left. -/
def remaining (s : Overlap) : List (List OverlapEvent) :=
  match s.handler, s.detected with
  | .waiting, false => [[.detect, .read, .commit], [.read, .detect, .commit], [.read, .commit, .detect]]
  | .waiting, true => [[.read, .commit]]
  | .read _, false => [[.detect, .commit], [.commit, .detect]]
  | .read _, true => [[.commit]]
  | .committed, false => [[.detect]]
  | .committed, true => [[]]

/-- **Every interleaving** of the two is one of the orders. -/
theorem run_remaining {es : List OverlapEvent} : ∀ {s s' : Overlap},
    run (step gatewayId m now thresholdSec now') s es = some s' → s'.handler = .committed →
      s'.detected = true → es ∈ remaining s := by
  induction es with
  | nil =>
    intro s s' hrun hc hd
    obtain rfl := Option.some.inj hrun
    simp [remaining, hc, hd]
  | cons e es ih =>
    intro s s'' hrun hc hd
    obtain ⟨s', he, hrun'⟩ := run_cons_eq_some.1 hrun
    have hrest := ih hrun' hc hd
    have hstep := step_cases he
    cases e with
    | read =>
      obtain ⟨hw, p, -, rfl⟩ := hstep
      cases hdet : s.detected <;> simp [remaining, hw, hdet] at hrest ⊢ <;> exact hrest
    | commit =>
      obtain ⟨p, hp, rfl⟩ := hstep
      cases hdet : s.detected <;> simp [remaining, hp, hdet] at hrest ⊢ <;> exact hrest
    | detect =>
      obtain ⟨hdet, rfl⟩ := hstep
      cases hh : s.handler <;> simp [remaining, hh, hdet] at hrest ⊢ <;> exact hrest

/-! ## The status after both -/

section Status

variable {store : Store} {gw : Gateway} {p : Pending} {t threshold : ℤ}

theorem find?_commitPending : (store.commitPending gatewayId p).gateways.find? gatewayId =
    (store.gateways.find? gatewayId).map (·.apply p.changes) :=
  Db.Table.find?_modify (Gateway.apply_id p.changes) gatewayId

theorem find?_offlineDetector : (offlineDetector store thresholdSec now').gateways.find? gatewayId =
    (store.gateways.find? gatewayId).map (·.detect (now' - thresholdSec * 1000000)) :=
  Db.Table.find?_map (Gateway.detect_id _) gatewayId

theorem assign_status (m : Sign) (t : ℤ) (h : gw.status = "online" ∨ gw.status = "offline") :
    (m.assign t gw).status = "online" := by
  cases m with
  | heartbeat body =>
    rcases h with h | h
    · simp [Sign.assign, Gateway.beat, h]
    · simp [Sign.assign, Gateway.beat, h]
  | telemetry cache mono body => rfl

theorem assign_lastSeenAt (m : Sign) (t : ℤ) (gw : Gateway) : (m.assign t gw).lastSeenAt = some t := by
  cases m <;> rfl

theorem detect_status (h : gw.status = "online" ∨ gw.status = "offline") :
    (gw.detect threshold).status = "online" ∨ (gw.detect threshold).status = "offline" := by
  unfold Gateway.detect
  split
  · exact Or.inr rfl
  · exact h

/-- The detector after the commit finds the time of the message. -/
theorem detect_assign (hnew : threshold < t) : (m.assign t gw).detect threshold = m.assign t gw := by
  unfold Gateway.detect
  rw [if_neg]
  rintro ⟨-, hold⟩
  rw [assign_lastSeenAt, Option.all_some, decide_eq_true_eq] at hold
  omega

/-- The detector between read and commit: its status stays where the row read was online. -/
theorem apply_detect_status (h : gw.status = "online" ∨ gw.status = "offline") :
    ((gw.detect threshold).apply (gw.changes (m.assign t gw))).status = "online" ↔
      ¬ (gw.status = "online" ∧ gw.lastSeenAt.all (· < threshold)) := by
  have hassign := assign_status m t h
  simp only [Gateway.apply, Gateway.changes, hassign]
  rcases h with h | h
  · -- read as online: the commit leaves the status to the detector
    rw [h, if_pos rfl, Option.getD_none]
    unfold Gateway.detect
    by_cases hold : gw.lastSeenAt.all (· < threshold) = true
    · simp [h, hold]
    · simp [h, hold]
  · have hne : ("online" : String) ≠ gw.status := by rw [h]; decide
    rw [if_neg hne, h]
    simp

end Status

/-! ## The row after each order -/

section Orders

variable {store : Store} {gw : Gateway} {t : ℤ}

/-- The handler reads what the detector has left. -/
theorem row_of_detect_first (hgw : store.gateways.find? gatewayId = some gw)
    (hrun : run (step gatewayId m now thresholdSec now') (init store) [.detect, .read, .commit] = some s) :
    ∃ t, s.store.gateways.find? gatewayId =
      some (m.assign t (gw.detect (now' - thresholdSec * 1000000))) := by
  obtain ⟨s₁, s₂, h₁, h₂, h₃⟩ := run_three_eq_some.1 hrun
  obtain ⟨-, rfl⟩ := step_cases h₁
  obtain ⟨-, p, hp, rfl⟩ := step_cases h₂
  obtain ⟨p', hp', rfl⟩ := step_cases h₃
  cases hp'
  obtain ⟨gw', t, hgw', -, hchanges⟩ := read_eq_some hp
  have hleft := hgw'
  simp only [init] at hleft
  rw [find?_offlineDetector, hgw] at hleft
  cases hleft
  refine ⟨t, ?_⟩
  rw [find?_commitPending, hgw', Option.map_some, hchanges, apply_changes]

/-- The commit writes what has changed since the read, on what the detector has left. -/
theorem row_of_detect_between (hgw : store.gateways.find? gatewayId = some gw)
    (hrun : run (step gatewayId m now thresholdSec now') (init store) [.read, .detect, .commit] = some s) :
    ∃ t, s.store.gateways.find? gatewayId =
      some ((gw.detect (now' - thresholdSec * 1000000)).apply (gw.changes (m.assign t gw))) := by
  obtain ⟨s₁, s₂, h₁, h₂, h₃⟩ := run_three_eq_some.1 hrun
  obtain ⟨-, p, hp, rfl⟩ := step_cases h₁
  obtain ⟨-, rfl⟩ := step_cases h₂
  obtain ⟨p', hp', rfl⟩ := step_cases h₃
  cases hp'
  obtain ⟨gw', t, hgw', -, hchanges⟩ := read_eq_some hp
  obtain rfl : gw = gw' := Option.some.inj (hgw.symm.trans hgw')
  refine ⟨t, ?_⟩
  simp only [init]
  rw [find?_commitPending, find?_offlineDetector, hgw, Option.map_some, Option.map_some, hchanges]

/-- The detector finds what the handler has committed. -/
theorem row_of_detect_last (hgw : store.gateways.find? gatewayId = some gw)
    (ht : messageTime now m.body = some t)
    (hrun : run (step gatewayId m now thresholdSec now') (init store) [.read, .commit, .detect] = some s) :
    s.store.gateways.find? gatewayId =
      some ((m.assign t gw).detect (now' - thresholdSec * 1000000)) := by
  obtain ⟨s₁, s₂, h₁, h₂, h₃⟩ := run_three_eq_some.1 hrun
  obtain ⟨-, p, hp, rfl⟩ := step_cases h₁
  obtain ⟨p', hp', rfl⟩ := step_cases h₂
  cases hp'
  obtain ⟨-, rfl⟩ := step_cases h₃
  obtain ⟨gw', t', hgw', hcommit, hchanges⟩ := read_eq_some hp
  obtain rfl : gw = gw' := Option.some.inj (hgw.symm.trans hgw')
  obtain rfl : t = t' := Option.some.inj (ht.symm.trans (messageTime_of_toCommit hcommit))
  simp only [init]
  rw [find?_offlineDetector, find?_commitPending, hgw, Option.map_some, hchanges, apply_changes,
    Option.map_some]

end Orders

/-- **No lost update, except one.** The message is newer than the detector's threshold and
the gateway is online or offline before. After both have committed it is online, if and
only if the detector's `UPDATE` does not fall between the handler's read and its commit
on a row that is online and was not seen since the threshold. -/
theorem online_iff (store : Store) (gatewayId : UUID) (gw : Gateway) (m : Sign)
    (now thresholdSec now' t : ℤ) (hgw : store.gateways.find? gatewayId = some gw)
    (hstatus : gw.status = "online" ∨ gw.status = "offline") (ht : messageTime now m.body = some t)
    (hnew : now' - thresholdSec * 1000000 < t) (es : List OverlapEvent) (s : Overlap)
    (hrun : run (step gatewayId m now thresholdSec now') (init store) es = some s)
    (hcommitted : s.handler = .committed) (hdetected : s.detected = true) :
    (s.store.gateways.find? gatewayId).map (·.status) = some "online" ↔
      ¬ (es = [.read, .detect, .commit] ∧ gw.status = "online" ∧
        gw.lastSeenAt.all (· < now' - thresholdSec * 1000000)) := by
  have horder := run_remaining hrun hcommitted hdetected
  simp only [remaining, init, List.mem_cons, List.not_mem_nil, or_false] at horder
  rcases horder with rfl | rfl | rfl
  · obtain ⟨t', hrow⟩ := row_of_detect_first hgw hrun
    rw [hrow, Option.map_some, assign_status m t' (detect_status hstatus)]
    simp
  · obtain ⟨t', hrow⟩ := row_of_detect_between hgw hrun
    rw [hrow, Option.map_some, Option.some.injEq, apply_detect_status hstatus]
    simp
  · have hrow := row_of_detect_last hgw ht hrun
    rw [hrow, detect_assign hnew, Option.map_some, assign_status m t hstatus]
    simp

/-! Gateway 7 is online and was seen at eleven; its heartbeat of noon meets the detector. -/

def barnAtEleven : Store :=
  { barn with
    gateways := ⟨[{ Gateway.registered 7 "GW-001" 3 none with
      status := "online"
      lastSeenAt := some (Presence.noon - 3600000000) }], by simp⟩ }

def heartbeatAtNoon : Sign := .heartbeat (Presence.heartbeatAt "2026-05-04T12:00:00Z")

def barnStep : Overlap → OverlapEvent → Option Overlap :=
  step 7 heartbeatAtNoon Presence.noon 90 Presence.noon

/-- **The detector between read and commit**: after a heartbeat of this instant, the gateway
is offline. -/
theorem online_overwritten : ∃ s, run barnStep (init barnAtEleven) [.read, .detect, .commit] = some s ∧
    s.handler = .committed ∧ s.detected = true ∧
    messageTime Presence.noon heartbeatAtNoon.body = some Presence.noon ∧
    (barnAtEleven.gateways.find? 7).map (·.status) = some "online" ∧
    (s.store.gateways.find? 7).map (·.status) = some "offline" := by
  refine ⟨_, rfl, rfl, rfl, ?_⟩
  decide +kernel

/-- With the detector last, it is online. -/
theorem commit_first_online : ∃ s, run barnStep (init barnAtEleven) [.read, .commit, .detect] = some s ∧
    (s.store.gateways.find? 7).map (·.status) = some "online" := by
  refine ⟨_, rfl, ?_⟩
  refine (online_iff barnAtEleven 7 _ heartbeatAtNoon Presence.noon 90 Presence.noon Presence.noon rfl
    (Or.inl rfl) (by decide +kernel) (by decide) [.read, .commit, .detect] _ rfl rfl rfl).2 ?_
  rintro ⟨horder, -⟩
  cases horder

end Overlap

end Server
