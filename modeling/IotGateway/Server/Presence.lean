import IotGateway.Lts.Run
import IotGateway.Server.Telemetry

/-!
# Seeing a gateway, and missing it

Telemetry, heartbeats and states set `last_seen_at`, most of them to the time the message
carries; `offline_detector.run` compares it with the server's clock. Only a state whose
reason is `lwt` is stamped with the server's time.

`silent_detected`: **in a run whose messages are not dated ahead of the server, a gateway
that was silent for the threshold is not online after the detector.** One message from the
future hides the silence until its time has come (`future_hides_silence`).
-/

namespace Server

open Lts Python

/-! ## Heartbeats, states and the detector -/

/-- A heartbeat at `t` brings an offline gateway back. -/
def Gateway.beat (t : ℤ) (gw : Gateway) : Gateway :=
  { gw with
    lastSeenAt := some t
    status := if gw.status = "offline" then "online" else gw.status }

theorem Gateway.beat_id (t : ℤ) (gw : Gateway) : (gw.beat t).id = gw.id := rfl

/-- `heartbeat.handle`; `none` is an exception, after which the tables are as before. -/
def heartbeat (store : Store) (now : ℤ) (gatewayId : UUID) (body : List (Str × Json)) :
    Option Store :=
  match store.gateways.find? gatewayId with
  | none => some store
  | some _ => do
    let t ← (parseIso8601 now (Json.get body "timestamp")).bind Db.timestamptz
    some { store with gateways := store.gateways.modify gatewayId (·.beat t) (Gateway.beat_id t) }

/-- The columns a state message assigns; those that are `none` it leaves. -/
structure StateReport where
  status : String
  appVersion : Option (Option String)
  firmwareVersion : Option (Option String)
  configVersion : Option ℤ
  lastSeenAt : Option ℤ

/-- `if key in body: gw.column = body[key]` -/
def assigned (column : Json → Option (Option String)) (value : Option Json) :
    Option (Option (Option String)) :=
  match value with
  | none => some none
  | some v => (column v).map some

/-- `config_version`, if it is an `int`; a `bool` is one. -/
def configVersion (value : Option Json) : Option (Option ℤ) :=
  match value with
  | some (.int n) => (Db.integer n).map some
  | some (.bool b) => some (some b.toInt)
  | _ => some none

/-- When a state message saw the gateway, if it says: online at its own time, or offline by
the broker's last will just now. -/
def stateSeen (now : ℤ) (body : List (Str × Json)) : Option (Option ℤ) :=
  let newStatus := (Json.get body "status").getD (.text "online")
  if newStatus.isText "online" then
    ((parseIso8601 now (Json.get body "timestamp")).bind Db.timestamptz).map some
  else if newStatus.isText "offline" ∧ ((Json.get body "reason").getD .null).isText "lwt" then
    (Db.timestamptz now).map some
  else some none

def stateReport (now : ℤ) (body : List (Str × Json)) : Option StateReport := do
  let newStatus := (Json.get body "status").getD (.text "online")
  let status := (["online", "offline", "shutdown"].find? newStatus.isText).getD "offline"
  let appVersion ← assigned (Db.nullable (Db.varchar 64)) (Json.get body "app_version")
  let firmwareVersion ← assigned (Db.nullable (Db.varchar 64)) (Json.get body "firmware_version")
  let configVersion ← configVersion (Json.get body "config_version")
  let lastSeenAt ← stateSeen now body
  some ⟨status, appVersion, firmwareVersion, configVersion, lastSeenAt⟩

def Gateway.report (r : StateReport) (gw : Gateway) : Gateway :=
  { gw with
    status := r.status
    appVersion := r.appVersion.getD gw.appVersion
    firmwareVersion := r.firmwareVersion.getD gw.firmwareVersion
    configVersion := r.configVersion.getD gw.configVersion
    lastSeenAt := r.lastSeenAt.or gw.lastSeenAt }

theorem Gateway.report_id (r : StateReport) (gw : Gateway) : (gw.report r).id = gw.id := rfl

/-- `state.handle` -/
def state (store : Store) (now : ℤ) (gatewayId : UUID) (body : List (Str × Json)) : Option Store :=
  match store.gateways.find? gatewayId with
  | none => some store
  | some _ => do
    let r ← stateReport now body
    some { store with gateways := store.gateways.modify gatewayId (·.report r) (Gateway.report_id r) }

/-- The `UPDATE` of `offline_detector.run`, on one row. -/
def Gateway.detect (threshold : ℤ) (gw : Gateway) : Gateway :=
  if gw.status = "online" ∧ gw.lastSeenAt.all (· < threshold) then { gw with status := "offline" }
  else gw

theorem Gateway.detect_id (threshold : ℤ) (gw : Gateway) : (gw.detect threshold).id = gw.id := by
  unfold Gateway.detect
  split <;> rfl

/-- `offline_detector.run` -/
def offlineDetector (store : Store) (thresholdSec now : ℤ) : Store :=
  { store with
    gateways := store.gateways.map (·.detect (now - thresholdSec * 1000000))
      (Gateway.detect_id (now - thresholdSec * 1000000)) }

/-! ## Runs -/

/-- The tables and the worker's cache at server time `now`. `lastMessage` is the time of the
last message of the gateway whose handler returned. -/
structure Presence where
  now : ℤ
  store : Store
  cache : Cache
  lastMessage : Option ℤ

inductive PresenceEvent where
  | tick (d : ℕ)
  | telemetry (mono : ℤ) (body : List (Str × Json))
  | heartbeat (body : List (Str × Json))
  | state (body : List (Str × Json))
  | offlineDetector

namespace Presence

/-- A message's handler has returned, or raised. -/
def processed (s : Presence) (result : Option Store) : Presence :=
  match result with
  | some store => { s with store, lastMessage := some s.now }
  | none => s

def step (gatewayId : UUID) (thresholdSec : ℤ) (s : Presence) : PresenceEvent → Option Presence
  | .tick d => some { s with now := s.now + d }
  | .telemetry mono body =>
    let (cache, result) := telemetry s.store s.cache mono s.now gatewayId body
    some { s.processed result with cache }
  | .heartbeat body => some (s.processed (heartbeat s.store s.now gatewayId body))
  | .state body => some (s.processed (state s.store s.now gatewayId body))
  | .offlineDetector => some { s with store := offlineDetector s.store thresholdSec s.now }

/-- Directly after the detector, a gateway of which no message was processed for the
threshold is not online. -/
def SilenceDetected (gatewayId : UUID) (thresholdSec : ℤ) (s : Presence) (e : PresenceEvent)
    (s' : Presence) : Prop :=
  match e with
  | .offlineDetector => (∀ t ∈ s.lastMessage, t < s.now - thresholdSec * 1000000) →
      ∀ gw ∈ s'.store.gateways.find? gatewayId, gw.status ≠ "online"
  | _ => True

/-- A message that carries the time it was seen at is not dated ahead of the server. -/
def NotAhead (s : Presence) (e : PresenceEvent) (_ : Presence) : Prop :=
  let past (body : List (Str × Json)) : Prop :=
    ∀ t, parseIso8601 s.now (Json.get body "timestamp") = some t → t ≤ s.now
  match e with
  | .telemetry _ body => past body
  | .heartbeat body => past body
  | .state body => ((Json.get body "status").getD (.text "online")).isText "online" = true → past body
  | _ => True

instance (gatewayId : UUID) (thresholdSec : ℤ) (s : Presence) (e : PresenceEvent) (s' : Presence) :
    Decidable (SilenceDetected gatewayId thresholdSec s e s') := by
  unfold SilenceDetected
  cases e <;> infer_instance

instance (s : Presence) (e : PresenceEvent) (s' : Presence) : Decidable (NotAhead s e s') := by
  unfold NotAhead
  cases e <;> infer_instance

/-! ## What a message does to `last_seen_at` -/

section Seen

variable {store store' : Store} {now : ℤ} {gatewayId : UUID} {body : List (Str × Json)}

/-- The gateway's `last_seen_at` in `store'` is the one in `store`, or a time with `P`. -/
def Seen (gatewayId : UUID) (P : ℤ → Prop) (store store' : Store) : Prop :=
  ∀ gw', store'.gateways.find? gatewayId = some gw' → ∃ gw, store.gateways.find? gatewayId = some gw ∧
    (gw'.lastSeenAt = gw.lastSeenAt ∨ ∃ t, gw'.lastSeenAt = some t ∧ P t)

theorem seen_refl {P : ℤ → Prop} : Seen gatewayId P store store :=
  fun gw h => ⟨gw, h, Or.inl rfl⟩

/-- A change of the gateway's row that sets `last_seen_at`, or leaves it. -/
theorem seen_modify {P : ℤ → Prop} {f : Gateway → Gateway} (hf : ∀ gw, (f gw).id = gw.id)
    (hgw : store'.gateways = store.gateways.modify gatewayId f hf)
    (h : ∀ gw, (f gw).lastSeenAt = gw.lastSeenAt ∨ ∃ t, (f gw).lastSeenAt = some t ∧ P t) :
    Seen gatewayId P store store' := by
  intro gw' hfind
  rw [hgw, Db.Table.find?_modify] at hfind
  obtain ⟨gw, hgw, rfl⟩ := Option.map_eq_some_iff.1 hfind
  exact ⟨gw, hgw, h gw⟩

/-- The time that a message carries. -/
def Carries (now : ℤ) (body : List (Str × Json)) (t : ℤ) : Prop :=
  parseIso8601 now (Json.get body "timestamp") = some t

theorem carries_of_bind {t : ℤ}
    (h : (parseIso8601 now (Json.get body "timestamp")).bind Db.timestamptz = some t) :
    Carries now body t := by
  obtain ⟨t', ht', hbind⟩ := Option.bind_eq_some_iff.1 h
  rw [Db.timestamptz_eq hbind]
  exact ht'

theorem heartbeat_seen (h : heartbeat store now gatewayId body = some store') :
    Seen gatewayId (Carries now body) store store' := by
  unfold heartbeat at h
  split at h
  · cases h
    exact seen_refl
  · obtain ⟨t, ht, hstore⟩ := Option.bind_eq_some_iff.1 h
    cases hstore
    exact seen_modify (Gateway.beat_id t) rfl fun gw => Or.inr ⟨t, rfl, carries_of_bind ht⟩

theorem state_seen (h : state store now gatewayId body = some store') :
    Seen gatewayId (fun t => t = now ∨
      ((Json.get body "status").getD (.text "online")).isText "online" = true ∧ Carries now body t)
      store store' := by
  unfold state at h
  split at h
  · cases h
    exact seen_refl
  · obtain ⟨r, hr, hstore⟩ := Option.bind_eq_some_iff.1 h
    cases hstore
    refine seen_modify (Gateway.report_id r) rfl fun gw => ?_
    have hseen : stateSeen now body = some r.lastSeenAt := by
      simp only [stateReport, Option.bind_eq_bind, Option.bind_eq_some_iff] at hr
      obtain ⟨_, -, _, -, _, -, lastSeenAt, hlast, heq⟩ := hr
      cases heq
      exact hlast
    unfold stateSeen at hseen
    dsimp only at hseen
    -- online stamps the message's time, a last will the server's, anything else nothing
    split_ifs at hseen with honline hlwt
    · obtain ⟨t, ht, hr'⟩ := Option.map_eq_some_iff.1 hseen
      exact Or.inr ⟨t, by simp [Gateway.report, ← hr'], Or.inr ⟨honline, carries_of_bind ht⟩⟩
    · obtain ⟨t, ht, hr'⟩ := Option.map_eq_some_iff.1 hseen
      exact Or.inr ⟨t, by simp [Gateway.report, ← hr'], Or.inl (Db.timestamptz_eq ht)⟩
    · have hnone : r.lastSeenAt = none := (Option.some.inj hseen).symm
      exact Or.inl (by simp [Gateway.report, hnone])

theorem telemetry_seen {cache : Cache} {mono : ℤ}
    (h : (telemetry store cache mono now gatewayId body).2 = some store') :
    Seen gatewayId (Carries now body) store store' := by
  cases hc : toCommit store cache mono now gatewayId body with
  | none =>
    rw [telemetry_of_not_toCommit hc h]
    exact seen_refl
  | some result =>
    obtain ⟨ts, rows⟩ := result
    rw [telemetry_of_toCommit hc] at h
    cases h
    obtain ⟨-, hts, -⟩ := toCommit_eq_some.1 hc
    have hcarries : Carries now body ts := (messageTime_eq_some.1 hts).1
    exact seen_modify (Gateway.seen_id ts) rfl fun gw => Or.inr ⟨ts, rfl, hcarries⟩

end Seen

/-! ## Silence is detected -/

variable {gatewayId : UUID} {thresholdSec : ℤ} {s s' : Presence} {e : PresenceEvent}

/-- The gateway was last seen no later than its last message. -/
structure Inv (gatewayId : UUID) (s : Presence) : Prop where
  past : ∀ t, s.lastMessage = some t → t ≤ s.now
  seen : ∀ gw t, s.store.gateways.find? gatewayId = some gw → gw.lastSeenAt = some t →
    ∃ t', s.lastMessage = some t' ∧ t ≤ t'

/-- A processed message that is not dated ahead keeps the invariant. -/
theorem inv_processed (hs : Inv gatewayId s) {P : ℤ → Prop} {result : Option Store}
    (hseen : ∀ store', result = some store' → Seen gatewayId P s.store store')
    (hpast : ∀ t, P t → t ≤ s.now) : Inv gatewayId (s.processed result) := by
  cases result with
  | none => exact hs
  | some store' =>
    refine ⟨fun t ht => by cases ht; exact le_rfl, fun gw' t hgw' ht => ⟨s.now, rfl, ?_⟩⟩
    obtain ⟨gw, hgw, hsame | ⟨t', ht', hP⟩⟩ := hseen store' rfl gw' hgw'
    · -- seen before: no later than the last message, and that is not ahead of the clock
      rw [hsame] at ht
      obtain ⟨t', ht', hle⟩ := hs.seen gw t hgw ht
      have := hs.past t' ht'
      omega
    · rw [ht'] at ht
      cases ht
      exact hpast t hP

theorem inv_step (hs : Inv gatewayId s) (h : step gatewayId thresholdSec s e = some s')
    (hp : NotAhead s e s') : Inv gatewayId s' := by
  cases e with
  | tick d =>
    cases h
    refine ⟨fun t ht => ?_, hs.seen⟩
    have := hs.past t ht
    simp only
    omega
  | telemetry mono body =>
    simp only [step, Option.some.injEq] at h
    subst h
    have hinv : Inv gatewayId
        (s.processed (telemetry s.store s.cache mono s.now gatewayId body).2) :=
      inv_processed hs (fun store' hr => telemetry_seen hr) hp
    exact ⟨hinv.past, hinv.seen⟩
  | heartbeat body =>
    simp only [step, Option.some.injEq] at h
    subst h
    exact inv_processed hs (fun store' hr => heartbeat_seen hr) hp
  | state body =>
    simp only [step, Option.some.injEq] at h
    subst h
    refine inv_processed hs (fun store' hr => state_seen hr) ?_
    rintro t (rfl | ⟨honline, hc⟩)
    · exact le_rfl
    · exact hp honline t hc
  | offlineDetector =>
    cases h
    refine ⟨hs.past, fun gw' t hgw' ht => ?_⟩
    simp only [offlineDetector, Db.Table.find?_map] at hgw'
    obtain ⟨gw, hgw, rfl⟩ := Option.map_eq_some_iff.1 hgw'
    refine hs.seen gw t hgw ?_
    unfold Gateway.detect at ht
    split at ht <;> exact ht

/-- **The detector**: under the invariant, a silent gateway is not online after it. -/
theorem detected_step (hs : Inv gatewayId s) (h : step gatewayId thresholdSec s e = some s') :
    SilenceDetected gatewayId thresholdSec s e s' := by
  cases e with
  | offlineDetector =>
    cases h
    intro hsilent gw' hgw' honline
    simp only [offlineDetector, Db.Table.find?_map] at hgw'
    obtain ⟨gw, hgw, rfl⟩ := Option.map_eq_some_iff.1 hgw'
    unfold Gateway.detect at honline
    split at honline
    · simp at honline
    · -- the row was left alone although it is online: it has been seen within the threshold
      rename_i hkeep
      apply hkeep
      refine ⟨honline, ?_⟩
      cases hlast : gw.lastSeenAt with
      | none => rfl
      | some t =>
        obtain ⟨t', ht', hle⟩ := hs.seen gw t hgw hlast
        have := hsilent t' ht'
        simp only [Option.all_some, decide_eq_true_eq]
        omega
  | _ => trivial

/-- The tables at server time `now`, before the gateway's first message. -/
def init (now : ℤ) (store : Store) (cache : Cache) : Presence := ⟨now, store, cache, none⟩

/-- **Silence.** From the registration of the gateway, in every run whose messages are not
dated ahead of the server, the gateway is not online directly after a run of the detector
if no message of it was processed for the threshold. -/
theorem silent_detected (store : Store) (cache : Cache) (now : ℤ) (gatewayId : UUID) (serialNumber : String)
    (companyId : UUID) (siteId : Option UUID) (thresholdSec : ℤ)
    (hreg : store.gateways.find? gatewayId = some (.registered gatewayId serialNumber companyId siteId))
    (es : List PresenceEvent)
    (hpast : Along (step gatewayId thresholdSec) NotAhead (init now store cache) es) :
    Along (step gatewayId thresholdSec) (SilenceDetected gatewayId thresholdSec) (init now store cache) es := by
  have hinit : Inv gatewayId (init now store cache) := by
    refine ⟨nofun, fun gw t hgw ht => ?_⟩
    have hgw' : some gw = some (Gateway.registered gatewayId serialNumber companyId siteId) :=
      hgw.symm.trans hreg
    cases hgw'
    cases ht
  refine along_of_along ?_ ?_ hinit hpast
  · intro s e s' hs h hp
    exact inv_step hs h hp
  · intro s e s' hs h _
    exact detected_step hs h

/-! Gateway 7 sends a heartbeat dated 2027 in May 2026, and is silent. -/

def noon : ℤ := 1777896000000000

def heartbeatAt (timestamp : String) : List (Str × Json) := [(Str.of "timestamp", .text timestamp)]

/-- A year without a message, and the detector. -/
def silentYear (timestamp : String) : List PresenceEvent :=
  [.heartbeat (heartbeatAt timestamp), .tick 31536000000000, .offlineDetector]

def barnStep : Presence → PresenceEvent → Option Presence := step 7 90

def barnAtNoon : Presence := init noon barn fun _ => none

/-- The gateway's status, and its last message. -/
def outcome (s : Presence) : Option String × Option ℤ :=
  ((s.store.gateways.find? 7).map (·.status), s.lastMessage)

/-- **One message from the future hides the silence**: a year later the detector finds the
gateway online. -/
theorem future_hides_silence :
    (run barnStep barnAtNoon (silentYear "2027-06-01T00:00:00Z")).map outcome =
      some (some "online", some noon) ∧
    ¬ Along barnStep (SilenceDetected 7 90) barnAtNoon (silentYear "2027-06-01T00:00:00Z") := by
  decide +kernel

/-- Dated by a clock that is right, the silence is detected. -/
theorem barn_detected :
    Along barnStep (SilenceDetected 7 90) barnAtNoon (silentYear "2026-05-04T12:00:00Z") :=
  silent_detected barn _ noon 7 "GW-001" 3 none 90 (by decide +kernel) _ (by decide +kernel)

end Presence

end Server
