import IotGateway.Server.Presence

/-!
# Late messages

A message sets `last_seen_at` to the time that it carries, whatever the row has. With
redelivery and the gateway's buffer, an older message can come after a newer one.

`onward_iff`: **`last_seen_at` never moves backwards in a run, and the detector leaves a
gateway alone of which it processed a message within the threshold, exactly when no
message that is committed carries an earlier time than the row has.** A late heartbeat
after a timely one takes a live gateway offline (`late_heartbeat_offline`).
-/

namespace Server

open Lts Python

/-- The gateway's `last_seen_at`. -/
def Store.lastSeen (store : Store) (gatewayId : UUID) : Option ℤ :=
  (store.gateways.find? gatewayId).bind (·.lastSeenAt)

/-- The time that a message is stamped with, if its handler comes to commit one. -/
def stamp (gatewayId : UUID) (s : Presence) : PresenceEvent → Option ℤ
  | .telemetry mono body => (toCommit s.store s.cache mono s.now gatewayId body).map (·.1)
  | .heartbeat body => (s.store.gateways.find? gatewayId).bind fun _ => messageTime s.now body
  | .state body => (s.store.gateways.find? gatewayId).bind fun _ =>
      (stateReport s.now body).bind (·.lastSeenAt)
  | .tick _ | .offlineDetector => none

section LastSeen

variable {store store' : Store} {now : ℤ} {gatewayId : UUID} {body : List (Str × Json)}

/-- A change of the row that sets `last_seen_at`, or leaves it. -/
theorem lastSeen_modify {f : Gateway → Gateway} {t : Option ℤ} (hf : ∀ gw, (f gw).id = gw.id)
    (hgw : store'.gateways = store.gateways.modify gatewayId f hf)
    (h : ∀ gw, (f gw).lastSeenAt = t.or gw.lastSeenAt) (hsome : (store.gateways.find? gatewayId).isSome) :
    store'.lastSeen gatewayId = t.or (store.lastSeen gatewayId) := by
  obtain ⟨gw, hfind⟩ := Option.isSome_iff_exists.1 hsome
  unfold Store.lastSeen
  rw [hgw, Db.Table.find?_modify, hfind]
  exact h gw

theorem heartbeat_lastSeen : ((heartbeat store now gatewayId body).getD store).lastSeen gatewayId =
    ((store.gateways.find? gatewayId).bind fun _ => messageTime now body).or
      (store.lastSeen gatewayId) := by
  unfold heartbeat
  cases hfind : store.gateways.find? gatewayId with
  | none => rfl
  | some gw =>
    rw [← messageTime]
    cases ht : messageTime now body with
    | none => simp
    | some t =>
      simp only [Option.bind_eq_bind, Option.bind_some, Option.getD_some]
      exact lastSeen_modify (Gateway.beat_id t) rfl (fun gw => rfl) (by rw [hfind]; rfl)

theorem state_lastSeen : ((state store now gatewayId body).getD store).lastSeen gatewayId =
    ((store.gateways.find? gatewayId).bind fun _ => (stateReport now body).bind (·.lastSeenAt)).or
      (store.lastSeen gatewayId) := by
  unfold state
  cases hfind : store.gateways.find? gatewayId with
  | none => rfl
  | some gw =>
    cases hr : stateReport now body with
    | none => simp
    | some r =>
      simp only [Option.bind_eq_bind, Option.bind_some, Option.getD_some]
      exact lastSeen_modify (Gateway.report_id r) rfl (fun gw => rfl) (by rw [hfind]; rfl)

theorem telemetry_lastSeen {cache : Cache} {mono : ℤ} :
    ((telemetry store cache mono now gatewayId body).2.getD store).lastSeen gatewayId =
      ((toCommit store cache mono now gatewayId body).map (·.1)).or (store.lastSeen gatewayId) := by
  cases hcommit : toCommit store cache mono now gatewayId body with
  | none =>
    cases hreturn : (telemetry store cache mono now gatewayId body).2 with
    | none => rfl
    | some store' =>
      rw [Option.getD_some, telemetry_of_not_toCommit hcommit hreturn]
      rfl
  | some result =>
    obtain ⟨ts, rows⟩ := result
    obtain ⟨-, -, gw, vs, hgw, -⟩ := toCommit_eq_some.1 hcommit
    rw [telemetry_of_toCommit hcommit]
    exact lastSeen_modify (Gateway.seen_id ts) rfl (fun gw => rfl) (by rw [hgw]; rfl)

theorem offlineDetector_lastSeen (store : Store) (thresholdSec now : ℤ) (gatewayId : UUID) :
    (offlineDetector store thresholdSec now).lastSeen gatewayId = store.lastSeen gatewayId := by
  unfold Store.lastSeen offlineDetector
  rw [Db.Table.find?_map]
  cases store.gateways.find? gatewayId with
  | none => rfl
  | some gw =>
    simp only [Option.map_some, Option.bind_some, Gateway.detect]
    split <;> rfl

end LastSeen

theorem Presence.processed_store (s : Presence) (result : Option Store) :
    (s.processed result).store = result.getD s.store := by
  cases result <;> rfl

/-- **What a step does to `last_seen_at`**: it sets it to the message's stamp. -/
theorem lastSeen_step {gatewayId : UUID} {thresholdSec : ℤ} {s s' : Presence} {e : PresenceEvent}
    (h : Presence.step gatewayId thresholdSec s e = some s') :
    s'.store.lastSeen gatewayId = (stamp gatewayId s e).or (s.store.lastSeen gatewayId) := by
  cases e with
  | tick d =>
    cases h
    rfl
  | telemetry mono body =>
    simp only [Presence.step, Option.some.injEq] at h
    subst h
    rw [Presence.processed_store]
    exact telemetry_lastSeen
  | heartbeat body =>
    simp only [Presence.step, Option.some.injEq] at h
    subst h
    rw [Presence.processed_store]
    exact heartbeat_lastSeen
  | state body =>
    simp only [Presence.step, Option.some.injEq] at h
    subst h
    rw [Presence.processed_store]
    exact state_lastSeen
  | offlineDetector =>
    cases h
    exact offlineDetector_lastSeen _ _ _ _

/-! ## Runs -/

/-- The server, and the stamps of the messages it has processed. -/
structure Timeline where
  presence : Presence
  stamps : List ℤ

namespace Timeline

def step (gatewayId : UUID) (thresholdSec : ℤ) (s : Timeline) (e : PresenceEvent) : Option Timeline :=
  (Presence.step gatewayId thresholdSec s.presence e).map fun presence =>
    ⟨presence, (stamp gatewayId s.presence e).toList ++ s.stamps⟩

/-- `last_seen_at` does not move backwards, and the detector does not touch the gateway if
a processed message is stamped within the threshold. -/
def Onward (gatewayId : UUID) (thresholdSec : ℤ) (s : Timeline) (e : PresenceEvent) (s' : Timeline) : Prop :=
  (∀ t ∈ s.presence.store.lastSeen gatewayId, ∃ t' ∈ s'.presence.store.lastSeen gatewayId, t ≤ t') ∧
  match e with
  | .offlineDetector => (∃ t ∈ s.stamps, s.presence.now - thresholdSec * 1000000 ≤ t) →
      s'.presence.store.gateways.find? gatewayId = s.presence.store.gateways.find? gatewayId
  | _ => True

/-- The message is not stamped earlier than the row. -/
def NotLate (gatewayId : UUID) (s : Timeline) (e : PresenceEvent) (_ : Timeline) : Prop :=
  ∀ t ∈ stamp gatewayId s.presence e, ∀ seen ∈ s.presence.store.lastSeen gatewayId, seen ≤ t

variable {gatewayId : UUID} {thresholdSec : ℤ} {s s' : Timeline} {e : PresenceEvent}

theorem step_cases (h : step gatewayId thresholdSec s e = some s') :
    Presence.step gatewayId thresholdSec s.presence e = some s'.presence ∧
      s'.stamps = (stamp gatewayId s.presence e).toList ++ s.stamps := by
  obtain ⟨presence, hp, rfl⟩ := Option.map_eq_some_iff.1 h
  exact ⟨hp, rfl⟩

/-- The row is stamped no earlier than any processed message. -/
def Newest (gatewayId : UUID) (s : Timeline) : Prop :=
  ∀ t ∈ s.stamps, ∃ seen ∈ s.presence.store.lastSeen gatewayId, t ≤ seen

/-- `last_seen_at` does not move backwards exactly when the message is not late. -/
theorem notLate_iff (h : step gatewayId thresholdSec s e = some s') :
    (∀ t ∈ s.presence.store.lastSeen gatewayId, ∃ t' ∈ s'.presence.store.lastSeen gatewayId, t ≤ t') ↔
      NotLate gatewayId s e s' := by
  obtain ⟨hp, -⟩ := step_cases h
  rw [lastSeen_step hp]
  unfold NotLate
  cases stamp gatewayId s.presence e with
  | none => simpa using fun t ht => ⟨t, ht, le_rfl⟩
  | some t => simp

theorem newest_step (hs : Newest gatewayId s) (h : step gatewayId thresholdSec s e = some s')
    (hlate : NotLate gatewayId s e s') : Newest gatewayId s' := by
  obtain ⟨hp, hstamps⟩ := step_cases h
  intro t ht
  rw [lastSeen_step hp]
  rw [hstamps, List.mem_append, Option.mem_toList] at ht
  cases hstamp : stamp gatewayId s.presence e with
  | none =>
    rw [hstamp] at ht
    exact hs t (ht.resolve_left (by simp))
  | some t' =>
    refine ⟨t', rfl, ?_⟩
    rcases ht with ht | ht
    · rw [hstamp] at ht
      cases ht
      exact le_rfl
    · -- an earlier message: the row was no earlier than it, and this one is not late
      obtain ⟨seen, hseen, hle⟩ := hs t ht
      have := hlate t' hstamp seen hseen
      omega

/-- **The detector** leaves a gateway alone whose newest message is within the threshold. -/
theorem detector_keeps (hs : Newest gatewayId s)
    (h : step gatewayId thresholdSec s .offlineDetector = some s')
    (hfresh : ∃ t ∈ s.stamps, s.presence.now - thresholdSec * 1000000 ≤ t) :
    s'.presence.store.gateways.find? gatewayId = s.presence.store.gateways.find? gatewayId := by
  obtain ⟨t, ht, hle⟩ := hfresh
  obtain ⟨seen, hseen, hle'⟩ := hs t ht
  obtain ⟨gw, hgw, hlast⟩ := Option.bind_eq_some_iff.1 hseen
  obtain ⟨hp, -⟩ := step_cases h
  simp only [Presence.step, Option.some.injEq] at hp
  rw [← hp]
  simp only [offlineDetector, Db.Table.find?_map, hgw, Option.map_some, Option.some.injEq]
  unfold Gateway.detect
  rw [if_neg]
  rintro ⟨-, hold⟩
  rw [hlast, Option.all_some, decide_eq_true_eq] at hold
  omega

/-- **Late messages.** In every run, `last_seen_at` never moves backwards, and the detector
does not mark a gateway of which a message within the threshold was processed, if and only
if no message that its handler commits is stamped earlier than the row it finds. -/
theorem onward_iff (gatewayId : UUID) (thresholdSec : ℤ) (presence : Presence) (es : List PresenceEvent) :
    Along (step gatewayId thresholdSec) (Onward gatewayId thresholdSec) ⟨presence, []⟩ es ↔
      Along (step gatewayId thresholdSec) (NotLate gatewayId) ⟨presence, []⟩ es := by
  have hinit : Newest gatewayId ⟨presence, []⟩ := by
    intro t ht
    cases ht
  refine along_iff_along (I := Newest gatewayId) (G := fun _ _ _ => True) ?_ ?_ hinit ?_
  · intro s e s' hs h _ hlate
    exact newest_step hs h hlate
  · intro s e s' hs h _
    have hiff := notLate_iff h
    constructor
    · exact fun honward => hiff.1 honward.1
    · intro hlate
      refine ⟨hiff.2 hlate, ?_⟩
      cases e with
      | offlineDetector => exact detector_keeps hs h
      | _ => trivial
  · exact along_true

/-! A heartbeat of noon is followed by one of eleven o'clock, and by the detector. -/

instance (s : Timeline) (e : PresenceEvent) (s' : Timeline) :
    Decidable (Onward gatewayId thresholdSec s e s') :=
  have : Decidable (∃ t ∈ s.stamps, s.presence.now - thresholdSec * 1000000 ≤ t) := inferInstance
  match e with
  | .offlineDetector => inferInstanceAs (Decidable (_ ∧ (_ → _)))
  | .telemetry _ _ | .heartbeat _ | .state _ | .tick _ => inferInstanceAs (Decidable (_ ∧ True))

def lateHeartbeat : List PresenceEvent :=
  [.heartbeat (Presence.heartbeatAt "2026-05-04T12:00:00Z"),
    .heartbeat (Presence.heartbeatAt "2026-05-04T11:00:00Z"), .offlineDetector]

/-- **A late heartbeat takes a live gateway offline**, at the instant of its newest one. -/
theorem late_heartbeat_offline :
    ((run (step 7 90) ⟨Presence.barnAtNoon, []⟩ lateHeartbeat).map fun s =>
      (s.presence.now, s.stamps, (s.presence.store.gateways.find? 7).map (·.status))) =
        some (Presence.noon, [Presence.noon - 3600000000, Presence.noon], some "offline") ∧
    ¬ Along (step 7 90) (Onward 7 90) ⟨Presence.barnAtNoon, []⟩ lateHeartbeat := by
  decide +kernel

end Timeline

end Server
