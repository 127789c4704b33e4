import IotGateway.Server.Isolation

/-!
# A worker without its caches

The worker keeps what its lookups found for a minute, in the process. As long as the names
of the gateways and channels stay, that is what the lookups would find now.

`caches_transparent`: **whatever messages a worker gets, and however often it is restarted
in between, the tables are those of a worker that looks everything up afresh for each
message**, while the other processes change anything but those names. So a message that
raises leaves no trace: without it, all tables come out the same (`raising_skipped`).
-/

namespace Server

open Lts Python

/-- The same gateways under the same serial numbers, and the same channels. -/
structure SameNames (store store' : Store) : Prop where
  serials : store'.gateways.rows.map (fun gw => (gw.id, gw.serialNumber)) =
    store.gateways.rows.map fun gw => (gw.id, gw.serialNumber)
  channels : store'.channels = store.channels

/-- What the caches hold is what the database has. -/
structure Lookups.Coherent (store : Store) (l : Lookups) : Prop where
  gateways : ∀ serial id t, l.gateways serial = some (id, t) → queryGateway store serial = some id
  sensors : ∀ g slug id t, l.sensors (g, slug) = some (id, t) → queryChannel store g slug = some id

/-- The caches of a process that has just started. -/
def Lookups.empty : Lookups := ⟨fun _ => none, fun _ => none⟩

variable {store store' : Store} {l l' : Lookups} {cache cache' : Cache} {mono mono' now ts : ℤ} {gw : Gateway}
  {db db' : Database} {loads : List UInt8 → Loaded}

namespace SameNames

theorem refl (store : Store) : SameNames store store := ⟨rfl, rfl⟩

theorem queryGateway (h : SameNames store store') (serial : Str) :
    queryGateway store' serial = queryGateway store serial := by
  have hids : ∀ rows : List Gateway, (rows.filter fun gw => Str.of gw.serialNumber = serial).map (·.id) =
      ((rows.map fun gw => (gw.id, gw.serialNumber)).filter fun r => Str.of r.2 = serial).map (·.1) := by
    intro rows
    rw [List.filter_map, List.map_map]
    rfl
  unfold Server.queryGateway
  rw [hids, hids, h.serials]

theorem queryChannel (h : SameNames store store') (g : UUID) (slug : Str) :
    queryChannel store' g slug = queryChannel store g slug := by
  unfold Server.queryChannel
  rw [h.channels]

theorem coherent (h : SameNames store store') (hl : l.Coherent store) : l.Coherent store' where
  gateways := by
    intro serial id t hc
    rw [h.queryGateway]
    exact hl.gateways serial id t hc
  sensors := by
    intro g slug id t hc
    rw [h.queryChannel]
    exact hl.sensors g slug id t hc

end SameNames

theorem coherent_empty (store : Store) : Lookups.empty.Coherent store :=
  ⟨fun _ _ _ h => (by cases h), fun _ _ _ _ h => (by cases h)⟩

/-! ## Lookups -/

/-- A lookup in a coherent cache is the query. -/
theorem Lookups.Coherent.gateway (hl : l.Coherent store) (mono : ℤ) (serial : Str) :
    (gatewayUuidBySerial store l.gateways mono serial).map (·.1) = queryGateway store serial := by
  unfold gatewayUuidBySerial
  cases hc : l.gateways serial with
  | none => cases queryGateway store serial <;> rfl
  | some entry =>
    obtain ⟨id, t⟩ := entry
    rw [hl.gateways serial id t hc]
    dsimp only
    split <;> rfl

/-- What a lookup caches is what the query found. -/
theorem Lookups.Coherent.gatewayCache (hl : l.Coherent store) {serial : Str} {found : Option UUID}
    {c' : GatewayCache} (h : gatewayUuidBySerial store l.gateways mono serial = some (found, c')) :
    (⟨c', l.sensors⟩ : Lookups).Coherent store := by
  refine ⟨?_, hl.sensors⟩
  rcases Worker.lookup_cases h with ⟨rfl, -⟩ | ⟨hq, rfl⟩
  · exact hl.gateways
  · intro serial' id t hc
    dsimp only at hc
    by_cases hs : serial' = serial
    · subst hs
      rw [Function.update_self] at hc
      cases hc
      exact hq
    · rw [Function.update_of_ne hs] at hc
      exact hl.gateways serial' id t hc

/-- **The rule for the loop over entries**: what every lookup of the gateway's channels keeps
of the cache, the loop keeps. -/
theorem entries_keep {P : Cache → Prop} (hP : ∀ c slug found c', P c →
      sensorChannelUuidBySlug store c mono gw.id slug = some (found, c') → P c') (vs : List Json) :
    ∀ {cache : Cache} {s : Session}, P cache → P (entries store gw mono ts cache s vs).1 := by
  induction vs with
  | nil => exact fun h => h
  | cons v vs ih =>
    intro cache s h
    have hentry : P (entry store gw mono ts cache s v).1 := by
      unfold entry
      split
      · split
        · exact h
        · rename_i items slug _
          cases hq : sensorChannelUuidBySlug store cache mono gw.id slug with
          | none => exact h
          | some result =>
            obtain ⟨found, c'⟩ := result
            have h' := hP cache slug found c' h hq
            cases found with
            | none => exact h'
            | some channelId =>
              dsimp only
              split <;> exact h'
      · exact h
    unfold entries
    generalize entry store gw mono ts cache s v = result at hentry
    obtain ⟨c', r⟩ := result
    cases r with
    | none => exact hentry
    | some s' => exact ih hentry

/-- A handler leaves the caches coherent. -/
theorem Lookups.Coherent.handle (hl : l.Coherent db.toStore) (call : HandledKind × UUID × Json) :
    (⟨l.gateways, (handle db l.sensors mono now call).1⟩ : Lookups).Coherent db.toStore := by
  refine ⟨hl.gateways, ?_⟩
  obtain ⟨kind, gatewayId, body⟩ := call
  cases body with
  | obj items =>
    cases kind with
    | telemetry =>
      have hcache : (Server.handle db l.sensors mono now (.telemetry, gatewayId, .obj items)).1 =
        (telemetry db.toStore l.sensors mono now gatewayId items).1 := rfl
      rw [hcache]
      rcases telemetry_cache db.toStore l.sensors mono now gatewayId items with
        hsame | ⟨gw, ts, vs, -, hloop⟩
      · rw [hsame]
        exact hl.sensors
      · rw [hloop]
        refine entries_keep (P := fun c => ∀ g slug id t, c (g, slug) = some (id, t) →
          queryChannel db.toStore g slug = some id) ?_ vs hl.sensors
        intro c slug found c' hc hq
        have hown : Server.Coherent gw.id db.toStore c' :=
          Server.Coherent.refresh (fun slug id t h => hc gw.id slug id t h) hq
        intro g slug' id t hc'
        by_cases hg : g = gw.id
        · subst hg
          exact hown slug' id t hc'
        · -- the entry is another gateway's, which the lookup leaves
          have hother : c' (g, slug') = c (g, slug') := by
            have hne : (g, slug') ≠ (gw.id, slug) := fun heq => hg (congrArg Prod.fst heq)
            unfold sensorChannelUuidBySlug at hq
            split at hq
            · split_ifs at hq
              · obtain ⟨_, -, heq⟩ := Option.map_eq_some_iff.1 hq
                cases heq
                exact Function.update_of_ne hne ..
              · cases hq
                rfl
            · obtain ⟨_, -, heq⟩ := Option.map_eq_some_iff.1 hq
              cases heq
              exact Function.update_of_ne hne ..
          rw [hother] at hc'
          exact hc g slug' id t hc'
    | state => exact hl.sensors
    | heartbeat => exact hl.sensors
    | commandResponse => exact hl.sensors
  | _ => exact hl.sensors

/-! ## One message -/

/-- **A handler does the same with any coherent caches.** -/
theorem handled_coherent (hl : l.Coherent db.toStore) (hl' : l'.Coherent db.toStore)
    (call : HandledKind × UUID × Json) :
    handled db l'.sensors mono' now call = handled db l.sensors mono now call := by
  obtain ⟨kind, gatewayId, body⟩ := call
  cases body with
  | obj items =>
    cases kind with
    | telemetry =>
      have hdb : ∀ (c : Cache) (mono : ℤ), handled db c mono now (.telemetry, gatewayId, .obj items) =
          { db with toStore := (telemetry db.toStore c mono now gatewayId items).2.getD db.toStore } := by
        intro c mono
        simp only [handled, handle]
        cases (telemetry db.toStore c mono now gatewayId items).2 <;> rfl
      have hlookup : ∀ slug, lookup db.toStore l'.sensors mono' gatewayId slug =
          lookup db.toStore l.sensors mono gatewayId slug := by
        intro slug
        have h' : Server.Coherent gatewayId db.toStore l'.sensors := fun s id t h => hl'.sensors _ s id t h
        have h : Server.Coherent gatewayId db.toStore l.sensors := fun s id t h => hl.sensors _ s id t h
        rw [h'.lookup, h.lookup]
      rw [hdb, hdb, telemetry_getD, telemetry_getD, toCommit_congr .refl hlookup rfl]
    | state => rfl
    | heartbeat => rfl
    | commandResponse => rfl
  | _ => rfl

/-- A message is routed the same with any coherent caches. -/
theorem route_coherent (hl : l.Coherent store) (hl' : l'.Coherent store) (topic : Str)
    (payload : List UInt8) :
    (route loads store l'.gateways mono' topic payload).2 = (route loads store l.gateways mono topic payload).2 := by
  unfold route
  cases parseTopic topic with
  | none => rfl
  | some t =>
    obtain ⟨serial, kind⟩ := t
    have hfound := hl.gateway mono serial
    have hfound' := hl'.gateway mono' serial
    rw [← hfound] at hfound'
    dsimp only
    cases hg : gatewayUuidBySerial store l.gateways mono serial with
    | none =>
      rw [hg, Option.map_none, Option.map_eq_none_iff] at hfound'
      rw [hfound']
    | some r =>
      obtain ⟨id, c⟩ := r
      rw [hg, Option.map_some, Option.map_eq_some_iff] at hfound'
      obtain ⟨⟨id', c'⟩, hg', hid⟩ := hfound'
      obtain rfl : id' = id := hid
      rw [hg']
      cases id' with
      | none => rfl
      | some gatewayId => cases loads payload <;> cases handlerOf kind <;> rfl

/-- Handlers keep the names. -/
theorem handled_sameNames (db : Database) (cache : Cache) (mono now : ℤ) (call : HandledKind × UUID × Json) :
    SameNames db.toStore (handled db cache mono now call).toStore := by
  obtain ⟨kind, gatewayId, body⟩ := call
  refine ⟨(handled_confined db cache mono now kind gatewayId body).serials, ?_⟩
  cases body with
  | obj items =>
    cases kind with
    | telemetry =>
      have hdb : (handled db cache mono now (.telemetry, gatewayId, .obj items)).toStore =
          (telemetry db.toStore cache mono now gatewayId items).2.getD db.toStore := by
        simp only [handled, handle]
        cases (telemetry db.toStore cache mono now gatewayId items).2 <;> rfl
      rw [hdb, telemetry_getD]
      split <;> rfl
    | state =>
      simp only [handled, handle, state]
      cases db.gateways.find? gatewayId with
      | none => rfl
      | some gw => cases stateReport now items <;> rfl
    | heartbeat =>
      simp only [handled, handle, heartbeat]
      cases db.gateways.find? gatewayId with
      | none => rfl
      | some gw => cases (parseIso8601 now (Json.get items "timestamp")).bind Db.timestamptz <;> rfl
    | commandResponse =>
      cases hr : db.commandResponse now gatewayId items with
      | none => simp only [handled, handle, hr, Option.getD_none]
      | some db' =>
        simp only [handled, handle, hr, Option.getD_some]
        rcases commandResponse_db hr with rfl | ⟨id, cmd, c, -, -, rfl⟩ <;> rfl
  | _ => rfl

/-! ## Runs -/

inductive Incident where
  | message (mono now : ℤ) (topic : Str) (payload : List UInt8)
  /-- the process ends, and another one starts -/
  | restart
  /-- another process changes the tables, but no names -/
  | change (f : Database → Database) (same : ∀ db, SameNames db.toStore (f db).toStore)

namespace Worker

def incident (loads : List UInt8 → Loaded) (w : Worker) : Incident → Worker
  | .message mono now topic payload => w.receive loads mono now topic payload
  | .restart => { w with lookups := .empty }
  | .change f _ => { w with db := f w.db }

/-- The worker after the incidents. -/
def after (loads : List UInt8 → Loaded) (w : Worker) (es : List Incident) : Worker :=
  es.foldl (incident loads) w

/-- The tables after an incident, where each message is looked up afresh. -/
def afresh (loads : List UInt8 → Loaded) (db : Database) : Incident → Database
  | .message mono now topic payload => (dispatch loads db .empty mono now topic payload).2
  | .restart => db
  | .change f _ => f db

/-- **One message**: the tables are as without the caches, which stay coherent. -/
theorem receive_coherent (w : Worker) (hw : w.lookups.Coherent w.db.toStore) (mono now : ℤ) (topic : Str)
    (payload : List UInt8) :
    (w.receive loads mono now topic payload).db = (dispatch loads w.db .empty mono now topic payload).2 ∧
      (w.receive loads mono now topic payload).lookups.Coherent
        (w.receive loads mono now topic payload).db.toStore := by
  have hempty := coherent_empty w.db.toStore
  have hroute : (route loads w.db.toStore w.lookups.gateways mono topic payload).2 =
      (route loads w.db.toStore Lookups.empty.gateways mono topic payload).2 :=
    route_coherent hempty hw topic payload
  have hdispatch : (dispatch loads w.db .empty mono now topic payload).2 =
      match (route loads w.db.toStore Lookups.empty.gateways mono topic payload).2 with
      | none => w.db
      | some call => handled w.db Lookups.empty.sensors mono now call := by
    unfold dispatch handled
    generalize route loads w.db.toStore Lookups.empty.gateways mono topic payload = r
    obtain ⟨c, call⟩ := r
    cases call <;> rfl
  -- the cache of serial numbers after the lookup
  have hgateways : (⟨(route loads w.db.toStore w.lookups.gateways mono topic payload).1, w.lookups.sensors⟩ :
      Lookups).Coherent w.db.toStore := by
    have hcache : (route loads w.db.toStore w.lookups.gateways mono topic payload).1 = w.lookups.gateways ∨
        ∃ serial id, gatewayUuidBySerial w.db.toStore w.lookups.gateways mono serial =
          some (id, (route loads w.db.toStore w.lookups.gateways mono topic payload).1) :=
      route_cache w.lookups.gateways topic payload
    rcases hcache with hsame | ⟨serial, id, hl⟩
    · rw [hsame]
      exact hw
    · exact hw.gatewayCache hl
  rw [receive_eq, hdispatch, ← hroute]
  generalize route loads w.db.toStore w.lookups.gateways mono topic payload = r at hgateways
  obtain ⟨c, call⟩ := r
  cases call with
  | none => exact ⟨rfl, hgateways⟩
  | some call =>
    refine ⟨handled_coherent hempty hw call, ?_⟩
    exact (handled_sameNames ..).coherent (hgateways.handle call)

theorem incident_coherent (w : Worker) (hw : w.lookups.Coherent w.db.toStore) (e : Incident) :
    (w.incident loads e).db = afresh loads w.db e ∧
      (w.incident loads e).lookups.Coherent (w.incident loads e).db.toStore := by
  cases e with
  | message mono now topic payload => exact receive_coherent w hw mono now topic payload
  | restart => exact ⟨rfl, coherent_empty _⟩
  | change f same => exact ⟨rfl, (same w.db).coherent hw⟩

theorem after_coherent (es : List Incident) : ∀ w : Worker, w.lookups.Coherent w.db.toStore →
    (after loads w es).db = es.foldl (afresh loads) w.db := by
  induction es with
  | nil => exact fun _ _ => rfl
  | cons e es ih =>
    intro w hw
    obtain ⟨hdb, hw'⟩ : (w.incident loads e).db = afresh loads w.db e ∧
        (w.incident loads e).lookups.Coherent (w.incident loads e).db.toStore := incident_coherent w hw e
    have hrest := ih (w.incident loads e) hw'
    rw [hdb] at hrest
    exact hrest

/-- **The caches are transparent**: messages, restarts and changes by others leave the tables
as they leave them where every message is looked up afresh. -/
theorem caches_transparent (loads : List UInt8 → Loaded) (db : Database) (es : List Incident) :
    (after loads (start db) es).db = es.foldl (afresh loads) db :=
  after_coherent es (start db) (coherent_empty db.toStore)

/-- A message that leaves the tables alone where it comes can be left out of the run, whatever
it makes the caches hold. -/
theorem raising_skipped (loads : List UInt8 → Loaded) (db : Database) (es es' : List Incident) (e : Incident)
    (h : (after loads (start db) (es ++ [e])).db = (after loads (start db) es).db) :
    (after loads (start db) (es ++ e :: es')).db = (after loads (start db) (es ++ es')).db := by
  have hafter : ∀ es, (after loads (start db) es).db = es.foldl (afresh loads) db :=
    fun es => after_coherent es (start db) (coherent_empty db.toStore)
  rw [hafter, hafter, List.foldl_append] at h
  have he : afresh loads (es.foldl (afresh loads) db) e = es.foldl (afresh loads) db := h
  rw [hafter, hafter, List.foldl_append, List.foldl_append, List.foldl_cons, he]

end Worker

end Server
