import IotGateway.Server.Dispatch
import IotGateway.Server.Latest

/-!
# Handlers and the rows of one gateway

The worker handles messages of all gateways in one process, on shared tables and with
shared caches. `restrict p` keeps the rows, and the cache entries, of the gateways that
satisfy `p`.

* `handled_restrict`: a handler's call for gateway `g` commutes with every restriction that
  keeps `g`; what it does to the rows of `g` it reads from them.
* `handled_confined`: it leaves every restriction without `g` alone.
-/

namespace Server

open Lts Python

/-- The entries of the gateways that satisfy `p`. -/
def Cache.restrict (cache : Cache) (p : UUID → Bool) : Cache := fun k => if p k.1 then cache k else none

/-- The rows of the gateways that satisfy `p`. -/
def Store.restrict (store : Store) (p : UUID → Bool) : Store where
  gateways := store.gateways.restrict fun gw => p gw.id
  channels := store.channels.restrict fun ch => p ch.gatewayId
  telemetry := store.telemetry.filter fun row => p row.gatewayId
  latest := store.latest.restrict fun row => p row.gatewayId

def Session.restrict (s : Session) (p : UUID → Bool) : Session where
  telemetry := s.telemetry.filter fun row => p row.gatewayId
  latest := s.latest.restrict fun row => p row.gatewayId

def Database.restrict (db : Database) (p : UUID → Bool) : Database where
  toStore := db.toStore.restrict p
  commands := db.commands.restrict fun cmd => p cmd.gatewayId

variable {p : UUID → Bool} {store store' : Store} {cache cache' : Cache} {mono now ts : ℤ} {gw : Gateway}
  {gatewayId : UUID} {body : List (Str × Json)} {db db' : Database} {slug : Str}

/-! ## Lookups -/

theorem find?_gateways_restrict (hp : p gatewayId = true) :
    (store.restrict p).gateways.find? gatewayId = store.gateways.find? gatewayId := by
  refine Db.Table.find?_restrict fun gw h => ?_
  rw [Db.Table.key_of_find? h, hp]

theorem queryChannel_restrict (hp : p gatewayId = true) :
    queryChannel (store.restrict p) gatewayId slug = queryChannel store gatewayId slug := by
  have hfind : ∀ s, (store.restrict p).channels.find? (gatewayId, s) = store.channels.find? (gatewayId, s) := by
    intro s
    refine Db.Table.find?_restrict fun ch h => ?_
    have hg : ch.gatewayId = gatewayId := congrArg Prod.fst (Db.Table.key_of_find? h)
    rw [hg, hp]
  simp only [queryChannel, hfind]

theorem restrict_update (hp : p gatewayId = true) (entry : Option (Option UUID × ℤ)) :
    Cache.restrict (Function.update cache (gatewayId, slug) entry) p =
      Function.update (cache.restrict p) (gatewayId, slug) entry := by
  funext k
  by_cases hk : k = (gatewayId, slug)
  · simp [Cache.restrict, hk, hp]
  · simp [Cache.restrict, hk]

theorem lookup_restrict_pair (hp : p gatewayId = true) :
    sensorChannelUuidBySlug (store.restrict p) (cache.restrict p) mono gatewayId slug =
      (sensorChannelUuidBySlug store cache mono gatewayId slug).map fun r => (r.1, Cache.restrict r.2 p) := by
  have hentry : cache.restrict p (gatewayId, slug) = cache (gatewayId, slug) := if_pos hp
  unfold sensorChannelUuidBySlug
  simp only [hentry, queryChannel_restrict hp, ← restrict_update hp]
  cases cache (gatewayId, slug) with
  | none => simp [Option.map_map, Function.comp_def]
  | some e =>
    by_cases hexp : e.2 < mono
    · simp [hexp, Option.map_map, Function.comp_def]
    · simp [hexp]

theorem lookup_restrict (hp : p gatewayId = true) :
    lookup (store.restrict p) (cache.restrict p) mono gatewayId slug =
      lookup store cache mono gatewayId slug := by
  simp [lookup, lookup_restrict_pair hp, Option.map_map, Function.comp_def]

/-! ## Telemetry -/

theorem outcome_restrict (hp : p gw.id = true) (v : Json) :
    outcome (store.restrict p) (cache.restrict p) mono gw ts v = outcome store cache mono gw ts v := by
  cases v with
  | obj items => simp only [outcome, lookup_restrict hp]
  | _ => rfl

/-- The cache after an entry, and whether it raises, do not depend on the session. -/
theorem entry_cache (hp : p gw.id = true) (s s' : Session) (v : Json) :
    (entry (store.restrict p) gw mono ts (cache.restrict p) s' v).1 =
        Cache.restrict (entry store gw mono ts cache s v).1 p ∧
      (entry (store.restrict p) gw mono ts (cache.restrict p) s' v).2.isSome =
        (entry store gw mono ts cache s v).2.isSome := by
  cases v with
  | obj items =>
    simp only [entry]
    cases hslug : slugOf items with
    | none => exact ⟨rfl, rfl⟩
    | some slug =>
      dsimp only
      rw [lookup_restrict_pair hp]
      cases sensorChannelUuidBySlug store cache mono gw.id slug with
      | none => exact ⟨rfl, rfl⟩
      | some found =>
        obtain ⟨channel, cache'⟩ := found
        cases channel with
        | none => exact ⟨rfl, rfl⟩
        | some channelId =>
          simp only [Option.map_some]
          cases entryRows gw channelId ts items with
          | none => exact ⟨rfl, rfl⟩
          | some rows => cases rows <;> exact ⟨rfl, rfl⟩
  | _ => exact ⟨rfl, rfl⟩

theorem entries_cache (hp : p gw.id = true) (vs : List Json) : ∀ (cache : Cache) (s s' : Session),
    (entries (store.restrict p) gw mono ts (cache.restrict p) s' vs).1 =
      Cache.restrict (entries store gw mono ts cache s vs).1 p := by
  induction vs with
  | nil => exact fun _ _ _ => rfl
  | cons v vs ih =>
    intro cache s s'
    obtain ⟨hcache, hsome⟩ : (entry (store.restrict p) gw mono ts (cache.restrict p) s' v).1 =
        Cache.restrict (entry store gw mono ts cache s v).1 p ∧
      (entry (store.restrict p) gw mono ts (cache.restrict p) s' v).2.isSome =
        (entry store gw mono ts cache s v).2.isSome := entry_cache hp s s' v
    unfold entries
    generalize entry store gw mono ts cache s v = r at hcache hsome
    generalize entry (store.restrict p) gw mono ts (cache.restrict p) s' v = r' at hcache hsome
    obtain ⟨c, o⟩ := r
    obtain ⟨c', o'⟩ := r'
    obtain rfl : c' = Cache.restrict c p := hcache
    cases o with
    | none =>
      cases o' with
      | none => rfl
      | some s' => cases hsome
    | some s =>
      cases o' with
      | none => cases hsome
      | some s' => exact ih c s s'

/-- The rows of a message are its gateway's. -/
theorem messageRows_gateway {vs : List Json} {r : Telemetry × TelemetryLatest}
    (h : r ∈ messageRows store cache mono gw ts vs) : r.1.gatewayId = gw.id ∧ r.2.gatewayId = gw.id := by
  obtain ⟨hlatest, -⟩ := messageRows_latest h
  obtain ⟨v, -, hv⟩ := List.mem_filterMap.1 h
  obtain ⟨-, hgw, -⟩ := outcome_row (Option.join_eq_some_iff.1 hv)
  exact ⟨hgw, by rw [hlatest]; exact hgw⟩

theorem messageRows_restrict (hp : p gw.id = true) (vs : List Json) :
    messageRows (store.restrict p) (cache.restrict p) mono gw ts vs = messageRows store cache mono gw ts vs := by
  simp only [messageRows, outcome_restrict hp]

theorem toCommit_restrict (hp : p gatewayId = true) :
    toCommit (store.restrict p) (cache.restrict p) mono now gatewayId body =
      toCommit store cache mono now gatewayId body := by
  unfold toCommit
  dsimp only
  split_ifs with hempty
  · rfl
  · cases messageTime now body with
    | none => rfl
    | some ts =>
      rw [find?_gateways_restrict hp]
      cases hgw : store.gateways.find? gatewayId with
      | none => rfl
      | some gw =>
        have hp' : p gw.id = true := by rw [Db.Table.key_of_find? hgw, hp]
        cases iterate ((Json.get body "values").getD .null) with
        | none => rfl
        | some vs =>
          simp only [Option.bind_eq_bind, Option.bind_some, outcome_restrict hp', messageRows_restrict hp']

theorem addAll_restrict {rows : List (Telemetry × TelemetryLatest)} (hp : p gatewayId = true) :
    ∀ s : Session, (∀ r ∈ rows, r.1.gatewayId = gatewayId ∧ r.2.gatewayId = gatewayId) →
    (s.addAll rows).restrict p = (s.restrict p).addAll rows := by
  induction rows with
  | nil => exact fun _ _ => rfl
  | cons r rows ih =>
    intro s h
    obtain ⟨htel, hlatest⟩ := h r (List.mem_cons_self ..)
    have hadd : (s.add r.1 r.2).restrict p = (s.restrict p).add r.1 r.2 := by
      have hq : p (r.2.key).1 = true := by rw [show (r.2.key).1 = r.2.gatewayId from rfl, hlatest, hp]
      have hup := Db.Table.restrict_upsert (t := s.latest) (r := r.2) (q := fun k => p k.1)
        r.2.overwrite_key hq
      simp only [Session.restrict, Session.add, List.filter_append, htel, hp, List.filter_cons_of_pos,
        List.filter_nil]
      exact congrArg (Session.mk _) hup
    have hrest := ih (s.add r.1 r.2) fun x hx => h x (List.mem_cons_of_mem _ hx)
    rw [hadd] at hrest
    exact hrest

theorem addAll_others {rows : List (Telemetry × TelemetryLatest)} (hp : p gatewayId = false) :
    ∀ s : Session, (∀ r ∈ rows, r.1.gatewayId = gatewayId ∧ r.2.gatewayId = gatewayId) →
    (s.addAll rows).restrict p = s.restrict p := by
  induction rows with
  | nil => exact fun _ _ => rfl
  | cons r rows ih =>
    intro s h
    obtain ⟨htel, hlatest⟩ := h r (List.mem_cons_self ..)
    have hadd : (s.add r.1 r.2).restrict p = s.restrict p := by
      have hq : p (r.2.key).1 = false := by rw [show (r.2.key).1 = r.2.gatewayId from rfl, hlatest, hp]
      have hup := Db.Table.restrict_upsert_of_not (t := s.latest) (r := r.2) (q := fun k => p k.1)
        r.2.overwrite_key hq
      simp only [Session.restrict, Session.add, List.filter_append, htel, hp, List.filter_cons_of_neg,
        List.filter_nil, List.append_nil, Bool.false_eq_true, not_false_eq_true]
      exact congrArg (Session.mk _) hup
    exact (ih (s.add r.1 r.2) fun x hx => h x (List.mem_cons_of_mem _ hx)).trans hadd

/-- A change of one gateway's row. -/
theorem gateways_restrict {f : Gateway → Gateway} (hf : ∀ gw, (f gw).id = gw.id) :
    (store.gateways.modify gatewayId f hf).restrict (fun gw => p gw.id) =
      (store.gateways.restrict fun gw => p gw.id).modify gatewayId f hf :=
  Db.Table.restrict_modify hf fun gw => congrArg p (hf gw)

theorem gateways_others {f : Gateway → Gateway} (hf : ∀ gw, (f gw).id = gw.id) (hp : p gatewayId = false) :
    (store.gateways.modify gatewayId f hf).restrict (fun gw => p gw.id) =
      store.gateways.restrict fun gw => p gw.id := by
  refine Db.Table.restrict_modify_of_not hf (fun gw => congrArg p (hf gw)) fun gw h => ?_
  rw [Db.Table.key_of_find? h, hp]

theorem commit_restrict {rows : List (Telemetry × TelemetryLatest)} (hp : p gatewayId = true)
    (h : ∀ r ∈ rows, r.1.gatewayId = gatewayId ∧ r.2.gatewayId = gatewayId) :
    (store.commit gatewayId ts rows).restrict p = (store.restrict p).commit gatewayId ts rows := by
  have hs := addAll_restrict hp ⟨store.telemetry, store.latest⟩ h
  have hgw : (store.gateways.modify gatewayId (·.seen ts) (Gateway.seen_id ts)).restrict (fun gw => p gw.id) =
      (store.restrict p).gateways.modify gatewayId (·.seen ts) (Gateway.seen_id ts) := gateways_restrict _
  simp only [Store.commit, Store.restrict] at hgw ⊢
  rw [hgw]
  exact congrArg (fun s : Session => Store.mk _ _ s.telemetry s.latest) hs

theorem commit_others {rows : List (Telemetry × TelemetryLatest)} (hp : p gatewayId = false)
    (h : ∀ r ∈ rows, r.1.gatewayId = gatewayId ∧ r.2.gatewayId = gatewayId) :
    (store.commit gatewayId ts rows).restrict p = store.restrict p := by
  have hs := addAll_others hp ⟨store.telemetry, store.latest⟩ h
  have hgw : (store.gateways.modify gatewayId (·.seen ts) (Gateway.seen_id ts)).restrict (fun gw => p gw.id) =
      store.gateways.restrict fun gw => p gw.id := gateways_others _ hp
  simp only [Store.commit, Store.restrict]
  rw [hgw]
  exact congrArg (fun s : Session => Store.mk _ _ s.telemetry s.latest) hs

/-- The tables after a message's handler; an exception leaves them as they were. -/
theorem telemetry_getD (store : Store) (cache : Cache) (mono now : ℤ) (gatewayId : UUID)
    (body : List (Str × Json)) : (telemetry store cache mono now gatewayId body).2.getD store =
      match toCommit store cache mono now gatewayId body with
      | some (ts, rows) => store.commit gatewayId ts rows
      | none => store := by
  cases hc : toCommit store cache mono now gatewayId body with
  | some c =>
    obtain ⟨ts, rows⟩ := c
    rw [telemetry_of_toCommit hc]
    rfl
  | none =>
    cases hr : (telemetry store cache mono now gatewayId body).2 with
    | none => rfl
    | some store' => exact telemetry_of_not_toCommit hc hr

/-- The rows that a message commits are its gateway's. -/
theorem toCommit_gateway {rows : List (Telemetry × TelemetryLatest)}
    (h : toCommit store cache mono now gatewayId body = some (ts, rows)) :
    ∀ r ∈ rows, r.1.gatewayId = gatewayId ∧ r.2.gatewayId = gatewayId := by
  obtain ⟨-, -, gw, vs, hgw, -, -, rfl⟩ := toCommit_eq_some.1 h
  intro r hr
  rw [← Db.Table.key_of_find? hgw]
  exact messageRows_gateway hr

theorem telemetry_restrict (hp : p gatewayId = true) :
    (telemetry (store.restrict p) (cache.restrict p) mono now gatewayId body).2.getD (store.restrict p) =
      ((telemetry store cache mono now gatewayId body).2.getD store).restrict p := by
  rw [telemetry_getD, telemetry_getD, toCommit_restrict hp]
  cases hc : toCommit store cache mono now gatewayId body with
  | none => rfl
  | some c => exact (commit_restrict hp (toCommit_gateway hc)).symm

/-- The cache after a message: the loop's, if the handler comes to it. -/
theorem telemetry_cache_eq (store : Store) (cache : Cache) (mono now : ℤ) (gatewayId : UUID)
    (body : List (Str × Json)) : (telemetry store cache mono now gatewayId body).1 =
      let values := (Json.get body "values").getD .null
      match parseIso8601 now (Json.get body "timestamp"), store.gateways.find? gatewayId, iterate values with
      | some ts, some gw, some vs =>
        if values.truthy = false then cache
        else (entries store gw mono ts cache ⟨store.telemetry, store.latest⟩ vs).1
      | _, _, _ => cache := by
  unfold telemetry
  dsimp only
  cases parseIso8601 now (Json.get body "timestamp") with
  | none => split_ifs <;> rfl
  | some ts =>
    cases store.gateways.find? gatewayId with
    | none => split_ifs <;> rfl
    | some gw =>
      cases iterate ((Json.get body "values").getD .null) with
      | none => split_ifs <;> rfl
      | some vs =>
        split_ifs
        · rfl
        · dsimp only
          generalize entries store gw mono ts cache ⟨store.telemetry, store.latest⟩ vs = result
          obtain ⟨cache', r⟩ := result
          cases r with
          | none => rfl
          | some s => cases Db.timestamptz ts <;> rfl

theorem telemetry_cache_restrict (hp : p gatewayId = true) :
    (telemetry (store.restrict p) (cache.restrict p) mono now gatewayId body).1 =
      Cache.restrict (telemetry store cache mono now gatewayId body).1 p := by
  rw [telemetry_cache_eq, telemetry_cache_eq, find?_gateways_restrict hp]
  dsimp only
  cases parseIso8601 now (Json.get body "timestamp") with
  | none => rfl
  | some ts =>
    cases hgw : store.gateways.find? gatewayId with
    | none => rfl
    | some gw =>
      have hp' : p gw.id = true := by rw [Db.Table.key_of_find? hgw, hp]
      cases iterate ((Json.get body "values").getD .null) with
      | none => rfl
      | some vs =>
        dsimp only
        split_ifs
        · rfl
        · exact entries_cache hp' vs cache _ _

/-! ## The other handlers -/

theorem heartbeat_restrict (hp : p gatewayId = true) :
    heartbeat (store.restrict p) now gatewayId body =
      (heartbeat store now gatewayId body).map (·.restrict p) := by
  unfold heartbeat
  rw [find?_gateways_restrict hp]
  cases store.gateways.find? gatewayId with
  | none => rfl
  | some gw =>
    cases (parseIso8601 now (Json.get body "timestamp")).bind Db.timestamptz with
    | none => rfl
    | some t =>
      refine congrArg some ?_
      simp only [Store.restrict, gateways_restrict]

theorem state_restrict (hp : p gatewayId = true) :
    state (store.restrict p) now gatewayId body = (state store now gatewayId body).map (·.restrict p) := by
  unfold state
  rw [find?_gateways_restrict hp]
  cases store.gateways.find? gatewayId with
  | none => rfl
  | some gw =>
    cases stateReport now body with
    | none => rfl
    | some r =>
      refine congrArg some ?_
      simp only [Store.restrict, gateways_restrict]

/-- What `command_response` does to the table: nothing, or changes to one command of the
gateway. -/
theorem commandResponse_db (h : db.commandResponse now gatewayId body = some db') :
    db' = db ∨ ∃ id cmd c, db.commands.find? id = some cmd ∧ cmd.gatewayId = gatewayId ∧
      db' = { db with commands := db.commands.modify id (·.apply c) (Command.apply_id c) } := by
  unfold Database.commandResponse at h
  split at h
  · cases h
  · exact Or.inl (Option.some.inj h).symm
  rename_i s hnamed
  split at h
  · cases h
  rename_i id hs
  split at h
  · exact Or.inl (Option.some.inj h).symm
  rename_i cmd hcmd
  split at h
  · cases h
  · exact Or.inl (Option.some.inj h).symm
  · rename_i c hc
    refine Or.inr ⟨id, cmd, c, hcmd, ?_, (Option.some.inj h).symm⟩
    simp only [Server.commandResponse, hnamed] at hc
    by_contra hne
    rw [if_pos (Or.inr hne)] at hc
    cases hc

theorem commandResponse_restrict (hp : p gatewayId = true) :
    (db.restrict p).commandResponse now gatewayId body =
      (db.commandResponse now gatewayId body).map (·.restrict p) := by
  unfold Database.commandResponse
  cases hnamed : namedId body with
  | none => rfl
  | some named =>
    cases named with
    | none => rfl
    | some s =>
      dsimp only
      cases Db.text s with
      | none => rfl
      | some id =>
        dsimp only
        cases hcmd : db.commands.find? id with
        | none =>
          have hnone : (db.restrict p).commands.find? id = none :=
            Db.Table.find?_restrict_none fun cmd h => by rw [hcmd] at h; cases h
          rw [hnone]
          rfl
        | some cmd =>
          by_cases hgw : p cmd.gatewayId = true
          · have hsome : (db.restrict p).commands.find? id = some cmd := by
              rw [← hcmd]
              refine Db.Table.find?_restrict fun cmd' h => ?_
              rw [hcmd] at h
              cases h
              exact hgw
            rw [hsome]
            dsimp only
            cases Server.commandResponse cmd gatewayId now body with
            | none => rfl
            | some o =>
              cases o with
              | none => rfl
              | some c =>
                refine congrArg (fun t => some (Database.mk (db.toStore.restrict p) t)) ?_
                exact (Db.Table.restrict_modify (Command.apply_id c) fun _ => rfl).symm
          · -- another gateway's command is answered like an unknown one
            have hnone : (db.restrict p).commands.find? id = none := by
              refine Db.Table.find?_restrict_none fun cmd' h => ?_
              rw [hcmd] at h
              cases h
              simpa using hgw
            have hne : cmd.gatewayId ≠ gatewayId := fun heq => hgw (by rw [heq, hp])
            have hearly : Server.commandResponse cmd gatewayId now body = some none := by
              simp only [Server.commandResponse, hnamed]
              exact if_pos (Or.inr hne)
            rw [hnone]
            dsimp only
            rw [hearly]
            rfl

/-! ## Handlers -/

/-- The tables after a handler's call. -/
def handled (db : Database) (cache : Cache) (mono now : ℤ) (call : HandledKind × UUID × Json) : Database :=
  (handle db cache mono now call).2.getD db

/-- **Locality**: on the rows of the gateways kept, and their entries of the cache, a call for
one of them does what it does on all. -/
theorem handled_restrict {kind : HandledKind} {body : Json} (hp : p gatewayId = true) :
    handled (db.restrict p) (cache.restrict p) mono now (kind, gatewayId, body) =
        (handled db cache mono now (kind, gatewayId, body)).restrict p ∧
      (handle (db.restrict p) (cache.restrict p) mono now (kind, gatewayId, body)).1 =
        Cache.restrict (handle db cache mono now (kind, gatewayId, body)).1 p := by
  cases body with
  | obj items =>
    cases kind with
    | telemetry =>
      refine ⟨?_, telemetry_cache_restrict hp⟩
      have hstore : (telemetry (db.toStore.restrict p) (cache.restrict p) mono now gatewayId items).2.getD
            (db.toStore.restrict p) =
          ((telemetry db.toStore cache mono now gatewayId items).2.getD db.toStore).restrict p :=
        telemetry_restrict hp
      have hwith : ∀ (db : Database) (r : Option Store),
          (r.map fun toStore => { db with toStore }).getD db = ⟨r.getD db.toStore, db.commands⟩ := by
        intro db r
        cases r <;> rfl
      simp only [handled, handle, hwith]
      exact congrArg (fun s => Database.mk s (db.restrict p).commands) hstore
    | state =>
      refine ⟨?_, rfl⟩
      have hstore : state (db.restrict p).toStore now gatewayId items =
          (state db.toStore now gatewayId items).map (·.restrict p) := state_restrict hp
      simp only [handled, handle, hstore]
      cases state db.toStore now gatewayId items <;> rfl
    | heartbeat =>
      refine ⟨?_, rfl⟩
      have hstore : heartbeat (db.restrict p).toStore now gatewayId items =
          (heartbeat db.toStore now gatewayId items).map (·.restrict p) := heartbeat_restrict hp
      simp only [handled, handle, hstore]
      cases heartbeat db.toStore now gatewayId items <;> rfl
    | commandResponse =>
      refine ⟨?_, rfl⟩
      simp only [handled, handle, commandResponse_restrict hp]
      cases db.commandResponse now gatewayId items <;> rfl
  | _ => exact ⟨rfl, rfl⟩

/-- What a call for gateway `g` may do to the tables. -/
structure Confined (g : UUID) (db db' : Database) : Prop where
  others : ∀ p : UUID → Bool, p g = false → db'.restrict p = db.restrict p
  serials : db'.gateways.rows.map (fun gw => (gw.id, gw.serialNumber)) =
    db.gateways.rows.map fun gw => (gw.id, gw.serialNumber)
  owners : db'.commands.rows.map (·.gatewayId) = db.commands.rows.map (·.gatewayId)
  unknown : db.gateways.find? g = none → (∀ cmd ∈ db.commands.rows, cmd.gatewayId ≠ g) → db' = db

theorem confined_refl (g : UUID) (db : Database) : Confined g db db :=
  ⟨fun _ _ => rfl, rfl, rfl, fun _ _ => rfl⟩

/-- A change of the gateway's row. -/
theorem confined_gateway {gw : Gateway} (hgw : db.gateways.find? gatewayId = some gw) {f : Gateway → Gateway}
    (hf : ∀ gw, (f gw).id = gw.id) (hserial : ∀ gw, (f gw).serialNumber = gw.serialNumber) :
    Confined gatewayId db { db with gateways := db.gateways.modify gatewayId f hf } where
  others p hp := by simp only [Database.restrict, Store.restrict, gateways_others hf hp]
  serials := Db.Table.modify_rows_map hf fun gw => Prod.ext (hf gw) (hserial gw)
  owners := rfl
  unknown hnone := by rw [hgw] at hnone; cases hnone

theorem confined_commit {gw : Gateway} (hgw : db.gateways.find? gatewayId = some gw)
    {rows : List (Telemetry × TelemetryLatest)}
    (h : ∀ r ∈ rows, r.1.gatewayId = gatewayId ∧ r.2.gatewayId = gatewayId) :
    Confined gatewayId db { db with toStore := db.toStore.commit gatewayId ts rows } where
  others p hp := by simp only [Database.restrict, commit_others hp h]
  serials := Db.Table.modify_rows_map (Gateway.seen_id ts) fun _ => rfl
  owners := rfl
  unknown hnone := by rw [hgw] at hnone; cases hnone

theorem confined_command {id : String} {cmd : Command} (c : Changes) (hcmd : db.commands.find? id = some cmd)
    (hgw : cmd.gatewayId = gatewayId) :
    Confined gatewayId db
      { db with commands := db.commands.modify id (·.apply c) (Command.apply_id c) } where
  others p hp := by
    have hothers := Db.Table.restrict_modify_of_not (t := db.commands) (k := id)
      (p := fun cmd => p cmd.gatewayId) (Command.apply_id c) (fun _ => rfl) (by
        intro cmd' h
        rw [hcmd] at h
        cases h
        rw [hgw, hp])
    simp only [Database.restrict, hothers]
  serials := rfl
  owners := Db.Table.modify_rows_map (Command.apply_id c) fun _ => rfl
  unknown _ hno := absurd hgw (hno cmd (Db.Table.find?_eq_some.1 hcmd).1)

/-- **Confinement**: a call for a gateway is confined to it. -/
theorem handled_confined (db : Database) (cache : Cache) (mono now : ℤ) (kind : HandledKind)
    (gatewayId : UUID) (body : Json) :
    Confined gatewayId db (handled db cache mono now (kind, gatewayId, body)) := by
  cases body with
  | obj items =>
    cases kind with
    | telemetry =>
      have hcommit := telemetry_getD db.toStore cache mono now gatewayId items
      have hdb : handled db cache mono now (.telemetry, gatewayId, .obj items) =
          { db with toStore := (telemetry db.toStore cache mono now gatewayId items).2.getD db.toStore } := by
        simp only [handled, handle]
        cases (telemetry db.toStore cache mono now gatewayId items).2 <;> rfl
      rw [hdb, hcommit]
      cases hc : toCommit db.toStore cache mono now gatewayId items with
      | none => exact confined_refl _ _
      | some c =>
        obtain ⟨ts, rows⟩ := c
        obtain ⟨-, -, gw, -, hgw, -⟩ := toCommit_eq_some.1 hc
        exact confined_commit hgw (toCommit_gateway hc)
    | state =>
      simp only [handled, handle, state]
      cases hgw : db.gateways.find? gatewayId with
      | none => exact confined_refl _ _
      | some gw =>
        cases stateReport now items with
        | none => exact confined_refl _ _
        | some r => exact confined_gateway hgw (Gateway.report_id r) fun _ => rfl
    | heartbeat =>
      simp only [handled, handle, heartbeat]
      cases hgw : db.gateways.find? gatewayId with
      | none => exact confined_refl _ _
      | some gw =>
        cases (parseIso8601 now (Json.get items "timestamp")).bind Db.timestamptz with
        | none => exact confined_refl _ _
        | some t => exact confined_gateway hgw (Gateway.beat_id t) fun _ => rfl
    | commandResponse =>
      cases hr : db.commandResponse now gatewayId items with
      | none =>
        simp only [handled, handle, hr]
        exact confined_refl _ _
      | some db' =>
        simp only [handled, handle, hr]
        rcases commandResponse_db hr with rfl | ⟨id, cmd, c, hcmd, hgw, rfl⟩
        · exact confined_refl _ _
        · exact confined_command c hcmd hgw
  | _ => exact confined_refl _ _

/-- A call for a gateway without a row caches nothing. -/
theorem handle_cache_unknown {kind : HandledKind} {body : Json}
    (hnone : db.gateways.find? gatewayId = none) :
    (handle db cache mono now (kind, gatewayId, body)).1 = cache := by
  cases body with
  | obj items =>
    cases kind with
    | telemetry =>
      have hcache := telemetry_cache_eq db.toStore cache mono now gatewayId items
      rw [hnone] at hcache
      simp only [handle, hcache]
      cases parseIso8601 now (Json.get items "timestamp") <;> rfl
    | _ => rfl
  | _ => rfl

end Server
