import IotGateway.Server.Telemetry

/-!
# Telemetry messages, one after another

What a message stores depends on the rows of the gateway and its channels, which no
message changes, and on the cache. `toCommit_process`: **a message stores the same after
others as before them**, since what a message leaves in the cache is what every later
lookup would have found.
-/

namespace Server

open Python

/-- One run of `telemetry.handle`: its clocks, and the body. -/
structure Delivery where
  mono : ℤ
  now : ℤ
  body : List (Str × Json)

/-- The database and the worker's cache. -/
structure Ingest where
  store : Store
  cache : Cache

/-- What the handler comes to commit. -/
def Ingest.toCommit (gatewayId : UUID) (s : Ingest) (d : Delivery) :
    Option (ℤ × List (Telemetry × TelemetryLatest)) :=
  Server.toCommit s.store s.cache d.mono d.now gatewayId d.body

/-- The rows that it inserts. -/
def Ingest.storedRows (gatewayId : UUID) (s : Ingest) (d : Delivery) : List (Telemetry × TelemetryLatest) :=
  (s.toCommit gatewayId d).elim [] (·.2)

/-- The two tables that telemetry goes to. -/
def Store.session (store : Store) : Session := ⟨store.telemetry, store.latest⟩

/-- The handler's result; `none` is an exception. -/
def Ingest.handle (gatewayId : UUID) (s : Ingest) (d : Delivery) : Cache × Option Store :=
  telemetry s.store s.cache d.mono d.now gatewayId d.body

/-- `telemetry.handle`, whether it returns or raises. -/
def Ingest.process (gatewayId : UUID) (s : Ingest) (d : Delivery) : Ingest where
  store := (s.handle gatewayId d).2.getD s.store
  cache := (s.handle gatewayId d).1

/-- Two databases with the same channels, and the same owner of the gateway. -/
structure SameSource (gatewayId : UUID) (store store' : Store) : Prop where
  channels : store'.channels = store.channels
  owner : (store'.gateways.find? gatewayId).map (fun gw => (gw.companyId, gw.siteId)) =
    (store.gateways.find? gatewayId).map fun gw => (gw.companyId, gw.siteId)

/-- What the cache holds for the gateway is what the database has. -/
def Coherent (gatewayId : UUID) (store : Store) (cache : Cache) : Prop :=
  ∀ slug id t, cache (gatewayId, slug) = some (id, t) → queryChannel store gatewayId slug = some id

section Source

variable {store store' : Store} {cache cache' : Cache} {mono mono' now now' ts : ℤ} {gatewayId : UUID}
variable {gw gw' : Gateway} {body : List (Str × Json)}

theorem SameSource.refl : SameSource gatewayId store store := ⟨rfl, rfl⟩

theorem SameSource.trans {store'' : Store} (h : SameSource gatewayId store store')
    (h' : SameSource gatewayId store' store'') : SameSource gatewayId store store'' :=
  ⟨h'.channels.trans h.channels, h'.owner.trans h.owner⟩

theorem SameSource.queryChannel (h : SameSource gatewayId store store') (slug : Str) :
    queryChannel store' gatewayId slug = queryChannel store gatewayId slug := by
  unfold Server.queryChannel
  rw [h.channels]

theorem SameSource.lookup (h : SameSource gatewayId store store') (slug : Str) :
    lookup store' cache mono gatewayId slug = lookup store cache mono gatewayId slug := by
  unfold Server.lookup sensorChannelUuidBySlug
  rw [h.queryChannel]

/-- The rows of an entry depend on the gateway's owner only. -/
theorem entryRows_congr (hid : gw'.id = gw.id) (howner : (gw'.companyId, gw'.siteId) = (gw.companyId, gw.siteId))
    (channelId : UUID) (ts : ℤ) (v : List (Str × Json)) :
    entryRows gw' channelId ts v = entryRows gw channelId ts v := by
  obtain ⟨hcompany, hsite⟩ := Prod.mk.inj howner
  unfold entryRows
  rw [hid, hcompany, hsite]

theorem outcome_source (hid : gw'.id = gw.id)
    (howner : (gw'.companyId, gw'.siteId) = (gw.companyId, gw.siteId))
    (hlookup : ∀ slug, lookup store' cache' mono' gw.id slug = lookup store cache mono gw.id slug)
    (v : Json) : outcome store' cache' mono' gw' ts v = outcome store cache mono gw ts v := by
  unfold outcome
  cases v with
  | obj items =>
    dsimp only
    cases slugOf items with
    | none => rfl
    | some slug =>
      dsimp only
      rw [hid, hlookup slug]
      split
      · rfl
      · rfl
      · exact entryRows_congr hid howner _ ts items
  | _ => rfl

/-- **What a message stores** depends on its time and body, the gateway's owner, and what its
lookups find. -/
theorem toCommit_congr (hsource : SameSource gatewayId store store')
    (hlookup : ∀ slug, lookup store' cache' mono' gatewayId slug = lookup store cache mono gatewayId slug)
    (htime : messageTime now' body = messageTime now body) :
    toCommit store' cache' mono' now' gatewayId body = toCommit store cache mono now gatewayId body := by
  unfold toCommit
  dsimp only
  rw [htime]
  cases hgw : store.gateways.find? gatewayId with
  | none =>
    have hgw' : store'.gateways.find? gatewayId = none := by
      have howner := hsource.owner
      rw [hgw, Option.map_none, Option.map_eq_none_iff] at howner
      exact howner
    rw [hgw']
    cases messageTime now body <;> rfl
  | some gw =>
    obtain ⟨gw', hgw', howner⟩ : ∃ gw', store'.gateways.find? gatewayId = some gw' ∧
        (gw'.companyId, gw'.siteId) = (gw.companyId, gw.siteId) := by
      have howner := hsource.owner
      rw [hgw, Option.map_some, Option.map_eq_some_iff] at howner
      exact howner
    obtain ⟨-, hid⟩ := Db.Table.find?_eq_some.1 hgw
    obtain ⟨-, hid'⟩ := Db.Table.find?_eq_some.1 hgw'
    have hout : ∀ ts v, outcome store' cache' mono' gw' ts v = outcome store cache mono gw ts v :=
      fun ts v => outcome_source (hid'.trans hid.symm) howner (by rw [hid]; exact hlookup) v
    rw [hgw']
    simp only [Option.bind_eq_bind, Option.bind_some, messageRows, hout]

theorem commit_source (rows : List (Telemetry × TelemetryLatest)) :
    SameSource gatewayId store (store.commit gatewayId ts rows) := by
  refine ⟨rfl, ?_⟩
  have hfind := Db.Table.find?_modify (t := store.gateways) (Gateway.seen_id ts) gatewayId
  simp only [Store.commit, hfind, Option.map_map]
  rfl

/-- The handler's cache is as before, or as the loop left it. -/
theorem telemetry_cache (store : Store) (cache : Cache) (mono now : ℤ) (gatewayId : UUID)
    (body : List (Str × Json)) : (telemetry store cache mono now gatewayId body).1 = cache ∨ ∃ gw ts vs,
    gw.id = gatewayId ∧ (telemetry store cache mono now gatewayId body).1 =
      (entries store gw mono ts cache ⟨store.telemetry, store.latest⟩ vs).1 := by
  unfold telemetry
  dsimp only
  split_ifs
  · exact Or.inl rfl
  split
  · exact Or.inl rfl
  rename_i ts hts
  split
  · exact Or.inl rfl
  rename_i gw hgw
  split
  · exact Or.inl rfl
  rename_i vs hvs
  obtain ⟨-, hid⟩ := Db.Table.find?_eq_some.1 hgw
  refine Or.inr ⟨gw, ts, vs, hid, ?_⟩
  generalize entries store gw mono ts cache ⟨store.telemetry, store.latest⟩ vs = result
  obtain ⟨cache', r⟩ := result
  cases r with
  | none => rfl
  | some s' => cases Db.timestamptz ts <;> rfl

/-- The handler leaves every later lookup as it was. -/
theorem telemetry_lookup (hmono : mono ≤ mono') (slug : Str) :
    lookup store (telemetry store cache mono now gatewayId body).1 mono' gatewayId slug =
      lookup store cache mono' gatewayId slug := by
  rcases telemetry_cache store cache mono now gatewayId body with hsame | ⟨gw, ts, vs, hid, hloop⟩
  · rw [hsame]
  · rw [hloop, ← hid]
    exact entries_lookup store mono ts gw hmono slug vs cache _

/-! ## A coherent cache -/

theorem Coherent.lookup (h : Coherent gatewayId store cache) (mono : ℤ) (slug : Str) :
    lookup store cache mono gatewayId slug = queryChannel store gatewayId slug := by
  unfold Server.lookup sensorChannelUuidBySlug
  cases hc : cache (gatewayId, slug) with
  | none => cases queryChannel store gatewayId slug <;> rfl
  | some entry =>
    obtain ⟨id, t⟩ := entry
    rw [h slug id t hc]
    dsimp only
    split <;> rfl

theorem Coherent.refresh {slug : Str} {found : Option UUID} (h : Coherent gatewayId store cache)
    (hq : sensorChannelUuidBySlug store cache mono gatewayId slug = some (found, cache')) :
    Coherent gatewayId store cache' := by
  have hupdate : ∀ {found : Option UUID}, (queryChannel store gatewayId slug).map (fun id =>
        (id, Function.update cache (gatewayId, slug) (some (id, mono + ttl)))) = some (found, cache') →
      Coherent gatewayId store cache' := by
    intro found hmap slug' id t hc
    obtain ⟨id', hid', heq⟩ := Option.map_eq_some_iff.1 hmap
    cases heq
    by_cases hs : slug' = slug
    · subst hs
      rw [Function.update_self] at hc
      cases hc
      exact hid'
    · rw [Function.update_of_ne (by simpa using hs)] at hc
      exact h slug' id t hc
  unfold sensorChannelUuidBySlug at hq
  split at hq
  · split_ifs at hq
    · exact hupdate hq
    · cases hq
      exact h
  · exact hupdate hq

theorem Coherent.entry (h : Coherent gw.id store cache) (s : Session) (v : Json) :
    Coherent gw.id store (entry store gw mono ts cache s v).1 := by
  unfold Server.entry
  split
  · split
    · exact h
    · rename_i items slug _
      cases hq : sensorChannelUuidBySlug store cache mono gw.id slug with
      | none => exact h
      | some result =>
        obtain ⟨found, cache'⟩ := result
        have h' := h.refresh hq
        cases found with
        | none => exact h'
        | some channelId =>
          dsimp only
          split <;> exact h'
  · exact h

theorem Coherent.entries (vs : List Json) : ∀ {cache : Cache} {s : Session}, Coherent gw.id store cache →
    Coherent gw.id store (entries store gw mono ts cache s vs).1 := by
  induction vs with
  | nil => exact fun h => h
  | cons v vs ih =>
    intro cache s h
    have h' : Coherent gw.id store (Server.entry store gw mono ts cache s v).1 := h.entry s v
    unfold Server.entries
    generalize Server.entry store gw mono ts cache s v = result at h'
    obtain ⟨cache', r⟩ := result
    cases r with
    | none => exact h'
    | some s' => exact ih h'

theorem Coherent.telemetry (h : Coherent gatewayId store cache) :
    Coherent gatewayId store (telemetry store cache mono now gatewayId body).1 := by
  rcases telemetry_cache store cache mono now gatewayId body with hsame | ⟨gw, ts, vs, rfl, hloop⟩
  · rw [hsame]
    exact h
  · rw [hloop]
    exact h.entries vs

theorem SameSource.coherent (hsource : SameSource gatewayId store store')
    (h : Coherent gatewayId store cache) : Coherent gatewayId store' cache := by
  intro slug id t hc
  rw [hsource.queryChannel]
  exact h slug id t hc

end Source

/-! ## One message -/

section Process

variable {gatewayId : UUID} {s : Ingest} {d : Delivery}

/-- **One message**: it is committed, or the tables stay as they are. -/
theorem process_store : (s.process gatewayId d).store =
    match s.toCommit gatewayId d with
    | some (ts, rows) => s.store.commit gatewayId ts rows
    | none => s.store := by
  unfold Ingest.process Ingest.handle
  dsimp only
  cases hcommit : s.toCommit gatewayId d with
  | some result =>
    obtain ⟨ts, rows⟩ := result
    rw [telemetry_of_toCommit hcommit]
    rfl
  | none =>
    cases hreturn : (telemetry s.store s.cache d.mono d.now gatewayId d.body).2 with
    | none => rfl
    | some store' => exact telemetry_of_not_toCommit hcommit hreturn

theorem process_session :
    (s.process gatewayId d).store.session = s.store.session.addAll (s.storedRows gatewayId d) := by
  rw [process_store, Ingest.storedRows]
  cases s.toCommit gatewayId d <;> rfl

theorem process_source : SameSource gatewayId s.store (s.process gatewayId d).store := by
  rw [process_store]
  split
  · exact commit_source _
  · exact .refl

/-- A message leaves every later lookup as it was. -/
theorem process_lookup {mono : ℤ} (hmono : d.mono ≤ mono) (slug : Str) :
    lookup (s.process gatewayId d).store (s.process gatewayId d).cache mono gatewayId slug =
      lookup s.store s.cache mono gatewayId slug := by
  rw [process_source.lookup]
  exact telemetry_lookup hmono slug

theorem Coherent.process (h : Coherent gatewayId s.store s.cache) :
    Coherent gatewayId (s.process gatewayId d).store (s.process gatewayId d).cache :=
  process_source.coherent h.telemetry

/-- **A message stores the same** after one that was processed no later. -/
theorem toCommit_process {d' : Delivery} (hmono : d.mono ≤ d'.mono) :
    (s.process gatewayId d).toCommit gatewayId d' = s.toCommit gatewayId d' :=
  toCommit_congr process_source (process_lookup hmono) rfl

theorem storedRows_process {d' : Delivery} (hmono : d.mono ≤ d'.mono) :
    (s.process gatewayId d).storedRows gatewayId d' = s.storedRows gatewayId d' := by
  unfold Ingest.storedRows
  rw [toCommit_process hmono]

end Process

end Server
