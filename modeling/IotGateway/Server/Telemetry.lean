import IotGateway.Server.Models

/-!
# Telemetry messages

`telemetry.handle` goes through the entries of a message: an entry without a known
channel or a key is skipped, any other becomes a row, and an update of the latest value
if it is newer. All rows share one transaction, which an exception of any entry undoes.
Channels are looked up by slug, through a cache that each process keeps for a minute.

`telemetry_iff`: **every well-formed entry is stored exactly when there is none, or no
other part of the message raises** and the cache knows its channel. One number that
`float` cannot hold costs all the others (`huge_integer_costs_all`).
-/

namespace Server

open Python

/-! ## Looking up a channel -/

/-- `_sensor_channel_cache`: what was found for a slug, and when that expires. -/
abbrev Cache := UUID × Str → Option (Option UUID × ℤ)

/-- `_TTL_SEC`, in microseconds. -/
def ttl : ℤ := 60000000

/-- What the database has for a slug; `none` is an exception of the query. -/
def queryChannel (store : Store) (gatewayId : UUID) (slug : Str) : Option (Option UUID) :=
  (Db.text slug).map fun s => (store.channels.find? (gatewayId, s)).map (·.id)

/-- `sensor_channel_uuid_by_slug` at `time.monotonic() = mono`. -/
def sensorChannelUuidBySlug (store : Store) (cache : Cache) (mono : ℤ) (gatewayId : UUID) (slug : Str) :
    Option (Option UUID × Cache) :=
  let query := (queryChannel store gatewayId slug).map fun id =>
    (id, Function.update cache (gatewayId, slug) (some (id, mono + ttl)))
  match cache (gatewayId, slug) with
  | some (id, expiresAt) => if expiresAt < mono then query else some (id, cache)
  | none => query

/-! ## One entry -/

/-- `float(value) if isinstance(value, (int, float)) else None`; a `bool` is an `int`. -/
def valueDouble (value : Option Json) : Option (Option Double) :=
  match value with
  | some (.int n) => (Double.ofInt n).map some
  | some (.bool b) => (Double.ofInt b.toInt).map some
  | some (.float x) => some (some x)
  | _ => some none

/-- The rows of an entry whose channel is known; the inner `none` skips it. -/
def entryRows (gw : Gateway) (channelId : UUID) (ts : ℤ) (v : List (Str × Json)) :
    Option (Option (Telemetry × TelemetryLatest)) :=
  let key := (Json.get v "measurement_key").getD (.text "")
  let unit := (Json.get v "unit").getD .null
  let quality := (Json.get v "quality").getD (.text "good")
  if key.truthy = false then some none
  else do
    let value ← valueDouble (Json.get v "value")
    let key' ← Db.notNull Db.text key
    let unit' ← Db.nullable Db.text unit
    let quality' ← Db.nullable Db.text quality
    let raw ← Db.json (.obj v)
    let latestKey ← Db.notNull (Db.varchar 64) key
    let latestUnit ← Db.nullable (Db.varchar 32) unit
    let latestQuality ← Db.nullable (Db.varchar 32) quality
    some (some (⟨gw.companyId, gw.siteId, gw.id, channelId, key', ts, value, unit', quality', raw⟩,
      ⟨gw.id, channelId, latestKey, ts, value, latestUnit, latestQuality⟩))

/-- `ON CONFLICT DO UPDATE`, where the row is older than the new one. -/
def TelemetryLatest.overwrite (new old : TelemetryLatest) : TelemetryLatest :=
  if old.ts < new.ts then
    { old with ts := new.ts, valueDouble := new.valueDouble, unit := new.unit, quality := new.quality }
  else old

theorem TelemetryLatest.overwrite_key (new old : TelemetryLatest) : (new.overwrite old).key = old.key := by
  unfold TelemetryLatest.overwrite
  split <;> rfl

/-- The session's view of the two telemetry tables. -/
structure Session where
  telemetry : List Telemetry
  latest : Db.Table TelemetryLatest (·.key)

/-- `session.add` of a row, and the UPSERT of the latest value. -/
def Session.add (s : Session) (row : Telemetry) (latest : TelemetryLatest) : Session where
  telemetry := s.telemetry ++ [row]
  latest := s.latest.upsert latest latest.overwrite latest.overwrite_key

/-- The rows of several entries, one after the other. -/
def Session.addAll (s : Session) (rows : List (Telemetry × TelemetryLatest)) : Session :=
  rows.foldl (fun s r => s.add r.1 r.2) s

theorem Session.addAll_telemetry (rows : List (Telemetry × TelemetryLatest)) :
    ∀ s : Session, (s.addAll rows).telemetry = s.telemetry ++ rows.map (·.1) := by
  induction rows with
  | nil => exact fun s => by simp [Session.addAll]
  | cons r rows ih =>
    intro s
    rw [Session.addAll, List.foldl_cons, ← Session.addAll, ih]
    simp [Session.add]

/-- The slug of an entry, if it is a string and not empty. -/
def slugOf (v : List (Str × Json)) : Option Str :=
  match Json.get v "sensor_channel_id" with
  | some (.str s) => if s = [] then none else some s
  | _ => none

/-- The loop's body: the cache after it, and the session, or an exception. -/
def entry (store : Store) (gw : Gateway) (mono ts : ℤ) (cache : Cache) (s : Session) (v : Json) :
    Cache × Option Session :=
  match v with
  | .obj items =>
    match slugOf items with
    | none => (cache, some s)
    | some slug =>
      match sensorChannelUuidBySlug store cache mono gw.id slug with
      | none => (cache, none)
      | some (none, cache') => (cache', some s)
      | some (some channelId, cache') =>
        match entryRows gw channelId ts items with
        | none => (cache', none)
        | some none => (cache', some s)
        | some (some (row, latest)) => (cache', some (s.add row latest))
  -- only a dict has `get`
  | _ => (cache, none)

def entries (store : Store) (gw : Gateway) (mono ts : ℤ) (cache : Cache) (s : Session) :
    List Json → Cache × Option Session
  | [] => (cache, some s)
  | v :: vs =>
    match entry store gw mono ts cache s v with
    | (cache', none) => (cache', none)
    | (cache', some s') => entries store gw mono ts cache' s' vs

/-- `for v in values` -/
def iterate : Json → Option (List Json)
  | .arr items => some items
  | .obj items => some (items.map fun kv => .str kv.1)
  | .str s => some (s.map fun c => .str [c])
  | _ => none

/-- A message marks the gateway seen at `t`, and online. -/
def Gateway.seen (t : ℤ) (gw : Gateway) : Gateway :=
  { gw with lastSeenAt := some t, status := "online" }

theorem Gateway.seen_id (t : ℤ) (gw : Gateway) : (gw.seen t).id = gw.id := rfl

/-- `telemetry.handle`: the cache, and the committed tables; `none` is an exception, after
which the tables are as before. -/
def telemetry (store : Store) (cache : Cache) (mono now : ℤ) (gatewayId : UUID)
    (body : List (Str × Json)) : Cache × Option Store :=
  let values := (Json.get body "values").getD .null
  if values.truthy = false then (cache, some store)
  else match parseIso8601 now (Json.get body "timestamp") with
  | none => (cache, none)
  | some ts =>
    match store.gateways.find? gatewayId with
    | none => (cache, some store)
    | some gw =>
      match iterate values with
      | none => (cache, none)
      | some vs =>
        match entries store gw mono ts cache ⟨store.telemetry, store.latest⟩ vs, Db.timestamptz ts with
        | (cache', some s), some ts => (cache', some { store with
            gateways := store.gateways.modify gatewayId (·.seen ts) (Gateway.seen_id ts)
            telemetry := s.telemetry
            latest := s.latest })
        | (cache', _), _ => (cache', none)

/-! ## What one entry comes to -/

/-- What a lookup finds. -/
def lookup (store : Store) (cache : Cache) (mono : ℤ) (gatewayId : UUID) (slug : Str) :
    Option (Option UUID) :=
  (sensorChannelUuidBySlug store cache mono gatewayId slug).map (·.1)

/-- An entry's rows, if it is stored; `none` is an exception. -/
def outcome (store : Store) (cache : Cache) (mono : ℤ) (gw : Gateway) (ts : ℤ) (v : Json) :
    Option (Option (Telemetry × TelemetryLatest)) :=
  match v with
  | .obj items =>
    match slugOf items with
    | none => some none
    | some slug =>
      match lookup store cache mono gw.id slug with
      | none => none
      | some none => some none
      | some (some channelId) => entryRows gw channelId ts items
  | _ => none

/-- The fields of an entry fit the columns of both tables. -/
structure Storable (v : List (Str × Json)) : Prop where
  key : (Db.notNull (Db.varchar 64) ((Json.get v "measurement_key").getD (.text ""))).isSome = true
  value : ∀ n, Json.get v "value" = some (.int n) → (Double.ofInt n).isSome = true
  unit : (Db.nullable (Db.varchar 32) ((Json.get v "unit").getD .null)).isSome = true
  quality : (Db.nullable (Db.varchar 32) ((Json.get v "quality").getD (.text "good"))).isSome = true
  raw : Db.jsonb (.obj v) = true

/-- The entry is an object, its slug can be looked up, and if that finds a channel and it
has a key, its fields can be stored. -/
def Harmless (store : Store) (cache : Cache) (mono : ℤ) (gatewayId : UUID) (v : Json) : Prop :=
  ∃ items, v = .obj items ∧ ∀ slug, slugOf items = some slug →
    ∃ found, lookup store cache mono gatewayId slug = some found ∧
      (found.isSome = true → ((Json.get items "measurement_key").getD (.text "")).truthy = true →
        Storable items)

section Entry

variable {store : Store} {cache cache' : Cache} {mono ts : ℤ} {gatewayId : UUID} {gw : Gateway}
variable {v : List (Str × Json)} {slug : Str}

/-- A lookup leaves this and every later lookup as it was: what it caches is what the query
finds. -/
theorem lookup_refresh {found : Option UUID} {mono' : ℤ} (hmono : mono ≤ mono')
    (h : sensorChannelUuidBySlug store cache mono gatewayId slug = some (found, cache')) (slug' : Str) :
    lookup store cache' mono' gatewayId slug' = lookup store cache mono' gatewayId slug' := by
  have hquery : ∀ {found : Option UUID}, (queryChannel store gatewayId slug).map (fun id =>
        (id, Function.update cache (gatewayId, slug) (some (id, mono + ttl)))) = some (found, cache') →
      (∀ id t, cache (gatewayId, slug) = some (id, t) → t < mono) →
      lookup store cache' mono' gatewayId slug' = lookup store cache mono' gatewayId slug' := by
    intro found hq hold
    obtain ⟨id, hid, heq⟩ := Option.map_eq_some_iff.1 hq
    cases heq
    unfold lookup sensorChannelUuidBySlug
    by_cases hs : slug' = slug
    · subst hs
      -- the new entry holds what the query finds, so it does not matter whether it has expired
      simp only [Function.update_self, hid, Option.map_some]
      cases hc : cache (gatewayId, slug') with
      | none => split <;> rfl
      | some entry =>
        have hexp := hold entry.1 entry.2 hc
        have hexp' : entry.2 < mono' := by omega
        simp only [if_pos hexp', Option.map_some]
        split <;> rfl
    · have hne : (gatewayId, slug') ≠ (gatewayId, slug) := by simpa using hs
      simp only [Function.update_of_ne hne]
      cases cache (gatewayId, slug') with
      | none => cases queryChannel store gatewayId slug' <;> rfl
      | some entry =>
        dsimp only
        split
        · cases queryChannel store gatewayId slug' <;> rfl
        · rfl
  unfold sensorChannelUuidBySlug at h
  cases hc : cache (gatewayId, slug) with
  | none =>
    rw [hc] at h
    exact hquery h fun id t ht => by rw [hc] at ht; cases ht
  | some entry =>
    rw [hc] at h
    dsimp only at h
    split_ifs at h with hexp
    · refine hquery h fun id t ht => ?_
      rw [hc] at ht
      cases ht
      exact hexp
    · cases h
      rfl

theorem valueDouble_isSome {value : Option Json} :
    (valueDouble value).isSome = true ↔ ∀ n, value = some (.int n) → (Double.ofInt n).isSome = true := by
  unfold valueDouble
  split
  · simp
  · rename_i b
    cases b <;> simp <;> decide +kernel
  · simp
  · rename_i hint _ _
    simp only [Option.isSome_some, true_iff]
    exact fun n hn => absurd hn (hint n)

/-- An entry with a channel and a key is stored exactly when its fields fit. -/
theorem entryRows_spec (gw : Gateway) (channelId : UUID) (ts : ℤ)
    (hkey : ((Json.get v "measurement_key").getD (.text "")).truthy = true) :
    (Storable v → ∃ row latest, entryRows gw channelId ts v = some (some (row, latest)) ∧
      row.raw = .obj v ∧ row.gatewayId = gw.id ∧ row.sensorChannelId = channelId) ∧
    (¬ Storable v → entryRows gw channelId ts v = none) := by
  unfold entryRows
  dsimp only
  rw [if_neg (by rw [hkey]; decide)]
  constructor
  · intro h
    obtain ⟨value, hvalue⟩ := Option.isSome_iff_exists.1 (valueDouble_isSome.2 h.value)
    obtain ⟨key, hk⟩ := Option.isSome_iff_exists.1 (Db.notNull_text_isSome h.key)
    obtain ⟨unit, hu⟩ := Option.isSome_iff_exists.1 (Db.nullable_text_isSome h.unit)
    obtain ⟨quality, hq⟩ := Option.isSome_iff_exists.1 (Db.nullable_text_isSome h.quality)
    obtain ⟨latestKey, hk'⟩ := Option.isSome_iff_exists.1 h.key
    obtain ⟨latestUnit, hu'⟩ := Option.isSome_iff_exists.1 h.unit
    obtain ⟨latestQuality, hq'⟩ := Option.isSome_iff_exists.1 h.quality
    have hraw : Db.json (.obj v) = some (.obj v) := if_pos h.raw
    rw [hvalue, hk, hu, hq, hraw, hk', hu', hq']
    exact ⟨_, _, rfl, rfl, rfl, rfl⟩
  · intro hno
    rw [Option.eq_none_iff_forall_ne_some]
    intro o ho
    apply hno
    simp only [Option.bind_eq_bind, Option.bind_eq_some_iff] at ho
    obtain ⟨value, hvalue, _, _, _, _, _, _, raw, hraw, _, hk, _, hu, _, hq, -⟩ := ho
    refine ⟨by rw [hk]; rfl, valueDouble_isSome.1 (by rw [hvalue]; rfl), by rw [hu]; rfl,
      by rw [hq]; rfl, ?_⟩
    unfold Db.json at hraw
    split_ifs at hraw with hj
    exact hj

/-- An entry without a key is skipped. -/
theorem entryRows_skip (gw : Gateway) (channelId : UUID) (ts : ℤ)
    (hkey : ¬ ((Json.get v "measurement_key").getD (.text "")).truthy = true) :
    entryRows gw channelId ts v = some none := by
  unfold entryRows
  exact if_pos (by simpa using hkey)

/-- A stored entry's row is about the entry, its gateway and its channel. -/
theorem entryRows_row {channelId : UUID} {row : Telemetry} {latest : TelemetryLatest}
    (h : entryRows gw channelId ts v = some (some (row, latest))) :
    row.raw = .obj v ∧ row.gatewayId = gw.id ∧ row.sensorChannelId = channelId := by
  by_cases hkey : ((Json.get v "measurement_key").getD (.text "")).truthy = true
  · obtain ⟨hstore, hraise⟩ := entryRows_spec gw channelId ts hkey
    by_cases hst : Storable v
    · obtain ⟨row', latest', hrows, hrow⟩ := hstore hst
      rw [h] at hrows
      cases hrows
      exact hrow
    · rw [hraise hst] at h
      cases h
  · rw [entryRows_skip gw channelId ts hkey] at h
    cases h

theorem harmless_obj {items : List (Str × Json)} :
    Harmless store cache mono gatewayId (.obj items) ↔ ∀ slug, slugOf items = some slug →
      ∃ found, lookup store cache mono gatewayId slug = some found ∧ (found.isSome = true →
        ((Json.get items "measurement_key").getD (.text "")).truthy = true → Storable items) := by
  constructor
  · rintro ⟨items', heq, h⟩
    cases heq
    exact h
  · exact fun h => ⟨items, rfl, h⟩

/-- **An entry raises exactly when it is not harmless.** -/
theorem outcome_isSome (store : Store) (cache : Cache) (mono ts : ℤ) (gw : Gateway) (v : Json) :
    (outcome store cache mono gw ts v).isSome = true ↔ Harmless store cache mono gw.id v := by
  by_cases hobj : ∃ items, v = .obj items
  · obtain ⟨items, rfl⟩ := hobj
    rw [harmless_obj]
    unfold outcome
    dsimp only
    cases hslug : slugOf items with
    | none => simp
    | some slug =>
      cases hfound : lookup store cache mono gw.id slug with
      | none => simp [hfound]
      | some found =>
        cases found with
        | none => simp [hfound]
        | some channelId =>
          simp only [hfound, Option.some.injEq, forall_eq', exists_eq_left', Option.isSome_some, true_imp_iff]
          by_cases hkey : ((Json.get items "measurement_key").getD (.text "")).truthy = true
          · obtain ⟨hstore, hraise⟩ := entryRows_spec gw channelId ts hkey
            by_cases hst : Storable items
            · obtain ⟨row, latest, hrows, -⟩ := hstore hst
              rw [hrows]
              exact iff_of_true rfl fun _ => hst
            · rw [hraise hst]
              exact iff_of_false (by simp) fun h => hst (h hkey)
          · rw [entryRows_skip gw channelId ts hkey]
            exact iff_of_true rfl fun h => absurd h hkey
  · have hnone : outcome store cache mono gw ts v = none := by
      unfold outcome
      split
      · exact absurd ⟨_, rfl⟩ hobj
      · rfl
    rw [hnone]
    exact iff_of_false (by simp) fun ⟨items, heq, _⟩ => hobj ⟨items, heq⟩

/-- **A stored entry** is an object whose slug was found, and its row is about it. -/
theorem outcome_row {v : Json} {row : Telemetry} {latest : TelemetryLatest}
    (h : outcome store cache mono gw ts v = some (some (row, latest))) :
    row.raw = v ∧ row.gatewayId = gw.id ∧ ∃ items slug, v = .obj items ∧ slugOf items = some slug ∧
      lookup store cache mono gw.id slug = some (some row.sensorChannelId) := by
  unfold outcome at h
  split at h
  · rename_i items
    split at h
    · cases h
    · rename_i slug hslug
      split at h
      · cases h
      · cases h
      · rename_i channelId hfound
        obtain ⟨hraw, hgw, hch⟩ := entryRows_row h
        exact ⟨hraw, hgw, items, slug, rfl, hslug, by rw [hfound, hch]⟩
  · cases h

/-- The loop's body computes the outcome, and leaves every later lookup as it was. -/
theorem entry_spec (store : Store) (cache : Cache) (mono ts : ℤ) (gw : Gateway) (s : Session) (v : Json) :
    (entry store gw mono ts cache s v).2 = (outcome store cache mono gw ts v).map
        (fun o => o.elim s fun rows => s.add rows.1 rows.2) ∧
      ∀ mono' slug, mono ≤ mono' → lookup store (entry store gw mono ts cache s v).1 mono' gw.id slug =
        lookup store cache mono' gw.id slug := by
  unfold entry outcome
  cases v with
  | obj items =>
    dsimp only
    cases hslug : slugOf items with
    | none => exact ⟨rfl, fun _ _ _ => rfl⟩
    | some slug =>
      dsimp only
      cases hq : sensorChannelUuidBySlug store cache mono gw.id slug with
      | none =>
        have hl : lookup store cache mono gw.id slug = none := by rw [lookup, hq]; rfl
        rw [hl]
        exact ⟨rfl, fun _ _ _ => rfl⟩
      | some found =>
        obtain ⟨found, cache'⟩ := found
        have hl : lookup store cache mono gw.id slug = some found := by rw [lookup, hq]; rfl
        have hrefresh : ∀ mono' slug', mono ≤ mono' →
            lookup store cache' mono' gw.id slug' = lookup store cache mono' gw.id slug' :=
          fun mono' slug' hmono => lookup_refresh hmono hq slug'
        rw [hl]
        cases found with
        | none => exact ⟨rfl, hrefresh⟩
        | some channelId =>
          dsimp only
          cases hrows : entryRows gw channelId ts items with
          | none => exact ⟨rfl, hrefresh⟩
          | some o =>
            cases o with
            | none => exact ⟨rfl, hrefresh⟩
            | some rows => exact ⟨rfl, hrefresh⟩
  | _ => exact ⟨rfl, fun _ _ _ => rfl⟩

theorem outcome_congr {cache' : Cache} (v : Json)
    (h : ∀ slug, lookup store cache' mono gw.id slug = lookup store cache mono gw.id slug) :
    outcome store cache' mono gw ts v = outcome store cache mono gw ts v := by
  unfold outcome
  cases v with
  | obj items =>
    dsimp only
    cases slugOf items with
    | none => rfl
    | some slug => dsimp only; rw [h slug]
  | _ => rfl

/-- The rows of the entries that are stored. -/
def messageRows (store : Store) (cache : Cache) (mono : ℤ) (gw : Gateway) (ts : ℤ) (vs : List Json) :
    List (Telemetry × TelemetryLatest) :=
  vs.filterMap fun v => (outcome store cache mono gw ts v).join

/-- **The whole loop**: it raises if one entry does, and otherwise stores them all. -/
theorem entries_spec (store : Store) (cache : Cache) (mono ts : ℤ) (gw : Gateway) (vs : List Json) :
    ∀ (cache' : Cache) (s : Session),
    (∀ slug, lookup store cache' mono gw.id slug = lookup store cache mono gw.id slug) →
    ((∀ v ∈ vs, Harmless store cache mono gw.id v) →
      (entries store gw mono ts cache' s vs).2 = some (s.addAll (messageRows store cache mono gw ts vs))) ∧
    (¬ (∀ v ∈ vs, Harmless store cache mono gw.id v) →
      (entries store gw mono ts cache' s vs).2 = none) := by
  induction vs with
  | nil =>
    intro cache' s _
    exact ⟨fun _ => rfl, fun h => absurd (by simp) h⟩
  | cons v vs ih =>
    intro cache' s hsame
    obtain ⟨hentry, hrefresh⟩ := entry_spec store cache' mono ts gw s v
    rw [outcome_congr v hsame] at hentry
    have hharm := outcome_isSome store cache mono ts gw v
    rw [List.forall_mem_cons]
    unfold entries
    generalize entry store gw mono ts cache' s v = result at hentry hrefresh
    obtain ⟨cache'', r⟩ := result
    dsimp only at hentry hrefresh
    have hsame' : ∀ slug, lookup store cache'' mono gw.id slug = lookup store cache mono gw.id slug :=
      fun slug => (hrefresh mono slug le_rfl).trans (hsame slug)
    cases hout : outcome store cache mono gw ts v with
    | none =>
      rw [hout] at hentry hharm
      have hno : ¬ Harmless store cache mono gw.id v := fun h => by simpa using hharm.2 h
      rw [hentry]
      exact ⟨fun h => absurd h.1 hno, fun _ => rfl⟩
    | some o =>
      rw [hout] at hentry hharm
      have hv : Harmless store cache mono gw.id v := hharm.1 rfl
      rw [hentry]
      refine ⟨fun h => ?_, fun h => (ih _ _ hsame').2 fun hvs => h ⟨hv, hvs⟩⟩
      have hrest := (ih cache'' (o.elim s fun rows => s.add rows.1 rows.2) hsame').1 h.2
      refine hrest.trans ?_
      cases o with
      | none => simp [messageRows, hout]
      | some rows => simp [messageRows, hout, Session.addAll]

/-- The loop leaves every later lookup as it was, also where it raises. -/
theorem entries_lookup (store : Store) (mono ts : ℤ) (gw : Gateway) {mono' : ℤ} (hmono : mono ≤ mono')
    (slug : Str) (vs : List Json) : ∀ (cache : Cache) (s : Session),
    lookup store (entries store gw mono ts cache s vs).1 mono' gw.id slug =
      lookup store cache mono' gw.id slug := by
  induction vs with
  | nil => exact fun cache s => rfl
  | cons v vs ih =>
    intro cache s
    obtain ⟨-, hrefresh⟩ := entry_spec store cache mono ts gw s v
    have hsame := hrefresh mono' slug hmono
    unfold entries
    generalize entry store gw mono ts cache s v = result at hsame
    obtain ⟨cache', r⟩ := result
    cases r with
    | none => exact hsame
    | some s' => exact (ih cache' s').trans hsame

end Entry

/-! ## Messages -/

/-- A well-formed entry of channel `ch`. -/
structure WellFormed (store : Store) (gatewayId : UUID) (ch : SensorChannel) (v : List (Str × Json)) :
    Prop where
  channel : ch ∈ store.channels.rows ∧ ch.gatewayId = gatewayId
  slug : Json.get v "sensor_channel_id" = some (.text ch.slug)
  key : ∃ s : Str, Json.get v "measurement_key" = some (.str s) ∧ s ≠ [] ∧ s.length ≤ 64
  value : (∃ n, Json.get v "value" = some (.int n)) ∨
    ∃ x : Double, Json.get v "value" = some (.float x) ∧ x.isFinite = true
  unit : ∀ u, Json.get v "unit" = some u → ∃ s : Str, u = .str s ∧ s.length ≤ 32
  quality : ∀ q, Json.get v "quality" = some q → ∃ s : Str, q = .str s ∧ s.length ≤ 32

/-- The message commits, and among its new rows is one for the entry `v` of channel `ch`. -/
def Stored (store : Store) (cache : Cache) (mono now : ℤ) (gatewayId : UUID) (body : List (Str × Json))
    (ch : SensorChannel) (v : List (Str × Json)) : Prop :=
  ∃ store' new, (telemetry store cache mono now gatewayId body).2 = some store' ∧
    store'.telemetry = store.telemetry ++ new ∧
    ∃ row ∈ new, row.raw = .obj v ∧ row.gatewayId = gatewayId ∧ row.sensorChannelId = ch.id

/-- The message has a time that can be stored, and its gateway a row. -/
def Addressed (store : Store) (now : ℤ) (gatewayId : UUID) (body : List (Str × Json)) : Prop :=
  (∃ ts, parseIso8601 now (Json.get body "timestamp") = some ts ∧ (Db.timestamptz ts).isSome = true) ∧
    (store.gateways.find? gatewayId).isSome = true

/-- The tables after the commit of a message seen at `ts`. -/
def Store.commit (store : Store) (gatewayId : UUID) (ts : ℤ) (rows : List (Telemetry × TelemetryLatest)) :
    Store :=
  let s := Session.addAll ⟨store.telemetry, store.latest⟩ rows
  { store with
    gateways := store.gateways.modify gatewayId (·.seen ts) (Gateway.seen_id ts)
    telemetry := s.telemetry
    latest := s.latest }

/-- The time that a message carries, if the database can store it. -/
def messageTime (now : ℤ) (body : List (Str × Json)) : Option ℤ :=
  (parseIso8601 now (Json.get body "timestamp")).bind Db.timestamptz

/-- The time of a message and the rows of its entries, if its handler comes to commit. -/
def toCommit (store : Store) (cache : Cache) (mono now : ℤ) (gatewayId : UUID) (body : List (Str × Json)) :
    Option (ℤ × List (Telemetry × TelemetryLatest)) :=
  let values := (Json.get body "values").getD .null
  if values.truthy = false then none
  else do
    let ts ← messageTime now body
    let gw ← store.gateways.find? gatewayId
    let vs ← iterate values
    if ∀ v ∈ vs, (outcome store cache mono gw ts v).isSome then
      some (ts, messageRows store cache mono gw ts vs)
    else none

section Message

variable {store : Store} {cache : Cache} {mono now ts : ℤ} {gatewayId : UUID}
variable {body v : List (Str × Json)} {vs : List Json} {ch : SensorChannel}
variable {rows : List (Telemetry × TelemetryLatest)}

theorem messageTime_eq_some : messageTime now body = some ts ↔
    parseIso8601 now (Json.get body "timestamp") = some ts ∧ Db.timestamptz ts = some ts := by
  unfold messageTime
  rw [Option.bind_eq_some_iff]
  constructor
  · rintro ⟨ts', hparse, hbind⟩
    obtain rfl := Db.timestamptz_eq hbind
    exact ⟨hparse, hbind⟩
  · exact fun h => ⟨ts, h⟩

theorem toCommit_eq_some : toCommit store cache mono now gatewayId body = some (ts, rows) ↔
    ((Json.get body "values").getD .null).truthy = true ∧ messageTime now body = some ts ∧
      ∃ gw vs, store.gateways.find? gatewayId = some gw ∧
        iterate ((Json.get body "values").getD .null) = some vs ∧
        (∀ v ∈ vs, Harmless store cache mono gatewayId v) ∧ rows = messageRows store cache mono gw ts vs := by
  unfold toCommit
  dsimp only
  split_ifs with hempty
  · simp [hempty]
  simp only [Option.bind_eq_bind, Option.bind_eq_some_iff]
  constructor
  · rintro ⟨ts', hts, gw, hgw, vs, hvs, h⟩
    split_ifs at h with hall
    cases h
    obtain ⟨-, hid⟩ := Db.Table.find?_eq_some.1 hgw
    refine ⟨by simpa using hempty, hts, gw, vs, hgw, hvs, fun v hv => ?_, rfl⟩
    rw [← hid]
    exact (outcome_isSome store cache mono ts gw v).1 (hall v hv)
  · rintro ⟨-, hts, gw, vs, hgw, hvs, hharm, rfl⟩
    obtain ⟨-, hid⟩ := Db.Table.find?_eq_some.1 hgw
    refine ⟨ts, hts, gw, hgw, vs, hvs, if_pos fun v hv => ?_⟩
    exact (outcome_isSome store cache mono ts gw v).2 (by rw [hid]; exact hharm v hv)

/-- **A handler that comes to commit** does so. -/
theorem telemetry_of_toCommit (h : toCommit store cache mono now gatewayId body = some (ts, rows)) :
    (telemetry store cache mono now gatewayId body).2 = some (store.commit gatewayId ts rows) := by
  obtain ⟨htruthy, hts, gw, vs, hgw, hvs, hharm, rfl⟩ := toCommit_eq_some.1 h
  obtain ⟨hparse, hbind⟩ := messageTime_eq_some.1 hts
  obtain ⟨-, hid⟩ := Db.Table.find?_eq_some.1 hgw
  have hrows := (entries_spec store cache mono ts gw vs cache ⟨store.telemetry, store.latest⟩
    fun _ => rfl).1 (by rw [hid]; exact hharm)
  unfold telemetry
  simp only [htruthy, Bool.true_eq_false, if_false, hparse, hgw, hvs]
  generalize entries store gw mono ts cache ⟨store.telemetry, store.latest⟩ vs = result at hrows
  obtain ⟨cache', r⟩ := result
  dsimp only at hrows
  subst hrows
  simp only [hbind]
  rfl

/-- **Any other handler** that returns leaves the tables as they were. -/
theorem telemetry_of_not_toCommit (h : toCommit store cache mono now gatewayId body = none) {store' : Store}
    (hreturn : (telemetry store cache mono now gatewayId body).2 = some store') : store' = store := by
  unfold telemetry at hreturn
  dsimp only at hreturn
  split_ifs at hreturn with hempty
  · exact (Option.some.inj hreturn).symm
  split at hreturn
  · cases hreturn
  rename_i ts hparse
  split at hreturn
  · exact (Option.some.inj hreturn).symm
  rename_i gw hgw
  split at hreturn
  · cases hreturn
  rename_i vs hvs
  obtain ⟨-, hid⟩ := Db.Table.find?_eq_some.1 hgw
  -- what is left to raise is an entry, or the time
  by_cases hharm : ∀ v ∈ vs, Harmless store cache mono gw.id v
  · split at hreturn
    · rename_i hbind
      obtain rfl := Db.timestamptz_eq hbind
      have htime : messageTime now body = some _ := messageTime_eq_some.2 ⟨hparse, hbind⟩
      rw [hid] at hharm
      have hsome := toCommit_eq_some.2 ⟨by simpa using hempty, htime, gw, vs, hgw, hvs, hharm, rfl⟩
      rw [h] at hsome
      cases hsome
    · cases hreturn
  · have hnone := (entries_spec store cache mono ts gw vs cache ⟨store.telemetry, store.latest⟩
      fun _ => rfl).2 hharm
    generalize entries store gw mono ts cache ⟨store.telemetry, store.latest⟩ vs = result at hreturn hnone
    obtain ⟨cache', r⟩ := result
    dsimp only at hnone
    subst hnone
    cases hreturn

theorem messageRows_telemetry (store : Store) (cache : Cache) (mono ts : ℤ) (gw : Gateway) (vs : List Json) :
    (messageRows store cache mono gw ts vs).map (·.1) =
      vs.filterMap fun v => (outcome store cache mono gw ts v).join.map (·.1) := by
  unfold messageRows
  rw [List.map_filterMap]

/-- **A message of a list of entries** stores nothing, or the outcomes of all of them. -/
theorem telemetry_rows (hvs : Json.get body "values" = some (.arr vs)) {store' : Store}
    (h : (telemetry store cache mono now gatewayId body).2 = some store') :
    store'.telemetry = store.telemetry ∨ Addressed store now gatewayId body ∧
      (∀ v ∈ vs, Harmless store cache mono gatewayId v) ∧ ∃ gw ts, gw.id = gatewayId ∧
        store'.telemetry = store.telemetry ++
          vs.filterMap fun v => (outcome store cache mono gw ts v).join.map (·.1) := by
  cases hcommit : toCommit store cache mono now gatewayId body with
  | none =>
    rw [telemetry_of_not_toCommit hcommit h]
    exact Or.inl rfl
  | some result =>
    obtain ⟨ts, rows⟩ := result
    have hstore := (telemetry_of_toCommit hcommit).symm.trans h
    cases hstore
    obtain ⟨-, hts, gw, vs', hgw, hvs', hharm, rfl⟩ := toCommit_eq_some.1 hcommit
    obtain ⟨hparse, hbind⟩ := messageTime_eq_some.1 hts
    obtain ⟨-, hid⟩ := Db.Table.find?_eq_some.1 hgw
    rw [hvs] at hvs'
    obtain rfl : vs = vs' := Option.some.inj hvs'
    refine Or.inr ⟨⟨⟨ts, hparse, by rw [hbind]; rfl⟩, by rw [hgw]; rfl⟩, hharm, gw, ts, hid, ?_⟩
    rw [← messageRows_telemetry]
    exact Session.addAll_telemetry _ _

/-- **An addressed message of harmless entries** commits the outcomes of all of them. -/
theorem telemetry_commits (hvs : Json.get body "values" = some (.arr vs)) (hne : vs ≠ [])
    (haddr : Addressed store now gatewayId body) (hharm : ∀ v ∈ vs, Harmless store cache mono gatewayId v) :
    ∃ store' gw ts, (telemetry store cache mono now gatewayId body).2 = some store' ∧ gw.id = gatewayId ∧
      store'.telemetry = store.telemetry ++
        vs.filterMap fun v => (outcome store cache mono gw ts v).join.map (·.1) := by
  obtain ⟨⟨ts, hparse, hbind⟩, hgw⟩ := haddr
  obtain ⟨ts', hts'⟩ := Option.isSome_iff_exists.1 hbind
  obtain rfl := Db.timestamptz_eq hts'
  obtain ⟨gw, hgw⟩ := Option.isSome_iff_exists.1 hgw
  obtain ⟨-, hid⟩ := Db.Table.find?_eq_some.1 hgw
  have htruthy : (Json.arr vs).truthy = true := by simp [Json.truthy, hne]
  have hcommit := toCommit_eq_some.2 ⟨by rw [hvs]; exact htruthy, messageTime_eq_some.2 ⟨hparse, hts'⟩,
    gw, vs, hgw, by rw [hvs]; rfl, hharm, rfl⟩
  refine ⟨_, gw, ts', telemetry_of_toCommit hcommit, hid, ?_⟩
  rw [← messageRows_telemetry]
  exact Session.addAll_telemetry _ _

theorem WellFormed.slugOf_eq (h : WellFormed store gatewayId ch v) : slugOf v = some (Str.of ch.slug) := by
  have hne : Str.of ch.slug ≠ [] := by
    unfold Str.of
    rw [Ne, List.map_eq_nil_iff]
    exact ch.slug_format.1
  unfold slugOf
  rw [h.slug]
  exact if_neg hne

theorem WellFormed.key_truthy (h : WellFormed store gatewayId ch v) :
    ((Json.get v "measurement_key").getD (.text "")).truthy = true := by
  obtain ⟨s, hs, hne, -⟩ := h.key
  rw [hs]
  simpa [Json.truthy] using hne

end Message

/-- **One entry and the others.** Every well-formed entry of a message is stored, if and
only if there is none, or the message has a time and a gateway, none of its entries
raises, and the cache does not hide the channel of a well-formed one. -/
theorem telemetry_iff (store : Store) (cache : Cache) (mono now : ℤ) (gatewayId : UUID)
    (body : List (Str × Json)) (vs : List Json) (hvs : Json.get body "values" = some (.arr vs)) :
    (∀ v ch, .obj v ∈ vs → WellFormed store gatewayId ch v →
        Stored store cache mono now gatewayId body ch v) ↔
      (∀ v ch, .obj v ∈ vs → ¬ WellFormed store gatewayId ch v) ∨
      Addressed store now gatewayId body ∧ (∀ v ∈ vs, Harmless store cache mono gatewayId v) ∧
        ∀ v ch, .obj v ∈ vs → WellFormed store gatewayId ch v →
          lookup store cache mono gatewayId (Str.of ch.slug) = some (some ch.id) := by
  constructor
  · intro hall
    -- a stored entry tells that the loop went through, and its row which channel was found
    have hstored : ∀ v ch, .obj v ∈ vs → WellFormed store gatewayId ch v →
        Addressed store now gatewayId body ∧ (∀ v ∈ vs, Harmless store cache mono gatewayId v) ∧
          lookup store cache mono gatewayId (Str.of ch.slug) = some (some ch.id) := by
      intro v ch hv hwf
      obtain ⟨store', new, hcommit, hnew, row, hrow, hraw, -, hch⟩ := hall v ch hv hwf
      rcases telemetry_rows hvs hcommit with hsame | ⟨haddr, hharm, gw, ts, hid, hrows⟩
      · have : new = [] := by simpa [hsame] using hnew
        rw [this] at hrow
        cases hrow
      · refine ⟨haddr, hharm, ?_⟩
        rw [hnew, List.append_cancel_left_eq] at hrows
        rw [hrows, List.mem_filterMap] at hrow
        obtain ⟨v', -, hout⟩ := hrow
        obtain ⟨⟨row', latest⟩, hjoin, rfl⟩ := Option.map_eq_some_iff.1 hout
        obtain ⟨hraw', -, items, slug, hitems, hslug, hlookup⟩ :=
          outcome_row (Option.join_eq_some_iff.1 hjoin)
        rw [hitems, hraw] at hraw'
        cases hraw'
        rw [hwf.slugOf_eq] at hslug
        cases hslug
        rw [← hid, hlookup, hch]
    by_cases hnone : ∀ v ch, .obj v ∈ vs → ¬ WellFormed store gatewayId ch v
    · exact Or.inl hnone
    · push Not at hnone
      obtain ⟨v, ch, hv, hwf⟩ := hnone
      obtain ⟨haddr, hharm, -⟩ := hstored v ch hv hwf
      exact Or.inr ⟨haddr, hharm, fun v ch hv hwf => (hstored v ch hv hwf).2.2⟩
  · rintro (hnone | ⟨haddr, hharm, hcache⟩) v ch hv hwf
    · exact absurd hwf (hnone v ch hv)
    · obtain ⟨store', gw, ts, hcommit, hid, hrows⟩ :=
        telemetry_commits hvs (List.ne_nil_of_mem hv) haddr hharm
      obtain ⟨items, hitems, hfound⟩ := hharm _ hv
      cases hitems
      have hlookup := hcache v ch hv hwf
      obtain ⟨found, hl, hstore⟩ := hfound _ hwf.slugOf_eq
      rw [hlookup] at hl
      cases hl
      obtain ⟨row, latest, hentry, hraw, hgw, hch⟩ :=
        (entryRows_spec gw ch.id ts hwf.key_truthy).1 (hstore rfl hwf.key_truthy)
      refine ⟨store', _, hcommit, hrows, row, ?_, hraw, hgw.trans hid, hch⟩
      refine List.mem_filterMap.2 ⟨.obj v, hv, ?_⟩
      have hout : outcome store cache mono gw ts (.obj v) = some (some (row, latest)) := by
        simp only [outcome, hwf.slugOf_eq, hid, hlookup, hentry]
      rw [hout]
      rfl

/-! An ammonia sensor of gateway 7, and a message with two of its values. -/

def nh3 : SensorChannel := ⟨9, 7, "nh3", by simp [SlugFormat]⟩

def barn : Store where
  gateways := ⟨[.registered 7 "GW-001" 3 none], by simp⟩
  channels := ⟨[nh3], by simp⟩
  telemetry := []
  latest := Db.Table.empty

def reading (key : String) (value : ℤ) : List (Str × Json) :=
  [(Str.of "sensor_channel_id", .text "nh3"), (Str.of "measurement_key", .text key),
    (Str.of "value", .int value)]

def message (entries : List (List (Str × Json))) : List (Str × Json) :=
  [(Str.of "timestamp", .text "2026-05-04T12:00:00Z"), (Str.of "values", .arr (entries.map .obj))]

theorem reading_wellFormed (value : ℤ) : WellFormed barn 7 nh3 (reading "ammonia" value) where
  channel := ⟨by simp [barn], rfl⟩
  slug := rfl
  key := ⟨Str.of "ammonia", rfl, by decide, by decide⟩
  value := Or.inl ⟨value, rfl⟩
  unit := nofun
  quality := nofun

/-- **One number too large for `float`** costs the well-formed entry before it. -/
theorem huge_integer_costs_all :
    WellFormed barn 7 nh3 (reading "ammonia" 18) ∧
      ¬ Stored barn (fun _ => none) 0 0 7
        (message [reading "ammonia" 18, reading "humidity" (10 ^ 400)]) nh3 (reading "ammonia" 18) := by
  refine ⟨reading_wellFormed 18, ?_⟩
  rintro ⟨store', new, hcommit, -⟩
  have hnone : (telemetry barn (fun _ => none) 0 0 7
      (message [reading "ammonia" 18, reading "humidity" (10 ^ 400)])).2.isNone = true := by
    decide +kernel
  rw [hcommit] at hnone
  cases hnone

/-- A message of that entry alone stores it. -/
theorem reading_stored :
    Stored barn (fun _ => none) 0 0 7 (message [reading "ammonia" 18]) nh3 (reading "ammonia" 18) := by
  refine (telemetry_iff barn (fun _ => none) 0 0 7 _ [.obj (reading "ammonia" 18)] rfl).2 (Or.inr ?_)
    _ nh3 (by simp) (reading_wellFormed 18)
  refine ⟨⟨⟨1777896000000000, by decide +kernel, by decide⟩, by decide +kernel⟩, ?_, ?_⟩
  · rintro v hv
    rw [List.mem_singleton] at hv
    subst hv
    refine ⟨_, rfl, fun slug hslug => ?_⟩
    have : slug = Str.of "nh3" := by
      rw [(reading_wellFormed 18).slugOf_eq] at hslug
      exact (Option.some.inj hslug).symm
    subst this
    refine ⟨some 9, by decide +kernel, fun _ _ => ⟨by decide +kernel, fun n hn => ?_, by decide +kernel,
      by decide +kernel, by decide +kernel⟩⟩
    have : n = 18 := by cases hn; rfl
    subst this
    decide +kernel
  · rintro v ch hv hwf
    obtain rfl : ch = nh3 := by simpa [barn] using hwf.channel.1
    decide +kernel

end Server
