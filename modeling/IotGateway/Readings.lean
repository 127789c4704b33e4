import IotGateway.Gateway.PollOnce
import IotGateway.Server.Uncached
import IotGateway.Timestamps
import IotGateway.Topics

/-!
# Readings on their way to the tables

A poll reads the registers of a channel, and publishes what it reads; the broker delivers a
message at least once, late or never, and in any order; the worker stores its entries.

* `toCommit_body`: what the worker makes of a poll's payload.
* `telemetry_receive`: what one delivery adds to the table.
* `readings_arrive`: **in every state of every run the gateway's rows are those it had and,
  for each delivery of a poll's message in turn, one row for each register that the poll
  read, with its channel, its value and its instant; but if something in the message cannot
  be stored, or its channel is unknown, none.**
-/

namespace Readings

open Lts Python Server

/-! ## The payload -/

/-- `json.Marshal`, `json.loads`, and what they make of a number. -/
structure Codec where
  text : Gateway.Telemetry → List UInt8
  loads : List UInt8 → Loaded
  /-- a finite `float64`, as it is read -/
  number : Gateway.Float64 → Json
  /-- the bits of a `float64` -/
  double : Gateway.Float64 → Double

/-- A number is read as the `float` that was written, or as an integer that `float` turns
into it, and `JSONB` takes it; nothing is no JSON text. -/
structure Codec.Documented (c : Codec) : Prop where
  number : ∀ v : Gateway.Float64, v.Finite → valueDouble (some (c.number v)) = some (some (c.double v))
  jsonb : ∀ v : Gateway.Float64, v.Finite → Db.jsonb (c.number v) = true
  empty : c.loads [] = .notJson

/-- An entry of `values`, with its keys in order. -/
def Codec.entry (c : Codec) (v : Gateway.PollValue) : List (Str × Json) :=
  [(Str.of "measurement_key", .text v.measurementKey), (Str.of "quality", .text v.quality),
    (Str.of "sensor_channel_id", .text v.sensorChannelID), (Str.of "unit", .text v.unit),
    (Str.of "value", c.number v.value)]

def Codec.body (c : Codec) (p : Gateway.Telemetry) : List (Str × Json) :=
  [(Str.of "gateway_id", .text p.gatewayID), (Str.of "message_id", .text p.messageID),
    (Str.of "timestamp", .text p.timestamp), (Str.of "values", .arr (p.values.map fun v => .obj (c.entry v)))]

/-- A payload with a text is read back. -/
def Codec.Reads (c : Codec) (p : Gateway.Telemetry) : Prop :=
  (∀ v ∈ p.values, v.value.Finite) → c.loads (c.text p) = .value (.obj (c.body p))

/-- The row of a reading. -/
def Codec.row (c : Codec) (gw : Server.Gateway) (channelId : UUID) (ts : ℤ) (v : Gateway.PollValue) :
    Server.Telemetry :=
  ⟨gw.companyId, gw.siteId, gw.id, channelId, v.measurementKey, ts, some (c.double v.value), some v.unit,
    some v.quality, .obj (c.entry v)⟩

/-- The columns take the key and the unit. -/
def Fits (v : Gateway.PollValue) : Prop :=
  (Db.varchar 64 (Str.of v.measurementKey)).isSome = true ∧ (Db.varchar 32 (Str.of v.unit)).isSome = true

instance (v : Gateway.PollValue) : Decidable (Fits v) := inferInstanceAs (Decidable (_ ∧ _))

/-- The entry does no harm: its slug can be looked up, and if there is such a channel and a
key, its fields can be stored. -/
def Accepted (store : Store) (g : UUID) (v : Gateway.PollValue) : Prop :=
  (Db.text (Str.of v.sensorChannelID)).isSome = true ∧
    ((store.channels.find? (g, v.sensorChannelID)).isSome = true → v.measurementKey ≠ "" → Fits v)

instance (store : Store) (g : UUID) (v : Gateway.PollValue) : Decidable (Accepted store g v) :=
  inferInstanceAs (Decidable (_ ∧ _))

/-- The row of an entry, if its channel is known and it has a key. -/
def Codec.reading (c : Codec) (store : Store) (gw : Server.Gateway) (ts : ℤ) (v : Gateway.PollValue) :
    Option Server.Telemetry :=
  if v.measurementKey = "" then none
  else (store.channels.find? (gw.id, v.sensorChannelID)).map fun ch => c.row gw ch.id ts v

section Entry

variable {c : Codec} {store : Store} {cache : Cache} {mono now ts t : ℤ} {gw : Server.Gateway}
  {v : Gateway.PollValue} {p : Gateway.Telemetry}

theorem text_of_varchar {n : ℕ} {s : String} (h : (Db.varchar n (Str.of s)).isSome = true) :
    Db.text (Str.of s) = some s := by
  have hsome := Db.text_isSome_of_varchar h
  rw [Db.text_of] at hsome ⊢
  split_ifs at hsome ⊢
  · cases hsome
  · rfl

theorem truthy_text {s : String} : (Json.text s).truthy = true ↔ s ≠ "" := by
  have hnil : Str.of s = [] ↔ s = "" := by
    rw [Str.of, List.map_eq_nil_iff, String.toList_eq_nil_iff]
  simp only [Json.text, Json.truthy, decide_eq_true_eq]
  exact not_congr hnil

theorem jsonbString_of {s : String} (h : (Db.text (Str.of s)).isSome = true) :
    Db.jsonbString (Str.of s) = true := by
  rw [Db.text_of] at h
  split_ifs at h with hnul
  · cases h
  · rw [Str.of]
    generalize s.toList = cs at hnul
    induction cs with
    | nil => rfl
    | cons ch cs ih =>
      rw [List.mem_cons, not_or] at hnul
      have hne : ch ≠ Char.ofNat 0 := fun heq => hnul.1 heq.symm
      simp only [List.map_cons, Db.jsonbString, Bool.and_eq_true]
      exact ⟨decide_eq_true hne, ih hnul.2⟩

theorem quality_varchar (hq : v.quality = "good" ∨ v.quality = "out_of_range") :
    (Db.varchar 32 (Str.of v.quality)).isSome = true := by
  rcases hq with hq | hq <;> rw [hq] <;> decide +kernel

/-- **The fields fit their columns** exactly when the key and the unit do. -/
theorem storable_entry (hdoc : c.Documented) (hfin : v.value.Finite)
    (hq : v.quality = "good" ∨ v.quality = "out_of_range")
    (hslug : (Db.text (Str.of v.sensorChannelID)).isSome = true) : Storable (c.entry v) ↔ Fits v := by
  constructor
  · intro h
    have hunit : (Db.nullable (Db.varchar 32) (.text v.unit)).isSome = true := h.unit
    rw [Json.text, Db.nullable, Option.isSome_map] at hunit
    exact ⟨h.key, hunit⟩
  · rintro ⟨hkey, hunit⟩
    refine ⟨hkey, ?_, ?_, ?_, ?_⟩
    · intro n hn
      have hvalue : some (c.number v.value) = some (.int n) := hn
      have hdouble := hdoc.number v.value hfin
      rw [hvalue] at hdouble
      obtain ⟨x, hx, -⟩ := Option.map_eq_some_iff.1 hdouble
      rw [hx]
      rfl
    · have hnull : (Db.nullable (Db.varchar 32) (.text v.unit)).isSome = true := by
        rw [Json.text, Db.nullable, Option.isSome_map]
        exact hunit
      exact hnull
    · have hnull : (Db.nullable (Db.varchar 32) (.text v.quality)).isSome = true := by
        rw [Json.text, Db.nullable, Option.isSome_map]
        exact quality_varchar hq
      exact hnull
    · have hkey' := jsonbString_of (Db.text_isSome_of_varchar hkey)
      have hunit' := jsonbString_of (Db.text_isSome_of_varchar hunit)
      have hquality' := jsonbString_of (Db.text_isSome_of_varchar (quality_varchar hq))
      have hslug' := jsonbString_of hslug
      have hvalue := hdoc.jsonb v.value hfin
      have hnames : Db.jsonbString (Str.of "measurement_key") = true ∧ Db.jsonbString (Str.of "quality") = true ∧
          Db.jsonbString (Str.of "sensor_channel_id") = true ∧ Db.jsonbString (Str.of "unit") = true ∧
          Db.jsonbString (Str.of "value") = true := by decide +kernel
      obtain ⟨h1, h2, h3, h4, h5⟩ := hnames
      simp only [Codec.entry, Json.text, Db.jsonb, Db.jsonbFields, hkey', hunit', hquality', hslug', hvalue,
        h1, h2, h3, h4, h5, Bool.and_true]

/-- The slug of an entry. -/
theorem slugOf_entry : slugOf (c.entry v) =
    if v.sensorChannelID = "" then none else some (Str.of v.sensorChannelID) := by
  have hget : Json.get (c.entry v) "sensor_channel_id" = some (.str (Str.of v.sensorChannelID)) := rfl
  have hnil : Str.of v.sensorChannelID = [] ↔ v.sensorChannelID = "" := by
    rw [Str.of, List.map_eq_nil_iff, String.toList_eq_nil_iff]
  rw [slugOf, hget]
  simp only [hnil]

/-- No channel has an empty slug. -/
theorem find?_empty (store : Store) (g : UUID) : store.channels.find? (g, "") = none := by
  refine Option.eq_none_iff_forall_ne_some.2 fun ch hch => ?_
  obtain ⟨-, hkey⟩ := Db.Table.find?_eq_some.1 hch
  have hslug : ch.slug = "" := congrArg Prod.snd hkey
  have hne := ch.slug_format.1
  rw [hslug] at hne
  exact hne rfl

/-- **What an entry comes to** that fits. -/
theorem entryRows_entry (hdoc : c.Documented) (hfin : v.value.Finite)
    (hq : v.quality = "good" ∨ v.quality = "out_of_range")
    (hslug : (Db.text (Str.of v.sensorChannelID)).isSome = true) (hkey : v.measurementKey ≠ "") (hfits : Fits v)
    (channelId : UUID) : ∃ latest, entryRows gw channelId ts (c.entry v) =
      some (some (c.row gw channelId ts v, latest)) := by
  have hstorable : Storable (c.entry v) := (storable_entry hdoc hfin hq hslug).2 hfits
  obtain ⟨hk, hu⟩ := hfits
  have hgetKey : (Json.get (c.entry v) "measurement_key").getD (.text "") = .text v.measurementKey := rfl
  have hgetUnit : (Json.get (c.entry v) "unit").getD .null = .str (Str.of v.unit) := rfl
  have hgetQuality : (Json.get (c.entry v) "quality").getD (.text "good") = .str (Str.of v.quality) := rfl
  have hgetValue : Json.get (c.entry v) "value" = some (c.number v.value) := rfl
  have hraw : Db.json (.obj (c.entry v)) = some (.obj (c.entry v)) := if_pos hstorable.raw
  have htruthy : ¬ (Json.text v.measurementKey).truthy = false := by
    rw [truthy_text.2 hkey]
    decide
  obtain ⟨latestKey, hlatestKey⟩ := Option.isSome_iff_exists.1 hk
  obtain ⟨latestUnit, hlatestUnit⟩ := Option.isSome_iff_exists.1 hu
  obtain ⟨latestQuality, hlatestQuality⟩ := Option.isSome_iff_exists.1 (quality_varchar hq)
  refine ⟨⟨gw.id, channelId, latestKey, ts, some (c.double v.value), some latestUnit, some latestQuality⟩, ?_⟩
  unfold entryRows
  dsimp only
  rw [hgetKey, hgetUnit, hgetQuality, hgetValue, if_neg htruthy, hdoc.number v.value hfin, hraw]
  simp only [Json.text, Db.notNull, Db.nullable, text_of_varchar hk, text_of_varchar hu,
    text_of_varchar (quality_varchar hq), hlatestKey, hlatestUnit, hlatestQuality, Option.map_some,
    Option.bind_eq_bind, Option.bind_some]
  rfl

/-- What the lookup of an entry's channel finds. -/
theorem queryChannel_entry (hslug : (Db.text (Str.of v.sensorChannelID)).isSome = true) (g : UUID) :
    queryChannel store g (Str.of v.sensorChannelID) =
      some ((store.channels.find? (g, v.sensorChannelID)).map (·.id)) := by
  have htext : Db.text (Str.of v.sensorChannelID) = some v.sensorChannelID := by
    rw [Db.text_of] at hslug ⊢
    split_ifs at hslug ⊢
    · cases hslug
    · rfl
  rw [queryChannel, htext]
  rfl

/-- **One entry**: its row, or none, if it is accepted; else it raises. -/
theorem outcome_entry (hdoc : c.Documented) (hcoherent : Coherent gw.id store cache) (hfin : v.value.Finite)
    (hq : v.quality = "good" ∨ v.quality = "out_of_range") :
    (Accepted store gw.id v → ∃ found, outcome store cache mono gw ts (.obj (c.entry v)) = some found ∧
      found.map (·.1) = c.reading store gw ts v) ∧
    (v.sensorChannelID ≠ "" → ¬ Accepted store gw.id v →
      outcome store cache mono gw ts (.obj (c.entry v)) = none) := by
  have hlookup := hcoherent.lookup mono (Str.of v.sensorChannelID)
  constructor
  · rintro ⟨hslug, hfits⟩
    rw [queryChannel_entry hslug] at hlookup
    unfold outcome Codec.reading
    dsimp only
    rw [slugOf_entry]
    by_cases hempty : v.sensorChannelID = ""
    · rw [if_pos hempty]
      refine ⟨none, rfl, ?_⟩
      rw [hempty, find?_empty]
      split_ifs <;> rfl
    · rw [if_neg hempty]
      dsimp only
      rw [hlookup]
      cases hfind : store.channels.find? (gw.id, v.sensorChannelID) with
      | none =>
        refine ⟨none, rfl, ?_⟩
        split_ifs <;> rfl
      | some ch =>
        rw [hfind] at hfits
        by_cases hkey : v.measurementKey = ""
        · rw [if_pos hkey]
          refine ⟨none, ?_, rfl⟩
          refine entryRows_skip gw ch.id ts fun htrue => ?_
          have htruthy : (Json.text v.measurementKey).truthy = true := htrue
          exact truthy_text.1 htruthy hkey
        · rw [if_neg hkey]
          obtain ⟨latest, hrows⟩ := @entryRows_entry c ts gw v hdoc hfin hq hslug hkey (hfits rfl hkey) ch.id
          exact ⟨_, hrows, rfl⟩
  · intro hempty hno
    unfold outcome
    dsimp only
    rw [slugOf_entry, if_neg hempty]
    dsimp only
    rw [hlookup]
    by_cases hslug : (Db.text (Str.of v.sensorChannelID)).isSome = true
    · rw [queryChannel_entry hslug]
      cases hfind : store.channels.find? (gw.id, v.sensorChannelID) with
      | none =>
        refine absurd ⟨hslug, fun hsome => ?_⟩ hno
        rw [hfind] at hsome
        cases hsome
      | some ch =>
        dsimp only [Option.map_some]
        have hkey : v.measurementKey ≠ "" := by
          intro hkey
          exact hno ⟨hslug, fun _ hne => absurd hkey hne⟩
        have hnofits : ¬ Fits v := fun hfits => hno ⟨hslug, fun _ _ => hfits⟩
        have hnot : ¬ Storable (c.entry v) := fun h => hnofits ((storable_entry hdoc hfin hq hslug).1 h)
        have htruthy : ((Json.get (c.entry v) "measurement_key").getD (.text "")).truthy = true :=
          truthy_text.2 hkey
        exact (entryRows_spec gw ch.id ts htruthy).2 hnot
    · have hnone : queryChannel store gw.id (Str.of v.sensorChannelID) = none := by
        rw [queryChannel, Option.not_isSome_iff_eq_none.1 hslug]
        rfl
      rw [hnone]

/-! ## One message -/

/-- The rows of a payload: those of its entries, if all are accepted. -/
def Codec.rows (c : Codec) (store : Store) (gw : Server.Gateway) (ts : ℤ) (p : Gateway.Telemetry) :
    List Server.Telemetry :=
  if ∀ v ∈ p.values, Accepted store gw.id v then p.values.filterMap (c.reading store gw ts) else []

theorem messageTime_body (htime : p.timestamp = Gateway.formatRFC3339Nano t)
    (hyears : Timestamps.InYears 86400000000000 t) : messageTime now (c.body p) = some (t / 1000) := by
  have hget : Json.get (c.body p) "timestamp" = some (.text p.timestamp) := rfl
  have hparse : parseIso8601 now (some (.text (Gateway.formatRFC3339Nano t))) = some (t / 1000) :=
    Timestamps.parseIso8601_of_readReplaced (Timestamps.readReplaced_format hyears) now
  have hbind : Db.timestamptz (t / 1000) = some (t / 1000) := by
    rw [Timestamps.inYears_iff] at hyears
    exact if_pos (by omega)
  rw [messageTime_eq_some, hget, htime]
  exact ⟨hparse, hbind⟩

/-- **What the worker makes of a poll's payload.** -/
theorem toCommit_body (hdoc : c.Documented) (hcoherent : Coherent gw.id store cache)
    (hgw : store.gateways.find? gw.id = some gw) (htime : p.timestamp = Gateway.formatRFC3339Nano t)
    (hyears : Timestamps.InYears 86400000000000 t) (hne : p.values ≠ [])
    (hfin : ∀ v ∈ p.values, v.value.Finite)
    (hq : ∀ v ∈ p.values, v.quality = "good" ∨ v.quality = "out_of_range") :
    ((toCommit store cache mono now gw.id (c.body p)).map fun r => r.2.map (·.1)).getD [] =
      c.rows store gw (t / 1000) p := by
  have hget : (Json.get (c.body p) "values").getD .null = .arr (p.values.map fun v => .obj (c.entry v)) := rfl
  have htruthy : ¬ (Json.arr (p.values.map fun v => .obj (c.entry v))).truthy = false := by
    simp [Json.truthy, hne]
  unfold toCommit Codec.rows
  dsimp only
  rw [hget, if_neg htruthy, messageTime_body htime hyears, hgw]
  simp only [Option.bind_eq_bind, Option.bind_some, iterate]
  by_cases hall : ∀ v ∈ p.values, Accepted store gw.id v
  · have hsome : ∀ v ∈ p.values.map fun v => Json.obj (c.entry v),
        (outcome store cache mono gw (t / 1000) v).isSome = true := by
      intro j hj
      obtain ⟨v, hv, rfl⟩ := List.mem_map.1 hj
      obtain ⟨found, hfound, -⟩ := (@outcome_entry c store cache mono (t / 1000) gw v hdoc hcoherent (hfin v hv)
        (hq v hv)).1 (hall v hv)
      rw [hfound]
      rfl
    rw [if_pos hsome, if_pos hall, Option.map_some, Option.getD_some, messageRows_telemetry, List.filterMap_map]
    refine List.filterMap_congr fun v hv => ?_
    obtain ⟨found, hfound, hrow⟩ := (@outcome_entry c store cache mono (t / 1000) gw v hdoc hcoherent (hfin v hv)
      (hq v hv)).1 (hall v hv)
    rw [Function.comp_apply, hfound]
    exact hrow
  · rw [if_neg hall, if_neg]
    · rfl
    · intro hsome
      refine hall fun v hv => ?_
      by_contra hno
      have hempty : v.sensorChannelID ≠ "" := by
        intro hempty
        refine hno ⟨by rw [hempty]; decide +kernel, fun hfind => ?_⟩
        rw [hempty, find?_empty] at hfind
        cases hfind
      have hnone := (@outcome_entry c store cache mono (t / 1000) gw v hdoc hcoherent (hfin v hv) (hq v hv)).2
        hempty hno
      have := hsome _ (List.mem_map.2 ⟨v, hv, rfl⟩)
      rw [hnone] at this
      cases this

/-- The table after a payload has been handled. -/
theorem telemetry_handled (db : Database) (cache : Cache) (mono now : ℤ) (g : UUID) (body : List (Str × Json)) :
    (handled db cache mono now (.telemetry, g, .obj body)).telemetry =
        db.telemetry ++ ((toCommit db.toStore cache mono now g body).map fun r => r.2.map (·.1)).getD [] ∧
      SameSource g db.toStore (handled db cache mono now (.telemetry, g, .obj body)).toStore := by
  have hdb : (handled db cache mono now (.telemetry, g, .obj body)).toStore =
      (telemetry db.toStore cache mono now g body).2.getD db.toStore := by
    simp only [handled, handle]
    cases (telemetry db.toStore cache mono now g body).2 <;> rfl
  have htelemetry : (handled db cache mono now (.telemetry, g, .obj body)).telemetry =
      ((telemetry db.toStore cache mono now g body).2.getD db.toStore).telemetry := congrArg Store.telemetry hdb
  rw [htelemetry, hdb, telemetry_getD]
  cases toCommit db.toStore cache mono now g body with
  | none => exact ⟨(List.append_nil _).symm, .refl⟩
  | some r => exact ⟨Session.addAll_telemetry _ _, commit_source r.2⟩

end Entry

/-! ## One delivery -/

section Delivery

variable {c : Codec} {cfg : Gateway.Config} {w : Worker} {g : UUID}

/-- The topic of `pollOnce` is read back. -/
theorem parse_telemetry (h : cfg.Valid) : parseTopic (Str.of ("gw/" ++ cfg.gateway.id ++ "/telemetry")) =
    some (Str.of cfg.gateway.id, Str.of HandledKind.telemetry.text) := by
  have htopic : "gw/" ++ cfg.gateway.id ++ "/telemetry" = Topics.topic cfg.gateway.id .telemetry := by
    have hsuffix : "/telemetry" = "/" ++ "telemetry" := by decide
    rw [hsuffix, ← String.append_assoc]
    rfl
  rw [htopic]
  exact Topics.parse_topic h .telemetry

/-- **A delivery**, whatever the caches hold. -/
theorem db_receive (hcfg : cfg.Valid) (hw : w.lookups.Coherent w.db.toStore)
    (hserial : queryGateway w.db.toStore (Str.of cfg.gateway.id) = some (some g)) (mono now : ℤ)
    (payload : List UInt8) :
    (w.receive c.loads mono now (Str.of ("gw/" ++ cfg.gateway.id ++ "/telemetry")) payload).db =
      match c.loads payload with
      | .value body => handled w.db Lookups.empty.sensors mono now (.telemetry, g, body)
      | _ => w.db := by
  have hroute : route c.loads w.db.toStore Lookups.empty.gateways mono
      (Str.of ("gw/" ++ cfg.gateway.id ++ "/telemetry")) payload =
        (Function.update Lookups.empty.gateways (Str.of cfg.gateway.id) (some (some g, mono + ttl)),
          match c.loads payload with
          | .value body => some (.telemetry, g, body)
          | _ => none) := by
    have hkind : handlerOf (Str.of HandledKind.telemetry.text) = some .telemetry := handlerOf_eq_some.2 rfl
    unfold route
    rw [parse_telemetry hcfg]
    dsimp only
    rw [gatewayUuidBySerial, hserial, hkind]
    dsimp only [Lookups.empty, Option.map_some]
    cases c.loads payload <;> rfl
  rw [(Worker.receive_coherent w hw mono now _ payload).1]
  unfold dispatch handled
  rw [hroute]
  cases c.loads payload <;> rfl

end Delivery

/-! ## The system -/

/-- A poll of a channel, whose successful reads have registers, and when its payload is made. -/
structure Poll where
  runner : Gateway.ChannelRunner
  messageID : String
  time : ℤ
  read : ℕ → ℕ → Gateway.Outcome
  contract : Gateway.HalContract runner read
  years : Timestamps.InYears 86400000000000 time

def Poll.header (p : Poll) (gatewayID : String) : Gateway.Telemetry :=
  ⟨p.messageID, gatewayID, Gateway.formatRFC3339Nano p.time, []⟩

/-- A message of a poll. -/
structure Message where
  poll : Poll
  topic : String
  payload : List UInt8

/-- What the agent has handed to the client, the worker, and the polls whose messages have
been delivered, in that order. -/
structure System where
  sent : List Message
  worker : Worker
  delivered : List Poll

/-- The gateway's rows, in the order they came. -/
def series (g : UUID) (db : Database) : List Server.Telemetry := db.telemetry.filter fun row => row.gatewayId = g

/-- The names and the gateway's owner are kept, and its rows. -/
structure Aside (g : UUID) (db db' : Database) : Prop where
  names : SameNames db.toStore db'.toStore
  source : SameSource g db.toStore db'.toStore
  series : series g db' = series g db

inductive Event (gatewayID : String) (g : UUID) where
  | poll (p : Poll) (publish : Except String Unit)
  | deliver (i : ℕ) (mono now : ℤ)
  /-- any other message, of this gateway or another one, or of nobody -/
  | other (mono now : ℤ) (topic : Str) (payload : List UInt8)
      (h : parseTopic topic ≠ some (Str.of gatewayID, Str.of HandledKind.telemetry.text))
  /-- the worker's process ends, and another one starts -/
  | restart
  /-- another process writes -/
  | aside (f : Database → Database) (h : ∀ db, Aside g db (f db))

section Run

variable (c : Codec) (affine : ℤ → ℚ → ℚ → Gateway.Float64) (gatewayID : String) (g : UUID)

/-- A published message may be delivered, late or again, also if `Publish` did not wait for it. -/
def step (s : System) : Event gatewayID g → Option System
  | .poll p publish =>
    (Gateway.pollOnce affine c.text p.runner (p.header gatewayID) p.read publish).map fun r =>
      { s with sent := s.sent ++ r.published.map fun m => ⟨p, m.1, m.2.getD []⟩ }
  | .deliver i mono now => s.sent[i]?.map fun m =>
      { s with
        worker := s.worker.receive c.loads mono now (Str.of m.topic) m.payload
        delivered := s.delivered ++ [m.poll] }
  | .other mono now topic payload _ => some { s with worker := s.worker.receive c.loads mono now topic payload }
  | .restart => some { s with worker := { s.worker with lookups := .empty } }
  | .aside f _ => some { s with worker := { s.worker with db := f s.worker.db } }

def start (db : Database) : System := ⟨[], ⟨db, .empty⟩, []⟩

/-! ## What is read -/

/-- No attempt follows a success or a timeout. -/
def final : Gateway.Outcome → Bool
  | .ok _ => true
  | .error err => err = ⟨Hal.gwErrTimeout⟩

/-- The first register of measurement `i`, if one of the three attempts reads it. -/
def Poll.register (p : Poll) (i : ℕ) : Option Hal.Word :=
  ((List.range 3).find? fun a => final (p.read i a)).bind fun a => (p.read i a).toOption.bind List.head?

/-- The registers that the poll reads, in the order of its measurements. -/
def Poll.readings (p : Poll) : List (Gateway.Measurement × Hal.Word) :=
  p.runner.measurements.zipIdx.filterMap fun m => (p.register m.2).map fun w => (m.1, w)

/-- The entries of what is read. -/
def Poll.entries (p : Poll) : List Gateway.PollValue :=
  p.readings.map fun r => r.1.entry affine p.runner.cfg r.2

/-- Everything that the poll reads has a text, and can be stored. -/
def Poll.Arrives (store : Store) (p : Poll) : Prop :=
  ∀ v ∈ p.entries affine, v.value.Finite ∧ Accepted store g v

instance (store : Store) (p : Poll) : Decidable (p.Arrives affine g store) :=
  inferInstanceAs (Decidable (∀ v ∈ p.entries affine, _))

/-- The rows of a poll: one for each register that it reads, if its channel is known, or none
at all. -/
def Poll.rows (store : Store) (gw : Server.Gateway) (p : Poll) : List Server.Telemetry :=
  if p.Arrives affine gw.id store then (p.entries affine).filterMap (c.reading store gw (p.time / 1000)) else []

/-- The gateway's rows are those it had and, after them, those of each delivery in turn. -/
def Arrived (db : Database) (gw : Server.Gateway) (s : System) : Prop :=
  series gw.id s.worker.db = series gw.id db ++ s.delivered.flatMap fun p => p.rows c affine db.toStore gw

/-- The entries of the poll's payload. -/
def Poll.values (p : Poll) : List Gateway.PollValue :=
  ((Gateway.pollMeasurements affine p.runner.cfg p.read 0 p.runner.measurements ⟨[], true, []⟩).map
    (·.values)).getD []

def Poll.payload (p : Poll) : Gateway.Telemetry := { p.header gatewayID with values := p.values affine }

variable {c affine gatewayID g} {p : Poll}

theorem register_eq_some {i : ℕ} {w : Hal.Word} :
    p.register i = some w ↔ ∃ ws, Gateway.ReadsRegs (p.read i) (w :: ws) := by
  -- what another attempt follows is an error, and no timeout
  have hagain : ∀ b, final (p.read i b) = false ↔ ∃ err, p.read i b = .error err ∧ err ≠ ⟨Hal.gwErrTimeout⟩ := by
    intro b
    cases p.read i b <;> simp [final]
  unfold Poll.register
  simp only [Option.bind_eq_some_iff, List.find?_range_eq_some, List.mem_range, Bool.not_eq_true']
  constructor
  · rintro ⟨a, ⟨-, ha, hbefore⟩, regs, hregs, hhead⟩
    obtain ⟨ws, rfl⟩ := List.head?_eq_some_iff.1 hhead
    refine ⟨ws, a, ha, ?_, fun b hb => (hagain b).1 (hbefore b hb)⟩
    cases hread : p.read i a with
    | error err => rw [hread] at hregs; cases hregs
    | ok regs => rw [hread] at hregs; cases hregs; rfl
  · rintro ⟨ws, a, ha, hread, hbefore⟩
    refine ⟨a, ⟨by rw [hread]; rfl, ha, fun b hb => (hagain b).2 (hbefore b hb)⟩, w :: ws, ?_, rfl⟩
    rw [hread]
    rfl

/-- **The entries of a payload** are those of the registers that were read. -/
theorem values_eq (affine : ℤ → ℚ → ℚ → Gateway.Float64) (p : Poll) : p.values affine = p.entries affine := by
  obtain ⟨att, hrun, hkeys, hatt⟩ :=
    @Gateway.pollMeasurements_eq affine p.runner.cfg p.read p.runner.measurements 0 p.contract.ne_nil
      ⟨[], true, []⟩
  simp only [Nat.zero_add] at hatt
  unfold Poll.values Poll.entries Poll.readings
  rw [hrun, Option.map_some, Option.getD_some, List.nil_append, ← hkeys, List.zipIdx_map, List.filterMap_map,
    List.map_filterMap]
  -- each measurement is met with its number
  conv_lhs => rw [← List.zipIdx_map_fst 0 att, List.filterMap_map]
  refine List.filterMap_congr fun q hq => ?_
  obtain ⟨hstop, hfollow⟩ := hatt q.2 q.1 (List.mem_zipIdx_iff_getElem?.1 hq)
  have hlast : ∀ regs, q.1.2.getLast? = some (.ok regs) ↔ Gateway.ReadsRegs (p.read q.2) regs :=
    fun regs => Gateway.getLast?_eq_ok_iff hstop hfollow
  dsimp only [Function.comp_apply, Prod.map, id]
  unfold Gateway.entryOf
  cases hregister : p.register q.2 with
  | some w =>
    obtain ⟨ws, hreads⟩ := register_eq_some.1 hregister
    rw [(hlast _).2 hreads]
    rfl
  | none =>
    split
    · rename_i first rest hok
      rw [register_eq_some.2 ⟨rest, (hlast _).1 hok⟩] at hregister
      cases hregister
    · rfl

/-- What a poll hands to `Publish`. -/
theorem pollOnce_published (publish : Except String Unit) :
    ∃ r, Gateway.pollOnce affine c.text p.runner (p.header gatewayID) p.read publish = some r ∧
      r.published = if p.values affine = [] then [] else
        [("gw/" ++ gatewayID ++ "/telemetry", Gateway.marshal c.text (p.payload affine gatewayID))] := by
  obtain ⟨att, hrun, -, -⟩ :=
    @Gateway.pollMeasurements_eq affine p.runner.cfg p.read p.runner.measurements 0 p.contract.ne_nil
      ⟨[], true, []⟩
  unfold Gateway.pollOnce Poll.payload Poll.values
  rw [hrun, Option.bind_eq_bind, Option.bind_some, Option.map_some, Option.getD_some]
  dsimp only
  split_ifs with hempty
  · exact ⟨_, rfl, rfl⟩
  · exact ⟨_, rfl, rfl⟩

/-! ## What a step keeps -/

theorem quality_values {v : Gateway.PollValue} (hv : v ∈ p.values affine) :
    v.quality = "good" ∨ v.quality = "out_of_range" := by
  rw [values_eq] at hv
  obtain ⟨r, -, rfl⟩ := List.mem_map.1 hv
  rw [Gateway.Measurement.entry, Gateway.Measurement.entryQuality]
  split_ifs
  · exact .inr rfl
  · exact .inr rfl
  · exact .inl rfl

theorem finite_or_empty (c : Codec) (q : Gateway.Telemetry) :
    (∀ v ∈ q.values, v.value.Finite) ∧ (Gateway.marshal c.text q).getD [] = c.text q ∨
      (¬ ∀ v ∈ q.values, v.value.Finite) ∧ (Gateway.marshal c.text q).getD [] = [] := by
  unfold Gateway.marshal
  split_ifs with hfin
  · exact .inl ⟨hfin, rfl⟩
  · exact .inr ⟨hfin, rfl⟩

/-- **What a delivery adds**, if the payload has a text: -/
theorem rows_of_finite {store : Store} {gw : Server.Gateway} (hfin : ∀ v ∈ p.values affine, v.value.Finite) :
    c.rows store gw (p.time / 1000) (p.payload affine gatewayID) = p.rows c affine store gw := by
  have hvalues : (p.payload affine gatewayID).values = p.entries affine := values_eq affine p
  rw [values_eq] at hfin
  unfold Codec.rows Poll.rows
  rw [hvalues]
  by_cases hall : ∀ v ∈ p.entries affine, Accepted store gw.id v
  · have harrives : p.Arrives affine gw.id store := fun v hv => ⟨hfin v hv, hall v hv⟩
    rw [if_pos hall, if_pos harrives]
  · have hlost : ¬ p.Arrives affine gw.id store := fun h => hall fun v hv => (h v hv).2
    rw [if_neg hall, if_neg hlost]

/-- and if it has none. -/
theorem rows_of_infinite {store : Store} {gw : Server.Gateway} (hinf : ¬ ∀ v ∈ p.values affine, v.value.Finite) :
    p.rows c affine store gw = [] := by
  rw [values_eq] at hinf
  exact if_neg fun h => hinf fun v hv => (h v hv).1

/-- The rows depend on the channels, and on the gateway's owner. -/
theorem rows_congr {store store' : Store} {gw gw' : Server.Gateway} (hchannels : store'.channels = store.channels)
    (hid : gw'.id = gw.id) (hcompany : gw'.companyId = gw.companyId) (hsite : gw'.siteId = gw.siteId) :
    p.rows c affine store' gw' = p.rows c affine store gw := by
  have hreading : c.reading store' gw' = c.reading store gw := by
    funext ts v
    unfold Codec.reading Codec.row
    rw [hchannels, hid, hcompany, hsite]
  have haccepted : Accepted store' gw'.id = Accepted store gw.id := by
    funext v
    unfold Accepted
    rw [hchannels, hid]
  have harrives : p.Arrives affine gw'.id store' ↔ p.Arrives affine gw.id store := by
    unfold Poll.Arrives
    rw [haccepted]
  unfold Poll.rows
  simp only [harrives, hreading]

theorem gatewayId_rows {store : Store} {gw : Server.Gateway} {row : Server.Telemetry}
    (h : row ∈ p.rows c affine store gw) : row.gatewayId = gw.id := by
  unfold Poll.rows at h
  split_ifs at h
  · obtain ⟨v, -, hreading⟩ := List.mem_filterMap.1 h
    unfold Codec.reading at hreading
    split_ifs at hreading
    obtain ⟨ch, -, rfl⟩ := Option.map_eq_some_iff.1 hreading
    rfl
  · cases h

theorem series_append {db db' : Database} {rows : List Server.Telemetry}
    (h : db'.telemetry = db.telemetry ++ rows) (hrows : ∀ row ∈ rows, row.gatewayId = g) :
    series g db' = series g db ++ rows := by
  have hall : rows.filter (fun row => row.gatewayId = g) = rows :=
    List.filter_eq_self.2 fun row hrow => decide_eq_true (hrows row hrow)
  rw [series, h, List.filter_append, hall]
  rfl

/-- A gateway with this id has one row, and one serial number. -/
theorem serial_unique {store : Store} {serial serial' : Str} (h : queryGateway store serial = some (some g))
    (h' : queryGateway store serial' = some (some g)) : serial = serial' := by
  obtain ⟨gw, hgw, hid, hserial⟩ := Worker.queryGateway_some h
  obtain ⟨gw', hgw', hid', hserial'⟩ := Worker.queryGateway_some h'
  have hsame : gw = gw' := List.inj_on_of_nodup_map store.gateways.keys hgw hgw' (hid.trans hid'.symm)
  rw [← hserial, hsame, hserial']

/-- The handlers of the other kinds change neither owners nor readings. -/
theorem source_handled (db : Database) (cache : Cache) (mono now : ℤ) {kind : HandledKind} (g' : UUID) (body : Json)
    (h : kind ≠ .telemetry) : SameSource g' db.toStore (handled db cache mono now (kind, g', body)).toStore ∧
      (handled db cache mono now (kind, g', body)).telemetry = db.telemetry := by
  cases body with
  | obj items =>
    cases kind with
    | telemetry => exact absurd rfl h
    | state =>
      simp only [handled, handle, state]
      cases hgw : db.gateways.find? g' with
      | none => exact ⟨.refl, rfl⟩
      | some gw =>
        cases stateReport now items with
        | none => exact ⟨.refl, rfl⟩
        | some r =>
          refine ⟨⟨rfl, ?_⟩, rfl⟩
          have hfind := Db.Table.find?_modify (t := db.gateways) (Gateway.report_id r) g'
          simp only [Option.bind_eq_bind, Option.bind_some, Option.map_some, Option.getD_some, hfind,
            Option.map_map]
          rfl
    | heartbeat =>
      simp only [handled, handle, heartbeat]
      cases hgw : db.gateways.find? g' with
      | none => exact ⟨.refl, rfl⟩
      | some gw =>
        cases (parseIso8601 now (Json.get items "timestamp")).bind Db.timestamptz with
        | none => exact ⟨.refl, rfl⟩
        | some t =>
          refine ⟨⟨rfl, ?_⟩, rfl⟩
          have hfind := Db.Table.find?_modify (t := db.gateways) (Gateway.beat_id t) g'
          simp only [Option.bind_eq_bind, Option.bind_some, Option.map_some, Option.getD_some, hfind,
            Option.map_map]
          rfl
    | commandResponse =>
      cases hr : db.commandResponse now g' items with
      | none =>
        have hsame : handled db cache mono now (.commandResponse, g', .obj items) = db := by
          simp only [handled, handle, hr, Option.getD_none]
        rw [hsame]
        exact ⟨.refl, rfl⟩
      | some db' =>
        simp only [handled, handle, hr, Option.getD_some]
        rcases commandResponse_db hr with rfl | ⟨id, cmd, c, -, -, rfl⟩
        · exact ⟨.refl, rfl⟩
        · exact ⟨.refl, rfl⟩
  | _ => exact ⟨.refl, rfl⟩

/-- **A call that is not for the gateway's telemetry** leaves its rows alone. -/
theorem aside_handled (db : Database) (cache : Cache) (mono now : ℤ) {kind : HandledKind} {g' : UUID} (body : Json)
    (h : g' = g → kind ≠ .telemetry) : Aside g db (handled db cache mono now (kind, g', body)) := by
  have hnames := handled_sameNames db cache mono now (kind, g', body)
  by_cases hg : g' = g
  · subst hg
    obtain ⟨hsource, htelemetry⟩ := source_handled db cache mono now g' body (h rfl)
    exact ⟨hnames, hsource, congrArg (List.filter _) htelemetry⟩
  · have hrestrict : (handled db cache mono now (kind, g', body)).restrict (fun x => decide (x = g)) =
        db.restrict fun x => decide (x = g) :=
      (handled_confined db cache mono now kind g' body).others _ (decide_eq_false hg)
    refine ⟨hnames, ⟨hnames.channels, ?_⟩, congrArg (fun d : Database => d.telemetry) hrestrict⟩
    have hkeep : ∀ store : Store, (store.restrict fun x => decide (x = g)).gateways.find? g =
        store.gateways.find? g :=
      fun store => find?_gateways_restrict (decide_eq_true rfl)
    have hfind := congrArg (fun d : Database => d.gateways.find? g) hrestrict
    dsimp only [Database.restrict] at hfind
    rw [hkeep, hkeep] at hfind
    rw [hfind]

theorem coherent_receive {w : Worker} (hw : w.lookups.Coherent w.db.toStore) (mono now : ℤ) (topic : Str)
    (payload : List UInt8) : (w.receive c.loads mono now topic payload).lookups.Coherent
      (w.receive c.loads mono now topic payload).db.toStore :=
  (Worker.receive_coherent w hw mono now topic payload).2

theorem receive_sameNames {w : Worker} (mono now : ℤ) (topic : Str) (payload : List UInt8) :
    SameNames w.db.toStore (w.receive c.loads mono now topic payload).db.toStore := by
  rw [Worker.receive_eq]
  cases route c.loads w.db.toStore w.lookups.gateways mono topic payload with
  | mk gateways call =>
    cases call with
    | none => exact .refl _
    | some call => exact handled_sameNames ..

/-- **A message on any other topic.** -/
theorem aside_receive {w : Worker} (hw : w.lookups.Coherent w.db.toStore)
    (hserial : queryGateway w.db.toStore (Str.of gatewayID) = some (some g)) (mono now : ℤ) {topic : Str}
    (payload : List UInt8)
    (htopic : parseTopic topic ≠ some (Str.of gatewayID, Str.of HandledKind.telemetry.text)) :
    Aside g w.db (w.receive c.loads mono now topic payload).db := by
  rw [Worker.receive_eq]
  cases hr : route c.loads w.db.toStore w.lookups.gateways mono topic payload with
  | mk gateways call =>
    cases call with
    | none => exact ⟨.refl _, .refl, rfl⟩
    | some call =>
      obtain ⟨kind, g', body⟩ := call
      refine aside_handled w.db w.lookups.sensors mono now body fun hg hkind => htopic ?_
      subst hg hkind
      obtain ⟨serial, hparse, hlookup, -⟩ := route_eq_some hr
      have hquery := hw.gateway mono serial
      rw [hlookup] at hquery
      rw [hparse, serial_unique hserial hquery.symm]

variable (c affine gatewayID g)

/-- The messages are the polls', and the gateway's rows come from them. -/
structure Inv (db : Database) (gw : Server.Gateway) (s : System) : Prop where
  coherent : s.worker.lookups.Coherent s.worker.db.toStore
  names : SameNames db.toStore s.worker.db.toStore
  source : SameSource gw.id db.toStore s.worker.db.toStore
  sent : ∀ m ∈ s.sent, m.topic = "gw/" ++ gatewayID ++ "/telemetry" ∧
    m.payload = (Gateway.marshal c.text (m.poll.payload affine gatewayID)).getD [] ∧
    m.poll.values affine ≠ [] ∧ c.Reads (m.poll.payload affine gatewayID)
  arrived : Arrived c affine db gw s

variable {c affine gatewayID g} {s s' : System} {db : Database} {gw : Server.Gateway}

theorem Inv.aside (h : Inv c affine gatewayID db gw s) {w : Worker}
    (hcoherent : w.lookups.Coherent w.db.toStore) (haside : Aside gw.id s.worker.db w.db) :
    Inv c affine gatewayID db gw { s with worker := w } where
  coherent := hcoherent
  names := ⟨haside.names.serials.trans h.names.serials, haside.names.channels.trans h.names.channels⟩
  source := h.source.trans haside.source
  sent := h.sent
  arrived := haside.series.trans h.arrived

/-- **One delivery** adds the rows of the poll. -/
theorem Inv.deliver (hdoc : c.Documented) {cfg : Gateway.Config} (hcfg : cfg.Valid)
    (hgw : db.gateways.find? gw.id = some gw)
    (hserial : queryGateway db.toStore (Str.of cfg.gateway.id) = some (some gw.id))
    (h : Inv c affine cfg.gateway.id db gw s) (mono now : ℤ) {m : Message} (hm : m ∈ s.sent) :
    Inv c affine cfg.gateway.id db gw { s with
      worker := s.worker.receive c.loads mono now (Str.of m.topic) m.payload
      delivered := s.delivered ++ [m.poll] } := by
  obtain ⟨htopic, hpayload, hne, hreads⟩ := h.sent m hm
  have hserial' : queryGateway s.worker.db.toStore (Str.of cfg.gateway.id) = some (some gw.id) := by
    rw [h.names.queryGateway, hserial]
  have hcoherent := @coherent_receive c s.worker h.coherent mono now (Str.of m.topic) m.payload
  have hdb := @db_receive c cfg s.worker gw.id hcfg h.coherent hserial' mono now m.payload
  rw [← htopic] at hdb
  -- the gateway's row as it is now
  obtain ⟨gw', hgw', hid, howner⟩ : ∃ gw', s.worker.db.gateways.find? gw.id = some gw' ∧ gw'.id = gw.id ∧
      (gw'.companyId, gw'.siteId) = (gw.companyId, gw.siteId) := by
    have howner := h.source.owner
    rw [hgw, Option.map_some, Option.map_eq_some_iff] at howner
    obtain ⟨gw', hgw', howner⟩ := howner
    exact ⟨gw', hgw', Db.Table.key_of_find? hgw', howner⟩
  have hrows : m.poll.rows c affine s.worker.db.toStore gw' = m.poll.rows c affine db.toStore gw :=
    rows_congr h.source.channels hid (congrArg Prod.fst howner) (congrArg Prod.snd howner)
  have hvalues : (m.poll.payload affine cfg.gateway.id).values = m.poll.values affine := rfl
  obtain ⟨hsource, hadded⟩ : SameSource gw.id s.worker.db.toStore
        (s.worker.receive c.loads mono now (Str.of m.topic) m.payload).db.toStore ∧
      (s.worker.receive c.loads mono now (Str.of m.topic) m.payload).db.telemetry =
        s.worker.db.telemetry ++ m.poll.rows c affine db.toStore gw := by
    rcases finite_or_empty c (m.poll.payload affine cfg.gateway.id) with ⟨hfin, htext⟩ | ⟨hinf, hempty⟩
    · rw [hpayload, htext, hreads hfin] at hdb
      dsimp only at hdb
      obtain ⟨htelemetry, hsource⟩ := telemetry_handled s.worker.db Lookups.empty.sensors mono now gw.id
        (c.body (m.poll.payload affine cfg.gateway.id))
      have hcommit := @toCommit_body c s.worker.db.toStore Lookups.empty.sensors mono now m.poll.time gw'
        (m.poll.payload affine cfg.gateway.id) hdoc (fun _ _ _ hc => by cases hc) (hid ▸ hgw') rfl m.poll.years hne
        hfin fun v hv => quality_values hv
      rw [hid] at hcommit
      rw [hpayload, htext, hdb]
      refine ⟨hsource, ?_⟩
      rw [hvalues] at hfin
      rw [htelemetry, hcommit, ← hrows, rows_of_finite hfin]
    · rw [hvalues] at hinf
      rw [hpayload, hempty, hdoc.empty] at hdb
      dsimp only at hdb
      rw [hpayload, hempty, hdb, rows_of_infinite hinf, List.append_nil]
      exact ⟨.refl, rfl⟩
  have hnames := @receive_sameNames c s.worker mono now (Str.of m.topic) m.payload
  refine ⟨hcoherent, ⟨hnames.serials.trans h.names.serials, hnames.channels.trans h.names.channels⟩,
    h.source.trans hsource, h.sent, ?_⟩
  have harrived : series gw.id s.worker.db = _ := h.arrived
  rw [Arrived, series_append hadded fun row hrow => gatewayId_rows hrow, harrived, List.flatMap_append,
    List.flatMap_singleton, List.append_assoc]

/-- **One step.** -/
theorem Inv.step (hdoc : c.Documented) {cfg : Gateway.Config} (hcfg : cfg.Valid)
    (hgw : db.gateways.find? gw.id = some gw)
    (hserial : queryGateway db.toStore (Str.of cfg.gateway.id) = some (some gw.id))
    {e : Event cfg.gateway.id gw.id} (h : Inv c affine cfg.gateway.id db gw s)
    (hstep : Readings.step c affine cfg.gateway.id gw.id s e = some s')
    (hreads : ∀ p publish, e = .poll p publish → c.Reads (p.payload affine cfg.gateway.id)) :
    Inv c affine cfg.gateway.id db gw s' := by
  cases e with
  | poll p publish =>
    obtain ⟨r, hr, hpublished⟩ := @pollOnce_published c affine cfg.gateway.id p publish
    have hs' : s' = { s with sent := s.sent ++ r.published.map fun m => ⟨p, m.1, m.2.getD []⟩ } := by
      rw [Readings.step, hr] at hstep
      exact (Option.some.inj hstep).symm
    subst hs'
    refine ⟨h.coherent, h.names, h.source, ?_, h.arrived⟩
    intro m hm
    rcases List.mem_append.1 hm with hm | hm
    · exact h.sent m hm
    · rw [hpublished] at hm
      split_ifs at hm with hempty
      · cases hm
      · obtain rfl := List.mem_singleton.1 hm
        exact ⟨rfl, rfl, hempty, hreads p publish rfl⟩
  | deliver i mono now =>
    obtain ⟨m, hm, rfl⟩ := Option.map_eq_some_iff.1 hstep
    exact h.deliver hdoc hcfg hgw hserial mono now (List.mem_of_getElem? hm)
  | other mono now topic payload htopic =>
    cases hstep
    have hserial' : queryGateway s.worker.db.toStore (Str.of cfg.gateway.id) = some (some gw.id) := by
      rw [h.names.queryGateway, hserial]
    exact h.aside (coherent_receive h.coherent mono now topic payload)
      (aside_receive h.coherent hserial' mono now payload htopic)
  | restart =>
    cases hstep
    exact ⟨coherent_empty _, h.names, h.source, h.sent, h.arrived⟩
  | aside f hf =>
    cases hstep
    exact h.aside ((hf s.worker.db).names.coherent h.coherent) (hf s.worker.db)

/-- **Readings arrive.** In every state of every run the gateway's rows are the old ones and,
for each delivery of a poll's message, one row for each register that the poll read, as its
channel's reading at the poll's instant, if everything that it read has a text and can be
stored. -/
theorem readings_arrive (hdoc : c.Documented) {cfg : Gateway.Config} (hcfg : cfg.validate = .ok ())
    (hgw : db.gateways.find? gw.id = some gw)
    (hserial : queryGateway db.toStore (Str.of cfg.gateway.id) = some (some gw.id))
    (es : List (Event cfg.gateway.id gw.id))
    (hreads : ∀ p publish, .poll p publish ∈ es → c.Reads (p.payload affine cfg.gateway.id)) :
    Always (step c affine cfg.gateway.id gw.id) (Arrived c affine db gw) (start db) es := by
  have hvalid := Gateway.Config.validate_eq_ok.1 hcfg
  have hinit : Inv c affine cfg.gateway.id db gw (start db) :=
    ⟨coherent_empty _, .refl _, .refl, fun m hm => (by cases hm), (List.append_nil _).symm⟩
  have hstep : ∀ s e s', Inv c affine cfg.gateway.id db gw s → step c affine cfg.gateway.id gw.id s e = some s' →
      (∀ p publish, e = .poll p publish → c.Reads (p.payload affine cfg.gateway.id)) →
      Inv c affine cfg.gateway.id db gw s' :=
    fun s e s' hs he hp => hs.step hdoc hvalid hgw hserial he hp
  have halong : Along (step c affine cfg.gateway.id gw.id)
      (fun _ e _ => ∀ p publish, e = .poll p publish → c.Reads (p.payload affine cfg.gateway.id)) (start db) es :=
    along_of_forall fun e he p publish heq => by
      subst heq
      exact hreads p publish he
  exact always_of_along hstep (fun _ hs => hs.arrived) hinit halong

end Run

/-! A thermometer in a barn, whose only message is delivered twice. -/

def barnPayload : Gateway.Telemetry :=
  ⟨"m-1", "GW-1", "2026-05-04T03:00:00Z", [⟨"barn", "temperature", Gateway.Float64.ofRat 25, "C", "good"⟩]⟩

def barnText : List UInt8 :=
  ("\x7b\"gateway_id\":\"GW-1\",\"message_id\":\"m-1\",\"timestamp\":\"2026-05-04T03:00:00Z\",\"values\":[\x7b" ++
    "\"measurement_key\":\"temperature\",\"quality\":\"good\",\"sensor_channel_id\":\"barn\",\"unit\":\"C\"," ++
    "\"value\":25\x7d]\x7d").toUTF8.data.toList

def barnNumber (v : Gateway.Float64) : Json := if v = Gateway.Float64.ofRat 25 then .int 25 else .float 0

def barnBody : List (Str × Json) :=
  (⟨fun _ => [], fun _ => .notJson, barnNumber, fun _ => 0⟩ : Codec).body barnPayload

/-- Only this text can be read. -/
def loadsOne (text : List UInt8) (body : List (Str × Json)) (bs : List UInt8) : Loaded :=
  if bs = text then .value (.obj body) else .notJson

theorem loadsOne_self (text : List UInt8) (body : List (Str × Json)) :
    loadsOne text body text = .value (.obj body) :=
  if_pos rfl

/-- The one text, and the doubles 25 and 0. -/
def barnCodec : Codec where
  text _ := barnText
  loads := loadsOne barnText barnBody
  number := barnNumber
  double v := if v = Gateway.Float64.ofRat 25 then 0x4039000000000000 else 0

theorem barnCodec_documented : barnCodec.Documented where
  number := by
    intro v _
    have hnumber : barnCodec.number v = if v = Gateway.Float64.ofRat 25 then .int 25 else .float 0 := rfl
    have hdouble : barnCodec.double v = if v = Gateway.Float64.ofRat 25 then 0x4039000000000000 else 0 := rfl
    rw [hnumber, hdouble]
    split_ifs
    · decide +kernel
    · rfl
  jsonb := by
    intro v _
    have hnumber : barnCodec.number v = if v = Gateway.Float64.ofRat 25 then .int 25 else .float 0 := rfl
    rw [hnumber]
    split_ifs
    · decide +kernel
    · decide +kernel
  empty := rfl

theorem barn_contract : Gateway.HalContract ⟨⟨"barn", 1⟩, [Gateway.thermometer]⟩ Gateway.barnRead := by
  intro i meas a regs hmeas hok
  cases hok
  match i, hmeas with
  | 0, hmeas => cases hmeas; decide

def barnPoll : Poll where
  runner := ⟨⟨"barn", 1⟩, [Gateway.thermometer]⟩
  messageID := "m-1"
  time := 1777863600000000000
  read := Gateway.barnRead
  contract := barn_contract
  years := (Timestamps.inYears_iff ..).2 (by decide)

def barnRow : Server.Gateway := .registered 7 "GW-1" 3 none

def barnChannel : Server.SensorChannel := ⟨11, 7, "barn", by decide +kernel⟩

def yard : Database := ⟨⟨⟨[barnRow], by simp⟩, ⟨[barnChannel], by simp⟩, [], .empty⟩, .empty⟩

def barnRun : List (Event "GW-1" 7) := [.poll barnPoll (.ok ()), .deliver 0 5 0, .restart, .deliver 0 90 60]

theorem barn_arrives : Always (step barnCodec Gateway.affineExact "GW-1" 7)
      (Arrived barnCodec Gateway.affineExact yard barnRow) (start yard) barnRun ∧
    (run (step barnCodec Gateway.affineExact "GW-1" 7) (start yard) barnRun).map
      (fun s => (series 7 s.worker.db).map fun row => (row.ts, row.valueDouble)) =
      some [(1777863600000000, some 0x4039000000000000), (1777863600000000, some 0x4039000000000000)] := by
  have hpayload : barnPoll.payload Gateway.affineExact "GW-1" = barnPayload := by decide +kernel
  refine ⟨@readings_arrive barnCodec Gateway.affineExact yard barnRow barnCodec_documented Topics.gw1
    (by decide +kernel) rfl (by decide +kernel) barnRun ?_, by decide +kernel⟩
  intro p publish hp
  rcases List.mem_cons.1 hp with heq | hp
  · cases heq
    intro _
    have hgateway : Topics.gw1.gateway.id = "GW-1" := rfl
    have htext : barnCodec.text barnPayload = barnText := rfl
    have hloads : barnCodec.loads = loadsOne barnText barnBody := rfl
    have hbody : barnCodec.body barnPayload = barnBody := rfl
    rw [hgateway, hpayload, htext, hloads, hbody, loadsOne_self]
  · rcases List.mem_cons.1 hp with heq | hp
    · cases heq
    · rcases List.mem_cons.1 hp with heq | hp
      · cases heq
      · cases List.mem_singleton.1 hp

end Readings
