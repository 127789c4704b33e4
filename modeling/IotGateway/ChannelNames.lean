import Mathlib.Data.String.Basic
import IotGateway.Gateway.Config
import IotGateway.Gateway.Execute
import IotGateway.Gateway.PollOnce
import IotGateway.Gateway.Bus
import IotGateway.Server.Routes
import IotGateway.Server.Telemetry

/-!
# Channel names on both sides

A channel is the `channel_id` of the configuration, the `sensor_channel_id` of its values,
and the `slug` of a row. The server takes a slug of at most 64 characters `[A-Za-z0-9_-]`;
`Validate` has that check for `gateway.id`, and for a channel only asks that it is not empty
and not taken.

* `resolved`: a name that is registered is found again, once the cache has forgotten what it
  had before.
* `reached`: a slug that equals a configured `channel_id` finds that channel, and no other.
* `names_agree_iff`: **the server takes every name of a valid configuration exactly when each
  passes the check of `gateway.id`**, the one counting bytes and the other characters.
-/

namespace ChannelNames

open Python

/-- The check of `gateway.id`. -/
def PassesIdCheck (id : String) : Prop :=
  (∀ c ∈ id.toList, Gateway.Config.idChar c = true) ∧ id.utf8ByteSize ≤ 64

/-- `SlugStr`, the column `String(64)` and its check take the name. -/
def Accepted (name : String) : Prop :=
  (∃ slug : Server.Slug, slug.text = name) ∧ Db.varchar 64 (Str.of name) = some name ∧
    Server.SlugFormat name

instance (id : String) : Decidable (PassesIdCheck id) :=
  @instDecidableAnd _ _ (List.decidableBAll _ id.toList) (Nat.decLe _ _)

/-! ## The two checks -/

/-- The two patterns have the same characters. -/
theorem idChar_iff (c : Char) : Gateway.Config.idChar c = true ↔
    c.isAlphanum = true ∨ c = '_' ∨ c = '-' := by
  unfold Gateway.Config.idChar Char.isAlphanum Char.isAlpha Char.isUpper Char.isLower Char.isDigit
  simp only [Bool.or_eq_true, Bool.and_eq_true, decide_eq_true_eq, Char.le_def, ge_iff_le]
  tauto

theorem utf8Size_of_idChar {c : Char} (h : Gateway.Config.idChar c = true) : c.utf8Size = 1 := by
  rw [Char.utf8Size_eq_one_iff]
  unfold Gateway.Config.idChar at h
  simp only [Bool.or_eq_true, Bool.and_eq_true, decide_eq_true_eq, Char.le_def] at h
  rcases h with (((⟨-, h⟩ | ⟨-, h⟩) | ⟨-, h⟩) | rfl) | rfl
  · exact UInt32.le_trans h (by decide)
  · exact UInt32.le_trans h (by decide)
  · exact UInt32.le_trans h (by decide)
  · decide
  · decide

/-- They are one byte each. -/
theorem utf8Len_of_idChar {cs : List Char} (h : ∀ c ∈ cs, Gateway.Config.idChar c = true) :
    String.utf8Len cs = cs.length := by
  induction cs with
  | nil => rfl
  | cons c cs ih =>
    rw [String.utf8Len_cons, ih fun d hd => h d (List.mem_cons_of_mem _ hd),
      utf8Size_of_idChar (h c List.mem_cons_self), List.length_cons]

theorem utf8ByteSize_of_idChar {id : String} (h : ∀ c ∈ id.toList, Gateway.Config.idChar c = true) :
    id.utf8ByteSize = id.length := by
  have hlen := utf8Len_of_idChar h
  rwa [← String.utf8ByteSize_ofList, String.ofList_toList, String.length_toList] at hlen

/-- A slug's characters can be stored. -/
theorem mapM_textChar {cs : List Char} (h : ∀ c ∈ cs, c.isAlphanum = true ∨ c = '_' ∨ c = '-') :
    (cs.map CodePoint.scalar).mapM Db.textChar = some cs := by
  induction cs with
  | nil => rfl
  | cons c cs ih =>
    have hnul : c ≠ Char.ofNat 0 := by
      rintro rfl
      exact absurd (h _ List.mem_cons_self) (by decide)
    have hc : Db.textChar (.scalar c) = some c := by
      rw [Db.textChar, if_neg hnul]
    rw [List.map_cons, List.mapM_cons, hc, ih fun d hd => h d (List.mem_cons_of_mem _ hd)]
    rfl

theorem text_of_slug {name : String} (h : Server.SlugFormat name) : Db.text (Str.of name) = some name := by
  unfold Db.text Str.of
  rw [mapM_textChar h.2, Option.map_some, String.ofList_toList]

theorem varchar_of_slug {name : String} (h : Server.SlugFormat name) (hlen : name.length ≤ 64) :
    Db.varchar 64 (Str.of name) = some name := by
  have hle : name.toList.length ≤ 64 := by rwa [String.length_toList]
  unfold Db.varchar Str.of
  rw [mapM_textChar h.2, Option.bind_eq_bind, Option.bind_some, List.drop_eq_nil_of_le hle,
    List.take_of_length_le hle, String.ofList_toList]
  rfl

/-- **The server takes a name that is not empty exactly when it passes the check of
`gateway.id`.** -/
theorem accepted_iff {name : String} (hne : name ≠ "") : Accepted name ↔ PassesIdCheck name := by
  constructor
  · rintro ⟨⟨slug, rfl⟩, -⟩
    have hchars : ∀ c ∈ slug.text.toList, Gateway.Config.idChar c = true :=
      fun c hc => (idChar_iff c).mpr (slug.format.2 c hc)
    refine ⟨hchars, ?_⟩
    rw [utf8ByteSize_of_idChar hchars]
    exact slug.length
  · rintro ⟨hchars, hsize⟩
    have hformat : Server.SlugFormat name := by
      refine ⟨fun hnil => hne (String.toList_eq_nil_iff.mp hnil), fun c hc => ?_⟩
      exact (idChar_iff c).mp (hchars c hc)
    have hlen : name.length ≤ 64 := by rwa [← utf8ByteSize_of_idChar hchars]
    exact ⟨⟨⟨name, hformat, hlen⟩, rfl⟩, varchar_of_slug hformat hlen, hformat⟩

/-! ## From the gateway to the server -/

/-- The worker's table has the registered channel. -/
def Shows (store : Server.Store) (row : Server.SensorChannelRow) : Prop :=
  ∃ ch ∈ store.channels.rows, ch.id = row.id ∧ ch.gatewayId = row.gatewayId ∧ ch.slug = row.slug

/-- **A registered name is found**, by every lookup after what the cache holds has expired. -/
theorem resolved {store : Server.Store} {row : Server.SensorChannelRow} (h : Shows store row)
    (cache : Server.Cache) : ∃ expiry, ∀ mono, expiry < mono → ∃ cache',
      Server.sensorChannelUuidBySlug store cache mono row.gatewayId (Str.of row.slug) =
        some (some row.id, cache') := by
  obtain ⟨ch, hch, hid, hgateway, hslug⟩ := h
  have hfind : store.channels.find? (row.gatewayId, row.slug) = some ch :=
    Db.Table.find?_eq_some.mpr ⟨hch, by rw [hgateway, hslug]⟩
  have hquery : Server.queryChannel store row.gatewayId (Str.of row.slug) = some (some row.id) := by
    unfold Server.queryChannel
    rw [text_of_slug (hslug ▸ ch.slug_format), Option.map_some, hfind, Option.map_some, hid]
  unfold Server.sensorChannelUuidBySlug
  rw [hquery]
  cases hcache : cache (row.gatewayId, Str.of row.slug) with
  | none => exact ⟨0, fun mono _ => ⟨_, rfl⟩⟩
  | some entry => exact ⟨entry.2, fun mono hmono => ⟨_, if_pos hmono⟩⟩

/-! ## From the server to the gateway -/

section Manager

variable {cfg : Gateway.Config} {m : Gateway.Manager} {a : Gateway.Config.ActuatorChannel}
  {st : Gateway.ChannelState}

/-- A channel of the table is the configured one of its name: no two have one name. -/
theorem cfg_of_channel (hcfg : cfg.Valid) (hm : Gateway.Configured (cfg.actuators.map (·.cfg)) m)
    (ha : a ∈ cfg.actuators) (hst : m.channel a.channelID = some st) :
    st.cfg = a.cfg ∧ a.enabled = true := by
  obtain ⟨hmem, hid⟩ := Gateway.Manager.channel_eq_some_iff.mp hst
  obtain ⟨hin, hen⟩ := hm.enabled st hmem
  obtain ⟨b, hb, hcfgb⟩ := List.mem_map.mp hin
  rw [← hcfgb] at hid hen
  have hids := (List.nodup_append'.mp hcfg.channelIDs).2.1
  have hsame : b = a := List.inj_on_of_nodup_map hids hb ha hid
  rw [← hcfgb, ← hsame]
  exact ⟨rfl, hen⟩

/-- **A slug that equals an enabled `channel_id` finds that channel.** -/
theorem reached (hcfg : cfg.Valid) (hm : Gateway.Configured (cfg.actuators.map (·.cfg)) m)
    (ha : a ∈ cfg.actuators) (hen : a.enabled = true) :
    ∃ st, m.channel a.channelID = some st ∧ st.cfg = a.cfg := by
  obtain ⟨st, hst, hid⟩ := hm.covers a.cfg (List.mem_map_of_mem ha) hen
  have hchannel := Gateway.Manager.channel_eq_some_iff.mpr ⟨hst, hid⟩
  exact ⟨st, hchannel, (cfg_of_channel hcfg hm ha hchannel).1⟩

/-- A disabled channel is not in the table. -/
theorem not_reached (hcfg : cfg.Valid) (hm : Gateway.Configured (cfg.actuators.map (·.cfg)) m)
    (ha : a ∈ cfg.actuators) (hen : a.enabled = false) : m.channel a.channelID = none := by
  rw [Option.eq_none_iff_forall_ne_some]
  intro st hst
  rw [(cfg_of_channel hcfg hm ha hst).2] at hen
  cases hen

end Manager

/-- The two sides agree on the names of a configuration. -/
structure NamesAgree (cfg : Gateway.Config) : Prop where
  sensors : ∀ s ∈ cfg.sensors, Accepted s.channelID
  actuators : ∀ a ∈ cfg.actuators, Accepted a.channelID
  /-- the values of a sensor are found, once it is registered -/
  values : ∀ s ∈ cfg.sensors, s.enabled = true → ∀ affine (meas : Gateway.Measurement) first,
    ∀ row : Server.SensorChannelRow, row.slug = s.channelID → ∀ store, Shows store row → ∀ cache,
      ∃ expiry, ∀ mono, expiry < mono → ∃ cache',
        Server.sensorChannelUuidBySlug store cache mono row.gatewayId
            (Str.of (meas.entry affine s.polled first).sensorChannelID) =
          some (some row.id, cache')
  /-- the slug of a registered actuator is that of its channel, if it is enabled -/
  commands : ∀ m, Gateway.Configured (cfg.actuators.map (·.cfg)) m → ∀ a ∈ cfg.actuators,
    ∀ row : Server.ActuatorChannelRow, row.slug = a.channelID →
      (a.enabled = true → ∃ st, m.channel row.slug = some st ∧ st.cfg = a.cfg) ∧
        (a.enabled = false → m.channel row.slug = none)

/-- **The names of a valid configuration agree, if and only if** each passes the check that
`Validate` makes of `gateway.id`. -/
theorem names_agree_iff {cfg : Gateway.Config} (h : cfg.validate = .ok ()) : NamesAgree cfg ↔
    ∀ id ∈ cfg.sensors.map (·.channelID) ++ cfg.actuators.map (·.channelID), PassesIdCheck id := by
  have hcfg := Gateway.Config.validate_eq_ok.mp h
  constructor
  · intro hagree id hid
    rcases List.mem_append.mp hid with hsensor | hactuator
    · obtain ⟨s, hs, rfl⟩ := List.mem_map.mp hsensor
      exact (accepted_iff (hcfg.sensors s hs).channelID).mp (hagree.sensors s hs)
    · obtain ⟨a, ha, rfl⟩ := List.mem_map.mp hactuator
      exact (accepted_iff (hcfg.actuators a ha).channelID).mp (hagree.actuators a ha)
  · intro hids
    refine ⟨fun s hs => ?_, fun a ha => ?_, ?_, ?_⟩
    · refine (accepted_iff (hcfg.sensors s hs).channelID).mpr (hids _ (List.mem_append_left _ ?_))
      exact List.mem_map_of_mem hs
    · refine (accepted_iff (hcfg.actuators a ha).channelID).mpr (hids _ (List.mem_append_right _ ?_))
      exact List.mem_map_of_mem ha
    · intro s hs hen affine meas first row hslug store hshows cache
      have hname : (meas.entry affine s.polled first).sensorChannelID = row.slug := hslug.symm
      rw [hname]
      exact resolved hshows cache
    · intro m hm a ha row hslug
      rw [hslug]
      exact ⟨reached hcfg hm ha, not_reached hcfg hm ha⟩

/-! The configuration of pattern B, with a relay. -/

def relayVent : Gateway.Config.ActuatorChannel := ⟨"relay-vent", "relay", 17, "off", 300, true⟩

theorem relay_names_agree : NamesAgree { Gateway.Bus.patternB with actuators := [relayVent] } := by
  have hvalid : ({ Gateway.Bus.patternB with actuators := [relayVent] } : Gateway.Config).validate =
      .ok () := by decide +kernel
  exact (names_agree_iff hvalid).mpr (by decide +kernel)

/-- The same sensor, its name with a space. -/
def spacedConfig : Gateway.Config :=
  { Gateway.Bus.patternB with sensors := [{ Gateway.Bus.th01 with channelID := "th 01" }] }

/-- **`Validate` takes a name with a space**, under which no channel can be registered. -/
theorem space_not_accepted : spacedConfig.validate = .ok () ∧
    (∀ slug : Server.Slug, slug.text ≠ "th 01") ∧ ¬ NamesAgree spacedConfig := by
  have hformat : ¬ Server.SlugFormat "th 01" := by decide +kernel
  refine ⟨by decide +kernel, fun slug hslug => hformat (hslug ▸ slug.format), fun h => ?_⟩
  exact hformat (h.sensors _ (List.mem_singleton_self _)).2.2

end ChannelNames
