import IotGateway.ChannelNames

/-!
# The migration that names the channels

Revision 0002 adds the column `slug` to both kinds of channels. Channels that exist get the
first eight characters of their id's text, and the names must then have the format and be unique
within a gateway; it also checks the serial numbers that exist. All of it is one transaction.

* `slugOfId_inj`: what eight characters tell of an id.
* `addSlugs_eq_some`: the statements for one table.
* `migration_exact`: **the upgrade succeeds exactly when no two channels of one kind and gateway
  have ids that start alike, and every serial number is one that a topic can carry; then it keeps
  all rows, the worker finds each sensor by its name, and a downgrade restores what was there.**
  Going down and up again keeps the names only where nobody has chosen one.
-/

namespace Migrations

open Python Server

/-! ## The text of an id -/

/-- The `i`-th hexadecimal digit, from the left. -/
def nibble (u : UUID) (i : ℕ) : BitVec 4 := u.extractLsb' (124 - 4 * i) 4

def hexDigits (u : UUID) (start count : ℕ) : List Char :=
  (List.range count).map fun i => Nat.digitChar (nibble u (start + i)).toNat

/-- `id::text` -/
def uuidText (u : UUID) : List Char :=
  hexDigits u 0 8 ++ '-' :: hexDigits u 8 4 ++ '-' :: hexDigits u 12 4 ++ '-' :: hexDigits u 16 4 ++
    '-' :: hexDigits u 20 12

example : String.ofList (uuidText 0x0af7651916cd43dd8448eb211c80319c) = "0af76519-16cd-43dd-8448-eb211c80319c" := by
  decide +kernel

/-- `substring(s, start, count)` -/
def substring (s : List Char) (start count : ℕ) : List Char := (s.drop (start - 1)).take count

/-- `substring(id::text, 1, 8)` -/
def slugOfId (u : UUID) : String := String.ofList (substring (uuidText u) 1 8)

/-- The first 32 bits. -/
def prefixOf (u : UUID) : BitVec 32 := u.extractLsb' 96 32

theorem length_hexDigits (u : UUID) (start count : ℕ) : (hexDigits u start count).length = count := by
  rw [hexDigits, List.length_map, List.length_range]

theorem slugOfId_eq (u : UUID) : slugOfId u = String.ofList (hexDigits u 0 8) := rfl

theorem digitChar_inj : ∀ a b : BitVec 4, Nat.digitChar a.toNat = Nat.digitChar b.toNat → a = b := by
  decide

theorem digitChar_alphanum : ∀ a : BitVec 4, (Nat.digitChar a.toNat).isAlphanum = true := by
  decide

/-- **Two ids have the same first eight characters** exactly when they have the same first 32
bits. -/
theorem slugOfId_inj {u v : UUID} : slugOfId u = slugOfId v ↔ prefixOf u = prefixOf v := by
  have hdigits : slugOfId u = slugOfId v ↔ ∀ i < 8, nibble u i = nibble v i := by
    rw [slugOfId_eq, slugOfId_eq, String.ofList_inj, hexDigits, hexDigits, List.map_inj_left]
    simp only [List.mem_range, Nat.zero_add]
    exact forall₂_congr fun i _ => ⟨digitChar_inj _ _, fun h => by rw [h]⟩
  rw [hdigits]
  constructor
  · intro h
    refine BitVec.eq_of_getLsbD_eq fun k hk => ?_
    have hbit := congrArg (fun d : BitVec 4 => d.getLsbD (k % 4)) (h (7 - k / 4) (by omega))
    have hindex : 124 - 4 * (7 - k / 4) + k % 4 = 96 + k := by omega
    have hfour : k % 4 < 4 := Nat.mod_lt _ (by decide)
    simp only [nibble, BitVec.getLsbD_extractLsb', hindex, hfour, decide_true, Bool.true_and] at hbit
    simp only [prefixOf, BitVec.getLsbD_extractLsb', hk, decide_true, Bool.true_and]
    exact hbit
  · intro h i hi
    refine BitVec.eq_of_getLsbD_eq fun k hk => ?_
    have hbit := congrArg (fun p : BitVec 32 => p.getLsbD (28 - 4 * i + k)) h
    have hlt : 28 - 4 * i + k < 32 := by omega
    have hindex : 96 + (28 - 4 * i + k) = 124 - 4 * i + k := by omega
    simp only [prefixOf, BitVec.getLsbD_extractLsb', hlt, hindex, decide_true, Bool.true_and] at hbit
    simp only [nibble, BitVec.getLsbD_extractLsb', hk, decide_true, Bool.true_and]
    exact hbit

/-- What the migration calls a channel passes the check of names. -/
theorem slugOfId_format (u : UUID) : SlugFormat (slugOfId u) ∧ (slugOfId u).length ≤ 64 := by
  have hlen := length_hexDigits u 0 8
  rw [slugOfId_eq]
  refine ⟨⟨?_, ?_⟩, ?_⟩
  · intro hnil
    rw [String.toList_ofList] at hnil
    rw [hnil] at hlen
    cases hlen
  · intro c hc
    rw [String.toList_ofList, hexDigits, List.mem_map] at hc
    obtain ⟨i, -, rfl⟩ := hc
    exact .inl (digitChar_alphanum _)
  · rw [String.length_ofList, hlen]
    decide

/-- What the migration calls a channel. -/
def slugOf (u : UUID) : Slug := ⟨slugOfId u, (slugOfId_format u).1, (slugOfId_format u).2⟩

theorem slug_ext {s s' : Slug} (h : s.text = s'.text) : s = s' := by
  cases s; cases s'; cases h; rfl

/-! ## The statements for one table -/

section Statements

/-- `VARCHAR(64)` -/
abbrev Varchar64 := {s : String // s.length ≤ 64}

def varchar64 (s : Str) : Option Varchar64 :=
  (Db.varchar 64 s).pmap (fun text h => ⟨text, h⟩) fun _ h => Db.length_of_varchar h

variable {α : Type} (id gatewayId : α → UUID)

/-- A table of channels after the migration. -/
structure Slugged where
  table : Db.Table (α × Slug) fun r => id r.1
  /-- `UNIQUE (gateway_id, slug)` -/
  unique : (table.rows.map fun r => (gatewayId r.1, r.2.text)).Nodup

/-- `ADD COLUMN slug VARCHAR(64)` -/
def addColumn (t : Db.Table α id) : Db.Table (α × Option Varchar64) fun r => id r.1 :=
  t.project (fun r => (r, none)) fun _ => rfl

/-- `UPDATE … SET slug = substring(id::text, 1, 8) WHERE slug IS NULL` -/
def backfill (t : Db.Table (α × Option Varchar64) fun r => id r.1) :
    Option (Db.Table (α × Option Varchar64) fun r => id r.1) :=
  t.rewrite (fun r => if r.2 = none then (varchar64 (Str.of (slugOfId (id r.1)))).map fun slug => (r.1, some slug)
    else some r) fun r r' h => by
      split_ifs at h
      · obtain ⟨slug, -, rfl⟩ := Option.map_eq_some_iff.1 h
        rfl
      · cases h
        rfl

/-- `ALTER COLUMN slug SET NOT NULL` -/
def setNotNull (t : Db.Table (α × Option Varchar64) fun r => id r.1) :
    Option (Db.Table (α × Varchar64) fun r => id r.1) :=
  t.rewrite (fun r => r.2.map fun slug => (r.1, slug)) fun r r' h => by
    obtain ⟨slug, -, rfl⟩ := Option.map_eq_some_iff.1 h
    rfl

/-- `ADD CONSTRAINT … CHECK (slug ~ '^[A-Za-z0-9_-]+$')` -/
def checkFormat (t : Db.Table (α × Varchar64) fun r => id r.1) :
    Option (Db.Table (α × Slug) fun r => id r.1) :=
  t.rewrite (fun r => if h : SlugFormat r.2.1 then some (r.1, ⟨r.2.1, h, r.2.2⟩) else none) fun r r' h => by
    split_ifs at h
    cases h
    rfl

/-- `ADD CONSTRAINT … UNIQUE (gateway_id, slug)` -/
def addUnique (table : Db.Table (α × Slug) fun r => id r.1) : Option (Slugged id gatewayId) :=
  if unique : (table.rows.map fun r => (gatewayId r.1, r.2.text)).Nodup then some ⟨table, unique⟩ else none

def addSlugs (t : Db.Table α id) : Option (Slugged id gatewayId) := do
  let t ← backfill id (addColumn id t)
  let t ← setNotNull id t
  let t ← checkFormat id t
  addUnique id gatewayId t

/-- `DROP COLUMN slug`, with its constraints -/
def Slugged.dropSlugs (t : Slugged id gatewayId) : Db.Table α id := t.table.project (·.1) fun _ => rfl

/-- No two channels of a gateway have ids that start alike. -/
def DistinctPrefixes (rows : List α) : Prop := (rows.map fun r => (gatewayId r, prefixOf (id r))).Nodup

variable {id gatewayId} {t : Db.Table α id} {t' : Slugged id gatewayId}

instance (rows : List α) : Decidable (DistinctPrefixes id gatewayId rows) := List.nodupDecidable _

@[ext] theorem Slugged.ext {t t' : Slugged id gatewayId} (h : t.table = t'.table) : t = t' := by
  cases t; cases t'; cases h; rfl

/-- What the migration calls a channel fits the column. -/
theorem varchar64_slugOfId (u : UUID) :
    varchar64 (Str.of (slugOfId u)) = some ⟨slugOfId u, (slugOfId_format u).2⟩ := by
  obtain ⟨hformat, hlen⟩ := slugOfId_format u
  unfold varchar64
  rw [Option.pmap_eq_some_iff]
  exact ⟨slugOfId u, hlen, ChannelNames.varchar_of_slug hformat hlen, rfl⟩

theorem backfill_addColumn (t : Db.Table α id) : backfill id (addColumn id t) =
    some (t.project (fun r => (r, some ⟨slugOfId (id r), (slugOfId_format (id r)).2⟩)) fun _ => rfl) := by
  refine Db.Table.rewrite_project fun r => ?_
  dsimp only
  rw [if_pos rfl, varchar64_slugOfId]
  rfl

/-- Names are unique exactly when the starts of the ids are. -/
theorem nodup_slugOf (t : Db.Table α id) {named : Db.Table (α × Slug) fun r => id r.1}
    (h : named.rows = t.rows.map fun r => (r, slugOf (id r))) :
    (named.rows.map fun r => (gatewayId r.1, r.2.text)).Nodup ↔ DistinctPrefixes id gatewayId t.rows := by
  rw [DistinctPrefixes, h, List.map_map, List.Nodup, List.Nodup, List.pairwise_map, List.pairwise_map]
  refine List.Pairwise.iff fun r q => not_congr ?_
  rw [Function.comp_apply, Function.comp_apply, Prod.mk_inj, Prod.mk_inj]
  exact and_congr_right' slugOfId_inj

/-- **The statements for one table** succeed unless two channels of a gateway have ids that start
alike, and name every channel. -/
theorem addSlugs_eq_some : addSlugs id gatewayId t = some t' ↔
    DistinctPrefixes id gatewayId t.rows ∧ t'.table = t.project (fun r => (r, slugOf (id r))) fun _ => rfl := by
  have hnotNull : setNotNull id
        (t.project (fun r => (r, some ⟨slugOfId (id r), (slugOfId_format (id r)).2⟩)) fun _ => rfl) =
      some (t.project (fun r => (r, ⟨slugOfId (id r), (slugOfId_format (id r)).2⟩)) fun _ => rfl) := by
    refine Db.Table.rewrite_project fun r => ?_
    rfl
  have hcheck : checkFormat id
        (t.project (fun r => (r, ⟨slugOfId (id r), (slugOfId_format (id r)).2⟩)) fun _ => rfl) =
      some (t.project (fun r => (r, slugOf (id r))) fun _ => rfl) :=
    Db.Table.rewrite_project fun r => dif_pos (slugOfId_format (id r)).1
  unfold addSlugs
  rw [backfill_addColumn, Option.bind_eq_bind, Option.bind_some, hnotNull, Option.bind_eq_bind,
    Option.bind_some, hcheck, Option.bind_eq_bind, Option.bind_some, addUnique]
  by_cases hunique : DistinctPrefixes id gatewayId t.rows
  · rw [dif_pos ((nodup_slugOf t rfl).2 hunique), Option.some_inj]
    exact ⟨fun h => ⟨hunique, h ▸ rfl⟩, fun h => Slugged.ext h.2.symm⟩
  · rw [dif_neg fun h => hunique ((nodup_slugOf t rfl).1 h)]
    exact ⟨fun h => (by cases h), fun h => absurd h.1 hunique⟩

theorem find?_of_addSlugs (h : addSlugs id gatewayId t = some t') {β : Type} {key : β → UUID}
    {f : α × Slug → β} (hf : ∀ r, key (f r) = id r.1) (k : UUID) :
    (t'.table.project f hf).find? k = (t.find? k).map fun r => f (r, slugOf k) := by
  obtain ⟨-, htable⟩ := addSlugs_eq_some.1 h
  rw [Db.Table.find?_project, htable, Db.Table.find?_project, Option.map_map]
  refine Option.map_congr fun r hr => ?_
  rw [Function.comp_apply, Db.Table.key_of_find? hr]

/-- Dropping the names is the way back. -/
theorem dropSlugs_of_addSlugs (h : addSlugs id gatewayId t = some t') : t'.dropSlugs = t := by
  obtain ⟨-, htable⟩ := addSlugs_eq_some.1 h
  refine Db.Table.ext ?_
  unfold Slugged.dropSlugs
  rw [htable]
  exact (List.map_map ..).trans (List.map_id _)

/-- Adding them again gives the same names only if nobody has chosen one. -/
theorem addSlugs_dropSlugs : addSlugs id gatewayId t'.dropSlugs = some t' ↔
    ∀ r ∈ t'.table.rows, r.2.text = slugOfId (id r.1) := by
  rw [addSlugs_eq_some]
  constructor
  · rintro ⟨-, htable⟩ r hr
    rw [htable] at hr
    obtain ⟨q, -, rfl⟩ := List.mem_map.1 hr
    rfl
  · intro hnames
    have hrows : t'.table.rows = t'.dropSlugs.rows.map fun r => (r, slugOf (id r)) := by
      unfold Slugged.dropSlugs Db.Table.project
      rw [List.map_map]
      refine (List.map_id _).symm.trans (List.map_congr_left fun r hr => ?_)
      exact Prod.ext rfl (slug_ext (hnames r hr))
    exact ⟨(nodup_slugOf _ hrows).1 t'.unique, Db.Table.ext hrows⟩

end Statements

/-! ## The schemas before and after it -/

/-- `sensor_channels` before it -/
structure SensorChannel0001 where
  id : UUID
  gatewayId : UUID
  sensorProfileId : UUID
  displayName : String
  interfaceName : String
  protocol : String
  address : Option String
  slaveId : Option ℤ
  pollingIntervalSec : ℤ
  enabled : Bool
  config : Option Dict
  createdAt : ℤ

/-- `actuator_channels` before it -/
structure ActuatorChannel0001 where
  id : UUID
  gatewayId : UUID
  displayName : String
  actuatorType : String
  hardwareChannel : String
  defaultState : String
  currentState : Option String
  enabled : Bool
  safetyConfig : Option Dict
  createdAt : ℤ

/-- The tables that the migration changes. -/
structure Schema0001 where
  gateways : Db.Table GatewayRow (·.id)
  sensorChannels : Db.Table SensorChannel0001 (·.id)
  actuatorChannels : Db.Table ActuatorChannel0001 (·.id)

/-- `ck_gateways_serial_number_format` -/
def SerialFormat (serialNumber : String) : Prop := SlugFormat serialNumber ∧ serialNumber.length ≤ 64

instance (s : String) : Decidable (SerialFormat s) := @instDecidableAnd _ _ _ (Nat.decLe _ _)

structure Schema0002 where
  gateways : Db.Table GatewayRow (·.id)
  sensorChannels : Slugged SensorChannel0001.id SensorChannel0001.gatewayId
  actuatorChannels : Slugged ActuatorChannel0001.id ActuatorChannel0001.gatewayId
  serialFormat : ∀ gw ∈ gateways.rows, SerialFormat gw.serialNumber

/-- `none` is an exception, after which the transaction is rolled back. -/
def upgrade (db : Schema0001) : Option Schema0002 := do
  let sensorChannels ← addSlugs _ _ db.sensorChannels
  let actuatorChannels ← addSlugs _ _ db.actuatorChannels
  if serialFormat : ∀ gw ∈ db.gateways.rows, SerialFormat gw.serialNumber then
    some ⟨db.gateways, sensorChannels, actuatorChannels, serialFormat⟩
  else none

def downgrade (db : Schema0002) : Schema0001 where
  gateways := db.gateways
  actuatorChannels := db.actuatorChannels.dropSlugs
  sensorChannels := db.sensorChannels.dropSlugs

/-- The row as the routes know it. -/
def SensorChannel0001.named (r : SensorChannel0001) (slug : Slug) : SensorChannelRow where
  id := r.id
  gatewayId := r.gatewayId
  slug := slug.text
  sensorProfileId := r.sensorProfileId
  displayName := r.displayName
  interfaceName := r.interfaceName
  protocol := r.protocol
  address := r.address
  slaveId := r.slaveId
  pollingIntervalSec := r.pollingIntervalSec
  enabled := r.enabled
  config := r.config
  createdAt := r.createdAt

def ActuatorChannel0001.named (r : ActuatorChannel0001) (slug : Slug) : ActuatorChannelRow where
  id := r.id
  gatewayId := r.gatewayId
  slug := slug.text
  displayName := r.displayName
  actuatorType := r.actuatorType
  hardwareChannel := r.hardwareChannel
  defaultState := r.defaultState
  currentState := r.currentState
  enabled := r.enabled
  safetyConfig := r.safetyConfig
  createdAt := r.createdAt

/-- The other tables are as they were. -/
def Schema0002.tables (db : Schema0002) (rest : Tables) : Tables :=
  { rest with
    gateways := db.gateways
    sensorChannels := db.sensorChannels.table.project (fun r => r.1.named r.2) fun _ => rfl
    actuatorChannels := db.actuatorChannels.table.project (fun r => r.1.named r.2) fun _ => rfl }

/-- The same, as the worker knows them. -/
def Schema0002.store (db : Schema0002) (rest : Store) : Store :=
  { rest with
    gateways := db.gateways.project (·.toGateway) GatewayRow.id_toGateway
    channels := ⟨db.sensorChannels.table.rows.map fun r => ⟨r.1.id, r.1.gatewayId, r.2.text, r.2.format⟩, by
      rw [List.map_map]
      exact db.sensorChannels.unique⟩ }

/-! ## What the migration keeps and adds -/

variable {db : Schema0001} {db' : Schema0002}

theorem upgrade_eq_some : upgrade db = some db' ↔ (∀ gw ∈ db.gateways.rows, SerialFormat gw.serialNumber) ∧
    db'.gateways = db.gateways ∧ addSlugs _ _ db.sensorChannels = some db'.sensorChannels ∧
    addSlugs _ _ db.actuatorChannels = some db'.actuatorChannels := by
  unfold upgrade
  rw [Option.bind_eq_bind, Option.bind_eq_some_iff]
  constructor
  · rintro ⟨sensors, hsensors, h⟩
    rw [Option.bind_eq_bind, Option.bind_eq_some_iff] at h
    obtain ⟨actuators, hactuators, h⟩ := h
    split_ifs at h with hserial
    cases h
    exact ⟨hserial, rfl, hsensors, hactuators⟩
  · rintro ⟨hserial, hgateways, hsensors, hactuators⟩
    refine ⟨_, hsensors, ?_⟩
    rw [Option.bind_eq_bind, hactuators, Option.bind_some, dif_pos hserial]
    cases db'
    cases hgateways
    rfl

/-- What an upgrade that succeeds has done. -/
structure Upgraded (db : Schema0001) (db' : Schema0002) : Prop where
  gateways : db'.gateways = db.gateways
  sensors : ∀ rest id, (db'.tables rest).sensorChannels.find? id =
    (db.sensorChannels.find? id).map fun c => c.named (slugOf id)
  actuators : ∀ rest id, (db'.tables rest).actuatorChannels.find? id =
    (db.actuatorChannels.find? id).map fun c => c.named (slugOf id)
  /-- the worker finds a sensor by its new name, and by no other -/
  lookup : ∀ rest g name id, queryChannel (db'.store rest) g name = some (some id) ↔
    ∃ c, db.sensorChannels.find? id = some c ∧ c.gatewayId = g ∧ Db.text name = some (slugOfId id)
  restored : downgrade db' = db

/-- The row that the worker finds by a name. -/
theorem channel_of_addSlugs (h : addSlugs _ _ db.sensorChannels = some db'.sensorChannels) (rest : Store)
    (g id : UUID) (slug : String) : ((db'.store rest).channels.find? (g, slug)).map (·.id) = some id ↔
      ∃ c, db.sensorChannels.find? id = some c ∧ c.gatewayId = g ∧ slug = slugOfId id := by
  obtain ⟨-, htable⟩ := addSlugs_eq_some.1 h
  rw [Option.map_eq_some_iff]
  constructor
  · rintro ⟨ch, hfind, rfl⟩
    obtain ⟨hmem, hkey⟩ := Db.Table.find?_eq_some.1 hfind
    obtain ⟨r, hr, rfl⟩ := List.mem_map.1 hmem
    rw [htable] at hr
    obtain ⟨c, hc, rfl⟩ := List.mem_map.1 hr
    cases hkey
    exact ⟨c, Db.Table.find?_key hc, rfl, rfl⟩
  · rintro ⟨c, hc, rfl, rfl⟩
    obtain ⟨hmem, rfl⟩ := Db.Table.find?_eq_some.1 hc
    refine ⟨⟨c.id, c.gatewayId, slugOfId c.id, (slugOf c.id).format⟩, Db.Table.find?_eq_some.2 ⟨?_, rfl⟩, rfl⟩
    refine List.mem_map.2 ⟨(c, slugOf c.id), ?_, rfl⟩
    rw [htable]
    exact List.mem_map_of_mem hmem

theorem upgraded (h : upgrade db = some db') : Upgraded db db' := by
  obtain ⟨-, hgateways, hsensors, hactuators⟩ := upgrade_eq_some.1 h
  refine ⟨hgateways, fun rest => ?_, fun rest => ?_, fun rest g name id => ?_, ?_⟩
  · exact find?_of_addSlugs hsensors (f := fun r => r.1.named r.2) fun _ => rfl
  · exact find?_of_addSlugs hactuators (f := fun r => r.1.named r.2) fun _ => rfl
  · unfold queryChannel
    rw [Option.map_eq_some_iff]
    constructor
    · rintro ⟨slug, htext, hfind⟩
      obtain ⟨c, hc, hg, rfl⟩ := (channel_of_addSlugs hsensors rest g id slug).1 hfind
      exact ⟨c, hc, hg, htext⟩
    · rintro ⟨c, hc, hg, htext⟩
      exact ⟨_, htext, (channel_of_addSlugs hsensors rest g id _).2 ⟨c, hc, hg, rfl⟩⟩
  · unfold downgrade
    rw [hgateways, dropSlugs_of_addSlugs hsensors, dropSlugs_of_addSlugs hactuators]

/-- **The upgrade succeeds exactly when** no two channels of one kind and gateway have ids that
start alike, and every serial number is one that a topic can carry. Going down and up again is the
way back only where nobody has chosen a name. -/
theorem migration_exact (db : Schema0001) :
    ((upgrade db).isSome = true ↔
      DistinctPrefixes (·.id) SensorChannel0001.gatewayId db.sensorChannels.rows ∧
      DistinctPrefixes (·.id) ActuatorChannel0001.gatewayId db.actuatorChannels.rows ∧
      ∀ gw ∈ db.gateways.rows, SerialFormat gw.serialNumber) ∧
    (∀ db' ∈ upgrade db, Upgraded db db') ∧
    ∀ db' : Schema0002, upgrade (downgrade db') = some db' ↔
      (∀ r ∈ db'.sensorChannels.table.rows, r.2.text = slugOfId r.1.id) ∧
      ∀ r ∈ db'.actuatorChannels.table.rows, r.2.text = slugOfId r.1.id := by
  refine ⟨?_, fun db' h => upgraded h, fun db' => ?_⟩
  · rw [Option.isSome_iff_exists]
    constructor
    · rintro ⟨db', h⟩
      obtain ⟨hserial, -, hsensors, hactuators⟩ := upgrade_eq_some.1 h
      exact ⟨(addSlugs_eq_some.1 hsensors).1, (addSlugs_eq_some.1 hactuators).1, hserial⟩
    · rintro ⟨hsensors, hactuators, hserial⟩
      have hnamed : ∀ {α : Type} {id gatewayId : α → UUID} {t : Db.Table α id},
          DistinctPrefixes id gatewayId t.rows → ∃ t', addSlugs id gatewayId t = some t' :=
        fun h => ⟨⟨_, (nodup_slugOf _ rfl).2 h⟩, addSlugs_eq_some.2 ⟨h, rfl⟩⟩
      obtain ⟨sensors, hs⟩ := hnamed hsensors
      obtain ⟨actuators, ha⟩ := hnamed hactuators
      exact ⟨⟨db.gateways, sensors, actuators, hserial⟩, upgrade_eq_some.2 ⟨hserial, rfl, hs, ha⟩⟩
  · rw [upgrade_eq_some]
    unfold downgrade
    rw [addSlugs_dropSlugs, addSlugs_dropSlugs]
    exact ⟨fun h => h.2.2, fun h => ⟨db'.serialFormat, rfl, h⟩⟩

end Migrations
