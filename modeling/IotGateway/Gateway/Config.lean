import IotGateway.Go.Except

/-!
# The gateway's configuration

`Load` of the package `config`, from the record the YAML file gives: `Validate`, then the
defaults. Kept are the fields that the agent's modelled parts read.

* `validate_eq_ok`: **`Validate` accepts exactly the `Valid` configurations**; its two loops
  share one table of the channel ids they have seen, so no two channels have one id.
* `applyDefaults_valid`: **the defaults pass the checks**, though they are filled in after them.
* `load_eq_ok`: what `Load` returns.
-/

namespace Gateway

structure Config.GatewayConfig where
  id : String
  heartbeatSec : ℤ
  localReadyTimeout : ℤ
deriving DecidableEq, Repr

structure Config.MQTTConfig where
  broker : String
  keepaliveSec : ℤ
  connectTimeoutSec : ℤ
  qos : UInt8
deriving DecidableEq, Repr

structure Config.StorageConfig where
  dbPath : String
  retentionDays : ℤ
  maxQueueRows : ℤ
  diskUsageWarnPct : ℤ
deriving DecidableEq, Repr

structure Config.WatchdogConfig where
  sdNotifyIntervalSec : ℤ
  kernelWDTEnabled : Bool
  kernelWDTTimeoutSec : ℤ
  kernelWDTKickSec : ℤ
deriving DecidableEq, Repr

structure Config.SensorChannel where
  channelID : String
  profileFile : String
  interface : String
  baud : ℤ
  parity : String
  dataBits : ℤ
  stopBits : ℤ
  slaveID : ℤ
  pollingIntervalSec : ℤ
  enabled : Bool
deriving DecidableEq, Repr

structure Config.ActuatorChannel where
  channelID : String
  type : String
  gpioPin : ℤ
  defaultState : String
  maxOnDurationSec : ℤ
  enabled : Bool
deriving DecidableEq, Repr

structure Config.SimulationConfig where
  enabled : Bool
  pattern : String
  jitterPercent : ℚ
deriving DecidableEq, Repr

structure Config where
  gateway : Config.GatewayConfig
  mqtt : Config.MQTTConfig
  storage : Config.StorageConfig
  watchdog : Config.WatchdogConfig
  sensors : List Config.SensorChannel
  actuators : List Config.ActuatorChannel
  simulation : Config.SimulationConfig
deriving DecidableEq, Repr

/-- The errors of `Validate`. -/
inductive ConfigError where
  | gatewayIDRequired
  | gatewayIDInvalid (id : String)
  | gatewayIDTooLong
  | brokerRequired
  | dbPathRequired
  | sensorIDRequired
  | duplicateSensorID (id : String)
  | profileFileRequired (id : String)
  | interfaceRequired (id : String)
  | slaveID (id : String)
  | actuatorIDRequired
  | duplicateID (id : String)
  | actuatorType (id : String)
  | gpioPin (id : String)
deriving DecidableEq, Repr

/-- The text of an error; `quote` is `%q`. -/
def ConfigError.text (quote : String → String) : ConfigError → String
  | gatewayIDRequired => "gateway.id required"
  | gatewayIDInvalid id =>
    "gateway.id " ++ quote id ++ " invalid: only [A-Za-z0-9_-] allowed (MQTT topic injection guard)"
  | gatewayIDTooLong => "gateway.id too long (>64 chars)"
  | brokerRequired => "mqtt.broker required"
  | dbPathRequired => "storage.db_path required"
  | sensorIDRequired => "sensor channel_id required"
  | duplicateSensorID id => "duplicate sensor channel_id: " ++ id
  | profileFileRequired id => "sensor " ++ id ++ ": profile_file required"
  | interfaceRequired id => "sensor " ++ id ++ ": interface required"
  | slaveID id => "sensor " ++ id ++ ": slave_id 1-247"
  | actuatorIDRequired => "actuator channel_id required"
  | duplicateID id => "duplicate channel_id: " ++ id
  | actuatorType id => "actuator " ++ id ++ ": type 'relay' only (Phase 0)"
  | gpioPin id => "actuator " ++ id ++ ": gpio_pin 0-53 (BCM)"

namespace Config

/-- A character of `gatewayIDPattern`. -/
def idChar (c : Char) : Bool :=
  ('A' ≤ c && c ≤ 'Z') || ('a' ≤ c && c ≤ 'z') || ('0' ≤ c && c ≤ '9') || c = '_' || c = '-'

/-- The checks before the channels. -/
def validateHead (c : Config) : Except ConfigError Unit :=
  if c.gateway.id = "" then .error .gatewayIDRequired
  else if ¬ c.gateway.id.toList.all idChar then .error (.gatewayIDInvalid c.gateway.id)
  else if 64 < c.gateway.id.utf8ByteSize then .error .gatewayIDTooLong
  else if c.mqtt.broker = "" then .error .brokerRequired
  else if c.storage.dbPath = "" then .error .dbPathRequired
  else .ok ()

/-- The body of the loop over the sensors. -/
def SensorChannel.validate (seen : List String) (s : SensorChannel) : Except ConfigError Unit :=
  if s.channelID = "" then .error .sensorIDRequired
  else if s.channelID ∈ seen then .error (.duplicateSensorID s.channelID)
  else if s.profileFile = "" then .error (.profileFileRequired s.channelID)
  else if s.interface = "" then .error (.interfaceRequired s.channelID)
  else if s.slaveID < 1 ∨ 247 < s.slaveID then .error (.slaveID s.channelID)
  else .ok ()

/-- The body of the loop over the actuators. -/
def ActuatorChannel.validate (seen : List String) (a : ActuatorChannel) : Except ConfigError Unit :=
  if a.channelID = "" then .error .actuatorIDRequired
  else if a.channelID ∈ seen then .error (.duplicateID a.channelID)
  else if a.type ≠ "relay" then .error (.actuatorType a.channelID)
  else if a.gpioPin < 0 ∨ 53 < a.gpioPin then .error (.gpioPin a.channelID)
  else .ok ()

/-- A loop over channels: what is seen before it, and after it. -/
def validateAll {α : Type*} (channelID : α → String)
    (validate : List String → α → Except ConfigError Unit) :
    List String → List α → Except ConfigError (List String)
  | seen, [] => .ok seen
  | seen, a :: as => do
    validate seen a
    validateAll channelID validate (channelID a :: seen) as

/-- `Validate` -/
def validate (c : Config) : Except ConfigError Unit := do
  c.validateHead
  let seen ← validateAll SensorChannel.channelID SensorChannel.validate [] c.sensors
  let _ ← validateAll ActuatorChannel.channelID ActuatorChannel.validate seen c.actuators
  return ()

/-- A number that is left out. -/
def orDefault (x default : ℤ) : ℤ := if x = 0 then default else x

def SensorChannel.applyDefaults (s : SensorChannel) : SensorChannel :=
  { s with pollingIntervalSec := orDefault s.pollingIntervalSec 10 }

def ActuatorChannel.applyDefaults (a : ActuatorChannel) : ActuatorChannel :=
  { a with
    maxOnDurationSec := orDefault a.maxOnDurationSec 300
    defaultState := if a.defaultState = "" then "off" else a.defaultState }

def SimulationConfig.applyDefaults (s : SimulationConfig) : SimulationConfig :=
  if s.enabled then
    { s with
      pattern := if s.pattern = "" then "sine" else s.pattern
      jitterPercent := if s.jitterPercent = 0 then 2 else s.jitterPercent }
  else s

/-- `applyDefaults` -/
def applyDefaults (c : Config) : Config where
  gateway := { c.gateway with
    heartbeatSec := orDefault c.gateway.heartbeatSec 30
    localReadyTimeout := orDefault c.gateway.localReadyTimeout 30 }
  mqtt := { c.mqtt with
    keepaliveSec := orDefault c.mqtt.keepaliveSec 30
    connectTimeoutSec := orDefault c.mqtt.connectTimeoutSec 10
    qos := if c.mqtt.qos = 0 then 1 else c.mqtt.qos }
  storage := { c.storage with
    retentionDays := orDefault c.storage.retentionDays 7
    maxQueueRows := orDefault c.storage.maxQueueRows 100000
    diskUsageWarnPct := orDefault c.storage.diskUsageWarnPct 90 }
  watchdog := { c.watchdog with
    sdNotifyIntervalSec := orDefault c.watchdog.sdNotifyIntervalSec 10
    kernelWDTTimeoutSec := orDefault c.watchdog.kernelWDTTimeoutSec 15
    kernelWDTKickSec := orDefault c.watchdog.kernelWDTKickSec 5 }
  sensors := c.sensors.map SensorChannel.applyDefaults
  actuators := c.actuators.map ActuatorChannel.applyDefaults
  simulation := c.simulation.applyDefaults

/-- `Load`, from what the file unmarshals to. -/
def load (raw : Config) : Except ConfigError Config := do
  raw.validate
  return raw.applyDefaults

structure SensorChannel.Valid (s : SensorChannel) : Prop where
  channelID : s.channelID ≠ ""
  profileFile : s.profileFile ≠ ""
  interface : s.interface ≠ ""
  slaveID : 1 ≤ s.slaveID ∧ s.slaveID ≤ 247

structure ActuatorChannel.Valid (a : ActuatorChannel) : Prop where
  channelID : a.channelID ≠ ""
  type : a.type = "relay"
  gpioPin : 0 ≤ a.gpioPin ∧ a.gpioPin ≤ 53

/-- What `Validate` is for. -/
structure Valid (c : Config) : Prop where
  id : c.gateway.id ≠ ""
  idChars : ∀ ch ∈ c.gateway.id.toList, idChar ch = true
  idSize : c.gateway.id.utf8ByteSize ≤ 64
  broker : c.mqtt.broker ≠ ""
  dbPath : c.storage.dbPath ≠ ""
  sensors : ∀ s ∈ c.sensors, s.Valid
  actuators : ∀ a ∈ c.actuators, a.Valid
  channelIDs : (c.sensors.map (·.channelID) ++ c.actuators.map (·.channelID)).Nodup

theorem SensorChannel.validate_eq_ok (seen : List String) (s : SensorChannel) :
    s.validate seen = .ok () ↔ s.Valid ∧ s.channelID ∉ seen := by
  unfold validate
  constructor
  · intro h
    split_ifs at h with hid hseen hprofile hinterface hslave
    exact ⟨⟨hid, hprofile, hinterface, by omega⟩, hseen⟩
  · rintro ⟨⟨hid, hprofile, hinterface, hslave⟩, hseen⟩
    rw [if_neg hid, if_neg hseen, if_neg hprofile, if_neg hinterface, if_neg (by omega)]

theorem ActuatorChannel.validate_eq_ok (seen : List String) (a : ActuatorChannel) :
    a.validate seen = .ok () ↔ a.Valid ∧ a.channelID ∉ seen := by
  unfold validate
  constructor
  · intro h
    split_ifs at h with hid hseen htype hpin
    exact ⟨⟨hid, not_not.1 htype, by omega⟩, hseen⟩
  · rintro ⟨⟨hid, htype, hpin⟩, hseen⟩
    rw [if_neg hid, if_neg hseen, if_neg (not_not.2 htype), if_neg (by omega)]

theorem validateHead_eq_ok {c : Config} : c.validateHead = .ok () ↔
    c.gateway.id ≠ "" ∧ (∀ ch ∈ c.gateway.id.toList, idChar ch = true) ∧
    c.gateway.id.utf8ByteSize ≤ 64 ∧ c.mqtt.broker ≠ "" ∧ c.storage.dbPath ≠ "" := by
  unfold validateHead
  constructor
  · intro h
    split_ifs at h with hid hchars hsize hbroker hdb
    exact ⟨hid, List.all_eq_true.1 hchars, by omega, hbroker, hdb⟩
  · rintro ⟨hid, hchars, hsize, hbroker, hdb⟩
    rw [if_neg hid, if_neg (not_not.2 (List.all_eq_true.2 hchars)), if_neg (by omega),
      if_neg hbroker, if_neg hdb]

/-- **A loop over channels** passes if each is good by itself and no id comes twice. -/
theorem validateAll_eq_ok {α : Type*} {channelID : α → String} {Good : α → Prop}
    {validate : List String → α → Except ConfigError Unit}
    (hvalidate : ∀ seen a, validate seen a = .ok () ↔ Good a ∧ channelID a ∉ seen) {as : List α} :
    ∀ {seen seen' : List String}, validateAll channelID validate seen as = .ok seen' ↔
      seen' = (as.map channelID).reverse ++ seen ∧ (∀ a ∈ as, Good a) ∧
        (as.map channelID).Nodup ∧ ∀ a ∈ as, channelID a ∉ seen := by
  induction as with
  | nil =>
    intro seen seen'
    simp [validateAll, eq_comm]
  | cons a as ih =>
    intro seen seen'
    unfold validateAll
    rw [Except.bind_eq_ok_iff]
    simp only [List.map_cons, List.reverse_cons, List.append_assoc, List.singleton_append,
      List.nodup_cons, List.mem_cons, forall_eq_or_imp, List.mem_map]
    constructor
    · rintro ⟨_, hv, h⟩
      obtain ⟨hgood, hnew⟩ := (hvalidate seen a).1 hv
      obtain ⟨rfl, hall, hnodup, hseen⟩ := ih.1 h
      refine ⟨rfl, ⟨hgood, hall⟩, ⟨?_, hnodup⟩, hnew, fun b hb hmem => ?_⟩
      · rintro ⟨b, hb, hba⟩
        exact hseen b hb (hba ▸ List.mem_cons_self)
      · exact hseen b hb (List.mem_cons_of_mem _ hmem)
    · rintro ⟨rfl, ⟨hgood, hall⟩, ⟨hfirst, hnodup⟩, hnew, hseen⟩
      refine ⟨(), (hvalidate seen a).2 ⟨hgood, hnew⟩, ih.2 ⟨rfl, hall, hnodup, fun b hb hmem => ?_⟩⟩
      rcases List.mem_cons.1 hmem with hba | hmem
      · exact hfirst ⟨b, hb, hba⟩
      · exact hseen b hb hmem

/-- **`Validate` accepts exactly the valid configurations.** -/
theorem validate_eq_ok {c : Config} : c.validate = .ok () ↔ c.Valid := by
  have hsensors (seen : List String) :
      validateAll SensorChannel.channelID SensorChannel.validate [] c.sensors = .ok seen ↔ _ :=
    validateAll_eq_ok SensorChannel.validate_eq_ok
  have hactuators (seen seen' : List String) :
      validateAll ActuatorChannel.channelID ActuatorChannel.validate seen c.actuators = .ok seen' ↔ _ :=
    validateAll_eq_ok ActuatorChannel.validate_eq_ok
  unfold validate
  simp only [Except.bind_eq_ok_iff, hsensors, hactuators]
  constructor
  · rintro ⟨_, hhead, seen, ⟨rfl, hgood, hnodup, -⟩, seen', ⟨-, hgood', hnodup', hnew⟩, -⟩
    obtain ⟨hid, hchars, hsize, hbroker, hdb⟩ := validateHead_eq_ok.1 hhead
    refine ⟨hid, hchars, hsize, hbroker, hdb, hgood, hgood', List.nodup_append'.2 ⟨hnodup, hnodup', ?_⟩⟩
    intro x hx hx'
    obtain ⟨a, ha, rfl⟩ := List.mem_map.1 hx'
    exact hnew a ha (by simpa using hx)
  · intro h
    obtain ⟨hnodup, hnodup', hdisj⟩ := List.nodup_append'.1 h.channelIDs
    refine ⟨(), validateHead_eq_ok.2 ⟨h.id, h.idChars, h.idSize, h.broker, h.dbPath⟩, _,
      ⟨rfl, h.sensors, hnodup, by simp⟩, _, ⟨rfl, h.actuators, hnodup', fun a ha hmem => ?_⟩, rfl⟩
    exact hdisj (by simpa using hmem) (List.mem_map_of_mem ha)

/-- **The defaults pass the checks**: they leave alone what `Validate` looks at. -/
theorem applyDefaults_valid {c : Config} (h : c.Valid) : c.applyDefaults.Valid where
  id := h.id
  idChars := h.idChars
  idSize := h.idSize
  broker := h.broker
  dbPath := h.dbPath
  sensors := by
    intro s' hs'
    obtain ⟨s, hs, rfl⟩ := List.mem_map.1 hs'
    obtain ⟨hid, hprofile, hinterface, hslave⟩ := h.sensors s hs
    exact ⟨hid, hprofile, hinterface, hslave⟩
  actuators := by
    intro a' ha'
    obtain ⟨a, ha, rfl⟩ := List.mem_map.1 ha'
    obtain ⟨hid, htype, hpin⟩ := h.actuators a ha
    exact ⟨hid, htype, hpin⟩
  channelIDs := by
    have hnodup := h.channelIDs
    simpa [applyDefaults, SensorChannel.applyDefaults, ActuatorChannel.applyDefaults,
      Function.comp_def] using hnodup

/-- **What `Load` returns.** -/
theorem load_eq_ok {raw c : Config} : load raw = .ok c ↔ raw.Valid ∧ c = raw.applyDefaults := by
  unfold load
  rw [Except.bind_eq_ok_iff]
  constructor
  · rintro ⟨_, hv, h⟩
    exact ⟨validate_eq_ok.1 hv, (Except.ok.inj h).symm⟩
  · rintro ⟨hv, rfl⟩
    exact ⟨(), validate_eq_ok.2 hv, rfl⟩

/-- A configuration that is loaded is valid. -/
theorem valid_of_load {raw c : Config} (h : load raw = .ok c) : c.Valid := by
  obtain ⟨hv, rfl⟩ := load_eq_ok.1 h
  exact applyDefaults_valid hv

end Config

end Gateway
