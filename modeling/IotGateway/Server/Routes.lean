import IotGateway.Server.Commands

/-!
# The routes of gateways

The endpoints of the routers of gateways, commands, channels and telemetry, on the tables
that they share, with the columns that they read and write. The other routers use none of
these tables.

A request runs in one transaction, which is rolled back when it fails; `issue_command`
alone has committed before it can fail. What lies outside the tables is in `Env`: the
clock, the generated identifiers, the rows of other tables that are referred to, and the
broker.
-/

namespace Server

open Python

/-! ## Rows -/

structure GatewayRow extends Gateway where
  name : String
  gatewayProfileId : Option UUID
  registeredAt : ℤ
deriving DecidableEq

/-- A JSON object, `dict[str, Any]`. -/
abbrev Dict := List (Str × Json)

structure SensorChannelRow where
  id : UUID
  gatewayId : UUID
  slug : String
  sensorProfileId : UUID
  displayName : String
  interfaceName : String
  protocol : String
  address : Option String
  slaveId : Option ℤ
  pollingIntervalSec : ℤ
  enabled : Bool
  config : Option Dict
  createdAt : ℤ

structure ActuatorChannelRow extends ActuatorChannel where
  displayName : String
  actuatorType : String
  hardwareChannel : String
  defaultState : String
  currentState : Option String
  enabled : Bool
  safetyConfig : Option Dict
  createdAt : ℤ

structure CommandRow extends Command where
  actuatorChannelId : Option UUID
  action : String
  issuedBy : Option UUID
  issuedAt : ℤ
  timeoutMs : ℤ
  requireAck : Bool
  reason : Option String
  response : Option Dict

/-- The tables whose rows belong to a gateway. -/
structure GatewayTables where
  gateways : Db.Table GatewayRow (·.id)
  sensorChannels : Db.Table SensorChannelRow (·.id)
  actuatorChannels : Db.Table ActuatorChannelRow (·.id)
  commands : Db.Table CommandRow (·.id)
  telemetry : List Telemetry
  latest : Db.Table TelemetryLatest (·.key)

structure Tables extends GatewayTables where
  permissions : Db.Table UserGatewayPermission (·.key)

theorem GatewayRow.id_toGateway (r : GatewayRow) : r.toGateway.id = r.id := rfl

theorem ActuatorChannelRow.id_toActuatorChannel (r : ActuatorChannelRow) : r.toActuatorChannel.id = r.id :=
  rfl

def Tables.access (db : Tables) : Access where
  gateways := db.gateways.project (·.toGateway) GatewayRow.id_toGateway
  permissions := db.permissions

def Tables.api (db : Tables) (defaultExpiresSec : ℤ) : Api where
  toAccess := db.access
  actuators := db.actuatorChannels.project (·.toActuatorChannel) ActuatorChannelRow.id_toActuatorChannel
  defaultExpiresSec := defaultExpiresSec

structure Env where
  now : ℤ
  /-- `uuid.uuid4()` -/
  id : UUID
  /-- the random part of a command's id -/
  hex : String
  companies : UUID → Bool
  sites : UUID → Bool
  gatewayProfiles : UUID → Bool
  sensorProfiles : UUID → Bool
  /-- the order of texts in the database's collation -/
  collation : String → String → Bool
  commandDefaultExpiresSec : ℤ
  /-- the exception of the publish, or of the commit after it -/
  publishError : Option String

/-! ## Request bodies -/

/-- `SlugStr` -/
structure Slug where
  text : String
  format : SlugFormat text
  length : text.length ≤ 64

structure GatewayIn where
  serialNumber : Slug
  name : String
  companyId : UUID
  siteId : Option UUID
  gatewayProfileId : Option UUID

/-- A field is unset, `null` or a value. -/
structure GatewayPatch where
  name : Option (Option String)
  siteId : Option (Option UUID)
  gatewayProfileId : Option (Option UUID)
  status : Option (Option String)
  firmwareVersion : Option (Option String)
  appVersion : Option (Option String)

structure SensorChannelIn where
  slug : Slug
  sensorProfileId : UUID
  displayName : String
  interfaceName : String
  protocol : String
  address : Option String
  slaveId : Option ℤ
  pollingIntervalSec : ℤ := 10
  enabled : Bool := true
  config : Option Dict

inductive ActuatorType where
  | relay
  | valve
  | pump
  | ssr
deriving DecidableEq, Repr

def ActuatorType.text : ActuatorType → String
  | .relay => "relay"
  | .valve => "valve"
  | .pump => "pump"
  | .ssr => "ssr"

structure ActuatorChannelIn where
  slug : Slug
  displayName : String
  actuatorType : ActuatorType := .relay
  hardwareChannel : String
  defaultState : String := "off"
  enabled : Bool := true
  safetyConfig : Option Dict

structure TelemetryQuery where
  measurementKey : Option String
  hours : ℕ := 24
  limit : ℕ := 1000
  hours_range : 1 ≤ hours ∧ hours ≤ 720
  limit_range : 1 ≤ limit ∧ limit ≤ 10000

/-! ## Columns -/

/-- A statement with a value that its column does not take fails. -/
def column {α : Type} : Option α → Except Failure α
  | none => .error .dataError
  | some a => .ok a

def textColumn (s : String) : Except Failure String := column (Db.text (Str.of s))

def varcharColumn (n : ℕ) (s : String) : Except Failure String := column (Db.varchar n (Str.of s))

def jsonbColumn (d : Dict) : Except Failure Dict := if Db.jsonb (.obj d) then .ok d else .error .dataError

/-- A `NOT NULL` column. -/
def notNull {α β : Type} (f : α → Except Failure β) : Option α → Except Failure β
  | none => .error .integrityError
  | some a => f a

/-- A foreign key into the rows of another table. -/
def foreignKey (rows : UUID → Bool) (id : UUID) : Except Failure UUID :=
  if rows id then .ok id else .error .integrityError

/-- A field of a patch: `exclude_unset` leaves the column as it is. -/
def patched {α β : Type} (old : β) (f : α → Except Failure β) : Option α → Except Failure β
  | none => .ok old
  | some a => f a

/-- `Gateway(id=uuid.uuid4(), **body.model_dump())` -/
def GatewayIn.row (body : GatewayIn) (env : Env) : Except Failure GatewayRow := do
  let name ← textColumn body.name
  let companyId ← foreignKey env.companies body.companyId
  let siteId ← body.siteId.mapM (foreignKey env.sites)
  let gatewayProfileId ← body.gatewayProfileId.mapM (foreignKey env.gatewayProfiles)
  .ok ⟨.registered env.id body.serialNumber.text companyId siteId, name, gatewayProfileId, env.now⟩

/-- `setattr(gateway, key, value)` for the fields that are set. -/
def GatewayPatch.row (body : GatewayPatch) (env : Env) (gw : GatewayRow) : Except Failure GatewayRow := do
  let name ← patched gw.name (notNull textColumn) body.name
  let siteId ← patched gw.siteId (·.mapM (foreignKey env.sites)) body.siteId
  let gatewayProfileId ←
    patched gw.gatewayProfileId (·.mapM (foreignKey env.gatewayProfiles)) body.gatewayProfileId
  let status ← patched gw.status (notNull (varcharColumn 32)) body.status
  let firmwareVersion ← patched gw.firmwareVersion (·.mapM (varcharColumn 64)) body.firmwareVersion
  let appVersion ← patched gw.appVersion (·.mapM (varcharColumn 64)) body.appVersion
  .ok { gw with name, siteId, gatewayProfileId, status, firmwareVersion, appVersion }

/-- `UPDATE gateways SET … WHERE id = …` -/
def GatewayRow.update (gateway old : GatewayRow) : GatewayRow := { gateway with id := old.id }

theorem GatewayRow.id_update (gateway old : GatewayRow) : (gateway.update old).id = old.id := rfl

/-- `SensorChannel(id=uuid.uuid4(), gateway_id=gateway_id, **body.model_dump())` -/
def SensorChannelIn.row (body : SensorChannelIn) (env : Env) (gatewayId : UUID) :
    Except Failure SensorChannelRow := do
  let sensorProfileId ← foreignKey env.sensorProfiles body.sensorProfileId
  let displayName ← textColumn body.displayName
  let interfaceName ← varcharColumn 64 body.interfaceName
  let protocol ← varcharColumn 32 body.protocol
  let address ← body.address.mapM (varcharColumn 64)
  let slaveId ← body.slaveId.mapM (column <| Db.integer ·)
  let pollingIntervalSec ← column (Db.integer body.pollingIntervalSec)
  let config ← body.config.mapM jsonbColumn
  .ok ⟨env.id, gatewayId, body.slug.text, sensorProfileId, displayName, interfaceName, protocol, address,
    slaveId, pollingIntervalSec, body.enabled, config, env.now⟩

/-- `ActuatorChannel(id=uuid.uuid4(), gateway_id=gateway_id, **body.model_dump())` -/
def ActuatorChannelIn.row (body : ActuatorChannelIn) (env : Env) (gatewayId : UUID) :
    Except Failure ActuatorChannelRow := do
  let displayName ← textColumn body.displayName
  let hardwareChannel ← varcharColumn 64 body.hardwareChannel
  let defaultState ← varcharColumn 8 body.defaultState
  let safetyConfig ← body.safetyConfig.mapM jsonbColumn
  .ok ⟨⟨env.id, gatewayId, body.slug.text⟩, displayName, body.actuatorType.text, hardwareChannel,
    defaultState, none, body.enabled, safetyConfig, env.now⟩

/-! ## Endpoints -/

namespace Tables

/-- `_check_perm`, which returns the row it has found. -/
def checkPerm (db : Tables) (userId gatewayId : UUID) (required : String) : Except Failure GatewayRow := do
  let _ ← Server.checkPerm db.access userId gatewayId required
  match db.gateways.find? gatewayId with
  | none => .error (.http 404 "gateway not found")
  | some gateway => .ok gateway

def registerGateway (db : Tables) (env : Env) (userId : UUID) (body : GatewayIn) :
    Except Failure (GatewayRow × Tables) := do
  let gateway ← body.row env
  -- `serial_number` is unique
  if gateway.serialNumber ∈ db.gateways.rows.map (·.serialNumber) then .error .integrityError
  else match db.gateways.insert gateway, db.permissions.insert ⟨userId, env.id, "admin"⟩ with
  | some gateways, some permissions => .ok (gateway, { db with gateways, permissions })
  | _, _ => .error .integrityError

/-- `select(Gateway).join(UserGatewayPermission).where(…).order_by(…).distinct()` -/
def listGateways (db : Tables) (userId : UUID) : List GatewayRow :=
  let joined := db.gateways.rows.flatMap fun gw =>
    (db.permissions.rows.filter fun r => r.gatewayId = gw.id ∧ r.userId = userId).map fun _ => gw
  joined.dedup.insertionSort fun a b => b.registeredAt ≤ a.registeredAt

def getGateway (db : Tables) (userId gatewayId : UUID) : Except Failure GatewayRow :=
  db.checkPerm userId gatewayId "view"

def updateGateway (db : Tables) (env : Env) (userId gatewayId : UUID) (body : GatewayPatch) :
    Except Failure (GatewayRow × Tables) := do
  let old ← db.checkPerm userId gatewayId "configure"
  let gateway ← body.row env old
  .ok (gateway, { db with
    gateways := db.gateways.modify gatewayId gateway.update gateway.id_update })

/-- The channels go with the gateway (`cascade="all, delete-orphan"`); a command that refers
to it or to one of its channels keeps it. -/
def deleteGateway (db : Tables) (userId gatewayId : UUID) : Except Failure Tables := do
  let gateway ← db.checkPerm userId gatewayId "admin"
  let channels := db.actuatorChannels.rows.filter (·.gatewayId = gateway.id)
  if db.commands.rows.any fun cmd =>
      cmd.gatewayId = gateway.id ∨ cmd.actuatorChannelId ∈ channels.map fun ch => some ch.id then
    .error .integrityError
  else .ok { db with
    gateways := db.gateways.restrict (·.id ≠ gateway.id)
    sensorChannels := db.sensorChannels.restrict (·.gatewayId ≠ gateway.id)
    actuatorChannels := db.actuatorChannels.restrict (·.gatewayId ≠ gateway.id) }

end Tables

structure GatewayState where
  gatewayId : UUID
  status : String
  lastSeenAt : Option String
  firmwareVersion : Option String
  appVersion : Option String
  configVersion : ℤ
  now : String

namespace Tables

def getGatewayState (db : Tables) (env : Env) (userId gatewayId : UUID) : Except Failure GatewayState := do
  let gateway ← db.checkPerm userId gatewayId "view"
  .ok ⟨gateway.id, gateway.status, gateway.lastSeenAt.map isoformat, gateway.firmwareVersion,
    gateway.appVersion, gateway.configVersion, isoformat env.now⟩

end Tables

/-- The row with all its columns, of what `issueCommand` makes. -/
def CommandIn.row (body : CommandIn) (env : Env) (userId : UUID) (cmd : Command) : CommandRow where
  toCommand := cmd
  actuatorChannelId := some body.actuatorChannelId
  action := body.action.text
  issuedBy := some userId
  issuedAt := env.now
  timeoutMs := body.timeoutMs
  requireAck := body.requireAck
  reason := body.reason.bind Db.text
  response := none

/-- `cmd.status = "published"` -/
def CommandRow.publish (cmd : CommandRow) : CommandRow := { cmd with status := "published" }

theorem CommandRow.id_publish (cmd : CommandRow) : cmd.publish.id = cmd.id := rfl

namespace Tables

/-- The row is committed, the request is published, the status is committed: the row stays
when the second or the third fails. -/
def issueCommand (db : Tables) (env : Env) (userId gatewayId : UUID) (body : CommandIn) :
    Except Failure (CommandRow × Request) × Tables :=
  match Server.issueCommand (db.api env.commandDefaultExpiresSec) userId gatewayId env.now env.hex body with
  | .error e => (.error e, db)
  | .ok (cmd, request) =>
    match db.commands.insert (body.row env userId cmd) with
    | none => (.error .integrityError, db)
    | some commands =>
      match env.publishError with
      | some exc => (.error (.http 503 ("mqtt publish failed: " ++ exc)), { db with commands })
      | none =>
        (.ok ((body.row env userId cmd).publish, request),
          { db with commands := commands.modify cmd.id (·.publish) CommandRow.id_publish })

def getCommand (db : Tables) (userId : UUID) (commandId : String) : Except Failure CommandRow := do
  match db.commands.find? commandId with
  | none => .error (.http 404 "command not found")
  | some cmd =>
    let _ ← db.checkPerm userId cmd.gatewayId "view"
    .ok cmd

def addSensorChannel (db : Tables) (env : Env) (userId gatewayId : UUID) (body : SensorChannelIn) :
    Except Failure (SensorChannelRow × Tables) := do
  let _ ← db.checkPerm userId gatewayId "configure"
  let channel ← body.row env gatewayId
  -- `uq_sensor_channels_gateway_slug`
  if (gatewayId, channel.slug) ∈ db.sensorChannels.rows.map fun ch => (ch.gatewayId, ch.slug) then
    .error .integrityError
  else match db.sensorChannels.insert channel with
  | some sensorChannels => .ok (channel, { db with sensorChannels })
  | none => .error .integrityError

def listSensorChannels (db : Tables) (userId gatewayId : UUID) : Except Failure (List SensorChannelRow) := do
  let _ ← db.checkPerm userId gatewayId "view"
  .ok ((db.sensorChannels.rows.filter (·.gatewayId = gatewayId)).insertionSort fun a b =>
    a.createdAt ≤ b.createdAt)

def deleteSensorChannel (db : Tables) (userId channelId : UUID) : Except Failure Tables := do
  match db.sensorChannels.find? channelId with
  | none => .error (.http 404 "channel not found")
  | some channel =>
    let _ ← db.checkPerm userId channel.gatewayId "configure"
    .ok { db with sensorChannels := db.sensorChannels.restrict (·.id ≠ channel.id) }

def addActuatorChannel (db : Tables) (env : Env) (userId gatewayId : UUID) (body : ActuatorChannelIn) :
    Except Failure (ActuatorChannelRow × Tables) := do
  let _ ← db.checkPerm userId gatewayId "configure"
  let channel ← body.row env gatewayId
  -- `uq_actuator_channels_gateway_slug`
  if (gatewayId, channel.slug) ∈ db.actuatorChannels.rows.map fun ch => (ch.gatewayId, ch.slug) then
    .error .integrityError
  else match db.actuatorChannels.insert channel with
  | some actuatorChannels => .ok (channel, { db with actuatorChannels })
  | none => .error .integrityError

def listActuatorChannels (db : Tables) (userId gatewayId : UUID) :
    Except Failure (List ActuatorChannelRow) := do
  let _ ← db.checkPerm userId gatewayId "view"
  .ok ((db.actuatorChannels.rows.filter (·.gatewayId = gatewayId)).insertionSort fun a b =>
    a.createdAt ≤ b.createdAt)

/-- A command that refers to the channel keeps it. -/
def deleteActuatorChannel (db : Tables) (userId channelId : UUID) : Except Failure Tables := do
  match db.actuatorChannels.find? channelId with
  | none => .error (.http 404 "channel not found")
  | some channel =>
    let _ ← db.checkPerm userId channel.gatewayId "configure"
    if db.commands.rows.any (·.actuatorChannelId = some channel.id) then .error .integrityError
    else .ok { db with actuatorChannels := db.actuatorChannels.restrict (·.id ≠ channel.id) }

def getLatest (db : Tables) (env : Env) (userId gatewayId : UUID) : Except Failure (List TelemetryLatest) := do
  let _ ← db.checkPerm userId gatewayId "view"
  .ok ((db.latest.rows.filter (·.gatewayId = gatewayId)).insertionSort fun a b =>
    env.collation a.measurementKey b.measurementKey)

end Tables

structure TelemetryRow where
  ts : ℤ
  measurementKey : String
  valueDouble : Option Double
  unit : Option String
  quality : Option String
deriving DecidableEq

namespace Tables

def getTelemetryRange (db : Tables) (env : Env) (userId gatewayId : UUID) (q : TelemetryQuery) :
    Except Failure (List TelemetryRow) := do
  let _ ← db.checkPerm userId gatewayId "view"
  let measurementKey ← q.measurementKey.mapM textColumn
  let since := env.now - q.hours * 3600000000
  let rows := db.telemetry.filter fun row =>
    row.gatewayId = gatewayId ∧ since ≤ row.ts ∧ ∀ key ∈ measurementKey, row.measurementKey = key
  .ok (((rows.insertionSort fun a b => b.ts ≤ a.ts).take q.limit).map fun row =>
    ⟨row.ts, row.measurementKey, row.valueDouble, row.unit, row.quality⟩)

end Tables

/-! ## Requests -/

/-- An endpoint, with the parameters of its path and query and its body. -/
inductive Route where
  | registerGateway (body : GatewayIn)
  | listGateways
  | getGateway (gatewayId : UUID)
  | updateGateway (gatewayId : UUID) (body : GatewayPatch)
  | deleteGateway (gatewayId : UUID)
  | getGatewayState (gatewayId : UUID)
  | issueCommand (gatewayId : UUID) (body : CommandIn)
  | getCommand (commandId : String)
  | addSensorChannel (gatewayId : UUID) (body : SensorChannelIn)
  | listSensorChannels (gatewayId : UUID)
  | deleteSensorChannel (channelId : UUID)
  | addActuatorChannel (gatewayId : UUID) (body : ActuatorChannelIn)
  | listActuatorChannels (gatewayId : UUID)
  | deleteActuatorChannel (channelId : UUID)
  | getLatest (gatewayId : UUID)
  | getTelemetryRange (gatewayId : UUID) (q : TelemetryQuery)

inductive Reply where
  | gateway (row : GatewayRow)
  | gateways (rows : List GatewayRow)
  | state (s : GatewayState)
  /-- the command's row, and the request that was published for it -/
  | accepted (cmd : CommandRow) (request : Request)
  | command (cmd : CommandRow)
  | sensorChannel (row : SensorChannelRow)
  | sensorChannels (rows : List SensorChannelRow)
  | actuatorChannel (row : ActuatorChannelRow)
  | actuatorChannels (rows : List ActuatorChannelRow)
  | latest (rows : List TelemetryLatest)
  | telemetry (rows : List TelemetryRow)
  | noContent

/-- A transaction that fails is rolled back. -/
def Tables.commit {α : Type} (db : Tables) (reply : α → Reply) :
    Except Failure (α × Tables) → Except Failure Reply × Tables
  | .error e => (.error e, db)
  | .ok (a, db') => (.ok (reply a), db')

def Tables.commitDelete (db : Tables) : Except Failure Tables → Except Failure Reply × Tables
  | .error e => (.error e, db)
  | .ok db' => (.ok .noContent, db')

/-- A user's request: its outcome, and the tables after it. -/
def Tables.handle (db : Tables) (env : Env) (userId : UUID) : Route → Except Failure Reply × Tables
  | .registerGateway body => db.commit .gateway (db.registerGateway env userId body)
  | .listGateways => (.ok (.gateways (db.listGateways userId)), db)
  | .getGateway g => ((db.getGateway userId g).map .gateway, db)
  | .updateGateway g body => db.commit .gateway (db.updateGateway env userId g body)
  | .deleteGateway g => db.commitDelete (db.deleteGateway userId g)
  | .getGatewayState g => ((db.getGatewayState env userId g).map .state, db)
  | .issueCommand g body =>
    let (outcome, db') := db.issueCommand env userId g body
    (outcome.map fun (cmd, request) => .accepted cmd request, db')
  | .getCommand commandId => ((db.getCommand userId commandId).map .command, db)
  | .addSensorChannel g body => db.commit .sensorChannel (db.addSensorChannel env userId g body)
  | .listSensorChannels g => ((db.listSensorChannels userId g).map .sensorChannels, db)
  | .deleteSensorChannel channelId => db.commitDelete (db.deleteSensorChannel userId channelId)
  | .addActuatorChannel g body => db.commit .actuatorChannel (db.addActuatorChannel env userId g body)
  | .listActuatorChannels g => ((db.listActuatorChannels userId g).map .actuatorChannels, db)
  | .deleteActuatorChannel channelId => db.commitDelete (db.deleteActuatorChannel userId channelId)
  | .getLatest g => ((db.getLatest env userId g).map .latest, db)
  | .getTelemetryRange g q => ((db.getTelemetryRange env userId g q).map .telemetry, db)

end Server
