import IotGateway.Db.Column
import IotGateway.Db.Table
import IotGateway.Python.DateTime

/-!
# Database rows

The rows of the tables that the API, the worker and the scheduler share, less the columns
that none of the modelled functions reads. An instant is its number of microseconds
since the epoch, as PostgreSQL keeps it.
-/

namespace Server

abbrev UUID := BitVec 128

structure Gateway where
  id : UUID
  serialNumber : String
  companyId : UUID
  siteId : Option UUID
  status : String
  firmwareVersion : Option String
  appVersion : Option String
  configVersion : ℤ
  lastSeenAt : Option ℤ
deriving DecidableEq

/-- The row `register_gateway` makes: offline, and not yet seen. -/
def Gateway.registered (id : UUID) (serialNumber : String) (companyId : UUID) (siteId : Option UUID) :
    Gateway :=
  ⟨id, serialNumber, companyId, siteId, "offline", none, none, 0, none⟩

structure UserGatewayPermission where
  userId : UUID
  gatewayId : UUID
  permission : String
deriving DecidableEq

/-- The columns of `UniqueConstraint("user_id", "gateway_id", "permission")`. -/
def UserGatewayPermission.key (r : UserGatewayPermission) : UUID × UUID × String :=
  (r.userId, r.gatewayId, r.permission)

/-- `ck_sensor_channels_slug_format`: `^[A-Za-z0-9_-]+$` -/
def SlugFormat (s : String) : Prop :=
  s.toList ≠ [] ∧ ∀ c ∈ s.toList, c.isAlphanum = true ∨ c = '_' ∨ c = '-'

instance (s : String) : Decidable (SlugFormat s) := @instDecidableAnd _ _ _ (List.decidableBAll _ s.toList)

structure SensorChannel where
  id : UUID
  gatewayId : UUID
  slug : String
  slug_format : SlugFormat slug

structure ActuatorChannel where
  id : UUID
  gatewayId : UUID
  slug : String
deriving DecidableEq

structure Command where
  id : String
  gatewayId : UUID
  status : String
  expiresAt : ℤ
  completedAt : Option ℤ
deriving DecidableEq

open Python in
structure Telemetry where
  companyId : UUID
  siteId : Option UUID
  gatewayId : UUID
  sensorChannelId : UUID
  measurementKey : String
  ts : ℤ
  valueDouble : Option Double
  unit : Option String
  quality : Option String
  raw : Json

open Python in
structure TelemetryLatest where
  gatewayId : UUID
  sensorChannelId : UUID
  measurementKey : String
  ts : ℤ
  valueDouble : Option Double
  unit : Option String
  quality : Option String
deriving DecidableEq

/-- The primary key of `telemetry_latest`. -/
def TelemetryLatest.key (r : TelemetryLatest) : UUID × UUID × String :=
  (r.gatewayId, r.sensorChannelId, r.measurementKey)

/-- The tables of the worker's handlers of telemetry, heartbeats and states. -/
structure Store where
  gateways : Db.Table Gateway (·.id)
  channels : Db.Table SensorChannel fun c => (c.gatewayId, c.slug)
  telemetry : List Telemetry
  latest : Db.Table TelemetryLatest (·.key)

open Python in
/-- `parse_iso8601(d.get(key))` at server time `now`: a falsy value is `now`, a naive time
is UTC; `none` is an exception. -/
def parseIso8601 (now : ℤ) (value : Option Json) : Option ℤ :=
  match value with
  | none => some now
  | some v =>
    if v.truthy = false then some now
    else match v with
    | .str s => do
      let plain := s.flatMap fun c => if c = .scalar 'Z' then Str.of "+00:00" else [c]
      let (wall, offset) ← fromisoformat plain
      some (wall - offset.getD 0)
    | _ => none

end Server
