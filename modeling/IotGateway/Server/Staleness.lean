import IotGateway.Db.Ttl
import IotGateway.Lts.Run
import IotGateway.Server.Dispatch

/-!
# How old a looked up identifier can be

The three caches of a worker process, over every sequence of lookups, invalidations and
changes of the database, one at a time and with a clock that does not go back. Beside them
the run notes what the database was at the time of each event: for all keys since
`invalidate_all`, and for a serial number since it was last invalidated.

`caches_stale_at_most_ttl`: **what a lookup returns, `None` included, is what the database had
for that key at a moment of the last minute, which for a gateway is not before the last
invalidation of its serial number.**
-/

namespace Server

open Python Lts

/-- The tables the lookups read. -/
structure Identifiers extends Store where
  actuatorChannels : Db.Table ActuatorChannel fun c => (c.gatewayId, c.slug)

/-- `select(ActuatorChannel.id).where(…)`; `none` is an exception. -/
def queryActuator (db : Identifiers) (gatewayId : UUID) (slug : Str) : Option (Option UUID) :=
  (Db.text slug).map fun s => (db.actuatorChannels.find? (gatewayId, s)).map (·.id)

/-- `actuator_channel_by_slug` at `time.monotonic() = mono`. -/
def actuatorChannelBySlug (db : Identifiers) (cache : Cache) (mono : ℤ) (gatewayId : UUID) (slug : Str) :
    Option (Option UUID × Cache) :=
  Ttl.lookup ttl (fun key => queryActuator db key.1 key.2) cache mono (gatewayId, slug)

/-- The other two do the same with their own queries. -/
theorem gatewayUuidBySerial_eq (store : Store) (cache : GatewayCache) (mono : ℤ) (serial : Str) :
    gatewayUuidBySerial store cache mono serial = Ttl.lookup ttl (queryGateway store) cache mono serial := by
  unfold gatewayUuidBySerial Ttl.lookup
  cases cache serial with
  | none => rfl
  | some entry => rfl

theorem sensorChannelUuidBySlug_eq (store : Store) (cache : Cache) (mono : ℤ) (gatewayId : UUID) (slug : Str) :
    sensorChannelUuidBySlug store cache mono gatewayId slug =
      Ttl.lookup ttl (fun key => queryChannel store key.1 key.2) cache mono (gatewayId, slug) := by
  unfold sensorChannelUuidBySlug Ttl.lookup
  cases cache (gatewayId, slug) with
  | none => rfl
  | some entry => rfl

/-- The caches of `_lookups`. -/
structure LookupCaches extends Lookups where
  actuators : Cache

namespace LookupCaches

/-- Those of a process that starts. -/
def empty : LookupCaches := ⟨⟨fun _ => none, fun _ => none⟩, fun _ => none⟩

/-- `invalidate_gateway` -/
def invalidateGateway (caches : LookupCaches) (serial : Str) : LookupCaches :=
  { caches with gateways := Function.update caches.gateways serial none }

/-- `invalidate_all` -/
def invalidateAll (_ : LookupCaches) : LookupCaches := empty

end LookupCaches

/-! ## Events -/

inductive LookupCall where
  | gatewayUuidBySerial (serial : Str)
  | sensorChannelUuidBySlug (gatewayId : UUID) (slug : Str)
  | actuatorChannelBySlug (gatewayId : UUID) (slug : Str)
  | invalidateGateway (serial : Str)
  | invalidateAll
  /-- anyone else's transaction -/
  | change (db : Identifiers)

/-- A worker process and its database. -/
structure LookupProcess where
  db : Identifiers
  caches : LookupCaches
  clock : ℤ
  /-- since `invalidate_all` -/
  log : List (Ttl.Moment Identifiers)
  /-- since the last invalidation of a serial number -/
  serialLog : Str → List (Ttl.Moment Identifiers)

namespace LookupProcess

/-- A process that starts. -/
def start (db : Identifiers) (clock : ℤ) : LookupProcess := ⟨db, .empty, clock, [], fun _ => []⟩

/-- The clock goes on, and the database is what it is now. -/
def observe (w : LookupProcess) (now : ℤ) : LookupProcess :=
  { w with
    clock := now
    log := w.log ++ [⟨now, w.db⟩]
    serialLog := fun serial => w.serialLog serial ++ [⟨now, w.db⟩] }

/-- A call; one that raises leaves the caches as they are. -/
def call (w : LookupProcess) : LookupCall → LookupProcess
  | .gatewayUuidBySerial serial =>
    match Server.gatewayUuidBySerial w.db.toStore w.caches.gateways w.clock serial with
    | some (_, gateways) => { w with caches := { w.caches with gateways } }
    | none => w
  | .sensorChannelUuidBySlug gatewayId slug =>
    match Server.sensorChannelUuidBySlug w.db.toStore w.caches.sensors w.clock gatewayId slug with
    | some (_, sensors) => { w with caches := { w.caches with sensors } }
    | none => w
  | .actuatorChannelBySlug gatewayId slug =>
    match Server.actuatorChannelBySlug w.db w.caches.actuators w.clock gatewayId slug with
    | some (_, actuators) => { w with caches := { w.caches with actuators } }
    | none => w
  | .invalidateGateway serial =>
    -- what is noted from here on is not before the invalidation
    { w with
      caches := w.caches.invalidateGateway serial
      serialLog := Function.update w.serialLog serial [⟨w.clock, w.db⟩] }
  | .invalidateAll =>
    { w with
      caches := w.caches.invalidateAll
      log := [⟨w.clock, w.db⟩]
      serialLog := fun _ => [⟨w.clock, w.db⟩] }
  | .change db => { w with db }.observe w.clock

/-- A call at a time. -/
def step (w : LookupProcess) : ℤ × LookupCall → Option LookupProcess
  | (now, c) => if w.clock ≤ now then some ((w.observe now).call c) else none

/-- The value is what the query gave at a moment of the last minute in the log. -/
def HeldRecently (log : List (Ttl.Moment Identifiers)) (now : ℤ) (query : Identifiers → Option (Option UUID))
    (value : Option UUID) : Prop :=
  ∃ m ∈ log, query m.source = some value ∧ now - ttl ≤ m.time ∧ m.time ≤ now

/-- What a lookup returns at `now` is at most a minute old, and no older than the log. -/
def Recent (w : LookupProcess) (e : ℤ × LookupCall) (w' : LookupProcess) : Prop :=
  match e with
  | (now, .gatewayUuidBySerial serial) => ∀ value gateways,
    Server.gatewayUuidBySerial w.db.toStore w.caches.gateways now serial = some (value, gateways) →
      HeldRecently (w'.serialLog serial) now (fun db => queryGateway db.toStore serial) value
  | (now, .sensorChannelUuidBySlug gatewayId slug) => ∀ value sensors,
    Server.sensorChannelUuidBySlug w.db.toStore w.caches.sensors now gatewayId slug = some (value, sensors) →
      HeldRecently w'.log now (fun db => queryChannel db.toStore gatewayId slug) value
  | (now, .actuatorChannelBySlug gatewayId slug) => ∀ value actuators,
    Server.actuatorChannelBySlug w.db w.caches.actuators now gatewayId slug = some (value, actuators) →
      HeldRecently w'.log now (fun db => queryActuator db gatewayId slug) value
  | _ => True

/-- The caches are right for their logs, and the logs are of the past. -/
structure Inv (w : LookupProcess) : Prop where
  gateways : Ttl.Fresh ttl (fun db serial => queryGateway db.toStore serial) w.serialLog w.caches.gateways
  sensors : Ttl.Fresh ttl (fun db key => queryChannel db.toStore key.1 key.2) (fun _ => w.log) w.caches.sensors
  actuators : Ttl.Fresh ttl (fun db key => queryActuator db key.1 key.2) (fun _ => w.log) w.caches.actuators
  log : ∀ m ∈ w.log, m.time ≤ w.clock
  serialLog : ∀ serial, ∀ m ∈ w.serialLog serial, m.time ≤ w.clock

theorem inv_start (db : Identifiers) (clock : ℤ) : Inv (start db clock) :=
  ⟨Ttl.fresh_empty, Ttl.fresh_empty, Ttl.fresh_empty, nofun, nofun⟩

variable {w w' : LookupProcess} {now : ℤ}

/-- The moment that is noted. -/
theorem now_mem_log (w : LookupProcess) (now : ℤ) : ⟨now, w.db⟩ ∈ (w.observe now).log :=
  List.mem_append_right _ (List.mem_singleton_self _)

theorem now_mem_serialLog (w : LookupProcess) (now : ℤ) (serial : Str) :
    ⟨now, w.db⟩ ∈ (w.observe now).serialLog serial :=
  List.mem_append_right _ (List.mem_singleton_self _)

theorem inv_observe (hw : Inv w) (hclock : w.clock ≤ now) : Inv (w.observe now) := by
  have hpast : ∀ log : List (Ttl.Moment Identifiers), (∀ m ∈ log, m.time ≤ w.clock) →
      ∀ m ∈ log ++ [⟨now, w.db⟩], m.time ≤ now := by
    intro log hlog m hm
    rcases List.mem_append.1 hm with hm | hm
    · exact (hlog m hm).trans hclock
    · rw [List.mem_singleton.1 hm]
  refine ⟨?_, ?_, ?_, hpast _ hw.log, fun serial => hpast _ (hw.serialLog serial)⟩
  · exact hw.gateways.mono fun serial => List.subset_append_left _ _
  · exact hw.sensors.mono fun _ => List.subset_append_left _ _
  · exact hw.actuators.mono fun _ => List.subset_append_left _ _

/-- A moment since an invalidation. -/
theorem time_le_of_mem_singleton {m : Ttl.Moment Identifiers} {db : Identifiers} (h : m ∈ [⟨now, db⟩]) :
    m.time ≤ now := by
  rw [List.mem_singleton.1 h]

theorem ttl_nonneg : 0 ≤ ttl := by decide

/-- What the three lookups give a worker that has noted the moment. -/
theorem gateway_lookup (hobs : Inv (w.observe now)) {serial : Str} {value : Option UUID} {gateways : GatewayCache}
    (h : Server.gatewayUuidBySerial w.db.toStore w.caches.gateways now serial = some (value, gateways)) :
    Ttl.Fresh ttl (fun db serial => queryGateway db.toStore serial) (w.observe now).serialLog gateways ∧
      HeldRecently ((w.observe now).serialLog serial) now (fun db => queryGateway db.toStore serial) value := by
  rw [gatewayUuidBySerial_eq] at h
  exact hobs.gateways.lookup ttl_nonneg (now_mem_serialLog w now serial) (hobs.serialLog serial) h

theorem sensor_lookup (hobs : Inv (w.observe now)) {gatewayId : UUID} {slug : Str} {value : Option UUID}
    {sensors : Cache}
    (h : Server.sensorChannelUuidBySlug w.db.toStore w.caches.sensors now gatewayId slug = some (value, sensors)) :
    Ttl.Fresh ttl (fun db key => queryChannel db.toStore key.1 key.2) (fun _ => (w.observe now).log) sensors ∧
      HeldRecently (w.observe now).log now (fun db => queryChannel db.toStore gatewayId slug) value := by
  rw [sensorChannelUuidBySlug_eq] at h
  exact hobs.sensors.lookup ttl_nonneg (now_mem_log w now) hobs.log h

theorem actuator_lookup (hobs : Inv (w.observe now)) {gatewayId : UUID} {slug : Str} {value : Option UUID}
    {actuators : Cache}
    (h : Server.actuatorChannelBySlug w.db w.caches.actuators now gatewayId slug = some (value, actuators)) :
    Ttl.Fresh ttl (fun db key => queryActuator db key.1 key.2) (fun _ => (w.observe now).log) actuators ∧
      HeldRecently (w.observe now).log now (fun db => queryActuator db gatewayId slug) value :=
  hobs.actuators.lookup ttl_nonneg (now_mem_log w now) hobs.log h

/-- **One call**, of a worker that has noted the moment. -/
theorem inv_call (hobs : Inv (w.observe now)) (c : LookupCall) :
    Inv ((w.observe now).call c) ∧ Recent w (now, c) ((w.observe now).call c) := by
  cases c with
  | gatewayUuidBySerial serial =>
    dsimp only [call, Recent, observe]
    cases hr : Server.gatewayUuidBySerial w.db.toStore w.caches.gateways now serial with
    | none => exact ⟨hobs, nofun⟩
    | some result =>
      obtain ⟨value, gateways⟩ := result
      obtain ⟨hfresh, hheld⟩ := gateway_lookup hobs hr
      refine ⟨⟨hfresh, hobs.sensors, hobs.actuators, hobs.log, hobs.serialLog⟩, fun value' gateways' h => ?_⟩
      cases h
      exact hheld
  | sensorChannelUuidBySlug gatewayId slug =>
    dsimp only [call, Recent, observe]
    cases hr : Server.sensorChannelUuidBySlug w.db.toStore w.caches.sensors now gatewayId slug with
    | none => exact ⟨hobs, nofun⟩
    | some result =>
      obtain ⟨value, sensors⟩ := result
      obtain ⟨hfresh, hheld⟩ := sensor_lookup hobs hr
      refine ⟨⟨hobs.gateways, hfresh, hobs.actuators, hobs.log, hobs.serialLog⟩, fun value' sensors' h => ?_⟩
      cases h
      exact hheld
  | actuatorChannelBySlug gatewayId slug =>
    dsimp only [call, Recent, observe]
    cases hr : Server.actuatorChannelBySlug w.db w.caches.actuators now gatewayId slug with
    | none => exact ⟨hobs, nofun⟩
    | some result =>
      obtain ⟨value, actuators⟩ := result
      obtain ⟨hfresh, hheld⟩ := actuator_lookup hobs hr
      refine ⟨⟨hobs.gateways, hobs.sensors, hfresh, hobs.log, hobs.serialLog⟩, fun value' actuators' h => ?_⟩
      cases h
      exact hheld
  | invalidateGateway serial =>
    refine ⟨⟨?_, hobs.sensors, hobs.actuators, hobs.log, fun serial' => ?_⟩, trivial⟩
    · exact Ttl.fresh_erase hobs.gateways fun serial' hne => Function.update_of_ne hne _ _
    · by_cases hserial : serial' = serial
      · rw [hserial]
        dsimp only [call]
        rw [Function.update_self]
        exact fun m => time_le_of_mem_singleton
      · dsimp only [call]
        rw [Function.update_of_ne hserial]
        exact hobs.serialLog serial'
  | invalidateAll =>
    exact ⟨⟨Ttl.fresh_empty, Ttl.fresh_empty, Ttl.fresh_empty, fun m => time_le_of_mem_singleton,
      fun serial m => time_le_of_mem_singleton⟩, trivial⟩
  | change db =>
    -- the new tables are noted at the same time as the old ones
    have hchange : Inv { w.observe now with db } :=
      ⟨hobs.gateways, hobs.sensors, hobs.actuators, hobs.log, hobs.serialLog⟩
    exact ⟨inv_observe hchange le_rfl, trivial⟩

theorem step_eq_some {e : ℤ × LookupCall} (h : step w e = some w') :
    w.clock ≤ e.1 ∧ w' = (w.observe e.1).call e.2 := by
  obtain ⟨now, c⟩ := e
  dsimp only [step] at h
  split_ifs at h with hclock
  exact ⟨hclock, (Option.some.inj h).symm⟩

theorem inv_event {e : ℤ × LookupCall} (hw : Inv w) (h : step w e = some w') : Inv w' := by
  obtain ⟨hclock, rfl⟩ := step_eq_some h
  exact (inv_call (inv_observe hw hclock) e.2).1

theorem recent_event {e : ℤ × LookupCall} (hw : Inv w) (h : step w e = some w') : Recent w e w' := by
  obtain ⟨hclock, rfl⟩ := step_eq_some h
  exact (inv_call (inv_observe hw hclock) e.2).2

/-- **Identifier caches are at most a time to live stale.** From a process that starts, on any
database, for every sequence of lookups, invalidations and changes of the database under a
clock that does not go back: every value that a lookup returns, `None` included, is what the
database had for exactly that key at a moment of the last 60 seconds, since the last
invalidation of everything, and for a gateway since the last of its serial number. -/
theorem caches_stale_at_most_ttl (db : Identifiers) (clock : ℤ) (es : List (ℤ × LookupCall)) :
    Along step Recent (start db clock) es :=
  along_of_inv (fun _ _ _ => inv_event) (fun _ _ _ => recent_event) (inv_start db clock)

end LookupProcess

end Server
