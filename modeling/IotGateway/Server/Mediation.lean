import IotGateway.Go.Except
import IotGateway.Server.Routes

/-!
# Every request is checked against the gateway it is about

Most endpoints name their gateway in the path; those of a channel or a command by its id
find the gateway through that row.

* `handle_refused`: without the permission, or `admin`, on that gateway, a request fails
  and changes nothing.
* `handle_confined`, `handle_reply`: it changes no rows of other gateways, and its reply
  does not depend on them.
* `complete_mediation`: **so in every run each request reads and changes only rows of
  gateways on which the user holds the permission**; and the commands that are accepted
  keep referring to actuator channels of their own gateway.
-/

namespace Server

open Lts

/-- The rows of the gateways that satisfy `p`. -/
def GatewayTables.restrict (db : GatewayTables) (p : UUID → Bool) : GatewayTables where
  gateways := db.gateways.restrict fun gw => p gw.id
  sensorChannels := db.sensorChannels.restrict fun ch => p ch.gatewayId
  actuatorChannels := db.actuatorChannels.restrict fun ch => p ch.gatewayId
  commands := db.commands.restrict fun cmd => p cmd.gatewayId
  telemetry := db.telemetry.filter fun row => p row.gatewayId
  latest := db.latest.restrict fun row => p row.gatewayId

/-- The user holds the permission on the gateway, or `admin`. -/
def Permits (db : Tables) (userId gatewayId : UUID) (permission : String) : Prop :=
  Holds db.access userId gatewayId permission ∨ Holds db.access userId gatewayId "admin"

/-- The permission that an endpoint is documented to ask for. -/
def Route.required : Route → Option String
  | .registerGateway _ | .listGateways => none
  | .updateGateway .. | .addSensorChannel .. | .deleteSensorChannel _ | .addActuatorChannel .. |
    .deleteActuatorChannel _ => some "configure"
  | .deleteGateway _ => some "admin"
  | .issueCommand .. => some "control"
  | .getGateway _ | .getGatewayState _ | .getCommand _ | .listSensorChannels _ | .listActuatorChannels _ |
    .getLatest _ | .getTelemetryRange .. => some "view"

/-- The gateway that a request is about: that of the path, or of the row named there. -/
def Route.target (db : Tables) : Route → Option UUID
  | .registerGateway _ | .listGateways => none
  | .getGateway g | .updateGateway g _ | .deleteGateway g | .getGatewayState g | .issueCommand g _ |
    .addSensorChannel g _ | .listSensorChannels g | .addActuatorChannel g _ | .listActuatorChannels g |
    .getLatest g | .getTelemetryRange g _ => some g
  | .getCommand commandId => (db.commands.find? commandId).map (·.gatewayId)
  | .deleteSensorChannel channelId => (db.sensorChannels.find? channelId).map (·.gatewayId)
  | .deleteActuatorChannel channelId => (db.actuatorChannels.find? channelId).map (·.gatewayId)

/-- The same permissions, and the same rows of the gateways that satisfy `p`. -/
structure AgreeOn (p : UUID → Bool) (db db₂ : Tables) : Prop where
  permissions : db₂.permissions = db.permissions
  rows : db₂.toGatewayTables.restrict p = db.toGatewayTables.restrict p

variable {db db' db₂ : Tables} {env : Env} {userId t g : UUID} {required : String} {route : Route}
  {p : UUID → Bool} {row : GatewayRow}

/-! ## The check -/

theorem holds_of_checkPerm {access : Access} {gw : Gateway}
    (h : checkPerm access userId t required = .ok gw) :
    Holds access userId t required ∨ Holds access userId t "admin" := by
  cases hfind : access.gateways.find? t with
  | none =>
    unfold checkPerm at h
    rw [hfind] at h
    cases h
  | some gateway =>
    obtain ⟨hmem, rfl⟩ := Db.Table.find?_eq_some.1 hfind
    exact ((allowed_iff hmem).1 ⟨gw, h⟩).1

namespace Tables

theorem checkPerm_eq_ok (h : db.checkPerm userId t required = .ok row) :
    db.gateways.find? t = some row ∧ Permits db userId t required := by
  obtain ⟨gw, hcheck, h⟩ := Except.bind_eq_ok_iff.1 h
  refine ⟨?_, holds_of_checkPerm hcheck⟩
  split at h
  · cases h
  · rename_i gateway hfind
    cases h
    exact hfind

theorem checkPerm_refused (hno : ¬ Permits db userId t required) :
    ∃ e, Server.checkPerm db.access userId t required = .error e ∧
      db.checkPerm userId t required = .error e := by
  cases hcheck : Server.checkPerm db.access userId t required with
  | ok gw => exact absurd (holds_of_checkPerm hcheck) hno
  | error e =>
    refine ⟨e, rfl, ?_⟩
    unfold checkPerm
    rw [hcheck]
    rfl

/-- **Refused**: nothing else is done, whatever the endpoint. -/
theorem handle_refused (ht : route.target db = some t) (hr : route.required = some required)
    (hno : ¬ Permits db userId t required) : ∃ e, db.handle env userId route = (.error e, db) := by
  obtain ⟨e, haccess, hcheck⟩ := checkPerm_refused hno
  refine ⟨e, ?_⟩
  cases route with
  | registerGateway body => cases ht
  | listGateways => cases ht
  | issueCommand gatewayId body =>
    cases ht
    cases hr
    have hissue : Server.issueCommand (db.api env.commandDefaultExpiresSec) userId t env.now env.hex body =
        .error e := by
      unfold Server.issueCommand
      simp only [api, haccess]
      rfl
    simp only [handle, issueCommand, hissue]
    rfl
  | getCommand commandId =>
    obtain ⟨cmd, hcmd, rfl⟩ := Option.map_eq_some_iff.1 ht
    cases hr
    simp only [handle, getCommand, hcmd, hcheck]
    rfl
  | deleteSensorChannel channelId =>
    obtain ⟨channel, hchannel, rfl⟩ := Option.map_eq_some_iff.1 ht
    cases hr
    simp only [handle, deleteSensorChannel, hchannel, hcheck]
    rfl
  | deleteActuatorChannel channelId =>
    obtain ⟨channel, hchannel, rfl⟩ := Option.map_eq_some_iff.1 ht
    cases hr
    simp only [handle, deleteActuatorChannel, hchannel, hcheck]
    rfl
  | getGateway gatewayId | updateGateway gatewayId body | deleteGateway gatewayId
  | getGatewayState gatewayId | addSensorChannel gatewayId body | listSensorChannels gatewayId
  | addActuatorChannel gatewayId body | listActuatorChannels gatewayId | getLatest gatewayId
  | getTelemetryRange gatewayId q =>
    cases ht
    cases hr
    simp only [handle, getGateway, updateGateway, deleteGateway, getGatewayState, addSensorChannel,
      listSensorChannels, addActuatorChannel, listActuatorChannels, getLatest, getTelemetryRange, hcheck]
    rfl

/-- A channel or a command that is not there. -/
theorem handle_unknown (ht : route.target db = none) (hr : route.required = some required) :
    ∃ e, db.handle env userId route = (.error e, db) := by
  cases route with
  | getCommand commandId =>
    refine ⟨.http 404 "command not found", ?_⟩
    simp only [handle, getCommand, Option.map_eq_none_iff.1 ht]
    rfl
  | deleteSensorChannel channelId =>
    refine ⟨.http 404 "channel not found", ?_⟩
    simp only [handle, deleteSensorChannel, Option.map_eq_none_iff.1 ht]
    rfl
  | deleteActuatorChannel channelId =>
    refine ⟨.http 404 "channel not found", ?_⟩
    simp only [handle, deleteActuatorChannel, Option.map_eq_none_iff.1 ht]
    rfl
  | registerGateway body => cases hr
  | listGateways => cases hr
  | _ => cases ht

/-! ## What a successful request writes -/

theorem registerGateway_eq_ok {body : GatewayIn} (h : db.registerGateway env userId body = .ok (row, db')) :
    ∃ gateways permissions, body.row env = .ok row ∧ db.gateways.insert row = some gateways ∧
      db.permissions.insert ⟨userId, env.id, "admin"⟩ = some permissions ∧
      db' = { db with gateways, permissions } := by
  obtain ⟨gateway, hrow, h⟩ := Except.bind_eq_ok_iff.1 h
  split at h
  · cases h
  · split at h
    · rename_i gateways permissions hg hp
      cases h
      exact ⟨gateways, permissions, hrow, hg, hp, rfl⟩
    · cases h

theorem updateGateway_eq_ok {body : GatewayPatch}
    (h : db.updateGateway env userId t body = .ok (row, db')) :
    ∃ old, db.checkPerm userId t "configure" = .ok old ∧ body.row env old = .ok row ∧
      db' = { db with gateways := db.gateways.modify t row.update row.id_update } := by
  obtain ⟨old, hcheck, h⟩ := Except.bind_eq_ok_iff.1 h
  obtain ⟨gateway, hrow, h⟩ := Except.bind_eq_ok_iff.1 h
  cases h
  exact ⟨old, hcheck, hrow, rfl⟩

/-- No command refers to what is deleted. -/
theorem deleteGateway_eq_ok (h : db.deleteGateway userId t = .ok db') :
    (∀ cmd ∈ db.commands.rows, cmd.gatewayId ≠ t ∧
      ∀ ch ∈ db.actuatorChannels.rows, ch.gatewayId = t → cmd.actuatorChannelId ≠ some ch.id) ∧
    db' = { db with
      gateways := db.gateways.restrict (·.id ≠ t)
      sensorChannels := db.sensorChannels.restrict (·.gatewayId ≠ t)
      actuatorChannels := db.actuatorChannels.restrict (·.gatewayId ≠ t) } := by
  obtain ⟨gateway, hcheck, hrest⟩ := Except.bind_eq_ok_iff.1 h
  have hid : gateway.id = t := (Db.Table.find?_eq_some.1 (checkPerm_eq_ok hcheck).1).2
  subst hid
  dsimp only at hrest
  split at hrest
  · cases hrest
  · rename_i hfree
    cases hrest
    refine ⟨fun cmd hcmd => ?_, rfl⟩
    have hno : ¬ (cmd.gatewayId = gateway.id ∨ cmd.actuatorChannelId ∈
        (db.actuatorChannels.rows.filter (·.gatewayId = gateway.id)).map fun ch => some ch.id) := by
      intro href
      exact hfree (List.any_eq_true.2 ⟨cmd, hcmd, decide_eq_true href⟩)
    refine ⟨fun hg => hno (Or.inl hg), fun ch hch hg href => hno (Or.inr ?_)⟩
    exact List.mem_map.2 ⟨ch, List.mem_filter.2 ⟨hch, decide_eq_true hg⟩, href.symm⟩

theorem sensorRow_gatewayId {body : SensorChannelIn} {channel : SensorChannelRow}
    (h : body.row env t = .ok channel) : channel.gatewayId = t := by
  simp only [SensorChannelIn.row, Except.bind_eq_ok_iff] at h
  obtain ⟨_, -, _, -, _, -, _, -, _, -, _, -, _, -, _, -, h⟩ := h
  cases h
  rfl

theorem actuatorRow_gatewayId {body : ActuatorChannelIn} {channel : ActuatorChannelRow}
    (h : body.row env t = .ok channel) : channel.gatewayId = t := by
  simp only [ActuatorChannelIn.row, Except.bind_eq_ok_iff] at h
  obtain ⟨_, -, _, -, _, -, _, -, h⟩ := h
  cases h
  rfl

theorem addSensorChannel_eq_ok {body : SensorChannelIn} {channel : SensorChannelRow}
    (h : db.addSensorChannel env userId t body = .ok (channel, db')) :
    ∃ sensorChannels, body.row env t = .ok channel ∧ db.sensorChannels.insert channel = some sensorChannels ∧
      db' = { db with sensorChannels } := by
  obtain ⟨_, -, h⟩ := Except.bind_eq_ok_iff.1 h
  obtain ⟨row, hrow, h⟩ := Except.bind_eq_ok_iff.1 h
  split at h
  · cases h
  · split at h
    · rename_i sensorChannels hins
      cases h
      exact ⟨sensorChannels, hrow, hins, rfl⟩
    · cases h

theorem addActuatorChannel_eq_ok {body : ActuatorChannelIn} {channel : ActuatorChannelRow}
    (h : db.addActuatorChannel env userId t body = .ok (channel, db')) :
    ∃ actuatorChannels, body.row env t = .ok channel ∧
      db.actuatorChannels.insert channel = some actuatorChannels ∧ db' = { db with actuatorChannels } := by
  obtain ⟨_, -, h⟩ := Except.bind_eq_ok_iff.1 h
  obtain ⟨row, hrow, h⟩ := Except.bind_eq_ok_iff.1 h
  split at h
  · cases h
  · split at h
    · rename_i actuatorChannels hins
      cases h
      exact ⟨actuatorChannels, hrow, hins, rfl⟩
    · cases h

theorem deleteSensorChannel_eq_ok {channelId : UUID} (h : db.deleteSensorChannel userId channelId = .ok db') :
    ∃ channel, db.sensorChannels.find? channelId = some channel ∧
      db' = { db with sensorChannels := db.sensorChannels.restrict (·.id ≠ channel.id) } := by
  unfold deleteSensorChannel at h
  split at h
  · cases h
  · rename_i channel hfind
    obtain ⟨_, -, h⟩ := Except.bind_eq_ok_iff.1 h
    cases h
    exact ⟨channel, hfind, rfl⟩

theorem deleteActuatorChannel_eq_ok {channelId : UUID}
    (h : db.deleteActuatorChannel userId channelId = .ok db') :
    ∃ channel, db.actuatorChannels.find? channelId = some channel ∧
      (∀ cmd ∈ db.commands.rows, cmd.actuatorChannelId ≠ some channel.id) ∧
      db' = { db with actuatorChannels := db.actuatorChannels.restrict (·.id ≠ channel.id) } := by
  unfold deleteActuatorChannel at h
  split at h
  · cases h
  · rename_i channel hfind
    obtain ⟨_, -, h⟩ := Except.bind_eq_ok_iff.1 h
    split at h
    · cases h
    · rename_i hfree
      cases h
      refine ⟨channel, hfind, fun cmd hcmd href => hfree ?_, rfl⟩
      exact List.any_eq_true.2 ⟨cmd, hcmd, decide_eq_true href⟩

theorem find?_access (db : Tables) (id : UUID) :
    db.access.gateways.find? id = (db.gateways.find? id).map (·.toGateway) :=
  Db.Table.find?_project GatewayRow.id_toGateway _

theorem find?_actuators (db : Tables) (sec : ℤ) (id : UUID) :
    (db.api sec).actuators.find? id = (db.actuatorChannels.find? id).map (·.toActuatorChannel) :=
  Db.Table.find?_project ActuatorChannelRow.id_toActuatorChannel _

/-- An issued command: not at all, or its row is there, pending or published. -/
theorem issueCommand_cases (db : Tables) (env : Env) (userId t : UUID) (body : CommandIn) :
    (∃ e, db.issueCommand env userId t body = (.error e, db)) ∨
    ∃ cmd request commands,
      Server.issueCommand (db.api env.commandDefaultExpiresSec) userId t env.now env.hex body =
        .ok (cmd, request) ∧
      db.commands.insert (body.row env userId cmd) = some commands ∧
      ((∃ e, db.issueCommand env userId t body = (.error e, { db with commands })) ∨
        db.issueCommand env userId t body = (.ok ((body.row env userId cmd).publish, request),
          { db with commands := commands.modify cmd.id (·.publish) CommandRow.id_publish })) := by
  unfold issueCommand
  cases hissue : Server.issueCommand (db.api env.commandDefaultExpiresSec) userId t env.now env.hex body with
  | error e => exact Or.inl ⟨e, rfl⟩
  | ok r =>
    obtain ⟨cmd, request⟩ := r
    dsimp only
    cases hins : db.commands.insert (body.row env userId cmd) with
    | none => exact Or.inl ⟨_, rfl⟩
    | some commands =>
      refine Or.inr ⟨cmd, request, commands, rfl, hins, ?_⟩
      cases env.publishError with
      | some exc => exact Or.inl ⟨_, rfl⟩
      | none => exact Or.inr rfl

theorem commit_snd {α : Type} {reply : α → Reply} {x : Except Failure (α × Tables)} {Q : Tables → Prop}
    (hdb : Q db) (h : ∀ a db', x = .ok (a, db') → Q db') : Q (db.commit reply x).2 := by
  cases x with
  | error e => exact hdb
  | ok r => exact h r.1 r.2 rfl

theorem commitDelete_snd {x : Except Failure Tables} {Q : Tables → Prop} (hdb : Q db)
    (h : ∀ db', x = .ok db' → Q db') : Q (db.commitDelete x).2 := by
  cases x with
  | error e => exact hdb
  | ok db' => exact h db' rfl

/-! ## Other gateways -/

theorem restrict_congr {a b : GatewayTables} (h1 : a.gateways = b.gateways)
    (h2 : a.sensorChannels = b.sensorChannels) (h3 : a.actuatorChannels = b.actuatorChannels)
    (h4 : a.commands = b.commands) (h5 : a.telemetry = b.telemetry) (h6 : a.latest = b.latest) : a = b := by
  cases a; cases b; cases h1; cases h2; cases h3; cases h4; cases h5; cases h6; rfl

theorem ne_of_apply {α β : Type} {f : α → β} {p : β → Bool} {a b : α} (ha : p (f a) = false)
    (hb : p (f b) = true) : b ≠ a := by
  rintro rfl
  rw [hb] at ha
  cases ha

/-- Other rows have other keys. -/
theorem ne_key {α : Type} {k : α → UUID} {table : Db.Table α k} {a b : α} {id : UUID}
    (ha : table.find? id = some a) (hb : b ∈ table.rows) (hne : b ≠ a) : decide (k b ≠ k a) = true := by
  rw [decide_eq_true_eq]
  intro hkey
  have hb' : table.find? (k b) = some b := Db.Table.find?_key hb
  rw [hkey, Db.Table.key_of_find? ha, ha] at hb'
  exact hne (Option.some.inj hb').symm

theorem row_id {body : GatewayIn} (h : body.row env = .ok row) : row.id = env.id := by
  simp only [GatewayIn.row, Except.bind_eq_ok_iff] at h
  obtain ⟨_, -, _, -, _, -, _, -, h⟩ := h
  cases h
  rfl

theorem registerGateway_confined {body : GatewayIn}
    (h : db.registerGateway env userId body = .ok (row, db')) (hp : p env.id = false) :
    db'.toGatewayTables.restrict p = db.toGatewayTables.restrict p := by
  obtain ⟨gateways, permissions, hrow, hg, -, rfl⟩ := registerGateway_eq_ok h
  refine restrict_congr ?_ rfl rfl rfl rfl rfl
  exact Db.Table.restrict_insert_of_not hg (by rw [row_id hrow, hp])

/-- **Only rows of the target change**, whatever the outcome. -/
theorem handle_confined (ht : route.target db = some t) (hp : p t = false) :
    (db.handle env userId route).2.toGatewayTables.restrict p = db.toGatewayTables.restrict p := by
  cases route with
  | registerGateway body => cases ht
  | listGateways => cases ht
  | updateGateway gatewayId body =>
    cases ht
    refine commit_snd (Q := fun d => d.toGatewayTables.restrict p = _) rfl fun row db' h => ?_
    obtain ⟨old, -, -, rfl⟩ := updateGateway_eq_ok h
    refine restrict_congr ?_ rfl rfl rfl rfl rfl
    refine Db.Table.restrict_modify_of_not row.id_update (fun _ => rfl) fun r hr => ?_
    rw [Db.Table.key_of_find? hr, hp]
  | deleteGateway gatewayId =>
    cases ht
    refine commitDelete_snd (Q := fun d => d.toGatewayTables.restrict p = _) rfl fun db' h => ?_
    obtain ⟨-, rfl⟩ := deleteGateway_eq_ok h
    refine restrict_congr ?_ ?_ ?_ rfl rfl rfl
    · exact Db.Table.restrict_restrict_of_imp fun r _ hr => decide_eq_true (ne_of_apply (f := id) hp hr)
    · exact Db.Table.restrict_restrict_of_imp fun r _ hr => decide_eq_true (ne_of_apply (f := id) hp hr)
    · exact Db.Table.restrict_restrict_of_imp fun r _ hr => decide_eq_true (ne_of_apply (f := id) hp hr)
  | issueCommand gatewayId body =>
    cases ht
    have hsnd : (db.handle env userId (.issueCommand t body)).2 = (db.issueCommand env userId t body).2 := rfl
    rw [hsnd]
    rcases issueCommand_cases db env userId t body with ⟨e, hdb⟩ | ⟨cmd, request, commands, hissue, hins, hdb⟩
    · rw [hdb]
    · have hrow : p (body.row env userId cmd).gatewayId = false := by
        have hcmd : (body.row env userId cmd).gatewayId = t := (Issue.issueCommand_status hissue).2.1
        rw [hcmd, hp]
      have hnew := Db.Table.restrict_insert_of_not (p := fun r : CommandRow => p r.gatewayId) hins hrow
      rcases hdb with ⟨e, hdb⟩ | hdb
      · rw [hdb]
        exact restrict_congr rfl rfl rfl hnew rfl rfl
      · rw [hdb]
        refine restrict_congr rfl rfl rfl (Eq.trans ?_ hnew) rfl rfl
        refine Db.Table.restrict_modify_of_not CommandRow.id_publish (fun _ => rfl) fun r hr => ?_
        -- the row of that id is the one just inserted
        have hmem : body.row env userId cmd ∈ commands.rows := (Db.Table.mem_insert hins).2 (.inr rfl)
        have hfind : commands.find? cmd.id = some (body.row env userId cmd) := Db.Table.find?_key hmem
        rw [hr] at hfind
        cases hfind
        exact hrow
  | addSensorChannel gatewayId body =>
    cases ht
    refine commit_snd (Q := fun d => d.toGatewayTables.restrict p = _) rfl fun channel db' h => ?_
    obtain ⟨sensorChannels, hrow, hins, rfl⟩ := addSensorChannel_eq_ok h
    refine restrict_congr rfl ?_ rfl rfl rfl rfl
    exact Db.Table.restrict_insert_of_not hins (by rw [sensorRow_gatewayId hrow, hp])
  | addActuatorChannel gatewayId body =>
    cases ht
    refine commit_snd (Q := fun d => d.toGatewayTables.restrict p = _) rfl fun channel db' h => ?_
    obtain ⟨actuatorChannels, hrow, hins, rfl⟩ := addActuatorChannel_eq_ok h
    refine restrict_congr rfl rfl ?_ rfl rfl rfl
    exact Db.Table.restrict_insert_of_not hins (by rw [actuatorRow_gatewayId hrow, hp])
  | deleteSensorChannel channelId =>
    obtain ⟨channel, hchannel, rfl⟩ := Option.map_eq_some_iff.1 ht
    refine commitDelete_snd (Q := fun d => d.toGatewayTables.restrict p = _) rfl fun db' h => ?_
    obtain ⟨ch, hch, rfl⟩ := deleteSensorChannel_eq_ok h
    rw [hchannel] at hch
    cases hch
    refine restrict_congr rfl ?_ rfl rfl rfl rfl
    exact Db.Table.restrict_restrict_of_imp fun r hr hpr => ne_key hchannel hr (ne_of_apply hp hpr)
  | deleteActuatorChannel channelId =>
    obtain ⟨channel, hchannel, rfl⟩ := Option.map_eq_some_iff.1 ht
    refine commitDelete_snd (Q := fun d => d.toGatewayTables.restrict p = _) rfl fun db' h => ?_
    obtain ⟨ch, hch, -, rfl⟩ := deleteActuatorChannel_eq_ok h
    rw [hchannel] at hch
    cases hch
    refine restrict_congr rfl rfl ?_ rfl rfl rfl
    refine Db.Table.restrict_restrict_of_imp fun r hr hpr => ?_
    have hne : r ≠ channel := ne_of_apply (f := fun c : ActuatorChannelRow => c.gatewayId) hp hpr
    exact ne_key (k := fun c : ActuatorChannelRow => c.id) hchannel hr hne
  | _ => rfl

/-! ## Replies -/

theorem find?_gateways_congr (h : AgreeOn p db db₂) (hp : p t = true) :
    db₂.gateways.find? t = db.gateways.find? t := by
  have hrows : db₂.gateways.restrict (fun gw => p gw.id) = db.gateways.restrict fun gw => p gw.id :=
    congrArg GatewayTables.gateways h.rows
  have hkeep : ∀ d : Tables, (d.gateways.restrict fun gw => p gw.id).find? t = d.gateways.find? t := by
    intro d
    refine Db.Table.find?_restrict fun gw hgw => ?_
    rw [Db.Table.key_of_find? hgw, hp]
  rw [← hkeep db₂, hrows, hkeep db]

theorem access_congr (h : AgreeOn p db db₂) (hp : p t = true) :
    Server.checkPerm db₂.access userId t required = Server.checkPerm db.access userId t required := by
  have hselect : db₂.access.select userId t required = db.access.select userId t required := by
    unfold Access.select access
    rw [h.permissions]
  unfold Server.checkPerm
  rw [find?_access, find?_access, find?_gateways_congr h hp, hselect]

theorem checkPerm_congr (h : AgreeOn p db db₂) (hp : p t = true) :
    db₂.checkPerm userId t required = db.checkPerm userId t required := by
  unfold checkPerm
  rw [access_congr h hp, find?_gateways_congr h hp]

/-- The rows of one gateway are among those that agree. -/
theorem filter_filter_key {α : Type} (key : α → UUID) (rows : List α) (hp : p t = true) :
    (rows.filter fun r => p (key r)).filter (fun r => key r = t) = rows.filter fun r => key r = t := by
  rw [List.filter_filter]
  refine List.filter_congr fun r _ => ?_
  by_cases hr : key r = t
  · simp [hr, hp]
  · simp [hr]

theorem filter_congr_of_restrict {α : Type} {key : α → UUID} {rows rows₂ : List α} (hp : p t = true)
    (h : rows₂.filter (fun r => p (key r)) = rows.filter fun r => p (key r)) :
    rows₂.filter (fun r => key r = t) = rows.filter fun r => key r = t := by
  rw [← filter_filter_key key rows₂ hp, h, filter_filter_key key rows hp]

theorem commit_fst {α : Type} {reply : α → Reply} {x : Except Failure (α × Tables)} {r : Reply}
    (h : (db.commit reply x).1 = .ok r) : ∃ a db', x = .ok (a, db') ∧ r = reply a := by
  cases x with
  | error e => cases h
  | ok y =>
    cases h
    exact ⟨y.1, y.2, rfl, rfl⟩

theorem commitDelete_fst {x : Except Failure Tables} {r : Reply} (h : (db.commitDelete x).1 = .ok r) :
    r = .noContent := by
  cases x with
  | error e => cases h
  | ok db' =>
    cases h
    rfl

/-- What an accepted command's reply consists of. -/
theorem issueCommand_fst {body : CommandIn} {r : Reply}
    (h : ((db.issueCommand env userId t body).1.map fun r => Reply.accepted r.1 r.2) = .ok r) :
    ∃ cmd request, Server.issueCommand (db.api env.commandDefaultExpiresSec) userId t env.now env.hex body =
      .ok (cmd, request) ∧ r = .accepted (body.row env userId cmd).publish request := by
  rcases issueCommand_cases db env userId t body with ⟨e, hdb⟩ | ⟨cmd, request, commands, hissue, -, hdb⟩
  · rw [hdb] at h
    cases h
  · rcases hdb with ⟨e, hdb⟩ | hdb
    · rw [hdb] at h
      cases h
    · rw [hdb] at h
      cases h
      exact ⟨cmd, request, hissue, rfl⟩

theorem issueCommand_congr {body : CommandIn} {cmd cmd₂ : Command} {request request₂ : Request} {sec : ℤ}
    (hagree : AgreeOn p db db₂) (hp : p t = true)
    (h : Server.issueCommand (db.api sec) userId t env.now env.hex body = .ok (cmd, request))
    (h₂ : Server.issueCommand (db₂.api sec) userId t env.now env.hex body = .ok (cmd₂, request₂)) :
    cmd₂ = cmd ∧ request₂ = request := by
  obtain ⟨gw, actuator, expiresAt, hcheck, hfind, hown, hexp, rfl, rfl⟩ := Issue.issueCommand_eq_ok h
  obtain ⟨gw₂, actuator₂, expiresAt₂, hcheck₂, hfind₂, -, hexp₂, rfl, rfl⟩ := Issue.issueCommand_eq_ok h₂
  -- the same gateway, the same channel, the same expiry
  have hgw : gw₂ = gw := by
    have := (access_congr hagree hp).symm.trans hcheck₂
    exact Except.ok.inj (this.symm.trans hcheck)
  have hactuator : actuator₂ = actuator := by
    rw [find?_actuators] at hfind hfind₂
    obtain ⟨r, hr, rfl⟩ := Option.map_eq_some_iff.1 hfind
    have hrows : db₂.actuatorChannels.restrict (fun ch => p ch.gatewayId) =
        db.actuatorChannels.restrict fun ch => p ch.gatewayId :=
      congrArg GatewayTables.actuatorChannels hagree.rows
    rw [Db.Table.find?_eq_of_restrict hrows hr (by rw [hown, hp])] at hfind₂
    exact (Option.some.inj hfind₂).symm
  have hexpires : expiresAt₂ = expiresAt := Option.some.inj (hexp₂.symm.trans hexp)
  rw [hgw, hactuator, hexpires]
  exact ⟨rfl, rfl⟩

/-- A range query looks at the gateway's rows only. -/
theorem telemetry_filter (d : Tables) (since : ℤ) (key : Option String) :
    (d.telemetry.filter fun row => row.gatewayId = t ∧ since ≤ row.ts ∧
        ∀ k ∈ key, row.measurementKey = k) =
      (d.telemetry.filter fun row => row.gatewayId = t).filter fun row => since ≤ row.ts ∧
        ∀ k ∈ key, row.measurementKey = k := by
  rw [List.filter_filter]
  refine List.filter_congr fun row _ => ?_
  rw [← Bool.decide_and, decide_eq_decide]
  exact and_comm

/-- **The reply depends on rows of the target only**, when the request succeeds. -/
theorem handle_reply {reply reply₂ : Reply} (hagree : AgreeOn p db db₂) (ht : route.target db = some t)
    (hp : p t = true) (h : (db.handle env userId route).1 = .ok reply)
    (h₂ : (db₂.handle env userId route).1 = .ok reply₂) : reply₂ = reply := by
  have hcheck : ∀ r, db₂.checkPerm userId t r = db.checkPerm userId t r := fun r => checkPerm_congr hagree hp
  -- a reader's outcome is the same
  have hsame : (db₂.handle env userId route).1 = (db.handle env userId route).1 → reply₂ = reply := by
    intro heq
    rw [heq, h] at h₂
    exact (Except.ok.inj h₂).symm
  cases route with
  | registerGateway body => cases ht
  | listGateways => cases ht
  | getGateway gatewayId =>
    cases ht
    refine hsame ?_
    simp only [handle, getGateway, hcheck]
  | getGatewayState gatewayId =>
    cases ht
    refine hsame ?_
    simp only [handle, getGatewayState, hcheck]
  | listSensorChannels gatewayId =>
    cases ht
    refine hsame ?_
    have hrows := filter_congr_of_restrict hp
      (congrArg (fun d => d.sensorChannels.rows) hagree.rows : List.filter _ _ = List.filter _ _)
    simp only [handle, listSensorChannels, hcheck, hrows]
  | listActuatorChannels gatewayId =>
    cases ht
    refine hsame ?_
    have hrows := filter_congr_of_restrict hp
      (congrArg (fun d => d.actuatorChannels.rows) hagree.rows : List.filter _ _ = List.filter _ _)
    simp only [handle, listActuatorChannels, hcheck, hrows]
  | getLatest gatewayId =>
    cases ht
    refine hsame ?_
    have hrows := filter_congr_of_restrict hp
      (congrArg (fun d => d.latest.rows) hagree.rows : List.filter _ _ = List.filter _ _)
    simp only [handle, getLatest, hcheck, hrows]
  | getTelemetryRange gatewayId q =>
    cases ht
    refine hsame ?_
    have hrows := filter_congr_of_restrict hp
      (congrArg (fun d => d.telemetry) hagree.rows : List.filter _ _ = List.filter _ _)
    simp only [handle, getTelemetryRange, hcheck, telemetry_filter, hrows]
  | getCommand commandId =>
    obtain ⟨cmd, hcmd, rfl⟩ := Option.map_eq_some_iff.1 ht
    refine hsame ?_
    have hrows : db₂.commands.restrict (fun r => p r.gatewayId) = db.commands.restrict fun r => p r.gatewayId :=
      congrArg GatewayTables.commands hagree.rows
    have hcmd₂ := Db.Table.find?_eq_of_restrict hrows hcmd hp
    simp only [handle, getCommand, hcmd, hcmd₂, hcheck]
  | updateGateway gatewayId body =>
    cases ht
    obtain ⟨row, db', hx, rfl⟩ := commit_fst h
    obtain ⟨row₂, db₂', hx₂, rfl⟩ := commit_fst h₂
    obtain ⟨old, hold, hrow, -⟩ := updateGateway_eq_ok hx
    obtain ⟨old₂, hold₂, hrow₂, -⟩ := updateGateway_eq_ok hx₂
    rw [hcheck, hold] at hold₂
    cases hold₂
    rw [hrow] at hrow₂
    cases hrow₂
    rfl
  | addSensorChannel gatewayId body =>
    cases ht
    obtain ⟨row, db', hx, rfl⟩ := commit_fst h
    obtain ⟨row₂, db₂', hx₂, rfl⟩ := commit_fst h₂
    obtain ⟨-, hrow, -⟩ := addSensorChannel_eq_ok hx
    obtain ⟨-, hrow₂, -⟩ := addSensorChannel_eq_ok hx₂
    rw [hrow] at hrow₂
    cases hrow₂
    rfl
  | addActuatorChannel gatewayId body =>
    cases ht
    obtain ⟨row, db', hx, rfl⟩ := commit_fst h
    obtain ⟨row₂, db₂', hx₂, rfl⟩ := commit_fst h₂
    obtain ⟨-, hrow, -⟩ := addActuatorChannel_eq_ok hx
    obtain ⟨-, hrow₂, -⟩ := addActuatorChannel_eq_ok hx₂
    rw [hrow] at hrow₂
    cases hrow₂
    rfl
  | issueCommand gatewayId body =>
    cases ht
    have hfst : ∀ d : Tables, (d.handle env userId (.issueCommand t body)).1 =
        (d.issueCommand env userId t body).1.map fun r => .accepted r.1 r.2 := fun _ => rfl
    rw [hfst] at h h₂
    obtain ⟨cmd, request, hissue, hout⟩ := issueCommand_fst h
    obtain ⟨cmd₂, request₂, hissue₂, hout₂⟩ := issueCommand_fst h₂
    obtain ⟨rfl, rfl⟩ := issueCommand_congr hagree hp hissue hissue₂
    rw [hout, hout₂]
  | deleteGateway gatewayId => rw [commitDelete_fst h, commitDelete_fst h₂]
  | deleteSensorChannel channelId => rw [commitDelete_fst h, commitDelete_fst h₂]
  | deleteActuatorChannel channelId => rw [commitDelete_fst h, commitDelete_fst h₂]

theorem registerGateway_reply {body : GatewayIn} {reply reply₂ : Reply}
    (h : (db.handle env userId (.registerGateway body)).1 = .ok reply)
    (h₂ : (db₂.handle env userId (.registerGateway body)).1 = .ok reply₂) : reply₂ = reply := by
  obtain ⟨row, db', hx, rfl⟩ := commit_fst h
  obtain ⟨row₂, db₂', hx₂, rfl⟩ := commit_fst h₂
  obtain ⟨-, -, hrow, -⟩ := registerGateway_eq_ok hx
  obtain ⟨-, -, hrow₂, -⟩ := registerGateway_eq_ok hx₂
  rw [hrow] at hrow₂
  cases hrow₂
  rfl

/-- A gateway on which the user holds nothing is not joined. -/
theorem listGateways_congr (hagree : AgreeOn (· ≠ g) db db₂)
    (hno : ¬ ∃ permission, Holds db.access userId g permission) :
    db₂.listGateways userId = db.listGateways userId := by
  set joined : GatewayRow → List GatewayRow := fun gw =>
    (db.permissions.rows.filter fun r => r.gatewayId = gw.id ∧ r.userId = userId).map fun _ => gw with hjoined
  have hnil : ∀ gw : GatewayRow, gw.id = g → joined gw = [] := by
    rintro gw rfl
    rw [hjoined, List.map_eq_nil_iff, List.filter_eq_nil_iff]
    intro r hr hmine
    obtain ⟨hgw, huser⟩ := of_decide_eq_true hmine
    refine hno ⟨r.permission, ?_⟩
    unfold Holds
    rw [← hgw, ← huser]
    exact hr
  have hskip : ∀ rows : List GatewayRow,
      rows.flatMap joined = (rows.filter fun gw => decide (gw.id ≠ g)).flatMap joined := by
    intro rows
    induction rows with
    | nil => rfl
    | cons gw rows ih =>
      by_cases hgw : gw.id = g
      · rw [List.flatMap_cons, hnil gw hgw, List.nil_append, ih, List.filter_cons_of_neg (by simp [hgw])]
      · rw [List.flatMap_cons, ih, List.filter_cons_of_pos (by simp [hgw]), List.flatMap_cons]
  have hrows : (db₂.gateways.rows.filter fun gw => decide (gw.id ≠ g)) =
      db.gateways.rows.filter fun gw => decide (gw.id ≠ g) :=
    congrArg (fun d : GatewayTables => d.gateways.rows) hagree.rows
  have hlist : db₂.gateways.rows.flatMap joined = db.gateways.rows.flatMap joined := by
    rw [hskip, hrows, ← hskip]
  unfold listGateways
  rw [hagree.permissions]
  exact congrArg (fun l : List GatewayRow => l.dedup.insertionSort fun a b => b.registeredAt ≤ a.registeredAt)
    hlist

end Tables

/-! ## Mediation -/

/-- The user may make this request about gateway `g`: they hold the permission that is named
for it; or they register `g`, which is new; or they list the gateways, and hold any. -/
def Entitled (db : Tables) (env : Env) (userId : UUID) (route : Route) (g : UUID) : Prop :=
  match route with
  | .registerGateway _ => g = env.id ∧ db.gateways.find? g = none
  | .listGateways => ∃ permission, Holds db.access userId g permission
  | route => ∃ permission ∈ route.required, Permits db userId g permission

structure Mediated (db : Tables) (env : Env) (userId : UUID) (route : Route) : Prop where
  /-- A successful request about a gateway is made by a user who may make it. -/
  checked : ∀ reply, (db.handle env userId route).1 = .ok reply → ∀ g ∈ route.target db,
    Entitled db env userId route g
  /-- A request, also one that fails, changes only rows of such gateways. -/
  changes : ∀ g, (db.handle env userId route).2.toGatewayTables.restrict (· = g) ≠
    db.toGatewayTables.restrict (· = g) → Entitled db env userId route g
  /-- A successful reply depends only on rows of such gateways. -/
  reads : ∀ reply, (db.handle env userId route).1 = .ok reply → ∀ g, ¬ Entitled db env userId route g →
    ∀ db₂, AgreeOn (· ≠ g) db db₂ → ∀ reply₂, (db₂.handle env userId route).1 = .ok reply₂ → reply₂ = reply
  /-- `view`, and the list of the gateways, change nothing. -/
  views : route.required = some "view" ∨ route = .listGateways → (db.handle env userId route).2 = db
  /-- An accepted command is for an actuator channel of its gateway. -/
  accepted : ∀ cmd request, (db.handle env userId route).1 = .ok (.accepted cmd request) →
    (∃ body, route = .issueCommand cmd.gatewayId body) ∧
      cmd ∈ (db.handle env userId route).2.commands.rows ∧
      ∃ ch ∈ db.actuatorChannels.rows, cmd.actuatorChannelId = some ch.id ∧ ch.gatewayId = cmd.gatewayId ∧
        request.actuatorChannelId = ch.slug

theorem entitled_of_permits (hr : route.required = some required) (h : Permits db userId g required) :
    Entitled db env userId route g := by
  cases route with
  | registerGateway body => cases hr
  | listGateways => cases hr
  | _ => exact ⟨required, hr, h⟩

/-- A request that names no permission has no target; any other has one, or fails. -/
theorem target_of_required (ht : route.target db = some t) : ∃ required, route.required = some required := by
  cases route with
  | registerGateway body => cases ht
  | listGateways => cases ht
  | _ => exact ⟨_, rfl⟩

/-- A request about gateway `t` is made by a user who may make it, or simply fails. -/
theorem entitled_or_failed (ht : route.target db = some t) :
    Entitled db env userId route t ∨ ∃ e, db.handle env userId route = (.error e, db) := by
  obtain ⟨required, hr⟩ := target_of_required ht
  by_cases hp : Permits db userId t required
  · exact Or.inl (entitled_of_permits hr hp)
  · exact Or.inr (Tables.handle_refused ht hr hp)

theorem entitled_of_ok {reply : Reply} (ht : route.target db = some t)
    (h : (db.handle env userId route).1 = .ok reply) : Entitled db env userId route t := by
  refine (entitled_or_failed ht).resolve_right ?_
  rintro ⟨e, he⟩
  rw [he] at h
  cases h

theorem entitled_of_changes
    (h : (db.handle env userId route).2.toGatewayTables.restrict (· = g) ≠ db.toGatewayTables.restrict (· = g)) :
    Entitled db env userId route g := by
  have hunchanged : ∀ e, db.handle env userId route ≠ (.error e, db) := by
    intro e he
    rw [he] at h
    exact h rfl
  cases ht : route.target db with
  | some t =>
    have hgt : t = g := by
      by_contra hne
      exact h (Tables.handle_confined ht (decide_eq_false hne))
    subst hgt
    exact (entitled_or_failed ht).resolve_right fun ⟨e, he⟩ => hunchanged e he
  | none =>
    cases hr : route.required with
    | some required =>
      obtain ⟨e, he⟩ : ∃ e, db.handle env userId route = (.error e, db) := Tables.handle_unknown ht hr
      exact absurd he (hunchanged e)
    | none =>
      cases route with
      | listGateways => exact absurd rfl h
      | registerGateway body =>
        refine Tables.commit_snd (Q := fun d => d.toGatewayTables.restrict (· = g) ≠ _ → _)
          (fun hsame => absurd rfl hsame) (fun row db' hx hchange => ?_) h
        have hg : env.id = g := by
          by_contra hne
          exact hchange (Tables.registerGateway_confined hx (decide_eq_false hne))
        obtain ⟨gateways, permissions, hrow, hins, -, -⟩ := Tables.registerGateway_eq_ok hx
        refine ⟨hg.symm, ?_⟩
        -- the row could only be inserted under a new key
        refine Option.eq_none_iff_forall_ne_some.2 fun gw hgw => ?_
        obtain ⟨hmem, hkey⟩ := Db.Table.find?_eq_some.1 hgw
        refine (Db.Table.insert_eq_some.1 hins).1 gw hmem ?_
        rw [hkey, Tables.row_id hrow, hg]
      | _ => cases hr

theorem reply_eq {reply reply₂ : Reply} (hno : ¬ Entitled db env userId route g)
    (hagree : AgreeOn (· ≠ g) db db₂) (h : (db.handle env userId route).1 = .ok reply)
    (h₂ : (db₂.handle env userId route).1 = .ok reply₂) : reply₂ = reply := by
  cases ht : route.target db with
  | some t =>
    have hne : t ≠ g := by
      rintro rfl
      exact hno (entitled_of_ok ht h)
    exact Tables.handle_reply hagree ht (decide_eq_true hne) h h₂
  | none =>
    cases hr : route.required with
    | some required =>
      obtain ⟨e, he⟩ : ∃ e, db.handle env userId route = (.error e, db) := Tables.handle_unknown ht hr
      rw [he] at h
      cases h
    | none =>
      cases route with
      | registerGateway body => exact Tables.registerGateway_reply h h₂
      | listGateways =>
        have hlist := Tables.listGateways_congr hagree hno
        cases h
        cases h₂
        rw [hlist]
      | _ => cases hr

theorem handle_views (h : route.required = some "view" ∨ route = .listGateways) :
    (db.handle env userId route).2 = db := by
  rcases h with h | rfl
  · cases route with
    | registerGateway body => cases h
    | listGateways => cases h
    | updateGateway gatewayId body | deleteGateway gatewayId | issueCommand gatewayId body
    | addSensorChannel gatewayId body | deleteSensorChannel channelId | addActuatorChannel gatewayId body
    | deleteActuatorChannel channelId => simp [Route.required] at h
    | _ => rfl
  · rfl

/-- The reply of an accepted command comes from `issue_command`. -/
theorem route_of_accepted {cmd : CommandRow} {request : Request}
    (h : (db.handle env userId route).1 = .ok (.accepted cmd request)) :
    ∃ g body, route = .issueCommand g body := by
  cases route with
  | issueCommand g body => exact ⟨g, body, rfl⟩
  | listGateways => cases h
  | registerGateway body | updateGateway g body | addSensorChannel g body | addActuatorChannel g body =>
    obtain ⟨_, _, -, hr⟩ := Tables.commit_fst h
    cases hr
  | deleteGateway g | deleteSensorChannel channelId | deleteActuatorChannel channelId =>
    cases Tables.commitDelete_fst h
  | getGateway g | getGatewayState g | getCommand commandId | listSensorChannels g | listActuatorChannels g
  | getLatest g | getTelemetryRange g q =>
    obtain ⟨_, -, hr⟩ := Except.map_eq_ok_iff.1 h
    cases hr

/-- **A command is accepted for an actuator channel of its gateway.** -/
theorem accepted_own {cmd : CommandRow} {request : Request}
    (h : (db.handle env userId route).1 = .ok (.accepted cmd request)) :
    (∃ body, route = .issueCommand cmd.gatewayId body) ∧
      cmd ∈ (db.handle env userId route).2.commands.rows ∧
      ∃ ch ∈ db.actuatorChannels.rows, cmd.actuatorChannelId = some ch.id ∧ ch.gatewayId = cmd.gatewayId ∧
        request.actuatorChannelId = ch.slug := by
  obtain ⟨g, body, rfl⟩ := route_of_accepted h
  have hhandle : db.handle env userId (.issueCommand g body) =
      ((db.issueCommand env userId g body).1.map fun r => .accepted r.1 r.2,
        (db.issueCommand env userId g body).2) := rfl
  rw [hhandle] at h ⊢
  rcases Tables.issueCommand_cases db env userId g body with ⟨e, hdb⟩ | ⟨cmd₀, request₀, commands, hissue, hins, hdb⟩
  · rw [hdb] at h
    cases h
  rcases hdb with ⟨e, hdb⟩ | hdb
  · rw [hdb] at h
    cases h
  rw [hdb] at h ⊢
  cases h
  obtain ⟨gw, actuator, expiresAt, -, hfind, hown, -, rfl, rfl⟩ := Issue.issueCommand_eq_ok hissue
  rw [Tables.find?_actuators] at hfind
  obtain ⟨ch, hch, rfl⟩ := Option.map_eq_some_iff.1 hfind
  obtain ⟨hmem, hid⟩ := Db.Table.find?_eq_some.1 hch
  refine ⟨⟨body, rfl⟩, ?_, ch, hmem, congrArg some hid.symm, hown, rfl⟩
  -- the row that was inserted is the one that is changed
  refine List.mem_map.2
    ⟨body.row env userId ⟨commandId env.now env.hex, g, "pending", expiresAt, none⟩, ?_, if_pos rfl⟩
  exact (Db.Table.mem_insert hins).2 (.inr rfl)

theorem mediated (db : Tables) (env : Env) (userId : UUID) (route : Route) : Mediated db env userId route where
  checked _ h _ ht := entitled_of_ok ht h
  changes _ h := entitled_of_changes h
  reads _ h _ hno _ hagree _ h₂ := reply_eq hno hagree h h₂
  views h := handle_views h
  accepted _ _ h := accepted_own h

/-! ## Runs -/

/-- A request of the API, or a change from outside: the worker, the scheduler, an
administrator's grants. -/
inductive ApiEvent where
  | request (env : Env) (userId : UUID) (route : Route)
  | outside (db' : Tables)

def CommandRow.refs (cmd : CommandRow) : String × UUID × Option UUID :=
  (cmd.id, cmd.gatewayId, cmd.actuatorChannelId)

def ActuatorChannelRow.refs (ch : ActuatorChannelRow) : UUID × UUID := (ch.id, ch.gatewayId)

/-- From outside nobody makes, moves or deletes a command or an actuator channel. -/
def Outside (db db' : Tables) : Prop :=
  db'.commands.rows.map (·.refs) = db.commands.rows.map (·.refs) ∧
    db'.actuatorChannels.rows.map (·.refs) = db.actuatorChannels.rows.map (·.refs)

instance (db db' : Tables) : Decidable (Outside db db') := inferInstanceAs (Decidable (_ ∧ _))

def Tables.step (db : Tables) : ApiEvent → Option Tables
  | .request env userId route => some (db.handle env userId route).2
  | .outside db' => if Outside db db' then some db' else none

/-- Every command with a channel is for one of its own gateway. -/
def Own (db : Tables) : Prop :=
  ∀ cmd ∈ db.commands.rows, ∀ id ∈ cmd.actuatorChannelId,
    ∃ ch ∈ db.actuatorChannels.rows, ch.id = id ∧ ch.gatewayId = cmd.gatewayId

/-- `Own` is about the columns that refer to other rows. -/
theorem own_of_refs (hc : db'.commands.rows.map (·.refs) = db.commands.rows.map (·.refs))
    (ha : db'.actuatorChannels.rows.map (·.refs) = db.actuatorChannels.rows.map (·.refs)) (h : Own db) :
    Own db' := by
  intro cmd hcmd id hid
  have hcmd' : cmd.refs ∈ db.commands.rows.map (·.refs) := by
    rw [← hc]
    exact List.mem_map_of_mem hcmd
  obtain ⟨cmd₀, hcmd₀, hrefs⟩ := List.mem_map.1 hcmd'
  obtain ⟨-, hgw, hch⟩ : cmd₀.id = cmd.id ∧ cmd₀.gatewayId = cmd.gatewayId ∧
      cmd₀.actuatorChannelId = cmd.actuatorChannelId := by simpa [CommandRow.refs] using hrefs
  obtain ⟨ch₀, hch₀, hid₀, hgw₀⟩ := h cmd₀ hcmd₀ id (hch ▸ hid)
  have hch' : ch₀.refs ∈ db'.actuatorChannels.rows.map (·.refs) := by
    rw [ha]
    exact List.mem_map_of_mem hch₀
  obtain ⟨ch, hmem, hrefs'⟩ := List.mem_map.1 hch'
  obtain ⟨h1, h2⟩ : ch.id = ch₀.id ∧ ch.gatewayId = ch₀.gatewayId := by
    simpa [ActuatorChannelRow.refs] using hrefs'
  exact ⟨ch, hmem, h1.trans hid₀, h2.trans (hgw₀.trans hgw)⟩

/-- Commands keep their channels when none of these goes. -/
theorem own_mono (h : Own db) (hc : db'.commands = db.commands)
    (ha : ∀ cmd ∈ db.commands.rows, ∀ ch ∈ db.actuatorChannels.rows, cmd.actuatorChannelId = some ch.id →
      ch ∈ db'.actuatorChannels.rows) : Own db' := by
  intro cmd hcmd id hid
  rw [hc] at hcmd
  obtain ⟨ch, hch, rfl, hgw⟩ := h cmd hcmd id hid
  exact ⟨ch, ha cmd hcmd ch hch hid, rfl, hgw⟩

theorem own_issueCommand {body : CommandIn} (h : Own db) : Own (db.issueCommand env userId g body).2 := by
  rcases Tables.issueCommand_cases db env userId g body with ⟨e, hdb⟩ | ⟨cmd, request, commands, hissue, hins, hdb⟩
  · rw [hdb]
    exact h
  obtain ⟨gw, actuator, expiresAt, -, hfind, hown, -, hcmd, -⟩ := Issue.issueCommand_eq_ok hissue
  rw [Tables.find?_actuators] at hfind
  obtain ⟨ch, hch, rfl⟩ := Option.map_eq_some_iff.1 hfind
  obtain ⟨hmem, hid⟩ := Db.Table.find?_eq_some.1 hch
  have hnew : Own { db with commands } := by
    intro c hc id hcid
    rcases (Db.Table.mem_insert hins).1 hc with hc | rfl
    · exact h c hc id hcid
    · cases hcid
      refine ⟨ch, hmem, hid, ?_⟩
      rw [hcmd]
      exact hown
  rcases hdb with ⟨e, hdb⟩ | hdb
  · rw [hdb]
    exact hnew
  · rw [hdb]
    -- only the status differs
    have hrefs : (commands.modify cmd.id CommandRow.publish CommandRow.id_publish).rows.map (·.refs) =
        commands.rows.map (·.refs) :=
      Db.Table.modify_rows_map CommandRow.id_publish fun _ => rfl
    exact own_of_refs hrefs (by rfl) hnew

theorem own_handle (h : Own db) : Own (db.handle env userId route).2 := by
  cases route with
  | issueCommand g body => exact own_issueCommand h
  | registerGateway body =>
    refine Tables.commit_snd h fun row db' hx => ?_
    obtain ⟨gateways, permissions, -, -, -, rfl⟩ := Tables.registerGateway_eq_ok hx
    exact h
  | updateGateway g body =>
    refine Tables.commit_snd h fun row db' hx => ?_
    obtain ⟨old, -, -, rfl⟩ := Tables.updateGateway_eq_ok hx
    exact h
  | addSensorChannel g body =>
    refine Tables.commit_snd h fun row db' hx => ?_
    obtain ⟨sensorChannels, -, -, rfl⟩ := Tables.addSensorChannel_eq_ok hx
    exact h
  | deleteSensorChannel channelId =>
    refine Tables.commitDelete_snd h fun db' hx => ?_
    obtain ⟨channel, -, rfl⟩ := Tables.deleteSensorChannel_eq_ok hx
    exact h
  | addActuatorChannel g body =>
    refine Tables.commit_snd h fun row db' hx => ?_
    obtain ⟨actuatorChannels, -, hins, rfl⟩ := Tables.addActuatorChannel_eq_ok hx
    exact own_mono h rfl fun cmd _ ch hch _ => (Db.Table.mem_insert hins).2 (.inl hch)
  | deleteActuatorChannel channelId =>
    refine Tables.commitDelete_snd h fun db' hx => ?_
    obtain ⟨channel, -, hfree, rfl⟩ := Tables.deleteActuatorChannel_eq_ok hx
    refine own_mono h rfl fun cmd hcmd ch hch href => List.mem_filter.2 ⟨hch, decide_eq_true ?_⟩
    intro hid
    exact hfree cmd hcmd (hid ▸ href)
  | deleteGateway g =>
    refine Tables.commitDelete_snd h fun db' hx => ?_
    obtain ⟨hfree, rfl⟩ := Tables.deleteGateway_eq_ok hx
    refine own_mono h rfl fun cmd hcmd ch hch href => List.mem_filter.2 ⟨hch, decide_eq_true ?_⟩
    intro hg
    exact (hfree cmd hcmd).2 ch hch hg href
  | _ => exact h

theorem own_step {e : ApiEvent} (hown : Own db) (h : db.step e = some db') : Own db' := by
  cases e with
  | request env userId route =>
    cases h
    exact own_handle hown
  | outside new =>
    simp only [Tables.step] at h
    split_ifs at h with hout
    cases h
    exact own_of_refs hout.1 hout.2 hown

/-- What a run's requests do. -/
def RequestMediated (db : Tables) (e : ApiEvent) (_ : Tables) : Prop :=
  match e with
  | .request env userId route => Mediated db env userId route
  | .outside _ => True

/-- **Complete mediation.** In every run of requests of any users, between which the
permissions and all else may change from outside, every request reads and changes only rows
of gateways for which its user is entitled to it at that moment, and every accepted command
is, and stays, for an actuator channel of its own gateway. -/
theorem complete_mediation (db : Tables) (hown : Own db) (es : List ApiEvent) :
    Along Tables.step RequestMediated db es ∧ Always Tables.step Own db es := by
  constructor
  · refine along_of_inv (I := fun _ => True) (fun _ _ _ _ _ => trivial) ?_ trivial
    intro s e s' _ _
    cases e with
    | request env userId route => exact mediated s env userId route
    | outside new => trivial
  · exact always_of_inv (fun _ _ _ hs he => own_step hs he) hown

/-! User 1 registers gateway 7, adds the actuator channel 5 and switches it on. -/

def noTables : Tables := ⟨⟨.empty, .empty, .empty, .empty, [], .empty⟩, .empty⟩

def envOf (id : UUID) : Env where
  now := Issue.noon
  id := id
  hex := "0a1b2c3d"
  companies := fun _ => true
  sites := fun _ => false
  gatewayProfiles := fun _ => false
  sensorProfiles := fun _ => false
  collation := fun a b => a ≤ b
  commandDefaultExpiresSec := 5
  publishError := none

theorem gw1_format : SlugFormat "GW-1" := by decide +kernel

theorem relayVent_format : SlugFormat "relay-vent" := by decide +kernel

theorem gw1_length : "GW-1".length ≤ 64 := by decide

theorem relayVent_length : "relay-vent".length ≤ 64 := by decide

def ventRequests : List ApiEvent :=
  [.request (envOf 7) 1 (.registerGateway ⟨⟨"GW-1", gw1_format, gw1_length⟩, "Barn", 3, none, none⟩),
    .request (envOf 5) 1 (.addActuatorChannel 7
      ⟨⟨"relay-vent", relayVent_format, relayVent_length⟩, "Vent", .relay, "17", "off", true, none⟩),
    .request (envOf 0) 1 (.issueCommand 7 Issue.ventOn)]

theorem vent_mediated :
    (run Tables.step noTables ventRequests).map (fun db => db.commands.rows.map (·.refs)) =
        some [(commandId Issue.noon "0a1b2c3d", 7, some 5)] ∧
      Along Tables.step RequestMediated noTables ventRequests ∧ Always Tables.step Own noTables ventRequests :=
  ⟨by decide +kernel, complete_mediation noTables (by simp [Own, noTables, Db.Table.empty]) ventRequests⟩

end Server
