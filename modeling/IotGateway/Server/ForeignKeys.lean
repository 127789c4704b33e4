import IotGateway.Server.Mediation

/-!
# Foreign keys

The rows that a migration declares as referred to, of the tables that belong to gateways.
`user_gateway_permissions` and `telemetry_latest` name a gateway without such a key.

* `foreignKeys_handle`: every request keeps the keys; `always_foreignKeys`: **so does every
  run** in which what comes from outside keeps them.
* `refs_run`: a command's row stays, with what it refers to.
-/

namespace Server

open Lts

namespace Tables

def gatewayIds (db : Tables) : List UUID := db.gateways.rows.map (·.id)

def actuatorIds (db : Tables) : List UUID := db.actuatorChannels.rows.map (·.id)

end Tables

/-- The foreign keys of the channels and the commands. -/
structure ForeignKeys (db : Tables) : Prop where
  sensorChannels : ∀ ch ∈ db.sensorChannels.rows, ch.gatewayId ∈ db.gatewayIds
  actuatorChannels : ∀ ch ∈ db.actuatorChannels.rows, ch.gatewayId ∈ db.gatewayIds
  commands : ∀ cmd ∈ db.commands.rows, cmd.gatewayId ∈ db.gatewayIds
  commandChannels : ∀ cmd ∈ db.commands.rows, ∀ id ∈ cmd.actuatorChannelId, id ∈ db.actuatorIds

variable {db db' : Tables} {env : Env} {userId g : UUID} {route : Route}

theorem mem_gatewayIds {gw : GatewayRow} (h : gw ∈ db.gateways.rows) : gw.id ∈ db.gatewayIds :=
  List.mem_map_of_mem h

theorem find?_of_mem_gatewayIds (h : g ∈ db.gatewayIds) :
    ∃ gw, gw ∈ db.gateways.rows ∧ gw.id = g ∧ db.gateways.find? g = some gw := by
  obtain ⟨gw, hgw, rfl⟩ := List.mem_map.1 h
  exact ⟨gw, hgw, rfl, Db.Table.find?_key hgw⟩

/-- A request that passes a check is about a gateway that is there. -/
theorem mem_gatewayIds_of_checkPerm {required : String} {row : GatewayRow}
    (h : db.checkPerm userId g required = .ok row) : g ∈ db.gatewayIds := by
  obtain ⟨hmem, rfl⟩ := Db.Table.find?_eq_some.1 (Tables.checkPerm_eq_ok h).1
  exact mem_gatewayIds hmem

theorem mem_gatewayIds_of_access {required : String} {gw : Gateway}
    (h : Server.checkPerm db.access userId g required = .ok gw) : g ∈ db.gatewayIds := by
  cases hfind : db.access.gateways.find? g with
  | none =>
    unfold Server.checkPerm at h
    rw [hfind] at h
    cases h
  | some gateway =>
    rw [Tables.find?_access] at hfind
    obtain ⟨row, hrow, -⟩ := Option.map_eq_some_iff.1 hfind
    obtain ⟨hmem, rfl⟩ := Db.Table.find?_eq_some.1 hrow
    exact mem_gatewayIds hmem

/-- What `issue_command` leaves of the commands: those that were there, and at most one more,
for its gateway and a channel that is there. -/
theorem issueCommand_rows (db : Tables) (env : Env) (userId g : UUID) (body : CommandIn) :
    ∃ commands, (db.issueCommand env userId g body).2 = { db with commands } ∧
      (commands.rows.map (·.refs) = db.commands.rows.map (·.refs) ∨
        ∃ r : String × UUID × Option UUID,
          commands.rows.map (·.refs) = db.commands.rows.map (·.refs) ++ [r] ∧
          r.2.1 ∈ db.gatewayIds ∧ ∀ id ∈ r.2.2, id ∈ db.actuatorIds) := by
  rcases Tables.issueCommand_cases db env userId g body with
    ⟨e, hdb⟩ | ⟨cmd, request, commands, hissue, hins, hdb⟩
  · exact ⟨db.commands, by rw [hdb], .inl rfl⟩
  obtain ⟨gw, actuator, expiresAt, hcheck, hfind, -, -, hcmd, -⟩ := Issue.issueCommand_eq_ok hissue
  rw [Tables.find?_actuators] at hfind
  obtain ⟨ch, hch, -⟩ := Option.map_eq_some_iff.1 hfind
  obtain ⟨hmem, hid⟩ := Db.Table.find?_eq_some.1 hch
  have hnew : commands.rows.map (·.refs) =
      db.commands.rows.map (·.refs) ++ [(body.row env userId cmd).refs] := by
    rw [(Db.Table.insert_eq_some.1 hins).2, List.map_append]
    rfl
  have hg : (body.row env userId cmd).refs.2.1 ∈ db.gatewayIds := by
    rw [hcmd]
    exact mem_gatewayIds_of_access hcheck
  have hact : ∀ id ∈ (body.row env userId cmd).refs.2.2, id ∈ db.actuatorIds := by
    rintro id hid'
    cases hid'
    exact hid ▸ List.mem_map_of_mem hmem
  rcases hdb with ⟨e, hdb⟩ | hdb
  · exact ⟨commands, by rw [hdb], .inr ⟨_, hnew, hg, hact⟩⟩
  · refine ⟨commands.modify cmd.id (·.publish) CommandRow.id_publish, by rw [hdb], .inr ⟨_, ?_, hg, hact⟩⟩
    rw [← hnew]
    exact Db.Table.modify_rows_map CommandRow.id_publish fun _ => rfl

/-- The keys hold on, when gateways and actuator channels stay, and the rows that come refer
to such as were there. -/
theorem ForeignKeys.mono (h : ForeignKeys db) (hgw : db.gatewayIds ⊆ db'.gatewayIds)
    (hact : db.actuatorIds ⊆ db'.actuatorIds)
    (hs : ∀ ch ∈ db'.sensorChannels.rows, ch ∈ db.sensorChannels.rows ∨ ch.gatewayId ∈ db.gatewayIds)
    (ha : ∀ ch ∈ db'.actuatorChannels.rows, ch ∈ db.actuatorChannels.rows ∨ ch.gatewayId ∈ db.gatewayIds)
    (hc : ∀ r ∈ db'.commands.rows.map (·.refs), r ∈ db.commands.rows.map (·.refs) ∨
      r.2.1 ∈ db.gatewayIds ∧ ∀ id ∈ r.2.2, id ∈ db.actuatorIds) : ForeignKeys db' := by
  have hcommand : ∀ cmd ∈ db'.commands.rows,
      cmd.gatewayId ∈ db.gatewayIds ∧ ∀ id ∈ cmd.actuatorChannelId, id ∈ db.actuatorIds := by
    intro cmd hcmd
    rcases hc cmd.refs (List.mem_map_of_mem hcmd) with hold | hnew
    · obtain ⟨cmd₀, hcmd₀, heq⟩ := List.mem_map.1 hold
      obtain ⟨-, hg, hid⟩ : cmd₀.id = cmd.id ∧ cmd₀.gatewayId = cmd.gatewayId ∧
          cmd₀.actuatorChannelId = cmd.actuatorChannelId := by simpa [CommandRow.refs] using heq
      rw [← hg, ← hid]
      exact ⟨h.commands cmd₀ hcmd₀, h.commandChannels cmd₀ hcmd₀⟩
    · exact hnew
  exact ⟨fun ch hch => hgw ((hs ch hch).elim (h.sensorChannels ch) id),
    fun ch hch => hgw ((ha ch hch).elim (h.actuatorChannels ch) id),
    fun cmd hcmd => hgw (hcommand cmd hcmd).1,
    fun cmd hcmd id hid => hact ((hcommand cmd hcmd).2 id hid)⟩

/-- What is not deleted keeps its gateway. -/
theorem mem_gatewayIds_restrict {t id : UUID} (h : id ∈ db.gatewayIds) (hne : id ≠ t) :
    id ∈ (db.gateways.restrict (·.id ≠ t)).rows.map (·.id) := by
  obtain ⟨gw, hgw, rfl⟩ := List.mem_map.1 h
  exact List.mem_map_of_mem (List.mem_filter.2 ⟨hgw, decide_eq_true hne⟩)

theorem foreignKeys_deleteGateway (h : ForeignKeys db) (hx : db.deleteGateway userId g = .ok db') :
    ForeignKeys db' := by
  obtain ⟨hfree, rfl⟩ := Tables.deleteGateway_eq_ok hx
  refine ⟨fun ch hch => ?_, fun ch hch => ?_, fun cmd hcmd => ?_, fun cmd hcmd id hid => ?_⟩
  · obtain ⟨hmem, hne⟩ := List.mem_filter.1 hch
    exact mem_gatewayIds_restrict (h.sensorChannels ch hmem) (of_decide_eq_true hne)
  · obtain ⟨hmem, hne⟩ := List.mem_filter.1 hch
    exact mem_gatewayIds_restrict (h.actuatorChannels ch hmem) (of_decide_eq_true hne)
  · exact mem_gatewayIds_restrict (h.commands cmd hcmd) (hfree cmd hcmd).1
  · obtain ⟨ch, hch, rfl⟩ := List.mem_map.1 (h.commandChannels cmd hcmd id hid)
    refine List.mem_map_of_mem (List.mem_filter.2 ⟨hch, decide_eq_true fun hg => ?_⟩)
    exact (hfree cmd hcmd).2 ch hch hg hid

/-- **Every request keeps the foreign keys.** -/
theorem foreignKeys_handle (h : ForeignKeys db) : ForeignKeys (db.handle env userId route).2 := by
  cases route with
  | registerGateway body =>
    refine Tables.commit_snd h fun row db' hx => ?_
    obtain ⟨gateways, permissions, -, hins, -, rfl⟩ := Tables.registerGateway_eq_ok hx
    refine h.mono ?_ (List.Subset.refl _) (fun _ => .inl) (fun _ => .inl) fun _ => .inl
    intro id hid
    obtain ⟨gw, hgw, rfl⟩ := List.mem_map.1 hid
    exact List.mem_map_of_mem ((Db.Table.mem_insert hins).2 (.inl hgw))
  | updateGateway g body =>
    refine Tables.commit_snd h fun row db' hx => ?_
    obtain ⟨old, -, -, rfl⟩ := Tables.updateGateway_eq_ok hx
    refine h.mono ?_ (List.Subset.refl _) (fun _ => .inl) (fun _ => .inl) fun _ => .inl
    intro id hid
    have hids : (db.gateways.modify g row.update row.id_update).rows.map (·.id) = db.gatewayIds :=
      Db.Table.modify_rows_map row.id_update row.id_update
    rw [← hids] at hid
    exact hid
  | deleteGateway g => exact Tables.commitDelete_snd h fun db' hx => foreignKeys_deleteGateway h hx
  | issueCommand g body =>
    obtain ⟨commands, hdb, hrows⟩ := issueCommand_rows db env userId g body
    change ForeignKeys (db.issueCommand env userId g body).2
    rw [hdb]
    refine h.mono (List.Subset.refl _) (List.Subset.refl _) (fun _ => .inl) (fun _ => .inl) fun r hr => ?_
    rcases hrows with hsame | ⟨r', hnew, href⟩
    · exact .inl (hsame ▸ hr)
    · rw [hnew] at hr
      rcases List.mem_append.1 hr with hold | hlast
      · exact .inl hold
      · rw [List.mem_singleton.1 hlast]
        exact .inr href
  | addSensorChannel g body =>
    refine Tables.commit_snd h fun channel db' hx => ?_
    obtain ⟨row, hcheck, -⟩ := Except.bind_eq_ok_iff.1 hx
    obtain ⟨sensorChannels, hrow, hins, rfl⟩ := Tables.addSensorChannel_eq_ok hx
    refine h.mono (List.Subset.refl _) (List.Subset.refl _) (fun ch hch => ?_) (fun _ => .inl) fun _ => .inl
    rcases (Db.Table.mem_insert hins).1 hch with hold | rfl
    · exact .inl hold
    · rw [Tables.sensorRow_gatewayId hrow]
      exact .inr (mem_gatewayIds_of_checkPerm hcheck)
  | deleteSensorChannel channelId =>
    refine Tables.commitDelete_snd h fun db' hx => ?_
    obtain ⟨channel, -, rfl⟩ := Tables.deleteSensorChannel_eq_ok hx
    exact h.mono (List.Subset.refl _) (List.Subset.refl _)
      (fun ch hch => .inl (List.mem_of_mem_filter hch)) (fun _ => .inl) fun _ => .inl
  | addActuatorChannel g body =>
    refine Tables.commit_snd h fun channel db' hx => ?_
    obtain ⟨row, hcheck, -⟩ := Except.bind_eq_ok_iff.1 hx
    obtain ⟨actuatorChannels, hrow, hins, rfl⟩ := Tables.addActuatorChannel_eq_ok hx
    refine h.mono (List.Subset.refl _) ?_ (fun _ => .inl) (fun ch hch => ?_) fun _ => .inl
    · intro id hid
      obtain ⟨ch, hch, rfl⟩ := List.mem_map.1 hid
      exact List.mem_map_of_mem ((Db.Table.mem_insert hins).2 (.inl hch))
    · rcases (Db.Table.mem_insert hins).1 hch with hold | rfl
      · exact .inl hold
      · rw [Tables.actuatorRow_gatewayId hrow]
        exact .inr (mem_gatewayIds_of_checkPerm hcheck)
  | deleteActuatorChannel channelId =>
    refine Tables.commitDelete_snd h fun db' hx => ?_
    obtain ⟨channel, -, hfree, rfl⟩ := Tables.deleteActuatorChannel_eq_ok hx
    refine ⟨h.sensorChannels, fun ch hch => h.actuatorChannels ch (List.mem_of_mem_filter hch),
      h.commands, fun cmd hcmd id hid => ?_⟩
    obtain ⟨ch, hch, rfl⟩ := List.mem_map.1 (h.commandChannels cmd hcmd id hid)
    refine List.mem_map_of_mem (List.mem_filter.2 ⟨hch, decide_eq_true fun heq => ?_⟩)
    exact hfree cmd hcmd (heq ▸ hid)
  | _ => exact h

/-- PostgreSQL checks what comes from outside. -/
def KeysKept (_ : Tables) (e : ApiEvent) (db' : Tables) : Prop :=
  match e with
  | .request .. => True
  | .outside _ => ForeignKeys db'

/-- **The foreign keys hold in every run.** -/
theorem always_foreignKeys (h : ForeignKeys db) {es : List ApiEvent} (hes : Along Tables.step KeysKept db es) :
    Always Tables.step ForeignKeys db es := by
  refine always_of_along (fun s e s' hs hstep hkept => ?_) (fun _ hs => hs) h hes
  cases e with
  | request env userId route =>
    cases hstep
    exact foreignKeys_handle hs
  | outside new => exact hkept

/-! ## A command's row -/

/-- Only `issue_command` writes the commands. -/
theorem commands_handle (hroute : ∀ g body, route ≠ .issueCommand g body) :
    (db.handle env userId route).2.commands = db.commands := by
  cases route with
  | registerGateway body =>
    refine Tables.commit_snd (Q := fun d => d.commands = db.commands) rfl fun row db' hx => ?_
    obtain ⟨gateways, permissions, -, -, -, rfl⟩ := Tables.registerGateway_eq_ok hx
    rfl
  | updateGateway g body =>
    refine Tables.commit_snd (Q := fun d => d.commands = db.commands) rfl fun row db' hx => ?_
    obtain ⟨old, -, -, rfl⟩ := Tables.updateGateway_eq_ok hx
    rfl
  | deleteGateway g =>
    refine Tables.commitDelete_snd (Q := fun d => d.commands = db.commands) rfl fun db' hx => ?_
    obtain ⟨-, rfl⟩ := Tables.deleteGateway_eq_ok hx
    rfl
  | issueCommand g body => exact absurd rfl (hroute g body)
  | addSensorChannel g body =>
    refine Tables.commit_snd (Q := fun d => d.commands = db.commands) rfl fun channel db' hx => ?_
    obtain ⟨sensorChannels, -, -, rfl⟩ := Tables.addSensorChannel_eq_ok hx
    rfl
  | deleteSensorChannel channelId =>
    refine Tables.commitDelete_snd (Q := fun d => d.commands = db.commands) rfl fun db' hx => ?_
    obtain ⟨channel, -, rfl⟩ := Tables.deleteSensorChannel_eq_ok hx
    rfl
  | addActuatorChannel g body =>
    refine Tables.commit_snd (Q := fun d => d.commands = db.commands) rfl fun channel db' hx => ?_
    obtain ⟨actuatorChannels, -, -, rfl⟩ := Tables.addActuatorChannel_eq_ok hx
    rfl
  | deleteActuatorChannel channelId =>
    refine Tables.commitDelete_snd (Q := fun d => d.commands = db.commands) rfl fun db' hx => ?_
    obtain ⟨channel, -, -, rfl⟩ := Tables.deleteActuatorChannel_eq_ok hx
    rfl
  | _ => rfl

/-- No request takes a command away, or changes what it refers to. -/
theorem refs_handle {r : String × UUID × Option UUID} (hr : r ∈ db.commands.rows.map (·.refs)) :
    r ∈ (db.handle env userId route).2.commands.rows.map (·.refs) := by
  by_cases hroute : ∃ g body, route = .issueCommand g body
  · obtain ⟨g, body, rfl⟩ := hroute
    obtain ⟨commands, hdb, hrows⟩ := issueCommand_rows db env userId g body
    change r ∈ (db.issueCommand env userId g body).2.commands.rows.map (·.refs)
    rw [hdb]
    rcases hrows with hsame | ⟨r', hnew, -⟩
    · exact hsame ▸ hr
    · rw [hnew]
      exact List.mem_append_left _ hr
  · rw [commands_handle fun g body heq => hroute ⟨g, body, heq⟩]
    exact hr

/-- **A command's row stays, with its gateway**, in every run. -/
theorem refs_run {r : String × UUID × Option UUID} {es : List ApiEvent} : ∀ {db : Tables},
    run Tables.step db es = some db' → r ∈ db.commands.rows.map (·.refs) →
      r ∈ db'.commands.rows.map (·.refs) := by
  induction es with
  | nil =>
    intro db h hr
    cases h
    exact hr
  | cons e es ih =>
    intro db h hr
    obtain ⟨mid, hstep, hrun⟩ := run_cons_eq_some.1 h
    refine ih hrun ?_
    cases e with
    | request env userId route =>
      cases hstep
      exact refs_handle hr
    | outside new =>
      simp only [Tables.step] at hstep
      split_ifs at hstep with hout
      cases hstep
      exact hout.1 ▸ hr

end Server
