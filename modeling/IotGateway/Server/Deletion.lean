import IotGateway.Server.Listing

/-!
# What a deletion leaves

The channels of a gateway go with it. A command keeps its gateway and its channel from being
deleted (`deleteGateway_isOk_iff`, `deleteActuatorChannel_isOk_iff`): its foreign keys have no
`ON DELETE` action, and no cascade is declared. The permissions and the latest values name the
gateway without a foreign key, and stay (`deleteGateway_keeps`).

`deletion_clean_iff`: **so the deletion of a gateway is never clean**, for at least the `admin`
row of the user who deletes it stays, and that of an actuator channel is exactly when no
command refers to the channel.
-/

namespace Server

open Lts

inductive Deletion where
  | gateway (id : UUID)
  | actuatorChannel (id : UUID)

def Deletion.route : Deletion → Route
  | .gateway id => .deleteGateway id
  | .actuatorChannel id => .deleteActuatorChannel id

/-- What is to be deleted is there, and belongs to the gateway. -/
def Deletion.Present (db : Tables) (g : UUID) : Deletion → Prop
  | .gateway id => id = g ∧ g ∈ db.gatewayIds
  | .actuatorChannel id => ∃ ch, db.actuatorChannels.find? id = some ch ∧ ch.gatewayId = g

/-- It is gone, and no row refers to it. -/
def Deletion.Gone (db : Tables) : Deletion → Prop
  | .gateway id =>
    id ∉ db.gatewayIds ∧ (∀ ch ∈ db.sensorChannels.rows, ch.gatewayId ≠ id) ∧
      (∀ ch ∈ db.actuatorChannels.rows, ch.gatewayId ≠ id) ∧
      (∀ r ∈ db.permissions.rows, r.gatewayId ≠ id) ∧ (∀ cmd ∈ db.commands.rows, cmd.gatewayId ≠ id) ∧
      ∀ r ∈ db.latest.rows, r.gatewayId ≠ id
  | .actuatorChannel id =>
    id ∉ db.actuatorIds ∧ ∀ cmd ∈ db.commands.rows, cmd.actuatorChannelId ≠ some id

/-- The request succeeds, and leaves nothing of what it deletes. -/
def Clean (db : Tables) (env : Env) (userId : UUID) (d : Deletion) : Prop :=
  (db.handle env userId d.route).1 = .ok .noContent ∧ d.Gone (db.handle env userId d.route).2

variable {db db' : Tables} {env : Env} {userId g : UUID} {d : Deletion}

/-- `admin` alone passes every check. -/
theorem checkPerm_of_admin
    (hadmin : ∀ permission, Holds db.access userId g permission ↔ permission = "admin")
    (hg : g ∈ db.gatewayIds) (required : String) :
    ∃ gw, gw.id = g ∧ db.checkPerm userId g required = .ok gw := by
  obtain ⟨gw, hmem, rfl, hfind⟩ := find?_of_mem_gatewayIds hg
  refine ⟨gw, rfl, ?_⟩
  exact checkPerm_isOk_iff.2 ⟨hfind, .inr ((hadmin _).2 rfl), fun h => h.1 ((hadmin _).1 h.2.1)⟩

/-- **A gateway can be deleted** unless a command refers to it, or to a channel of it. -/
theorem deleteGateway_isOk_iff
    (hadmin : ∀ permission, Holds db.access userId g permission ↔ permission = "admin")
    (hg : g ∈ db.gatewayIds) : (∃ db', db.deleteGateway userId g = .ok db') ↔
      ∀ cmd ∈ db.commands.rows, cmd.gatewayId ≠ g ∧
        ∀ ch ∈ db.actuatorChannels.rows, ch.gatewayId = g → cmd.actuatorChannelId ≠ some ch.id := by
  constructor
  · rintro ⟨db', h⟩
    exact (Tables.deleteGateway_eq_ok h).1
  · intro hfree
    obtain ⟨gw, rfl, hcheck⟩ := checkPerm_of_admin hadmin hg "admin"
    unfold Tables.deleteGateway
    rw [hcheck]
    refine ⟨_, if_neg fun hany => ?_⟩
    obtain ⟨cmd, hcmd, href⟩ := List.any_eq_true.1 hany
    obtain ⟨hgw, hch⟩ := hfree cmd hcmd
    rcases of_decide_eq_true href with hself | hchannel
    · exact hgw hself
    · obtain ⟨ch, hmem, heq⟩ := List.mem_map.1 hchannel
      obtain ⟨hrow, hown⟩ := List.mem_filter.1 hmem
      exact hch ch hrow (of_decide_eq_true hown) heq.symm

/-- The permissions and the latest values stay when a gateway is deleted. -/
theorem deleteGateway_keeps (h : db.deleteGateway userId g = .ok db') :
    db'.permissions = db.permissions ∧ db'.latest = db.latest := by
  obtain ⟨-, rfl⟩ := Tables.deleteGateway_eq_ok h
  exact ⟨rfl, rfl⟩

/-- **An actuator channel can be deleted** unless a command refers to it. -/
theorem deleteActuatorChannel_isOk_iff {ch : ActuatorChannelRow} {id : UUID}
    (hadmin : ∀ permission, Holds db.access userId ch.gatewayId permission ↔ permission = "admin")
    (hfind : db.actuatorChannels.find? id = some ch) (hg : ch.gatewayId ∈ db.gatewayIds) :
    (∃ db', db.deleteActuatorChannel userId id = .ok db') ↔
      ∀ cmd ∈ db.commands.rows, cmd.actuatorChannelId ≠ some id := by
  have hid : ch.id = id := (Db.Table.key_of_find? hfind :)
  constructor
  · rintro ⟨db', h⟩
    obtain ⟨channel, hchannel, hfree, -⟩ := Tables.deleteActuatorChannel_eq_ok h
    rw [hfind] at hchannel
    cases hchannel
    exact hid ▸ hfree
  · intro hfree
    obtain ⟨gw, -, hcheck⟩ := checkPerm_of_admin hadmin hg "configure"
    unfold Tables.deleteActuatorChannel
    rw [hfind]
    dsimp only
    rw [hcheck]
    refine ⟨_, if_neg fun hany => ?_⟩
    obtain ⟨cmd, hcmd, href⟩ := List.any_eq_true.1 hany
    rw [hid] at href
    exact hfree cmd hcmd (of_decide_eq_true href)

theorem commitDelete_eq_ok {x : Except Failure Tables} (h : (db.commitDelete x).1 = .ok .noContent) :
    ∃ db', x = .ok db' ∧ (db.commitDelete x).2 = db' := by
  cases x with
  | error e => cases h
  | ok db' => exact ⟨db', rfl, rfl⟩

/-- **The deletion of a gateway is never clean**: the row that allowed it is left. -/
theorem not_clean_gateway (hadmin : Holds db.access userId g "admin") :
    ¬ Clean db env userId (.gateway g) := by
  rintro ⟨hok, -, -, -, hperms, -⟩
  obtain ⟨db', hdelete, hdb⟩ := commitDelete_eq_ok hok
  have hkept := (deleteGateway_keeps hdelete).1
  refine hperms ⟨userId, g, "admin"⟩ ?_ rfl
  change _ ∈ (db.commitDelete (db.deleteGateway userId g)).2.permissions.rows
  rw [hdb, hkept]
  exact hadmin

/-- **A deletion by a user with `admin` alone is clean, if and only if** it is that of an
actuator channel that no command refers to. -/
theorem deletion_clean_iff (hkeys : ForeignKeys db)
    (hadmin : ∀ permission, Holds db.access userId g permission ↔ permission = "admin")
    (hd : d.Present db g) : Clean db env userId d ↔
      ∃ id, d = .actuatorChannel id ∧ ∀ cmd ∈ db.commands.rows, cmd.actuatorChannelId ≠ some id := by
  cases d with
  | gateway id =>
    obtain ⟨rfl, -⟩ := hd
    refine iff_of_false (not_clean_gateway ((hadmin _).2 rfl)) ?_
    rintro ⟨id, heq, -⟩
    cases heq
  | actuatorChannel id =>
    obtain ⟨ch, hfind, rfl⟩ := hd
    have hmem : ch ∈ db.actuatorChannels.rows := (Db.Table.find?_eq_some.1 hfind).1
    have hisOk := deleteActuatorChannel_isOk_iff hadmin hfind (hkeys.actuatorChannels ch hmem)
    constructor
    · rintro ⟨hok, -⟩
      obtain ⟨db', hdelete, -⟩ := commitDelete_eq_ok hok
      exact ⟨id, rfl, hisOk.1 ⟨db', hdelete⟩⟩
    · rintro ⟨id, heq, hfree⟩
      cases heq
      obtain ⟨db', hdelete⟩ := hisOk.2 hfree
      obtain ⟨channel, hchannel, -, rfl⟩ := Tables.deleteActuatorChannel_eq_ok hdelete
      change (db.commitDelete (db.deleteActuatorChannel userId id)).1 = _ ∧
        Deletion.Gone (db.commitDelete (db.deleteActuatorChannel userId id)).2 (.actuatorChannel id)
      rw [hdelete]
      refine ⟨rfl, fun hin => ?_, hfree⟩
      obtain ⟨ch', hch', hid'⟩ := List.mem_map.1 hin
      have hne := of_decide_eq_true (List.mem_filter.1 hch').2
      exact hne (hid'.trans (Db.Table.key_of_find? hchannel).symm)

theorem foreignKeys_noTables : ForeignKeys noTables :=
  ⟨fun _ h => (nomatch h), fun _ h => (nomatch h), fun _ h => (nomatch h), fun _ h => (nomatch h)⟩

theorem ventTables_admin (permission : String) :
    Holds ventTables.access 1 7 permission ↔ permission = "admin" := by
  have hrows : ventTables.access.permissions.rows = [⟨1, 7, "admin"⟩] := by decide +kernel
  rw [Holds, hrows, List.mem_singleton]
  simp

/-- The vent's channel, not used yet, is deleted cleanly. -/
theorem vent_deleted : Clean ventTables (envOf 0) 1 (.actuatorChannel 5) := by
  have hkeys : ForeignKeys ventTables := foreignKeys_handle (foreignKeys_handle foreignKeys_noTables)
  have hpresent : Deletion.Present ventTables 7 (.actuatorChannel 5) := ⟨_, rfl, rfl⟩
  have hcommands : ventTables.commands.rows = [] := rfl
  refine (deletion_clean_iff hkeys ventTables_admin hpresent).mpr ⟨5, rfl, fun cmd hcmd => ?_⟩
  rw [hcommands] at hcmd
  cases hcmd

/-- User 1 has registered gateway 7, and nothing else was done. -/
def freshTables : Tables := (run Tables.step noTables (ventRequests.take 1)).getD noTables

/-- **A gateway that was never used leaves its owner's permission**; one that was commanded
cannot be deleted, and neither can its channel. -/
theorem deletion_leaves :
    (freshTables.deleteGateway 1 7).map (fun db => (db.gatewayIds, db.permissions.rows)) =
        .ok ([], [⟨1, 7, "admin"⟩]) ∧
      ¬ Clean freshTables (envOf 0) 1 (.gateway 7) ∧
      ((ventTables.issueCommand (envOf 0) 1 7 Issue.ventOn).2.deleteGateway 1 7).map (·.gatewayIds) =
        .error .integrityError ∧
      ((ventTables.issueCommand (envOf 0) 1 7 Issue.ventOn).2.deleteActuatorChannel 1 5).map
        (·.gatewayIds) = .error .integrityError := by
  refine ⟨by decide +kernel, not_clean_gateway (by decide +kernel), by decide +kernel,
    by decide +kernel⟩

end Server
