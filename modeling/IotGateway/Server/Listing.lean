import IotGateway.Server.ForeignKeys

/-!
# What is listed, and what may be opened

`list_gateways` joins on any permission of its user. `get_gateway` and `get_command` ask
`_check_perm` for `view`, and `issue_command` asks it for `control`.

* `mem_listGateways`: a gateway is listed to whoever holds anything on it.
* `checkPerm_isOk_iff_ne`: it is opened to whoever holds one of two permissions, and not both.
* `listing_agrees_iff`: **so what is listed can be opened, and what was commanded be read,
  exactly when** a user with any permission holds either `view` or `admin`. Who only holds
  `control` sees a gateway in the list, and commands it, but may not look at either
  (`control_only`).
-/

namespace Server

open Lts

variable {db db' : Tables} {env : Env} {userId g : UUID} {required : String}

/-- `_check_perm` finds the gateway, for a user with one of two permissions but not both. -/
theorem checkPerm_isOk_iff {gw : GatewayRow} :
    db.checkPerm userId g required = .ok gw ↔ db.gateways.find? g = some gw ∧
      (Holds db.access userId g required ∨ Holds db.access userId g "admin") ∧
        ¬ (required ≠ "admin" ∧ Holds db.access userId g required ∧ Holds db.access userId g "admin") := by
  constructor
  · intro h
    have hfind := (Tables.checkPerm_eq_ok h).1
    obtain ⟨hmem, rfl⟩ := Db.Table.find?_eq_some.1 hfind
    have hin : gw.toGateway ∈ db.access.gateways.rows := List.mem_map_of_mem hmem
    obtain ⟨row, hrow, -⟩ := Except.bind_eq_ok_iff.1 h
    exact ⟨hfind, (allowed_iff hin).1 ⟨row, hrow⟩⟩
  · rintro ⟨hfind, hheld⟩
    obtain ⟨hmem, rfl⟩ := Db.Table.find?_eq_some.1 hfind
    have hin : gw.toGateway ∈ db.access.gateways.rows := List.mem_map_of_mem hmem
    have hcheck : Server.checkPerm db.access userId gw.id required = .ok gw.toGateway :=
      (checkPerm_iff hin).2 hheld
    unfold Tables.checkPerm
    rw [hcheck, hfind]
    rfl

/-- A gateway is opened with exactly one of the permission and `admin`. -/
theorem checkPerm_isOk_iff_ne (hne : required ≠ "admin") {gw : GatewayRow} :
    db.checkPerm userId g required = .ok gw ↔ db.gateways.find? g = some gw ∧
      (Holds db.access userId g required ↔ ¬ Holds db.access userId g "admin") := by
  rw [checkPerm_isOk_iff]
  refine and_congr_right fun _ => ⟨fun ⟨hone, hboth⟩ => ?_, fun hone => ?_⟩
  · exact ⟨fun hr ha => hboth ⟨hne, hr, ha⟩, fun ha => hone.resolve_right ha⟩
  · by_cases ha : Holds db.access userId g "admin"
    · exact ⟨.inr ha, fun h => hone.1 h.2.1 ha⟩
    · exact ⟨.inl (hone.2 ha), fun h => ha h.2.2⟩

/-- **A gateway is listed to whoever holds a permission on it.** -/
theorem mem_listGateways {gw : GatewayRow} : gw ∈ db.listGateways userId ↔
    gw ∈ db.gateways.rows ∧ ∃ permission, Holds db.access userId gw.id permission := by
  unfold Tables.listGateways
  rw [List.mem_insertionSort, List.mem_dedup, List.mem_flatMap]
  constructor
  · rintro ⟨gw', hgw', hmem⟩
    obtain ⟨⟨u, g, permission⟩, hr, rfl⟩ := List.mem_map.1 hmem
    obtain ⟨hrow, hcols⟩ := List.mem_filter.1 hr
    obtain ⟨rfl, rfl⟩ := of_decide_eq_true hcols
    exact ⟨hgw', permission, hrow⟩
  · rintro ⟨hgw, permission, hheld⟩
    refine ⟨gw, hgw, List.mem_map.2 ⟨_, List.mem_filter.2 ⟨hheld, ?_⟩, rfl⟩⟩
    exact decide_eq_true ⟨rfl, rfl⟩

/-- `issue_command` succeeds with a permission on a gateway that is there, for a command of
it, and leaves the permissions alone. -/
theorem issueCommand_ok {body : CommandIn} {cmd : CommandRow} {request : Request}
    (h : db.issueCommand env userId g body = (.ok (cmd, request), db')) :
    g ∈ db.gatewayIds ∧ Permits db userId g "control" ∧ cmd.gatewayId = g ∧
      cmd.refs ∈ db'.commands.rows.map (·.refs) ∧ db'.permissions = db.permissions := by
  rcases Tables.issueCommand_cases db env userId g body with
    ⟨e, hdb⟩ | ⟨cmd₀, request₀, commands, hissue, hins, ⟨e, hdb⟩ | hdb⟩
  · rw [hdb] at h
    cases h
  · rw [hdb] at h
    cases h
  rw [hdb] at h
  cases h
  obtain ⟨gw, actuator, expiresAt, hcheck, -, -, -, rfl, -⟩ := Issue.issueCommand_eq_ok hissue
  refine ⟨mem_gatewayIds_of_access hcheck, holds_of_checkPerm hcheck, rfl, ?_, rfl⟩
  have hrefs := Db.Table.modify_rows_map (t := commands) (k := commandId env.now env.hex)
    (g := CommandRow.refs) CommandRow.id_publish fun _ => rfl
  rw [hrefs]
  exact List.mem_map.2 ⟨_, (Db.Table.mem_insert hins).2 (.inr rfl), rfl⟩

/-- The user may open what is listed, and read what they commanded, while the permissions
stay. -/
structure ListingAgrees (db : Tables) (userId g : UUID) : Prop where
  opened : ∀ gw, gw ∈ db.listGateways userId ∧ gw.id = g ↔ db.getGateway userId g = .ok gw
  read : ∀ env body cmd request db₁, db.issueCommand env userId g body = (.ok (cmd, request), db₁) →
    ∀ es db₂, run Tables.step db₁ es = some db₂ → ForeignKeys db₂ →
      (∀ permission, Holds db₂.access userId g permission ↔ Holds db₁.access userId g permission) →
      ∃ cmd', db₂.getCommand userId cmd.id = .ok cmd' ∧ cmd'.refs = cmd.refs

/-- With `view` or `admin`, and not both, a command stays readable. -/
theorem getCommand_run {cmd : CommandRow} {es : List ApiEvent}
    (hmem : cmd.refs ∈ db.commands.rows.map (·.refs)) (hrun : run Tables.step db es = some db')
    (hkeys : ForeignKeys db')
    (hone : Holds db'.access userId cmd.gatewayId "view" ↔ ¬ Holds db'.access userId cmd.gatewayId "admin") :
    ∃ cmd', db'.getCommand userId cmd.id = .ok cmd' ∧ cmd'.refs = cmd.refs := by
  obtain ⟨cmd', hcmd', hrefs⟩ := List.mem_map.1 (refs_run hrun hmem)
  obtain ⟨hid, hg, -⟩ : cmd'.id = cmd.id ∧ cmd'.gatewayId = cmd.gatewayId ∧
      cmd'.actuatorChannelId = cmd.actuatorChannelId := by simpa [CommandRow.refs] using hrefs
  obtain ⟨gw, -, -, hfind⟩ := find?_of_mem_gatewayIds (hkeys.commands cmd' hcmd')
  have hcheck : db'.checkPerm userId cmd'.gatewayId "view" = .ok gw := by
    rw [checkPerm_isOk_iff_ne (by decide), hg]
    exact ⟨hg ▸ hfind, hone⟩
  have hget : db'.commands.find? cmd.id = some cmd' := hid ▸ Db.Table.find?_key hcmd'
  refine ⟨cmd', ?_, hrefs⟩
  unfold Tables.getCommand
  rw [hget]
  dsimp only
  rw [hcheck]
  rfl

/-- **Listing and opening agree, and commands can be read, if and only if** the user holds
nothing on the gateway, or exactly one of `view` and `admin`. -/
theorem listing_agrees_iff (db : Tables) (userId g : UUID) :
    ListingAgrees db userId g ↔
      (g ∈ db.gatewayIds → (∀ permission, ¬ Holds db.access userId g permission) ∨
        (Holds db.access userId g "view" ↔ ¬ Holds db.access userId g "admin")) := by
  constructor
  · intro h hg
    obtain ⟨gw, hmem, rfl, -⟩ := find?_of_mem_gatewayIds hg
    by_cases hheld : ∃ permission, Holds db.access userId gw.id permission
    · have hopened := (h.opened gw).1 ⟨mem_listGateways.2 ⟨hmem, hheld⟩, rfl⟩
      exact .inr ((checkPerm_isOk_iff_ne (by decide)).1 hopened).2
    · exact .inl fun permission hp => hheld ⟨permission, hp⟩
  · intro h
    constructor
    · intro gw
      rw [Tables.getGateway, checkPerm_isOk_iff_ne (by decide), mem_listGateways, Db.Table.find?_eq_some]
      constructor
      · rintro ⟨⟨hmem, permission, hp⟩, rfl⟩
        exact ⟨⟨hmem, rfl⟩, (h (mem_gatewayIds hmem)).resolve_left fun hno => hno permission hp⟩
      · rintro ⟨⟨hmem, rfl⟩, hone⟩
        refine ⟨⟨hmem, ?_⟩, rfl⟩
        by_cases ha : Holds db.access userId gw.id "admin"
        · exact ⟨_, ha⟩
        · exact ⟨_, hone.2 ha⟩
    · intro env body cmd request db₁ hissue es db₂ hrun hkeys hsame
      obtain ⟨hg, hpermits, rfl, hmem, hperms⟩ := issueCommand_ok hissue
      have hheld : ∀ permission, Holds db₂.access userId cmd.gatewayId permission ↔
          Holds db.access userId cmd.gatewayId permission := by
        intro permission
        have hrows : db₁.access.permissions.rows = db.access.permissions.rows :=
          congrArg Db.Table.rows hperms
        rw [hsame, Holds, hrows, Holds]
      refine getCommand_run hmem hrun hkeys ?_
      rw [hheld, hheld]
      refine (h hg).resolve_left fun hno => ?_
      exact hpermits.elim (hno _) (hno _)

/-! User 1 has registered gateway 7 with the actuator channel 5; user 2 was granted `control`
on it. -/

def ventTables : Tables := (run Tables.step noTables (ventRequests.take 2)).getD noTables

def sharedTables : Tables :=
  { ventTables with permissions := ⟨[⟨1, 7, "admin"⟩, ⟨2, 7, "control"⟩], by decide⟩ }

/-- **Who may only control sees the gateway listed**, and is refused it and the command they
issued. -/
theorem control_only :
    (sharedTables.listGateways 2).map (·.id) = [7] ∧
      sharedTables.getGateway 2 7 = .error (.http 403 "missing 'view' permission") ∧
      ((sharedTables.issueCommand (envOf 0) 2 7 Issue.ventOn).1.map (·.1.status)) = .ok "published" ∧
      ((sharedTables.issueCommand (envOf 0) 2 7 Issue.ventOn).2.getCommand 2
        (commandId Issue.noon "0a1b2c3d")).map (·.status) =
          .error (.http 403 "missing 'view' permission") ∧
      ¬ ListingAgrees sharedTables 2 7 := by
  refine ⟨by decide +kernel, by decide +kernel, by decide +kernel, by decide +kernel, fun h => ?_⟩
  have hlisted : ∃ gw ∈ sharedTables.listGateways 2, gw.id = 7 := by decide +kernel
  obtain ⟨gw, hgw, hid⟩ := hlisted
  have hrefused : sharedTables.getGateway 2 7 = .error (.http 403 "missing 'view' permission") := by
    decide +kernel
  rw [(h.opened gw).1 ⟨hgw, hid⟩] at hrefused
  cases hrefused

end Server
