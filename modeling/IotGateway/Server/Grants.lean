import IotGateway.Server.Mediation

/-!
# Nobody gains a permission by asking

The endpoints write `user_gateway_permissions` in one place: who registers a gateway gets
`admin` on it. They never take a row back.

* `handle_permissions`: what a request adds to the table.
* `strangers_stay_out`: **in every run of requests of any users, one who is given no
  permission on a gateway from outside never holds any: all of that user's requests about the
  gateway fail and change none of its rows, and none of that user's requests succeeds with a
  reply that depends on them.**
* `governed`: **every gateway has an `admin`, as long as none is taken away from outside.**
-/

namespace Server

open Lts

variable {db db' : Tables} {env : Env} {userId u g : UUID} {route : Route}

/-! ## One request -/

theorem registerGateway_permissions {body : GatewayIn} {row : GatewayRow}
    (h : db.registerGateway env userId body = .ok (row, db')) : db.gateways.find? env.id = none ∧
      db'.gateways.rows = db.gateways.rows ++ [row] ∧ row.id = env.id ∧
      db'.permissions.rows = db.permissions.rows ++ [⟨userId, env.id, "admin"⟩] := by
  obtain ⟨gateways, permissions, hrow, hg, hp, rfl⟩ := Tables.registerGateway_eq_ok h
  have hid : row.id = env.id := Tables.row_id hrow
  obtain ⟨hfresh, hrows⟩ := Db.Table.insert_eq_some.1 hg
  refine ⟨Option.eq_none_iff_forall_ne_some.2 fun gw hgw => ?_, hrows, hid, (Db.Table.insert_eq_some.1 hp).2⟩
  obtain ⟨hmem, hkey⟩ := Db.Table.find?_eq_some.1 hgw
  have hne : gw.id ≠ row.id := hfresh gw hmem
  exact hne (hkey.trans hid.symm)

/-- **What a request adds** to the permissions: nothing, or the registrar's `admin` on a new
gateway. -/
theorem handle_permissions (db : Tables) (env : Env) (userId : UUID) (route : Route) :
    (db.handle env userId route).2.permissions = db.permissions ∨
      db.gateways.find? env.id = none ∧ (∃ body, route = .registerGateway body) ∧
        (db.handle env userId route).2.permissions.rows =
          db.permissions.rows ++ [⟨userId, env.id, "admin"⟩] := by
  have hcommit : ∀ {α : Type} {reply : α → Reply} {x : Except Failure (α × Tables)},
      (∀ a db', x = .ok (a, db') → db'.permissions = db.permissions) →
      (db.commit reply x).2.permissions = db.permissions :=
    fun h => Tables.commit_snd (Q := fun d => d.permissions = db.permissions) rfl h
  have hdelete : ∀ {x : Except Failure Tables}, (∀ db', x = .ok db' → db'.permissions = db.permissions) →
      (db.commitDelete x).2.permissions = db.permissions :=
    fun h => Tables.commitDelete_snd (Q := fun d => d.permissions = db.permissions) rfl h
  cases route with
  | registerGateway body =>
    have hhandle : db.handle env userId (.registerGateway body) =
        db.commit .gateway (db.registerGateway env userId body) := rfl
    rw [hhandle]
    cases hx : db.registerGateway env userId body with
    | error e => exact Or.inl rfl
    | ok r =>
      obtain ⟨hnew, -, -, hrows⟩ := registerGateway_permissions hx
      exact Or.inr ⟨hnew, ⟨body, rfl⟩, hrows⟩
  | updateGateway gatewayId body =>
    refine Or.inl (hcommit fun row db' hx => ?_)
    obtain ⟨old, -, -, rfl⟩ := Tables.updateGateway_eq_ok hx
    rfl
  | deleteGateway gatewayId =>
    refine Or.inl (hdelete fun db' hx => ?_)
    obtain ⟨-, rfl⟩ := Tables.deleteGateway_eq_ok hx
    rfl
  | issueCommand gatewayId body =>
    have hissue : (db.handle env userId (.issueCommand gatewayId body)).2 =
        (db.issueCommand env userId gatewayId body).2 := rfl
    rw [hissue]
    refine Or.inl ?_
    rcases Tables.issueCommand_cases db env userId gatewayId body with
      ⟨e, he⟩ | ⟨cmd, request, commands, -, -, ⟨e, he⟩ | he⟩ <;> rw [he]
  | addSensorChannel gatewayId body =>
    refine Or.inl (hcommit fun channel db' hx => ?_)
    obtain ⟨sensorChannels, -, -, rfl⟩ := Tables.addSensorChannel_eq_ok hx
    rfl
  | addActuatorChannel gatewayId body =>
    refine Or.inl (hcommit fun channel db' hx => ?_)
    obtain ⟨actuatorChannels, -, -, rfl⟩ := Tables.addActuatorChannel_eq_ok hx
    rfl
  | deleteSensorChannel channelId =>
    refine Or.inl (hdelete fun db' hx => ?_)
    obtain ⟨channel, -, rfl⟩ := Tables.deleteSensorChannel_eq_ok hx
    rfl
  | deleteActuatorChannel channelId =>
    refine Or.inl (hdelete fun db' hx => ?_)
    obtain ⟨channel, -, -, rfl⟩ := Tables.deleteActuatorChannel_eq_ok hx
    rfl
  | _ => exact Or.inl rfl

/-- A request takes no permission back. -/
theorem holds_handle {permission : String} (h : Holds db.access u g permission) :
    Holds (db.handle env userId route).2.access u g permission := by
  have hmem : ⟨u, g, permission⟩ ∈ db.permissions.rows := h
  have hafter : ⟨u, g, permission⟩ ∈ (db.handle env userId route).2.permissions.rows := by
    rcases handle_permissions db env userId route with hsame | ⟨-, -, hrows⟩
    · rw [hsame]
      exact hmem
    · rw [hrows]
      exact List.mem_append_left _ hmem
  exact hafter

/-! ## A stranger -/

/-- The user holds no permission on the gateway. -/
def Stranger (db : Tables) (u g : UUID) : Prop := ∀ r ∈ db.permissions.rows, ¬ (r.userId = u ∧ r.gatewayId = g)

instance (db : Tables) (u g : UUID) : Decidable (Stranger db u g) := inferInstanceAs (Decidable (∀ _ ∈ _, _))

/-- What the user's request does to a gateway of others. -/
structure Powerless (db : Tables) (env : Env) (u : UUID) (route : Route) (g : UUID) : Prop where
  refused : route.target db = some g → ∃ e, db.handle env u route = (.error e, db)
  unchanged : (db.handle env u route).2.toGatewayTables.restrict (· = g) = db.toGatewayTables.restrict (· = g)
  blind : ∀ reply, (db.handle env u route).1 = .ok reply → ∀ db₂, AgreeOn (· ≠ g) db db₂ →
    ∀ reply₂, (db₂.handle env u route).1 = .ok reply₂ → reply₂ = reply

/-- The id that is drawn for a new gateway is another. -/
def Route.DrawsOther (env : Env) (g : UUID) : Route → Prop
  | .registerGateway _ => env.id ≠ g
  | _ => True

instance (env : Env) (g : UUID) (route : Route) : Decidable (route.DrawsOther env g) := by
  unfold Route.DrawsOther
  split <;> infer_instance

/-- The administrators do not give the user a permission on the gateway, and no gateway that
the user registers gets its id. -/
def Ungranted (u g : UUID) (_ : Tables) (e : ApiEvent) (_ : Tables) : Prop :=
  match e with
  | .request env userId route => userId = u → route.DrawsOther env g
  | .outside db' => Stranger db' u g

instance (u g : UUID) (db : Tables) (e : ApiEvent) (db' : Tables) : Decidable (Ungranted u g db e db') := by
  unfold Ungranted
  split <;> infer_instance

theorem not_entitled (hs : Stranger db u g) (hid : route.DrawsOther env g) :
    ¬ Entitled db env u route g := by
  have hnone : ∀ permission, ¬ Holds db.access u g permission :=
    fun permission hholds => hs ⟨u, g, permission⟩ hholds ⟨rfl, rfl⟩
  cases route with
  | registerGateway body =>
    rintro ⟨hg, -⟩
    exact hid hg.symm
  | listGateways =>
    rintro ⟨permission, hholds⟩
    exact hnone permission hholds
  | _ =>
    rintro ⟨permission, -, hholds | hholds⟩
    · exact hnone permission hholds
    · exact hnone "admin" hholds

theorem powerless (hs : Stranger db u g) (hid : route.DrawsOther env g) :
    Powerless db env u route g := by
  have hno : ¬ Entitled db env u route g := not_entitled hs hid
  refine ⟨fun ht => ?_, ?_, fun reply hreply db₂ hagree reply₂ hreply₂ => ?_⟩
  · exact (entitled_or_failed ht).resolve_left hno
  · by_contra hchange
    exact hno (entitled_of_changes hchange)
  · exact reply_eq hno hagree hreply hreply₂

theorem stranger_step {e : ApiEvent} (hs : Stranger db u g) (h : db.step e = some db')
    (hun : Ungranted u g db e db') : Stranger db' u g := by
  cases e with
  | request env userId route =>
    cases h
    rcases handle_permissions db env userId route with hsame | ⟨-, ⟨body, rfl⟩, hrows⟩
    · intro r hr
      rw [hsame] at hr
      exact hs r hr
    · intro r hr
      rw [hrows] at hr
      rcases List.mem_append.1 hr with hr | hr
      · exact hs r hr
      · obtain rfl := List.mem_singleton.1 hr
        rintro ⟨huser, hg⟩
        exact hun huser hg
  | outside new =>
    simp only [Tables.step] at h
    split_ifs at h with hout
    cases h
    exact hun

/-- The user's requests of a run are powerless over the gateway. -/
def StaysOut (u g : UUID) (db : Tables) (e : ApiEvent) (_ : Tables) : Prop :=
  match e with
  | .request env userId route => userId = u → Powerless db env u route g
  | .outside _ => True

/-- **Strangers stay out**, whatever anybody asks in whatever order. -/
theorem strangers_stay_out (u g : UUID) (db : Tables) (hs : Stranger db u g) (es : List ApiEvent)
    (hun : Along Tables.step (Ungranted u g) db es) :
    Along Tables.step (StaysOut u g) db es ∧ Always Tables.step (fun db' => Stranger db' u g) db es := by
  have hkeep : ∀ db e db', Stranger db u g → Tables.step db e = some db' → Ungranted u g db e db' →
      Stranger db' u g := fun db e db' hs h hun => stranger_step hs h hun
  have hout : ∀ db e db', Stranger db u g → Tables.step db e = some db' → Ungranted u g db e db' →
      StaysOut u g db e db' := by
    intro db e db' hs _ hun
    cases e with
    | request env userId route =>
      rintro rfl
      exact powerless hs (hun rfl)
    | outside new => trivial
  exact ⟨along_of_along hkeep hout hs hun, always_of_along hkeep (fun _ h => h) hs hun⟩

/-! User 2 registers a gateway, and tries the one that user 1 has registered as number 7. -/

theorem gw2_format : SlugFormat "GW-2" := by decide +kernel

theorem gw2_length : "GW-2".length ≤ 64 := by decide

def intrusion : List ApiEvent :=
  [.request (envOf 7) 1 (.registerGateway ⟨⟨"GW-1", gw1_format, gw1_length⟩, "Barn", 3, none, none⟩),
    .request (envOf 8) 2 (.registerGateway ⟨⟨"GW-2", gw2_format, gw2_length⟩, "Shed", 3, none, none⟩),
    .request (envOf 0) 2 (.deleteGateway 7), .request (envOf 0) 2 .listGateways]

theorem shed_stays_out :
    (run Tables.step noTables intrusion).map (fun db => db.gateways.rows.map (·.id)) = some [7, 8] ∧
      Along Tables.step (StaysOut 2 7) noTables intrusion ∧
      Always Tables.step (fun db => Stranger db 2 7) noTables intrusion :=
  ⟨by decide +kernel, strangers_stay_out 2 7 noTables (by decide) intrusion (by decide +kernel)⟩

/-! ## Every gateway has an admin -/

def Governed (db : Tables) : Prop := ∀ gw ∈ db.gateways.rows, ∃ u, Holds db.access u gw.id "admin"

/-- What a request does to the ids of the gateways. -/
theorem handle_gateways {gw : GatewayRow} (h : gw ∈ (db.handle env userId route).2.gateways.rows) :
    (∃ old ∈ db.gateways.rows, old.id = gw.id) ∨
      Holds (db.handle env userId route).2.access userId gw.id "admin" := by
  have hsame : ∀ {db' : Tables}, db'.gateways = db.gateways → gw ∈ db'.gateways.rows →
      ∃ old ∈ db.gateways.rows, old.id = gw.id := by
    intro db' heq hgw
    rw [heq] at hgw
    exact ⟨gw, hgw, rfl⟩
  cases route with
  | registerGateway body =>
    have hhandle : db.handle env userId (.registerGateway body) =
        db.commit .gateway (db.registerGateway env userId body) := rfl
    rw [hhandle] at h ⊢
    cases hx : db.registerGateway env userId body with
    | error e =>
      rw [hx] at h
      exact Or.inl ⟨gw, h, rfl⟩
    | ok r =>
      rw [hx] at h
      obtain ⟨-, hgateways, hid, hrows⟩ := registerGateway_permissions hx
      have hgw : gw ∈ db.gateways.rows ++ [r.1] := by
        rw [← hgateways]
        exact h
      rcases List.mem_append.1 hgw with hgw | hgw
      · exact Or.inl ⟨gw, hgw, rfl⟩
      · obtain rfl := List.mem_singleton.1 hgw
        refine Or.inr ?_
        have hnew : (⟨userId, r.1.id, "admin"⟩ : UserGatewayPermission) ∈ r.2.permissions.rows := by
          rw [hrows, hid]
          exact List.mem_append_right _ (List.mem_singleton_self _)
        exact hnew
  | updateGateway gatewayId body =>
    refine Or.inl ?_
    revert h
    refine Tables.commit_snd (Q := fun d => gw ∈ d.gateways.rows → _) (fun hgw => ⟨gw, hgw, rfl⟩)
      fun row db' hx hgw => ?_
    obtain ⟨old, -, -, rfl⟩ := Tables.updateGateway_eq_ok hx
    obtain ⟨before, hbefore, rfl⟩ := List.mem_map.1 hgw
    refine ⟨before, hbefore, ?_⟩
    split_ifs
    · exact (row.id_update before).symm
    · rfl
  | deleteGateway gatewayId =>
    refine Or.inl ?_
    revert h
    refine Tables.commitDelete_snd (Q := fun d => gw ∈ d.gateways.rows → _) (fun hgw => ⟨gw, hgw, rfl⟩)
      fun db' hx hgw => ?_
    obtain ⟨-, rfl⟩ := Tables.deleteGateway_eq_ok hx
    exact ⟨gw, (List.mem_filter.1 hgw).1, rfl⟩
  | issueCommand gatewayId body =>
    have hissue : (db.handle env userId (.issueCommand gatewayId body)).2 =
        (db.issueCommand env userId gatewayId body).2 := rfl
    rw [hissue] at h
    refine Or.inl (hsame ?_ h)
    rcases Tables.issueCommand_cases db env userId gatewayId body with
      ⟨e, he⟩ | ⟨cmd, request, commands, -, -, ⟨e, he⟩ | he⟩ <;> rw [he]
  | addSensorChannel gatewayId body =>
    refine Or.inl (hsame (Tables.commit_snd (Q := fun d => d.gateways = db.gateways) rfl fun channel db' hx => ?_) h)
    obtain ⟨sensorChannels, -, -, rfl⟩ := Tables.addSensorChannel_eq_ok hx
    rfl
  | addActuatorChannel gatewayId body =>
    refine Or.inl (hsame (Tables.commit_snd (Q := fun d => d.gateways = db.gateways) rfl fun channel db' hx => ?_) h)
    obtain ⟨actuatorChannels, -, -, rfl⟩ := Tables.addActuatorChannel_eq_ok hx
    rfl
  | deleteSensorChannel channelId =>
    refine Or.inl (hsame (Tables.commitDelete_snd (Q := fun d => d.gateways = db.gateways) rfl fun db' hx => ?_) h)
    obtain ⟨channel, -, rfl⟩ := Tables.deleteSensorChannel_eq_ok hx
    rfl
  | deleteActuatorChannel channelId =>
    refine Or.inl (hsame (Tables.commitDelete_snd (Q := fun d => d.gateways = db.gateways) rfl fun db' hx => ?_) h)
    obtain ⟨channel, -, -, rfl⟩ := Tables.deleteActuatorChannel_eq_ok hx
    rfl
  | _ => exact Or.inl (hsame rfl h)

theorem governed_handle (h : Governed db) : Governed (db.handle env userId route).2 := by
  intro gw hgw
  rcases handle_gateways hgw with ⟨old, hold, hid⟩ | hnew
  · obtain ⟨u, hadmin⟩ := h old hold
    rw [hid] at hadmin
    exact ⟨u, holds_handle hadmin⟩
  · exact ⟨userId, hnew⟩

/-- **Every gateway has an admin**: requests never leave one without. -/
theorem governed (db : Tables) (h : Governed db) (es : List ApiEvent)
    (hout : Along Tables.step (fun _ e db' => match e with
      | .request .. => True
      | .outside _ => Governed db') db es) : Always Tables.step Governed db es := by
  refine always_of_along ?_ (fun _ hs => hs) h hout
  intro db e db' hgov hstep hout
  cases e with
  | request env userId route =>
    cases hstep
    exact governed_handle hgov
  | outside new => exact hout

end Server
