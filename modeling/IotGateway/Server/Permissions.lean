import IotGateway.Server.Models

/-!
# Gateway permissions

Every route of a gateway asks `_check_perm` for a permission of the user, which `admin`
replaces. It selects the rows of either, and takes the result with `scalar_one_or_none`,
which raises on a second row.

* `checkPerm_iff`: a user gets the gateway exactly with **one** of the two permissions.
* `permission_iff`: so the check is complete, and a further grant harmless, exactly
  where the user does not hold both.
* `owner_locked_out`: the owner of a fresh gateway loses `control` by being granted it.
-/

namespace Server

/-- The tables `_check_perm` and `register_gateway` use. -/
structure Access where
  gateways : Db.Table Gateway (·.id)
  permissions : Db.Table UserGatewayPermission (·.key)

inductive Failure where
  | http (status : ℕ) (detail : String)
  | multipleResultsFound
  | integrityError
  | dataError
deriving DecidableEq, Repr

/-- `Result.scalar_one_or_none` -/
def scalarOneOrNone {α : Type} : List α → Except Failure (Option α)
  | [] => .ok none
  | [r] => .ok (some r)
  | _ :: _ :: _ => .error .multipleResultsFound

/-- The rows that `_check_perm` selects. -/
def Access.select (db : Access) (userId gatewayId : UUID) (required : String) :
    List UserGatewayPermission :=
  db.permissions.rows.filter fun r =>
    r.userId = userId ∧ r.gatewayId = gatewayId ∧ r.permission ∈ [required, "admin"]

def checkPerm (db : Access) (userId gatewayId : UUID) (required : String) :
    Except Failure Gateway := do
  match db.gateways.find? gatewayId with
  | none => .error (.http 404 "gateway not found")
  | some gateway =>
    match ← scalarOneOrNone (db.select userId gatewayId required) with
    | none => .error (.http 403 ("missing '" ++ required ++ "' permission"))
    | some _ => .ok gateway

/-- A grant: one more row, unless the user has that permission already. -/
def Access.grant (db : Access) (r : UserGatewayPermission) : Except Failure Access :=
  match db.permissions.insert r with
  | none => .error .integrityError
  | some permissions => .ok { db with permissions }

/-- `register_gateway`: the gateway, and an `admin` row for the user who registers it. -/
def registerGateway (db : Access) (userId id : UUID) (serialNumber : String) (companyId : UUID)
    (siteId : Option UUID) : Except Failure Access :=
  match db.gateways.insert (.registered id serialNumber companyId siteId) with
  | none => .error .integrityError
  | some gateways => { db with gateways }.grant ⟨userId, id, "admin"⟩

/-- The user holds the permission on the gateway. -/
def Holds (db : Access) (userId gatewayId : UUID) (permission : String) : Prop :=
  ⟨userId, gatewayId, permission⟩ ∈ db.permissions.rows

instance (db : Access) (userId gatewayId : UUID) (permission : String) :
    Decidable (Holds db userId gatewayId permission) :=
  inferInstanceAs (Decidable (_ ∈ _))

/-- The request passes its permission check. -/
def Allowed (db : Access) (userId gatewayId : UUID) (required : String) : Prop :=
  ∃ gateway, checkPerm db userId gatewayId required = .ok gateway

section Check

variable {db db' : Access} {userId gatewayId : UUID} {required : String} {gateway : Gateway}

theorem mem_select {r : UserGatewayPermission} :
    r ∈ db.select userId gatewayId required ↔
      r = ⟨userId, gatewayId, r.permission⟩ ∧ Holds db userId gatewayId r.permission ∧
        (r.permission = required ∨ r.permission = "admin") := by
  obtain ⟨u, g, p⟩ := r
  unfold Access.select Holds
  simp only [List.mem_filter, List.mem_cons, List.not_mem_nil, or_false, decide_eq_true_eq,
    UserGatewayPermission.mk.injEq, and_true]
  constructor
  · rintro ⟨hmem, rfl, rfl, hp⟩
    exact ⟨⟨rfl, rfl⟩, hmem, hp⟩
  · rintro ⟨⟨rfl, rfl⟩, hmem, hp⟩
    exact ⟨hmem, rfl, rfl, hp⟩

theorem select_nodup : (db.select userId gatewayId required).Nodup :=
  (List.Nodup.of_map _ db.permissions.keys).filter _

/-- The selection has a single row exactly when one of the two permissions is held, or
they are the same. -/
theorem select_singleton :
    (∃ r, db.select userId gatewayId required = [r]) ↔
      (Holds db userId gatewayId required ∨ Holds db userId gatewayId "admin") ∧
        ¬ (required ≠ "admin" ∧ Holds db userId gatewayId required ∧ Holds db userId gatewayId "admin") := by
  constructor
  · rintro ⟨r, hr⟩
    have hmem : ∀ q, q ∈ db.select userId gatewayId required ↔ q = r := by
      intro q
      rw [hr, List.mem_singleton]
    constructor
    · obtain ⟨-, hheld, hp⟩ := mem_select.1 ((hmem r).2 rfl)
      rcases hp with hp | hp
      · exact Or.inl (hp ▸ hheld)
      · exact Or.inr (hp ▸ hheld)
    · rintro ⟨hne, h1, h2⟩
      have e1 := (hmem ⟨userId, gatewayId, required⟩).1 (mem_select.2 ⟨rfl, h1, Or.inl rfl⟩)
      have e2 := (hmem ⟨userId, gatewayId, "admin"⟩).1 (mem_select.2 ⟨rfl, h2, Or.inr rfl⟩)
      rw [← e1] at e2
      exact hne (congrArg UserGatewayPermission.permission e2).symm
  · rintro ⟨hor, hnot⟩
    -- the one permission that the selected row has
    obtain ⟨p, hp, hheld, honly⟩ : ∃ p, (p = required ∨ p = "admin") ∧ Holds db userId gatewayId p ∧
        ∀ q, (q = required ∨ q = "admin") → Holds db userId gatewayId q → q = p := by
      by_cases hne : required = "admin"
      · subst hne
        exact ⟨"admin", Or.inl rfl, by tauto, by tauto⟩
      · by_cases h : Holds db userId gatewayId required
        · refine ⟨required, Or.inl rfl, h, ?_⟩
          rintro q (rfl | rfl) hq
          · rfl
          · exact absurd ⟨hne, h, hq⟩ hnot
        · refine ⟨"admin", Or.inr rfl, by tauto, ?_⟩
          rintro q (rfl | rfl) hq
          · exact absurd hq h
          · rfl
    -- without repeats, a selection with one member is that row
    refine ⟨⟨userId, gatewayId, p⟩, ?_⟩
    apply List.perm_singleton.1
    rw [List.perm_ext_iff_of_nodup select_nodup (List.nodup_singleton _)]
    intro q
    rw [mem_select, List.mem_singleton]
    constructor
    · rintro ⟨hq, hqheld, hqp⟩
      rw [hq, honly _ hqp hqheld]
    · rintro rfl
      exact ⟨rfl, hheld, hp⟩

theorem scalarOneOrNone_some {α : Type} {l : List α} {r : α} :
    scalarOneOrNone l = .ok (some r) ↔ l = [r] := by
  unfold scalarOneOrNone
  split <;> simp

/-- **The check in terms of what is held**: the gateway is returned to a user with
exactly one of the required permission and `admin`. -/
theorem checkPerm_iff (hg : gateway ∈ db.gateways.rows) :
    checkPerm db userId gateway.id required = .ok gateway ↔
      (Holds db userId gateway.id required ∨ Holds db userId gateway.id "admin") ∧
        ¬ (required ≠ "admin" ∧ Holds db userId gateway.id required ∧
          Holds db userId gateway.id "admin") := by
  rw [← select_singleton]
  have hok : checkPerm db userId gateway.id required = .ok gateway ↔
      ∃ r, scalarOneOrNone (db.select userId gateway.id required) = .ok (some r) := by
    unfold checkPerm
    rw [Db.Table.find?_key (t := db.gateways) hg]
    cases scalarOneOrNone (db.select userId gateway.id required) with
    | error e => simp [bind, Except.bind]
    | ok o => cases o <;> simp [bind, Except.bind]
  simp only [hok, scalarOneOrNone_some]

theorem allowed_iff (hg : gateway ∈ db.gateways.rows) :
    Allowed db userId gateway.id required ↔
      (Holds db userId gateway.id required ∨ Holds db userId gateway.id "admin") ∧
        ¬ (required ≠ "admin" ∧ Holds db userId gateway.id required ∧
          Holds db userId gateway.id "admin") := by
  rw [← checkPerm_iff hg]
  refine ⟨?_, fun h => ⟨gateway, h⟩⟩
  rintro ⟨g, hok⟩
  have hfind := Db.Table.find?_key (t := db.gateways) hg
  have : g = gateway := by
    unfold checkPerm at hok
    rw [hfind] at hok
    cases hs : scalarOneOrNone (db.select userId gateway.id required) with
    | error e => rw [hs] at hok; cases hok
    | ok o =>
      rw [hs] at hok
      cases o with
      | none => cases hok
      | some r => exact (Except.ok.inj hok).symm
  rw [← this]
  rw [this] at hok ⊢
  exact hok

theorem grant_rows {r : UserGatewayPermission} (h : db.grant r = .ok db') :
    db'.gateways = db.gateways ∧ db'.permissions.rows = db.permissions.rows ++ [r] := by
  unfold Access.grant at h
  split at h
  · cases h
  · rename_i t ht
    cases h
    exact ⟨rfl, (Db.Table.insert_eq_some.1 ht).2⟩

end Check

/-- **Completeness and monotonicity of the check.** The user gets the gateway exactly
when they hold the required permission or `admin`, if and only if they do not hold both.
A grant keeps what was allowed if and only if it does not make them hold both. -/
theorem permission_iff (db : Access) (gateway : Gateway) (hg : gateway ∈ db.gateways.rows)
    (userId : UUID) (required : String) :
    ((checkPerm db userId gateway.id required = .ok gateway ↔
        (Holds db userId gateway.id required ∨ Holds db userId gateway.id "admin")) ↔
      ¬ (required ≠ "admin" ∧ Holds db userId gateway.id required ∧ Holds db userId gateway.id "admin")) ∧
    ∀ r db', db.grant r = .ok db' →
      ((Allowed db userId gateway.id required → Allowed db' userId gateway.id required) ↔
        ¬ (required ≠ "admin" ∧
          (Holds db' userId gateway.id required ∧ Holds db' userId gateway.id "admin") ∧
          ¬ (Holds db userId gateway.id required ∧ Holds db userId gateway.id "admin"))) := by
  constructor
  · rw [checkPerm_iff hg]
    by_cases hboth : required ≠ "admin" ∧ Holds db userId gateway.id required ∧
        Holds db userId gateway.id "admin"
    · simp [hboth]
    · simp [hboth]
  · intro r db' hgrant
    obtain ⟨hgw, hrows⟩ := grant_rows hgrant
    have hmono : ∀ p, Holds db' userId gateway.id p ↔
        Holds db userId gateway.id p ∨ (⟨userId, gateway.id, p⟩ : UserGatewayPermission) = r := by
      intro p
      unfold Holds
      rw [hrows, List.mem_append, List.mem_singleton]
    rw [allowed_iff hg, allowed_iff (by rw [hgw]; exact hg), hmono required, hmono "admin"]
    by_cases hne : required = "admin"
    · subst hne
      simp only [ne_eq, not_true_eq_false, false_and, not_false_eq_true, and_true, iff_true, or_self]
      exact Or.inl
    · have honly : ¬ ((⟨userId, gateway.id, required⟩ : UserGatewayPermission) = r ∧
          (⟨userId, gateway.id, "admin"⟩ : UserGatewayPermission) = r) := by
        rintro ⟨e1, e2⟩
        rw [← e1] at e2
        exact hne (congrArg UserGatewayPermission.permission e2).symm
      by_cases h1 : Holds db userId gateway.id required
      · by_cases h2 : Holds db userId gateway.id "admin"
        · simp [hne, h1, h2]
        · simp [hne, h1, h2]
      · by_cases h2 : Holds db userId gateway.id "admin"
        · simp [hne, h1, h2]
        · -- the grant is one row, so at most one of the two permissions is new
          simp only [h1, h2, false_or]
          tauto

/-- The user who registers a gateway passes every check on it. -/
theorem registerGateway_allowed {db db' : Access} {userId id : UUID} {serialNumber : String}
    {companyId : UUID} {siteId : Option UUID}
    (hfresh : ∀ r ∈ db.permissions.rows, r.gatewayId ≠ id)
    (h : registerGateway db userId id serialNumber companyId siteId = .ok db') (required : String) :
    Allowed db' userId id required := by
  unfold registerGateway at h
  split at h
  · cases h
  · rename_i gateways hg
    obtain ⟨hgw, hrows⟩ := grant_rows h
    have hmem : Gateway.registered id serialNumber companyId siteId ∈ db'.gateways.rows := by
      rw [hgw]
      exact (Db.Table.mem_insert hg).2 (.inr rfl)
    have hheld : ∀ p, Holds db' userId id p ↔ p = "admin" := by
      intro p
      unfold Holds
      rw [hrows, List.mem_append, List.mem_singleton, UserGatewayPermission.mk.injEq]
      constructor
      · rintro (hin | ⟨-, -, hp⟩)
        · exact absurd rfl (hfresh _ hin)
        · exact hp
      · rintro rfl
        exact Or.inr ⟨rfl, rfl, rfl⟩
    refine (allowed_iff hmem).2 ⟨Or.inr ((hheld _).2 rfl), ?_⟩
    rintro ⟨hne, h1, -⟩
    exact hne ((hheld _).1 h1)

/-! A user who registers a gateway and is then granted `control` on it. -/

def freshGateway : Gateway := .registered 7 "GW-001" 3 none

def ownerAccess : Access := ⟨⟨[freshGateway], by simp⟩, ⟨[⟨1, 7, "admin"⟩], by simp⟩⟩

/-- The owner passes the check, also after another user's grant. -/
theorem ownerAccess_permission :
    checkPerm ownerAccess 1 7 "control" = .ok freshGateway ∧
      ∃ db', ownerAccess.grant ⟨2, 7, "control"⟩ = .ok db' ∧ Allowed db' 1 7 "control" := by
  have hg : freshGateway ∈ ownerAccess.gateways.rows := by decide
  obtain ⟨hcomplete, hmono⟩ := permission_iff ownerAccess freshGateway hg 1 "control"
  have hok := (hcomplete.2 (by decide)).2 (by decide)
  exact ⟨hok, _, rfl, (hmono ⟨2, 7, "control"⟩ _ rfl).2 (by decide) ⟨_, hok⟩⟩

/-- **The owner, granted `control`, is locked out**: every check passed before. -/
theorem owner_locked_out :
    registerGateway ⟨Db.Table.empty, Db.Table.empty⟩ 1 7 "GW-001" 3 none = .ok ownerAccess ∧
      checkPerm ownerAccess 1 7 "control" = .ok freshGateway ∧
      ∃ db', ownerAccess.grant ⟨1, 7, "control"⟩ = .ok db' ∧
        Holds db' 1 7 "control" ∧ Holds db' 1 7 "admin" ∧
        checkPerm db' 1 7 "control" = .error .multipleResultsFound := by
  refine ⟨rfl, by decide +kernel, _, rfl, ?_, ?_, ?_⟩ <;> decide +kernel

end Server
