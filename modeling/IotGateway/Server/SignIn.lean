import IotGateway.Server.Auth
import IotGateway.Server.Grants
import IotGateway.Server.Revocation

/-!
# From the token to the tables

A request is admitted by its bearer token, waits, and is then served in the name of the user
that the token's `sub` names. Requests wait side by side and are served in any order, while
keys are withdrawn, users provisioned and rows changed.

* `decodeJwt_eq_ok`: what a token has passed that is decoded with its signature.
* `genuine_enter`: who is admitted has shown a token signed with a key that the identity
  provider listed at most a time to live before.
* `served_in_own_name`: **in every run each request that reads or changes rows of a gateway
  is of such a token, and of the user whom it names, who is entitled to it when it is served;
  a new command or permission bears that user's id.**
-/

namespace Server

open Lts Python JwksCache

/-! ## Users -/

/-- A row of `users`, with the columns that the API reads. -/
structure User where
  id : UUID
  keycloakUserId : String

/-- `get_current_user` -/
def getCurrentUser (users : Db.Table User (·.keycloakUserId)) (token : TokenPayload) : Except Failure User :=
  if token.sub.truthy = false then .error (.http 401 "no sub claim")
  else match token.sub with
    | .str sub =>
      match Db.text sub with
      -- a lone surrogate, or NUL
      | none => .error .dataError
      | some sub =>
        match users.find? sub with
        | none => .error (.http 403 ("user " ++ sub ++ " not provisioned in iot_platform DB — contact admin"))
        | some user => .ok user
    -- a column of texts is compared with another value
    | _ => .error .dataError

/-- The token is the user's. -/
def TokenPayload.Names (token : TokenPayload) (user : User) : Prop :=
  ∃ sub, token.sub = .str sub ∧ Db.text sub = some user.keycloakUserId

theorem getCurrentUser_eq_ok {users : Db.Table User (·.keycloakUserId)} {token : TokenPayload} {user : User}
    (h : getCurrentUser users token = .ok user) : user ∈ users.rows ∧ token.Names user := by
  unfold getCurrentUser at h
  split_ifs at h with hsub
  split at h
  · rename_i sub hstr
    split at h
    · cases h
    · rename_i text htext
      split at h
      · cases h
      · rename_i found hfind
        cases h
        obtain ⟨hmem, hkey⟩ := Db.Table.find?_eq_some.1 hfind
        exact ⟨hmem, sub, hstr, hkey ▸ htext⟩
  · cases h

/-! ## Admission -/

section Decode

variable {jose : Jose} {s : Settings} {env : AuthEnv} {cache cache' : JwksCache} {token : Str}
  {authorization : Option Str} {claims : Claims} {payload : TokenPayload}

/-- The lookup that decoding a token makes, if it comes to that. -/
def lookupOf (jose : Jose) (s : Settings) (env : AuthEnv) (token : Str) : Option Lookup :=
  if s.kcVerifySignature = false then none
  else match jose.getUnverifiedHeader token with
    | .error _ => none
    | .ok header =>
      let kid := (Json.get header "kid").getD .null
      if kid.truthy = false then none else some ⟨kid, env.now, env.fetched, env.response⟩

/-- The cache after a lookup, or without one. -/
def afterLookup (ttl : ℚ) (cache : JwksCache) : Option Lookup → JwksCache
  | none => cache
  | some c => (cache.getKey ttl c.now c.done c.response c.kid).1

/-- Decoding touches the cache by its lookup only. -/
theorem decodeJwt_snd (jose : Jose) (s : Settings) (env : AuthEnv) (cache : JwksCache) (token : Str) :
    (decodeJwt jose s env cache token).2 = afterLookup s.kcJwksCacheTtlSec cache (lookupOf jose s env token) := by
  unfold decodeJwt lookupOf
  by_cases hverify : s.kcVerifySignature = false
  · rw [if_pos hverify, if_pos hverify]
    cases jose.decode env.now token (.str []) none none none decodeOnly with
    | ok claims => rfl
    | error e => cases e <;> rfl
  · rw [if_neg hverify, if_neg hverify]
    cases jose.getUnverifiedHeader token with
    | error e => cases e <;> rfl
    | ok header =>
      dsimp only
      by_cases hkid : ((Json.get header "kid").getD .null).truthy = false
      · rw [if_pos hkid, if_pos hkid]
        rfl
      · rw [if_neg hkid, if_neg hkid]
        dsimp only [afterLookup]
        split
        · rename_i heq
          rw [heq]
        · rename_i heq
          rw [heq]
        · rename_i cache₂ publicKey heq
          rw [heq]
          cases jose.decode env.now token publicKey (some s.kcAllowedAlgorithms) (some s.kcAudience)
              (some s.kcIssuer) {} with
          | ok claims => rfl
          | error e => cases e <;> rfl

theorem getToken_snd (jose : Jose) (s : Settings) (env : AuthEnv) (cache : JwksCache)
    (authorization : Option Str) : (getToken jose s env cache authorization).2 =
      afterLookup s.kcJwksCacheTtlSec cache ((bearer authorization).bind (lookupOf jose s env)) := by
  unfold getToken
  cases hbearer : bearer authorization with
  | none => rfl
  | some token =>
    have hsnd := decodeJwt_snd jose s env cache token
    dsimp only [Option.bind_some]
    rw [← hsnd]
    split
    · rename_i heq
      rw [heq]
    · rename_i raw cache₂ heq
      rw [heq]
      cases tokenPayload raw with
      | none => rfl
      | some payload => rfl

/-- **A token that is decoded** with its signature: its key is found under its `kid`, and the
library accepts it for the issuer and the audience. -/
theorem decodeJwt_eq_ok (hverify : s.kcVerifySignature = true)
    (h : decodeJwt jose s env cache token = (.ok claims, cache')) :
    ∃ c key, lookupOf jose s env token = some c ∧ returned s.kcJwksCacheTtlSec cache c = some (some key) ∧
      jose.decode env.now token key (some s.kcAllowedAlgorithms) (some s.kcAudience) (some s.kcIssuer) {} =
        .ok claims := by
  have hno : ¬ s.kcVerifySignature = false := by
    rw [hverify]
    decide
  unfold decodeJwt at h
  unfold lookupOf
  rw [if_neg hno] at h ⊢
  cases hheader : jose.getUnverifiedHeader token with
  | error e =>
    rw [hheader] at h
    cases e <;> cases h
  | ok header =>
    rw [hheader] at h
    dsimp only at h ⊢
    by_cases hkid : ((Json.get header "kid").getD .null).truthy = false
    · rw [if_pos hkid] at h
      cases h
    rw [if_neg hkid] at h ⊢
    refine ⟨⟨(Json.get header "kid").getD .null, env.now, env.fetched, env.response⟩, ?_⟩
    split at h
    · cases h
    · cases h
    · rename_i cache₂ publicKey hkey
      split at h
      · rename_i claims' hdecode
        cases h
        refine ⟨publicKey, rfl, ?_, hdecode⟩
        have hreturned := congrArg Prod.snd hkey
        exact hreturned
      · cases h
      · cases h

end Decode

/-- A request that has been admitted. -/
structure Waiting where
  token : Str
  payload : TokenPayload
  route : Route
  /-- when it came, by `time.time()` -/
  since : ℚ
  /-- the document of the identity provider that was fetched last, when it came -/
  last : Option Fetched

/-- The API: the tables, the cache of keys, and the requests that wait. -/
structure Service where
  tables : Tables
  users : Db.Table User (·.keycloakUserId)
  keys : Watched
  waiting : List Waiting

namespace Service

variable (jose : Jose) (s : Settings)

/-- `Depends(get_token)`: the request waits, or is answered with the error. -/
def enter (st : Service) (authorization : Option Str) (env : AuthEnv) (route : Route) : Service :=
  let lookup := (bearer authorization).bind (lookupOf jose s env)
  let last := (lookup.bind (fetched s.kcJwksCacheTtlSec st.keys.cache)).or st.keys.last
  let (outcome, cache) := getToken jose s env st.keys.cache authorization
  { st with
    keys := ⟨cache, last, env.fetched⟩
    waiting := match bearer authorization, outcome with
      | some token, .ok payload => st.waiting ++ [⟨token, payload, route, env.now, last⟩]
      | _, _ => st.waiting }

/-- `Depends(get_current_user)`, and the endpoint. -/
def serve (st : Service) (env : Env) (w : Waiting) : Except Failure Reply × Tables :=
  match getCurrentUser st.users w.payload with
  | .error e => (.error e, st.tables)
  | .ok user => st.tables.handle env user.id w.route

end Service

inductive ServiceEvent where
  | arrive (authorization : Option Str) (env : AuthEnv) (route : Route)
  | serve (i : ℕ) (env : Env)
  /-- the worker, the scheduler and the administrators -/
  | outside (tables : Tables) (users : Db.Table User (·.keycloakUserId))

namespace Service

variable (jose : Jose) (s : Settings)

def step (st : Service) : ServiceEvent → Option Service
  | .arrive authorization env route =>
    if st.keys.clock ≤ env.now ∧ env.now ≤ env.fetched then some (st.enter jose s authorization env route)
    else none
  | .serve i env => st.waiting[i]?.map fun w =>
      { st with tables := (st.serve env w).2, waiting := st.waiting.eraseIdx i }
  | .outside tables users => some { st with tables, users }

/-! ## What is promised -/

/-- The token is signed with a key that the identity provider's last document listed under
the `kid` of the token's header, no longer before the request came than the time to live, and
the library has accepted it. -/
def Genuine (w : Waiting) : Prop :=
  ∃ f header kid key raw, w.last = some f ∧ jose.getUnverifiedHeader w.token = .ok header ∧
    Json.get header "kid" = some kid ∧ Contains f.document kid key ∧
    w.since - f.done ≤ max (s.kcJwksCacheTtlSec : ℚ) 0 ∧ jose.signed w.token key = true ∧
    jose.decode w.since w.token key (some s.kcAllowedAlgorithms) (some s.kcAudience) (some s.kcIssuer) {} =
      .ok raw ∧ tokenPayload raw = some w.payload

/-- A user whom the token names, and who may make the request about gateway `g`. -/
def Authorised (st : Service) (env : Env) (w : Waiting) (g : UUID) : Prop :=
  ∃ user ∈ st.users.rows, w.payload.Names user ∧ Entitled st.tables env user.id w.route g

/-- What serving a request does. -/
structure InOwnName (st : Service) (env : Env) (w : Waiting) : Prop where
  genuine : Genuine jose s w
  checked : ∀ reply, (st.serve env w).1 = .ok reply → ∀ g ∈ w.route.target st.tables, st.Authorised env w g
  changes : ∀ g, (st.serve env w).2.toGatewayTables.restrict (· = g) ≠
    st.tables.toGatewayTables.restrict (· = g) → st.Authorised env w g
  /-- a successful reply depends only on rows of such gateways -/
  reads : ∀ reply, (st.serve env w).1 = .ok reply → ∀ g, ¬ st.Authorised env w g →
    ∀ tables₂, AgreeOn (· ≠ g) st.tables tables₂ →
      ∀ reply₂, ({ st with tables := tables₂ }.serve env w).1 = .ok reply₂ → reply₂ = reply
  /-- who is nobody is answered with an error -/
  unknown : (∀ user ∈ st.users.rows, ¬ w.payload.Names user) → ∃ e, st.serve env w = (.error e, st.tables)
  issued : ∀ cmd ∈ (st.serve env w).2.commands.rows, cmd ∈ st.tables.commands.rows ∨
    ∃ user ∈ st.users.rows, w.payload.Names user ∧ cmd.issuedBy = some user.id ∧
      Permits st.tables user.id cmd.gatewayId "control"
  granted : ∀ r ∈ (st.serve env w).2.permissions.rows, r ∈ st.tables.permissions.rows ∨
    ∃ user ∈ st.users.rows, w.payload.Names user ∧ r = ⟨user.id, env.id, "admin"⟩ ∧
      st.tables.gateways.find? env.id = none

/-- Every request that is served acts in its own name. -/
def ServedInOwnName (st : Service) (e : ServiceEvent) (_ : Service) : Prop :=
  match e with
  | .serve i env => ∀ w ∈ st.waiting[i]?, InOwnName jose s st env w
  | _ => True

/-! ## Admission -/

variable {jose : Jose} {s : Settings} {st st' : Service} {authorization : Option Str} {env : AuthEnv}
  {route : Route}

theorem keys_enter (st : Service) (authorization : Option Str) (env : AuthEnv) (route : Route) :
    (st.enter jose s authorization env route).keys =
      ⟨afterLookup s.kcJwksCacheTtlSec st.keys.cache ((bearer authorization).bind (lookupOf jose s env)),
        (((bearer authorization).bind (lookupOf jose s env)).bind
          (fetched s.kcJwksCacheTtlSec st.keys.cache)).or st.keys.last, env.fetched⟩ := by
  unfold enter
  dsimp only
  rw [getToken_snd]

/-- The lookup of a token is made when the request comes, under the `kid` of its header. -/
theorem lookupOf_eq_some {token : Str} {c : Lookup} (h : lookupOf jose s env token = some c) :
    c.now = env.now ∧ c.done = env.fetched ∧
      ∃ header, jose.getUnverifiedHeader token = .ok header ∧ Json.get header "kid" = some c.kid := by
  unfold lookupOf at h
  split_ifs at h with hverify
  split at h
  · cases h
  · rename_i header hheader
    dsimp only at h
    split_ifs at h with hkid
    cases h
    refine ⟨rfl, rfl, header, hheader, ?_⟩
    cases hget : Json.get header "kid" with
    | some kid => rfl
    | none =>
      -- a missing `kid` is falsy
      rw [hget] at hkid
      exact absurd rfl hkid

/-- The lookup is a step of the cache. -/
theorem lookup_of_lookupOf {token : Str} {c : Lookup} (h : lookupOf jose s env token = some c)
    (hclock : st.keys.clock ≤ env.now ∧ env.now ≤ env.fetched) : lookup s.kcJwksCacheTtlSec st.keys c = some
      ⟨afterLookup s.kcJwksCacheTtlSec st.keys.cache (some c),
        (fetched s.kcJwksCacheTtlSec st.keys.cache c).or st.keys.last, c.done⟩ := by
  obtain ⟨hnow, hdone, -⟩ := lookupOf_eq_some h
  unfold lookup
  rw [if_pos (by rw [hnow, hdone]; exact hclock)]
  rfl

theorem inv_enter (hs : Inv st.keys) (hclock : st.keys.clock ≤ env.now ∧ env.now ≤ env.fetched) :
    Inv (st.enter jose s authorization env route).keys := by
  rw [keys_enter]
  cases hlookup : (bearer authorization).bind (lookupOf jose s env) with
  | none => exact ⟨hs.empty, hs.keys, hs.fetchedAt⟩
  | some c =>
    obtain ⟨token, -, hc⟩ := Option.bind_eq_some_iff.1 hlookup
    obtain ⟨-, hdone, -⟩ := lookupOf_eq_some hc
    have hinv := inv_lookup hs (lookup_of_lookupOf hc hclock)
    rw [hdone] at hinv
    exact hinv

/-- **Who is admitted has shown a genuine token.** -/
theorem genuine_enter (hdoc : jose.Documented) (hverify : s.kcVerifySignature = true) (hs : Inv st.keys)
    (hclock : st.keys.clock ≤ env.now ∧ env.now ≤ env.fetched) {w : Waiting}
    (hw : w ∈ (st.enter jose s authorization env route).waiting) : w ∈ st.waiting ∨ Genuine jose s w := by
  unfold enter at hw
  dsimp only at hw
  split at hw
  · rename_i token payload hbearer houtcome
    rcases List.mem_append.1 hw with hw | hw
    · exact Or.inl hw
    refine Or.inr ?_
    obtain rfl := List.mem_singleton.1 hw
    rw [hbearer, Option.bind_some]
    -- the token was decoded with the key that was looked up
    have hget : getToken jose s env st.keys.cache authorization =
        (.ok payload, (getToken jose s env st.keys.cache authorization).2) := by
      rw [← houtcome]
    unfold getToken at hget
    rw [hbearer] at hget
    dsimp only at hget
    split at hget
    · cases hget
    · rename_i raw cache hdecode
      split at hget
      · cases hget
      · rename_i payload' hpayload
        have hsame : payload' = payload := by
          have hfst := congrArg Prod.fst hget
          exact Except.ok.inj hfst
        subst hsame
        obtain ⟨c, key, hc, hreturned, haccepted⟩ := decodeJwt_eq_ok hverify hdecode
        obtain ⟨hnow, -, header, hheader, hkid⟩ := lookupOf_eq_some hc
        obtain ⟨f, hlast, hlisted, hage⟩ :=
          (kept_lookup hs (lookup_of_lookupOf hc hclock)).current key hreturned
        refine ⟨f, header, c.kid, key, raw, ?_, hheader, hkid, hlisted, ?_, ?_, haccepted, hpayload⟩
        · rw [hc, Option.bind_some]
          exact hlast
        · rw [← hnow]
          exact hage
        · exact hdoc.verifies _ _ _ _ _ _ _ _ haccepted rfl
  · exact Or.inl hw

/-! ## Serving -/

theorem handle_commands {db : Tables} {env : Env} {userId : UUID} {cmd : CommandRow}
    (h : cmd ∈ (db.handle env userId route).2.commands.rows) :
    cmd ∈ db.commands.rows ∨ cmd.issuedBy = some userId ∧ Permits db userId cmd.gatewayId "control" := by
  have hsame : ∀ {db' : Tables}, db'.commands = db.commands → cmd ∈ db'.commands.rows →
      cmd ∈ db.commands.rows := by
    intro db' heq hcmd
    rwa [heq] at hcmd
  cases route with
  | issueCommand gatewayId body =>
    have hissue : (db.handle env userId (.issueCommand gatewayId body)).2 =
        (db.issueCommand env userId gatewayId body).2 := rfl
    rw [hissue] at h
    rcases Tables.issueCommand_cases db env userId gatewayId body with
      ⟨e, he⟩ | ⟨new, request, commands, hnew, hins, he⟩
    · rw [he] at h
      exact Or.inl h
    obtain ⟨gw, actuator, expiresAt, hcheck, -, -, -, rfl, -⟩ := Issue.issueCommand_eq_ok hnew
    have hpermits : Permits db userId gatewayId "control" := holds_of_checkPerm hcheck
    obtain ⟨hfresh, -⟩ := Db.Table.insert_eq_some.1 hins
    rcases he with ⟨e, he⟩ | he
    · rw [he] at h
      rcases (Db.Table.mem_insert hins).1 h with h | rfl
      · exact Or.inl h
      · exact Or.inr ⟨rfl, hpermits⟩
    · rw [he] at h
      obtain ⟨before, hbefore, rfl⟩ := List.mem_map.1 h
      rcases (Db.Table.mem_insert hins).1 hbefore with hold | rfl
      · -- the status changes of the new row only
        split_ifs with hid
        · exact absurd hid (hfresh before hold)
        · exact Or.inl hold
      · refine Or.inr ?_
        split_ifs
        · exact ⟨rfl, hpermits⟩
        · exact ⟨rfl, hpermits⟩
  | registerGateway body =>
    refine Or.inl (hsame (Tables.commit_snd (Q := fun d => d.commands = db.commands) rfl fun row db' hx => ?_) h)
    obtain ⟨gateways, permissions, -, -, -, rfl⟩ := Tables.registerGateway_eq_ok hx
    rfl
  | updateGateway gatewayId body =>
    refine Or.inl (hsame (Tables.commit_snd (Q := fun d => d.commands = db.commands) rfl fun row db' hx => ?_) h)
    obtain ⟨old, -, -, rfl⟩ := Tables.updateGateway_eq_ok hx
    rfl
  | deleteGateway gatewayId =>
    refine Or.inl (hsame (Tables.commitDelete_snd (Q := fun d => d.commands = db.commands) rfl fun db' hx => ?_) h)
    obtain ⟨-, rfl⟩ := Tables.deleteGateway_eq_ok hx
    rfl
  | addSensorChannel gatewayId body =>
    refine Or.inl (hsame (Tables.commit_snd (Q := fun d => d.commands = db.commands) rfl fun row db' hx => ?_) h)
    obtain ⟨sensorChannels, -, -, rfl⟩ := Tables.addSensorChannel_eq_ok hx
    rfl
  | addActuatorChannel gatewayId body =>
    refine Or.inl (hsame (Tables.commit_snd (Q := fun d => d.commands = db.commands) rfl fun row db' hx => ?_) h)
    obtain ⟨actuatorChannels, -, -, rfl⟩ := Tables.addActuatorChannel_eq_ok hx
    rfl
  | deleteSensorChannel channelId =>
    refine Or.inl (hsame (Tables.commitDelete_snd (Q := fun d => d.commands = db.commands) rfl fun db' hx => ?_) h)
    obtain ⟨channel, -, rfl⟩ := Tables.deleteSensorChannel_eq_ok hx
    rfl
  | deleteActuatorChannel channelId =>
    refine Or.inl (hsame (Tables.commitDelete_snd (Q := fun d => d.commands = db.commands) rfl fun db' hx => ?_) h)
    obtain ⟨channel, -, -, rfl⟩ := Tables.deleteActuatorChannel_eq_ok hx
    rfl
  | _ => exact Or.inl (hsame rfl h)

/-- **A request that is served** acts in the name of the token's user, or not at all. -/
theorem inOwnName (st : Service) (env : Env) (w : Waiting) (hgenuine : Genuine jose s w) :
    InOwnName jose s st env w := by
  cases huser : getCurrentUser st.users w.payload with
  | error e =>
    have hserve : st.serve env w = (.error e, st.tables) := by
      unfold serve
      rw [huser]
    refine ⟨hgenuine, ?_, ?_, ?_, fun _ => ⟨e, hserve⟩, ?_, ?_⟩
    · intro reply hreply
      rw [hserve] at hreply
      cases hreply
    · intro g hchange
      rw [hserve] at hchange
      exact absurd rfl hchange
    · intro reply hreply
      rw [hserve] at hreply
      cases hreply
    · intro cmd hcmd
      rw [hserve] at hcmd
      exact Or.inl hcmd
    · intro r hr
      rw [hserve] at hr
      exact Or.inl hr
  | ok user =>
    -- the same user is served whatever the tables are
    have hserve : ∀ tables : Tables,
        { st with tables := tables }.serve env w = tables.handle env user.id w.route := by
      intro tables
      unfold serve
      rw [huser]
    have hmediated := mediated st.tables env user.id w.route
    obtain ⟨hmem, hnames⟩ := getCurrentUser_eq_ok huser
    refine ⟨hgenuine, ?_, ?_, ?_, fun hnobody => absurd hnames (hnobody user hmem), ?_, ?_⟩
    · intro reply hreply g hg
      rw [hserve] at hreply
      exact ⟨user, hmem, hnames, hmediated.checked reply hreply g hg⟩
    · intro g hchange
      rw [hserve] at hchange
      exact ⟨user, hmem, hnames, hmediated.changes g hchange⟩
    · intro reply hreply g hno tables₂ hagree reply₂ hreply₂
      rw [hserve] at hreply hreply₂
      -- the user who is served is one whom the token names
      have hstranger : ¬ Entitled st.tables env user.id w.route g :=
        fun hentitled => hno ⟨user, hmem, hnames, hentitled⟩
      exact hmediated.reads reply hreply g hstranger tables₂ hagree reply₂ hreply₂
    · intro cmd hcmd
      rw [hserve] at hcmd
      rcases handle_commands hcmd with hold | ⟨hissued, hpermits⟩
      · exact Or.inl hold
      · exact Or.inr ⟨user, hmem, hnames, hissued, hpermits⟩
    · intro r hr
      rw [hserve] at hr
      rcases handle_permissions st.tables env user.id w.route with hsame | ⟨hnew, -, hrows⟩
      · rw [hsame] at hr
        exact Or.inl hr
      · rw [hrows] at hr
        rcases List.mem_append.1 hr with hr | hr
        · exact Or.inl hr
        · exact Or.inr ⟨user, hmem, hnames, List.mem_singleton.1 hr, hnew⟩

/-! ## Runs -/

/-- The cache is what the last fetch left, and all who wait have shown a genuine token. -/
structure Sound (jose : Jose) (s : Settings) (st : Service) : Prop where
  keys : Inv st.keys
  waiting : ∀ w ∈ st.waiting, Genuine jose s w

theorem sound_step (hdoc : jose.Documented) (hverify : s.kcVerifySignature = true) {e : ServiceEvent}
    (hs : Sound jose s st) (h : st.step jose s e = some st') : Sound jose s st' := by
  cases e with
  | arrive authorization env route =>
    simp only [step] at h
    split_ifs at h with hclock
    cases h
    refine ⟨inv_enter hs.keys hclock, fun w hw => ?_⟩
    exact (genuine_enter hdoc hverify hs.keys hclock hw).elim (hs.waiting w) id
  | serve i env =>
    obtain ⟨w, -, rfl⟩ := Option.map_eq_some_iff.1 h
    exact ⟨hs.keys, fun w' hw' => hs.waiting w' (List.mem_of_mem_eraseIdx hw')⟩
  | outside tables users =>
    cases h
    exact ⟨hs.keys, hs.waiting⟩

/-- The API has just started, on any tables. -/
def start (tables : Tables) (users : Db.Table User (·.keycloakUserId)) (clock : ℚ) : Service :=
  ⟨tables, users, .init clock, []⟩

/-- **Served in its own name.** With signatures verified, in every run of requests that come,
wait and are served in any order, of fetches that bring any documents or fail, and of changes
from outside. -/
theorem served_in_own_name (jose : Jose) (hdoc : jose.Documented) (s : Settings)
    (hverify : s.kcVerifySignature = true) (tables : Tables) (users : Db.Table User (·.keycloakUserId))
    (clock : ℚ) (es : List ServiceEvent) :
    Along (step jose s) (ServedInOwnName jose s) (start tables users clock) es := by
  have hkeep : ∀ st e st', Sound jose s st → step jose s st e = some st' → Sound jose s st' :=
    fun st e st' hs h => sound_step hdoc hverify hs h
  have hserved : ∀ st e st', Sound jose s st → step jose s st e = some st' →
      ServedInOwnName jose s st e st' := by
    intro st e st' hs _
    cases e with
    | serve i env => exact fun w hw => inOwnName st env w (hs.waiting w (List.mem_of_getElem? hw))
    | arrive authorization env route => trivial
    | outside tables users => trivial
  have hinit : Sound jose s (start tables users clock) := ⟨inv_init clock, fun w hw => by cases hw⟩
  exact along_of_inv hkeep hserved hinit

/-! A library that knows one signed token, of user 1, and the unsigned one. The user registers
a gateway; the document with the key is fetched for it. -/

def barnToken : Str := Str.of "eyJraWQiOiJrMSJ9.eyJzdWIiOiJrYy0xIn0.c2ln"

def barnJose : Jose where
  getUnverifiedHeader token :=
    if token = barnToken then .ok [(Str.of "kid", .text "k1")] else .error .jwt
  decode _ token _ _ _ _ options :=
    if token = barnToken then .ok [(Str.of "sub", .text "kc-1")]
    else if token = noneToken ∧ options.verifySignature = false then .ok []
    else .error .jwt
  signed token _ := token = barnToken

theorem noneToken_ne : noneToken ≠ barnToken := by decide +kernel

theorem barnJose_documented : barnJose.Documented where
  verifies now token key algorithms audience issuer options claims h hverify := by
    by_cases htoken : token = barnToken
    · exact decide_eq_true htoken
    · simp [barnJose, htoken, hverify] at h
  decodes := by
    refine ⟨noneToken, by decide +kernel, fun _ => decide_eq_false noneToken_ne, fun _ => ?_⟩
    simp [barnJose, noneToken_ne, decodeOnly]

def verifying : Settings := { production with kcVerifySignature := true }

def barnUsers : Db.Table User (·.keycloakUserId) := ⟨[⟨1, "kc-1"⟩], by decide⟩

def barnKeys : Json := .obj [(Str.of "keys", .arr [.obj [(Str.of "kid", .text "k1")]])]

def barnRequests : List ServiceEvent :=
  [.arrive (some (Str.of "Bearer " ++ barnToken)) ⟨1000, 1001, some barnKeys⟩
      (.registerGateway ⟨⟨"GW-1", gw1_format, gw1_length⟩, "Barn", 3, none, none⟩),
    .arrive (some (Str.of "Bearer " ++ noneToken)) ⟨1002, 1002, none⟩ .listGateways,
    .serve 0 (envOf 7)]

/-- The signed request registers the gateway, the unsigned one is not admitted. -/
theorem barn_in_own_name :
    (run (step barnJose verifying) (start noTables barnUsers 0) barnRequests).map
        (fun st => (st.tables.permissions.rows.map (·.key), st.waiting.length)) = some ([(1, 7, "admin")], 0) ∧
      Along (step barnJose verifying) (ServedInOwnName barnJose verifying) (start noTables barnUsers 0)
        barnRequests :=
  ⟨by decide +kernel, served_in_own_name barnJose barnJose_documented verifying rfl noTables barnUsers 0
    barnRequests⟩

end Service
end Server
