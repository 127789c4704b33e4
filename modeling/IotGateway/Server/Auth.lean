import IotGateway.Server.Jwks

/-!
# Bearer tokens

`get_token` decodes the token of a request: with `kc_verify_signature` it checks the
signature with the key that the token's header names, else it decodes only, which is meant
for development on the own machine. The JOSE library is a parameter; `Documented` is what is
assumed of it.

* `validateSecurity_eq_nil`: when the check at the start of the application is silent.
* `unsigned_iff`: **tokens without a valid signature are confined to local development
  exactly by settings that verify signatures, or are those of local development**: the check
  only reports, and the application starts all the same (`forged_in_production`).
-/

namespace Server

open Python

/-! ## Settings -/

/-- The settings that `get_token` and the start of the application read. -/
structure Settings where
  appEnv : Str
  logLevel : Str
  kcIssuer : Str
  kcAudience : Str
  kcVerifySignature : Bool
  kcJwksCacheTtlSec : ℤ
  kcAllowedAlgorithms : List Str

namespace Settings

/-- `"localhost" in self.kc_issuer or "127.0.0.1" in self.kc_issuer` -/
def issuerLocal (s : Settings) : Bool :=
  decide (Str.of "localhost" <:+: s.kcIssuer ∨ Str.of "127.0.0.1" <:+: s.kcIssuer)

def validateSecurity (s : Settings) : List Str :=
  if s.kcVerifySignature then []
  else if s.appEnv ≠ Str.of "dev" ∨ s.issuerLocal = false then
    [Str.of "SECURITY: kc_verify_signature=False 는 app_env=dev AND localhost issuer 일 때만 허용. 현재 app_env=" ++
      s.appEnv ++ Str.of ", issuer=" ++ s.kcIssuer ++ Str.of " — production 노출 위험."]
  else []

/-- The names that `logging.basicConfig` takes for a level. -/
def logLevels : List Str :=
  ["CRITICAL", "FATAL", "ERROR", "WARN", "WARNING", "INFO", "DEBUG", "NOTSET"].map Str.of

end Settings

inductive StartupEvent where
  | status (text : Str)
  | warning (text : Str)
  | ready

/-- `lifespan`, up to the first request; `none` is an exception. -/
def lifespan (s : Settings) (mqttConnects : Bool) : Option (List StartupEvent) :=
  if s.logLevel ∉ Settings.logLevels then none
  else
    let warnings := s.validateSecurity.flatMap fun warn =>
      [.warning warn, .status (Str.of "WARNING: " ++ warn.take 60)]
    if mqttConnects then
      some (.status (Str.of "starting") :: warnings ++ [.ready, .status (Str.of "active")])
    else none

/-- The application starts, once it can reach the broker. -/
def Starts (s : Settings) : Prop := (lifespan s true).isSome = true

instance (s : Settings) : Decidable (Starts s) := inferInstanceAs (Decidable (_ = true))

/-! ## Tokens -/

abbrev Claims := List (Str × Json)

inductive JoseError where
  /-- a `JWTError` -/
  | jwt
  /-- any other exception -/
  | other
deriving DecidableEq, Repr

structure DecodeOptions where
  verifySignature : Bool := true
  verifyAud : Bool := true
  verifyIss : Bool := true
  verifyExp : Bool := true
  verifyNbf : Bool := true

/-- `{"verify_signature": False, "verify_aud": False, "verify_iss": False}` -/
def decodeOnly : DecodeOptions := { verifySignature := false, verifyAud := false, verifyIss := false }

/-- `jose.jwt`, at an instant of its clock. -/
structure Jose where
  getUnverifiedHeader : Str → Except JoseError Claims
  decode : ℚ → Str → Json → Option (List Str) → Option Str → Option Str → DecodeOptions → Except JoseError Claims
  /-- The token's signature is right under the key. -/
  signed : Str → Json → Bool

inductive AuthError where
  /-- `missing bearer token` -/
  | missingBearer
  /-- `invalid token` -/
  | invalidToken
  /-- `malformed token header` -/
  | malformedHeader
  /-- `token missing kid` -/
  | missingKid
  /-- `unknown kid …` -/
  | unknownKid (kid : Json)
  /-- an exception that is not an `HTTPException` -/
  | raises

/-- What surrounds the decoding of one token: the clocks, and the response to a fetch. -/
structure AuthEnv where
  now : ℚ
  fetched : ℚ
  response : Option Json

variable (jose : Jose) (s : Settings) (env : AuthEnv)

def decodeJwt (cache : JwksCache) (token : Str) : Except AuthError Claims × JwksCache :=
  if s.kcVerifySignature = false then
    match jose.decode env.now token (.str []) none none none decodeOnly with
    | .ok claims => (.ok claims, cache)
    | .error .jwt => (.error .invalidToken, cache)
    | .error .other => (.error .raises, cache)
  else
    match jose.getUnverifiedHeader token with
    | .error .jwt => (.error .malformedHeader, cache)
    | .error .other => (.error .raises, cache)
    | .ok header =>
      let kid := (Json.get header "kid").getD .null
      if kid.truthy = false then (.error .missingKid, cache)
      else match cache.getKey s.kcJwksCacheTtlSec env.now env.fetched env.response kid with
      | (cache', none) => (.error .raises, cache')
      | (cache', some none) => (.error (.unknownKid kid), cache')
      | (cache', some (some publicKey)) =>
        match jose.decode env.now token publicKey (some s.kcAllowedAlgorithms) (some s.kcAudience)
            (some s.kcIssuer) {} with
        | .ok claims => (.ok claims, cache')
        | .error .jwt => (.error .invalidToken, cache')
        | .error .other => (.error .raises, cache')

/-- `str.isspace` of a character. -/
def isSpace : CodePoint → Bool
  | .scalar c => c.toNat ∈ [0x20, 0x85, 0xA0, 0x1680, 0x2028, 0x2029, 0x202F, 0x205F, 0x3000] ∨
      (9 ≤ c.toNat ∧ c.toNat ≤ 13) ∨ (28 ≤ c.toNat ∧ c.toNat ≤ 31) ∨ (0x2000 ≤ c.toNat ∧ c.toNat ≤ 0x200A)
  | .surrogate _ => false

/-- `str.strip` -/
def strip (t : Str) : Str := ((t.dropWhile isSpace).reverse.dropWhile isSpace).reverse

/-- The token of the header `Authorization`. -/
def bearer (authorization : Option Str) : Option Str :=
  match authorization with
  | none => none
  | some text =>
    if Str.of "Bearer " <+: text then some (strip (text.drop (Str.of "Bearer ").length)) else none

structure TokenPayload where
  raw : Claims
  sub : Json
  email : Json
  preferredUsername : Json
  realmRoles : Json

/-- `TokenPayload(raw)`; `none` is an exception. -/
def tokenPayload (raw : Claims) : Option TokenPayload :=
  let realmAccess := (Json.get raw "realm_access").getD .null
  let roles := if realmAccess.truthy then
      match realmAccess with
      | .obj items => some ((Json.get items "roles").getD (.arr []))
      | _ => none
    else some (.arr [])
  roles.map fun realmRoles =>
    ⟨raw, (Json.get raw "sub").getD (.text ""), (Json.get raw "email").getD (.text ""),
      (Json.get raw "preferred_username").getD (.text ""), realmRoles⟩

def getToken (cache : JwksCache) (authorization : Option Str) : Except AuthError TokenPayload × JwksCache :=
  match bearer authorization with
  | none => (.error .missingBearer, cache)
  | some token =>
    match decodeJwt jose s env cache token with
    | (.error e, cache') => (.error e, cache')
    | (.ok raw, cache') =>
      match tokenPayload raw with
      | none => (.error .raises, cache')
      | some payload => (.ok payload, cache')

/-! ## What is promised -/

/-- The host of a URL: of its authority, without user information and port. -/
def hostOf (url : Str) : Option Str :=
  let rest := url.dropWhile (· ≠ .scalar ':')
  if Str.of "://" <+: rest then
    let authority := (rest.drop 3).takeWhile fun c => c ∉ Str.of "/?#"
    let hostPort := (authority.reverse.takeWhile (· ≠ .scalar '@')).reverse
    some ((hostPort.takeWhile (· ≠ .scalar ':')).map fun c => match c with
      | .scalar c => .scalar c.toLower
      | .surrogate u => .surrogate u)
  else none

/-- Development on the own machine. -/
def LocalDevelopment (s : Settings) : Prop :=
  s.appEnv = Str.of "dev" ∧
    (hostOf s.kcIssuer = some (Str.of "localhost") ∨ hostOf s.kcIssuer = some (Str.of "127.0.0.1"))

instance (s : Settings) : Decidable (LocalDevelopment s) := inferInstanceAs (Decidable (_ ∧ _))

/-- The token's signature is right under the key of the cached set that its `kid` names. -/
def Verified (jose : Jose) (cache : JwksCache) (token : Str) : Prop :=
  ∃ header kid key, jose.getUnverifiedHeader token = .ok header ∧ Json.get header "kid" = some kid ∧
    cache.keys.get kid = some (some key) ∧ jose.signed token key = true

structure Jose.Documented (jose : Jose) : Prop where
  /-- With `verify_signature`, a token is decoded only if its signature is right. -/
  verifies : ∀ now token key algorithms audience issuer options claims,
    jose.decode now token key algorithms audience issuer options = .ok claims →
      options.verifySignature = true → jose.signed token key = true
  /-- Without, a token is decoded also if its signature is right under no key: that of an
  empty signature and no claims. -/
  decodes : ∃ token, strip token = token ∧ (∀ key, jose.signed token key = false) ∧
    ∀ now, jose.decode now token (.str []) none none none decodeOnly = .ok []

variable {jose s env} {cache cache' : JwksCache} {token : Str} {claims : Claims}

/-- **The check is silent** for settings that verify, and for those that mention the own
machine in development. -/
theorem validateSecurity_eq_nil : s.validateSecurity = [] ↔
    s.kcVerifySignature = true ∨ (s.appEnv = Str.of "dev" ∧ s.issuerLocal = true) := by
  unfold Settings.validateSecurity
  cases s.kcVerifySignature with
  | true => simp
  | false =>
    by_cases henv : s.appEnv = Str.of "dev"
    · cases hlocal : s.issuerLocal <;> simp [henv]
    · simp [henv]

/-- It reports, and stops nothing. -/
theorem starts_iff : Starts s ↔ s.logLevel ∈ Settings.logLevels := by
  unfold Starts lifespan
  by_cases h : s.logLevel ∈ Settings.logLevels
  · simp [h]
  · simp [h]

theorem decodeJwt_verified (hdoc : jose.Documented) (hverify : s.kcVerifySignature = true)
    (h : decodeJwt jose s env cache token = (.ok claims, cache')) : Verified jose cache' token := by
  unfold decodeJwt at h
  rw [if_neg (by rw [hverify]; decide)] at h
  split at h
  · cases h
  · cases h
  · rename_i header hheader
    dsimp only at h
    by_cases hkid : ((Json.get header "kid").getD .null).truthy = false
    · rw [if_pos hkid] at h
      cases h
    rw [if_neg hkid] at h
    -- a missing `kid` is falsy
    obtain ⟨kid, hget⟩ : ∃ kid, Json.get header "kid" = some kid := by
      cases hget : Json.get header "kid" with
      | some kid => exact ⟨kid, rfl⟩
      | none =>
        rw [hget] at hkid
        exact absurd rfl hkid
    rw [hget] at h
    split at h
    · cases h
    · cases h
    · rename_i cache₂ publicKey hkey
      split at h
      · rename_i claims' hdecode
        cases h
        exact ⟨header, kid, publicKey, hheader, hget, JwksCache.getKey_eq_some hkey,
          hdoc.verifies _ _ _ _ _ _ _ _ hdecode rfl⟩
      · cases h
      · cases h

/-- A payload comes from a decoded token. -/
theorem getToken_eq_ok {authorization : Option Str} {payload : TokenPayload}
    (hb : bearer authorization = some token)
    (h : getToken jose s env cache authorization = (.ok payload, cache')) :
    ∃ claims, decodeJwt jose s env cache token = (.ok claims, cache') := by
  unfold getToken at h
  rw [hb] at h
  dsimp only at h
  split at h
  · cases h
  · rename_i raw cache₂ hdecode
    split at h
    · cases h
    · cases h
      exact ⟨raw, hdecode⟩

theorem bearer_append (ht : strip token = token) : bearer (some (Str.of "Bearer " ++ token)) = some token := by
  unfold bearer
  dsimp only
  rw [if_pos (List.prefix_append _ _), List.drop_left, ht]

theorem getToken_unverified {payload : TokenPayload} (hverify : s.kcVerifySignature = false)
    (hb : strip token = token)
    (hdecode : jose.decode env.now token (.str []) none none none decodeOnly = .ok claims)
    (hpayload : tokenPayload claims = some payload) :
    getToken jose s env cache (some (Str.of "Bearer " ++ token)) = (.ok payload, cache) := by
  unfold getToken decodeJwt
  simp only [bearer_append hb, hverify, if_true, hdecode, hpayload]

/-- **Unsigned tokens.** Settings confine the tokens that are accepted without a valid
signature to development on the own machine if and only if they verify signatures, or are
for such development. -/
theorem unsigned_iff (jose : Jose) (hdoc : jose.Documented) (s : Settings) :
    (∀ env cache authorization token payload cache', bearer authorization = some token →
      getToken jose s env cache authorization = (.ok payload, cache') → ¬ Verified jose cache' token →
      LocalDevelopment s) ↔
    s.kcVerifySignature = true ∨ LocalDevelopment s := by
  constructor
  · intro h
    by_contra hno
    obtain ⟨hverify, hlocal⟩ := not_or.1 hno
    obtain ⟨token, hstrip, hunsigned, hdecode⟩ := hdoc.decodes
    refine hlocal (h ⟨0, 0, none⟩ .init _ token _ .init (bearer_append hstrip)
      (getToken_unverified (eq_false_of_ne_true hverify) hstrip (hdecode 0) rfl) ?_)
    rintro ⟨header, kid, key, -, -, -, hsigned⟩
    rw [hunsigned key] at hsigned
    cases hsigned
  · rintro (hverify | hlocal) env cache authorization token payload cache' hb hget hno
    · obtain ⟨claims, hdecode⟩ := getToken_eq_ok hb hget
      exact absurd (decodeJwt_verified hdoc hverify hdecode) hno
    · exact hlocal

/-! A library that knows one token, `{"alg":"none"}` with the claims `{}` and an empty
signature. -/

def noneToken : Str := Str.of "eyJhbGciOiJub25lIn0.e30."

def noneJose : Jose where
  getUnverifiedHeader token :=
    if token = noneToken then .ok [(Str.of "alg", .text "none")] else .error .jwt
  decode _ token _ _ _ _ options :=
    if token = noneToken ∧ options.verifySignature = false then .ok [] else .error .jwt
  signed _ _ := false

theorem noneJose_documented : noneJose.Documented where
  verifies now token key algorithms audience issuer options claims h hverify := by
    simp [noneJose, hverify] at h
  decodes := ⟨noneToken, by decide +kernel, fun _ => rfl, fun _ => rfl⟩

/-- Production, with a switch left over from development. -/
def production : Settings where
  appEnv := Str.of "prod"
  logLevel := Str.of "INFO"
  kcIssuer := Str.of "https://auth.example.com/realms/iot-platform"
  kcAudience := Str.of "iot-backend"
  kcVerifySignature := false
  kcJwksCacheTtlSec := 3600
  kcAllowedAlgorithms := [Str.of "RS256"]

/-- With signatures verified, production accepts no unsigned token. -/
theorem production_verified :
    ¬ LocalDevelopment { production with kcVerifySignature := true } ∧
      ∀ env cache authorization token payload cache', bearer authorization = some token →
        getToken noneJose { production with kcVerifySignature := true } env cache authorization =
          (.ok payload, cache') → Verified noneJose cache' token := by
  have hremote : ¬ LocalDevelopment { production with kcVerifySignature := true } := by decide +kernel
  refine ⟨hremote, ?_⟩
  intro env cache authorization token payload cache' hb hget
  by_contra hno
  have hall := (unsigned_iff noneJose noneJose_documented { production with kcVerifySignature := true }).2
    (Or.inl rfl)
  exact hremote (hall env cache authorization token payload cache' hb hget hno)

/-- **A forged token in production**: the application starts with a warning, and the token
without a signature is accepted. A remote host whose name begins with `localhost` passes
the check without a warning. -/
theorem forged_in_production :
    Starts production ∧
      (getToken noneJose production ⟨0, 0, none⟩ .init (some (Str.of "Bearer " ++ noneToken))).1 =
        .ok ⟨[], .text "", .text "", .text "", .arr []⟩ ∧
      ¬ Verified noneJose .init noneToken ∧ ¬ LocalDevelopment production ∧
      (let lookalike := { production with
        appEnv := Str.of "dev", kcIssuer := Str.of "https://localhost.example.com/realms/iot-platform" }
       lookalike.validateSecurity = [] ∧ ¬ LocalDevelopment lookalike) := by
  refine ⟨by decide +kernel, ?_, ?_, by decide +kernel, by decide +kernel, by decide +kernel⟩
  · rw [getToken_unverified rfl (by decide +kernel) rfl rfl]
    rfl
  · rintro ⟨header, kid, key, -, -, -, hsigned⟩
    cases hsigned

end Server
