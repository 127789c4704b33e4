import IotGateway.Python.Mapping

/-!
# The cache of the identity provider's keys

`JWKSCache`: the keys of the document that was fetched last, by their `kid`. A lookup
fetches the document again when it is stale, or when it has no such key. The HTTP client is
a parameter: its response is the decoded document, or an exception. Instants are those of
`time.time()`, in seconds.
-/

namespace Server

open Python

structure JwksCache where
  keys : Mapping Json
  fetchedAt : ℚ

/-- `JWKSCache(jwks_url, ttl_sec, timeout_sec)` -/
def JwksCache.init : JwksCache := ⟨.empty, 0⟩

namespace JwksCache

/-- `kid = k.get("kid")`, `if kid: new_map[kid] = k` -/
def addKey (newMap : Mapping Json) : Json → Option (Mapping Json)
  | .obj items =>
    match Json.get items "kid" with
    | none => some newMap
    | some kid => if kid.truthy then newMap.set kid (.obj items) else some newMap
  | _ => none

/-- The keys of a document; `none` is an exception. -/
def newMap : Json → Option (Mapping Json)
  | .obj items =>
    match (Json.get items "keys").getD (.arr []) with
    | .arr keys => keys.foldlM addKey .empty
    | _ => none
  | _ => none

/-- `_fetch`, done at the instant `done`. -/
def fetch (response : Option Json) (done : ℚ) : Option JwksCache := do
  let jwks ← response
  let keys ← newMap jwks
  some ⟨keys, done⟩

def isStale (cache : JwksCache) (ttl now : ℚ) : Bool := ttl < now - cache.fetchedAt

/-- The fetch of a lookup, and what it then finds; without a document it finds nothing. -/
def refresh (cache : JwksCache) (done : ℚ) (response : Option Json) (kid : Json) :
    JwksCache × Option (Option Json) :=
  match fetch response done with
  | none => (cache, some none)
  | some cache' => (cache', cache'.keys.get kid)

/-- `get_key`; the outer `none` is an exception, of a `kid` that cannot be hashed. -/
def getKey (cache : JwksCache) (ttl now done : ℚ) (response : Option Json) (kid : Json) :
    JwksCache × Option (Option Json) :=
  if cache.isStale ttl now then cache.refresh done response kid
  else match cache.keys.get kid with
    | none => (cache, none)
    | some none => cache.refresh done response kid
    | some (some key) => (cache, some (some key))

variable {cache cache' : JwksCache} {ttl now done : ℚ} {response : Option Json} {kid key : Json}

theorem refresh_eq_some (h : cache.refresh done response kid = (cache', some (some key))) :
    cache'.keys.get kid = some (some key) := by
  unfold refresh at h
  split at h
  · cases h
  · obtain ⟨rfl, hkey⟩ := Prod.mk.inj h
    exact hkey

/-- A key that is returned is the one of its `kid` in the set that is then cached. -/
theorem getKey_eq_some (h : cache.getKey ttl now done response kid = (cache', some (some key))) :
    cache'.keys.get kid = some (some key) := by
  unfold getKey at h
  split at h
  · exact refresh_eq_some h
  · split at h
    · cases h
    · exact refresh_eq_some h
    · rename_i key' hkey
      cases h
      exact hkey

end JwksCache

end Server
