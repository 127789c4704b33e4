import Mathlib.Algebra.Order.Ring.Rat
import IotGateway.Lts.Run
import IotGateway.Server.Jwks

/-!
# Keys that the identity provider withdraws

A run of `JWKSCache` is a list of lookups under a clock that does not go back. Beside the
cache it notes the document of the last fetch that succeeded, and when that was.

* `newMap_get`: a key that the cache finds is one that its document lists under that `kid`.
* `lookup_cases`: what a lookup does: it answers from the cache, or fetches, or fails and
  leaves the cache as it is.
* `revoked_keys_stop`: **every key that is returned is in the document fetched last, which is
  no older than the time to live; a key that a document no longer lists is not returned
  until one lists it again; a failed fetch returns nothing and changes nothing.**
-/

namespace Server

open Python Lts

namespace JwksCache

/-! ## Documents -/

/-- The entries of a document's `keys`. -/
def listed : Json → List Json
  | .obj items =>
    match (Json.get items "keys").getD (.arr []) with
    | .arr keys => keys
    | _ => []
  | _ => []

/-- The `kid` of an entry. -/
def kidOf : Json → Option Json
  | .obj items => Json.get items "kid"
  | _ => none

/-- A dict finds an entry under `kid'` by `kid`. -/
def SameKey (kid' kid : Json) : Prop := ∃ k, kid'.hashed = .key k ∧ kid.hashed = .key k

/-- The document lists the key, under that `kid`. -/
def Contains (document kid key : Json) : Prop :=
  key ∈ listed document ∧ ∃ kid', kidOf key = some kid' ∧ kid'.truthy = true ∧ SameKey kid' kid

/-- One entry of the document. -/
theorem addKey_get {d d' : Mapping Json} {entry key : Json} {k : DictKey} (h : addKey d entry = some d')
    (hkey : d' k = some key) :
    d k = some key ∨
      key = entry ∧ ∃ kid, kidOf entry = some kid ∧ kid.truthy = true ∧ kid.hashed = .key k := by
  cases entry with
  | obj items =>
    rw [addKey] at h
    cases hkid : Json.get items "kid" with
    | none =>
      rw [hkid] at h
      cases h
      exact Or.inl hkey
    | some kid =>
      rw [hkid] at h
      dsimp only at h
      split_ifs at h with htruthy
      · unfold Mapping.set at h
        cases hhash : kid.hashed with
        | key k' =>
          rw [hhash] at h
          cases h
          by_cases hk : k = k'
          · rw [hk, Function.update_self] at hkey
            cases hkey
            exact Or.inr ⟨rfl, kid, hkid, htruthy, by rw [hhash, hk]⟩
          · rw [Function.update_of_ne hk] at hkey
            exact Or.inl hkey
        | unequal =>
          rw [hhash] at h
          cases h
          exact Or.inl hkey
        | unhashable =>
          rw [hhash] at h
          cases h
      · cases h
        exact Or.inl hkey
  | _ => cases h

theorem foldlM_addKey_get (keys : List Json) : ∀ {d d' : Mapping Json} {key : Json} {k : DictKey},
    keys.foldlM addKey d = some d' → d' k = some key →
      d k = some key ∨
        key ∈ keys ∧ ∃ kid, kidOf key = some kid ∧ kid.truthy = true ∧ kid.hashed = .key k := by
  induction keys with
  | nil =>
    intro d d' key k h hkey
    cases h
    exact Or.inl hkey
  | cons entry keys ih =>
    intro d d' key k h hkey
    rw [List.foldlM_cons, Option.bind_eq_bind, Option.bind_eq_some_iff] at h
    obtain ⟨d₁, hfirst, hrest⟩ := h
    rcases ih hrest hkey with hkey₁ | ⟨hmem, hkid⟩
    · rcases addKey_get hfirst hkey₁ with hkey₀ | ⟨rfl, hkid⟩
      · exact Or.inl hkey₀
      · exact Or.inr ⟨List.mem_cons_self, hkid⟩
    · exact Or.inr ⟨List.mem_cons_of_mem _ hmem, hkid⟩

theorem newMap_listed {document : Json} {keys : Mapping Json} (h : newMap document = some keys) :
    (listed document).foldlM addKey .empty = some keys := by
  cases document with
  | obj items =>
    dsimp only [newMap] at h
    dsimp only [listed]
    generalize (Json.get items "keys").getD (.arr []) = value at h ⊢
    cases value with
    | arr keys => exact h
    | _ => cases h
  | _ => cases h

/-- **A key that is found is listed.** -/
theorem newMap_get {document kid key : Json} {keys : Mapping Json} (h : newMap document = some keys)
    (hget : keys.get kid = some (some key)) : Contains document kid key := by
  unfold Mapping.get at hget
  cases hhash : kid.hashed with
  | key k =>
    rw [hhash] at hget
    rcases foldlM_addKey_get _ (newMap_listed h) (Option.some.inj hget) with hempty | ⟨hmem, kid', hkid'⟩
    · cases hempty
    · exact ⟨hmem, kid', hkid'.1, hkid'.2.1, k, hkid'.2.2, hhash⟩
  | unequal =>
    rw [hhash] at hget
    cases hget
  | unhashable =>
    rw [hhash] at hget
    cases hget

/-! ## Lookups -/

/-- A `get_key` that starts at `now`; a fetch of it ends at `done`, with the response. -/
structure Lookup where
  kid : Json
  now : ℚ
  done : ℚ
  response : Option Json

/-- A fetch that succeeded. -/
structure Fetched where
  document : Json
  done : ℚ

/-- The cache, the last fetch that succeeded, and the clock. -/
structure Watched where
  cache : JwksCache
  last : Option Fetched
  clock : ℚ

def Watched.init (clock : ℚ) : Watched := ⟨.init, none, clock⟩

variable (ttl : ℚ)

/-- `self._is_stale() or kid not in self._keys` -/
def fetches (cache : JwksCache) (c : Lookup) : Bool :=
  cache.isStale ttl c.now || match cache.keys.get c.kid with
    | some none => true
    -- found, or a `kid` without a hash, which raises before the fetch
    | _ => false

/-- The fetch of a lookup, if it fetches and that succeeds. -/
def fetched (cache : JwksCache) (c : Lookup) : Option Fetched :=
  if fetches ttl cache c then do
    let document ← c.response
    let _ ← newMap document
    some ⟨document, c.done⟩
  else none

/-- What a lookup returns; `none` is an exception. -/
def returned (cache : JwksCache) (c : Lookup) : Option (Option Json) :=
  (cache.getKey ttl c.now c.done c.response c.kid).2

/-- One lookup, under a clock that does not go back. -/
def lookup (s : Watched) (c : Lookup) : Option Watched :=
  if s.clock ≤ c.now ∧ c.now ≤ c.done then
    some ⟨(s.cache.getKey ttl c.now c.done c.response c.kid).1, (fetched ttl s.cache c).or s.last, c.done⟩
  else none

/-- The cache is what the last successful fetch left. -/
structure Inv (s : Watched) : Prop where
  empty : s.last = none → s.cache.keys = Mapping.empty
  keys : ∀ f, s.last = some f → newMap f.document = some s.cache.keys
  fetchedAt : ∀ f, s.last = some f → s.cache.fetchedAt = f.done

/-- What a lookup promises. -/
structure Kept (s : Watched) (c : Lookup) (s' : Watched) : Prop where
  /-- a key is in the document fetched last, which is not too old -/
  current : ∀ key, returned ttl s.cache c = some (some key) → ∃ f, s'.last = some f ∧
    Contains f.document c.kid key ∧ c.now - f.done ≤ max ttl 0
  /-- a fetch that fails returns `None` and changes nothing -/
  failed : fetches ttl s.cache c = true → fetched ttl s.cache c = none →
    returned ttl s.cache c = some none ∧ s'.cache = s.cache ∧ s'.last = s.last

variable {ttl} {cache : JwksCache} {c : Lookup}

/-- A lookup that fetches. -/
theorem getKey_fetches (h : fetches ttl cache c = true) :
    cache.getKey ttl c.now c.done c.response c.kid = cache.refresh c.done c.response c.kid := by
  unfold getKey
  split_ifs with hstale
  · rfl
  · rw [fetches, Bool.eq_false_iff.2 hstale, Bool.false_or] at h
    cases hget : cache.keys.get c.kid with
    | none =>
      rw [hget] at h
      cases h
    | some found =>
      cases found with
      | none => rfl
      | some key =>
        rw [hget] at h
        cases h

/-- A lookup that does not. -/
theorem getKey_cached (h : fetches ttl cache c = false) : c.now - cache.fetchedAt ≤ ttl ∧
    cache.getKey ttl c.now c.done c.response c.kid = (cache, cache.keys.get c.kid) := by
  obtain ⟨hstale, hfound⟩ := Bool.or_eq_false_iff.1 h
  have hage : ¬ ttl < c.now - cache.fetchedAt := of_decide_eq_false hstale
  refine ⟨not_lt.1 hage, ?_⟩
  rw [getKey, hstale, if_neg Bool.false_ne_true]
  cases hget : cache.keys.get c.kid with
  | none => rfl
  | some found =>
    cases found with
    | none =>
      rw [hget] at hfound
      cases hfound
    | some key => rfl

/-- **What a lookup does**: it fetches in vain, fetches a document, or answers from the cache. -/
theorem lookup_cases (ttl : ℚ) (cache : JwksCache) (c : Lookup) :
    (fetched ttl cache c = none ∧
        cache.getKey ttl c.now c.done c.response c.kid = (cache, some none)) ∨
      (∃ document keys, newMap document = some keys ∧ fetched ttl cache c = some ⟨document, c.done⟩ ∧
        cache.getKey ttl c.now c.done c.response c.kid = (⟨keys, c.done⟩, keys.get c.kid)) ∨
      (fetches ttl cache c = false ∧ fetched ttl cache c = none ∧ c.now - cache.fetchedAt ≤ ttl ∧
        cache.getKey ttl c.now c.done c.response c.kid = (cache, cache.keys.get c.kid)) := by
  cases hfetches : fetches ttl cache c with
  | false =>
    obtain ⟨hage, hget⟩ := getKey_cached hfetches
    refine Or.inr (Or.inr ⟨rfl, ?_, hage, hget⟩)
    rw [fetched, hfetches, if_neg Bool.false_ne_true]
  | true =>
    rw [getKey_fetches hfetches, refresh, fetch, fetched, hfetches, if_pos rfl]
    cases c.response with
    | none => exact Or.inl ⟨rfl, rfl⟩
    | some document =>
      simp only [Option.bind_eq_bind, Option.bind_some]
      cases hkeys : newMap document with
      | none => exact Or.inl ⟨rfl, rfl⟩
      | some keys => exact Or.inr (Or.inl ⟨document, keys, hkeys, rfl, rfl⟩)

theorem inv_init (clock : ℚ) : Inv (Watched.init clock) :=
  ⟨fun _ => rfl, nofun, nofun⟩

variable {s s' : Watched}

theorem lookup_eq_some (h : lookup ttl s c = some s') : c.now ≤ c.done ∧
    s' = ⟨(s.cache.getKey ttl c.now c.done c.response c.kid).1, (fetched ttl s.cache c).or s.last, c.done⟩ := by
  unfold lookup at h
  split_ifs at h with hclock
  exact ⟨hclock.2, (Option.some.inj h).symm⟩

theorem inv_lookup (hs : Inv s) (h : lookup ttl s c = some s') : Inv s' := by
  obtain ⟨-, rfl⟩ := lookup_eq_some h
  rcases lookup_cases ttl s.cache c with
    ⟨hfetched, hget⟩ | ⟨document, keys, hkeys, hfetched, hget⟩ | ⟨-, hfetched, -, hget⟩
  · rw [hfetched, hget, Option.none_or]
    exact ⟨hs.empty, hs.keys, hs.fetchedAt⟩
  · rw [hfetched, hget, Option.some_or]
    refine ⟨nofun, ?_, ?_⟩
    · rintro f hf
      cases hf
      exact hkeys
    · rintro f hf
      cases hf
      rfl
  · rw [hfetched, hget, Option.none_or]
    exact ⟨hs.empty, hs.keys, hs.fetchedAt⟩

/-- **One lookup.** -/
theorem kept_lookup (hs : Inv s) (h : lookup ttl s c = some s') : Kept ttl s c s' := by
  obtain ⟨hclock, rfl⟩ := lookup_eq_some h
  rcases lookup_cases ttl s.cache c with
    ⟨hfetched, hget⟩ | ⟨document, keys, hkeys, hfetched, hget⟩ | ⟨hcached, hfetched, hage, hget⟩
  · -- in vain: `None`, and nothing has changed
    have hreturned : returned ttl s.cache c = some none := congrArg Prod.snd hget
    rw [hfetched, hget, Option.none_or]
    refine ⟨fun key hkey => ?_, fun _ _ => ⟨hreturned, rfl, rfl⟩⟩
    rw [hreturned] at hkey
    cases hkey
  · -- a new document, fetched after the call began
    have hreturned : returned ttl s.cache c = keys.get c.kid := congrArg Prod.snd hget
    rw [hfetched, Option.some_or]
    refine ⟨fun key hkey => ⟨_, rfl, newMap_get hkeys (hreturned.symm.trans hkey), ?_⟩, fun _ hnone => ?_⟩
    · exact (sub_nonpos.2 hclock).trans (le_max_right ttl 0)
    · rw [hfetched] at hnone
      cases hnone
  · -- from the cache, which is not stale
    have hreturned : returned ttl s.cache c = s.cache.keys.get c.kid := congrArg Prod.snd hget
    rw [hfetched, Option.none_or]
    refine ⟨fun key hkey => ?_, fun htrue _ => ?_⟩
    · rw [hreturned] at hkey
      cases hlast : s.last with
      | none =>
        -- nothing has been fetched, and the cache is empty
        rw [hs.empty hlast] at hkey
        unfold Mapping.get at hkey
        split at hkey <;> cases hkey
      | some f =>
        refine ⟨f, rfl, newMap_get (hs.keys f hlast) hkey, ?_⟩
        rw [← hs.fetchedAt f hlast]
        exact hage.trans (le_max_left ttl 0)
    · rw [hcached] at htrue
      cases htrue

/-- No lookup of a run returns the key. -/
def NotReturned (ttl : ℚ) (key : Json) (s : Watched) (c : Lookup) (_ : Watched) : Prop :=
  returned ttl s.cache c ≠ some (some key)

/-- No fetch of a run gets a document that lists the key. -/
def NotListed (ttl : ℚ) (key : Json) (s : Watched) (c : Lookup) (_ : Watched) : Prop :=
  ∀ f, fetched ttl s.cache c = some f → key ∉ listed f.document

/-- After a document without the key. -/
theorem notReturned_of_notListed {key : Json} {f : Fetched} {cs : List Lookup} (hs : Inv s)
    (hlast : s.last = some f) (hkey : key ∉ listed f.document)
    (h : Along (lookup ttl) (NotListed ttl key) s cs) : Along (lookup ttl) (NotReturned ttl key) s cs := by
  have hstep : ∀ s c s', (Inv s ∧ ∃ f, s.last = some f ∧ key ∉ listed f.document) → lookup ttl s c = some s' →
      NotListed ttl key s c s' → Inv s' ∧ ∃ f, s'.last = some f ∧ key ∉ listed f.document := by
    rintro s c s' ⟨hs, f, hlast, hkey⟩ hlookup hnot
    refine ⟨inv_lookup hs hlookup, ?_⟩
    obtain ⟨-, rfl⟩ := lookup_eq_some hlookup
    cases hfetched : fetched ttl s.cache c with
    | none => exact ⟨f, hlast, hkey⟩
    | some g => exact ⟨g, rfl, hnot g hfetched⟩
  refine along_of_along hstep ?_ ⟨hs, f, hlast, hkey⟩ h
  rintro s c s' hinv hlookup hnot hreturned
  obtain ⟨-, g, hlast', hkey'⟩ := hstep s c s' hinv hlookup hnot
  obtain ⟨f', hf', hcontains, -⟩ := (kept_lookup hinv.1 hlookup).current key hreturned
  rw [hlast'] at hf'
  cases hf'
  exact hkey' hcontains.1

/-- **Revoked signing keys stop working.** For every sequence of lookups under a clock that
does not go back, and every outcome of their fetches: a key that is returned is one that the
document of the last successful fetch lists under the `kid`, and that fetch is at most the
time to live old; a failed fetch returns `None` and leaves the keys and the fetch time as they
were; and once a document without a key is fetched, the key is not returned again as long as
no document with it is. -/
theorem revoked_keys_stop (ttl clock : ℚ) (cs : List Lookup) :
    Along (lookup ttl) (Kept ttl) (Watched.init clock) cs ∧
      ∀ pre c post, cs = pre ++ c :: post → ∀ s s', run (lookup ttl) (Watched.init clock) pre = some s →
        lookup ttl s c = some s' → ∀ f key, fetched ttl s.cache c = some f → key ∉ listed f.document →
          Along (lookup ttl) (NotListed ttl key) s' post →
            Along (lookup ttl) (NotReturned ttl key) s' post := by
  have hinv : ∀ s c s', Inv s → lookup ttl s c = some s' → Inv s' := fun s c s' => inv_lookup
  refine ⟨along_of_inv hinv (fun s c s' => kept_lookup) (inv_init clock), ?_⟩
  rintro pre c post - s s' hpre hlookup f key hfetched hkey hlater
  have hs : Inv s := (always_of_inv hinv (inv_init clock)).last hpre
  have hlast : s'.last = some f := by
    obtain ⟨-, rfl⟩ := lookup_eq_some hlookup
    rw [hfetched]
    rfl
  exact notReturned_of_notListed (inv_lookup hs hlookup) hlast hkey hlater

end JwksCache

end Server
