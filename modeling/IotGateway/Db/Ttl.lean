import Mathlib.Tactic

/-!
# Caches with a time to live

A cache keeps what a query gave, with the time at which that expires. A lookup answers from
an entry that has not expired, and asks the source again otherwise.

The log of a key is a list of moments, each a time and what the source then was.
`Fresh`: every entry is what the query gave at a moment of its key's log, and expires a time
to live after it.

* `Fresh.mono`: logs may grow. `fresh_erase`: the log of an erased key may start anew.
* `Fresh.lookup`: **a lookup keeps the cache fresh, and returns what the query gives at a
  moment of the log no more than the time to live ago.**
-/

namespace Ttl

variable {κ ν δ : Type*} [DecidableEq κ]

/-- What was found, and when that expires. -/
abbrev Cache (κ ν : Type*) := κ → Option (ν × ℤ)

/-- A lookup at the time `now`; `none` is a query that fails. -/
def lookup (ttl : ℤ) (query : κ → Option ν) (cache : Cache κ ν) (now : ℤ) (k : κ) :
    Option (ν × Cache κ ν) :=
  let miss := (query k).map fun v => (v, Function.update cache k (some (v, now + ttl)))
  match cache k with
  | some (v, expiresAt) => if expiresAt < now then miss else some (v, cache)
  | none => miss

/-- What the source was at a time. -/
structure Moment (δ : Type*) where
  time : ℤ
  source : δ

/-- Every entry was right at some moment of its key's log, and expires in time. -/
def Fresh (ttl : ℤ) (query : δ → κ → Option ν) (log : κ → List (Moment δ)) (cache : Cache κ ν) : Prop :=
  ∀ k v expiresAt, cache k = some (v, expiresAt) →
    ∃ m ∈ log k, query m.source k = some v ∧ expiresAt = m.time + ttl

variable {ttl now : ℤ} {query : δ → κ → Option ν} {log log' : κ → List (Moment δ)} {cache cache' : Cache κ ν}

omit [DecidableEq κ] in
theorem fresh_empty : Fresh ttl query log (fun _ => none) := nofun

omit [DecidableEq κ] in
theorem Fresh.mono (h : Fresh ttl query log cache) (hlog : ∀ k, log k ⊆ log' k) :
    Fresh ttl query log' cache := by
  intro k v expiresAt hk
  obtain ⟨m, hm, hquery⟩ := h k v expiresAt hk
  exact ⟨m, hlog k hm, hquery⟩

/-- **Erasing a key**: nothing is known of its log. -/
theorem fresh_erase (h : Fresh ttl query log cache) {k : κ} (hlog : ∀ k', k' ≠ k → log' k' = log k') :
    Fresh ttl query log' (Function.update cache k none) := by
  intro k' v expiresAt hk'
  by_cases hk : k' = k
  · rw [hk, Function.update_self] at hk'
    cases hk'
  · rw [Function.update_of_ne hk] at hk'
    rw [hlog k' hk]
    exact h k' v expiresAt hk'

/-- **A lookup**, of a key whose log ends now. -/
theorem Fresh.lookup (h : Fresh ttl query log cache) (httl : 0 ≤ ttl) {k : κ} {v : ν} {source : δ}
    (hnow : ⟨now, source⟩ ∈ log k) (hpast : ∀ m ∈ log k, m.time ≤ now)
    (hlookup : Ttl.lookup ttl (query source) cache now k = some (v, cache')) :
    Fresh ttl query log cache' ∧
      ∃ m ∈ log k, query m.source k = some v ∧ now - ttl ≤ m.time ∧ m.time ≤ now := by
  have hmiss : (query source k).map (fun v => (v, Function.update cache k (some (v, now + ttl)))) =
      some (v, cache') → Fresh ttl query log cache' ∧
        ∃ m ∈ log k, query m.source k = some v ∧ now - ttl ≤ m.time ∧ m.time ≤ now := by
    intro hsome
    obtain ⟨v', hv', heq⟩ := Option.map_eq_some_iff.1 hsome
    cases heq
    refine ⟨fun k' v' expiresAt hk' => ?_, ⟨now, source⟩, hnow, hv', by dsimp only; omega, le_rfl⟩
    by_cases hk : k' = k
    · rw [hk, Function.update_self] at hk'
      cases hk'
      rw [hk]
      exact ⟨⟨now, source⟩, hnow, hv', rfl⟩
    · rw [Function.update_of_ne hk] at hk'
      exact h k' v' expiresAt hk'
  unfold Ttl.lookup at hlookup
  cases hentry : cache k with
  | none =>
    rw [hentry] at hlookup
    exact hmiss hlookup
  | some entry =>
    obtain ⟨v', expiresAt⟩ := entry
    rw [hentry] at hlookup
    dsimp only at hlookup
    split_ifs at hlookup with hexpired
    · exact hmiss hlookup
    · -- the entry is returned as it is, and so is the cache
      cases hlookup
      obtain ⟨m, hm, hquery, hexpires⟩ := h k v expiresAt hentry
      have hrecent : now - ttl ≤ m.time := by omega
      exact ⟨h, m, hm, hquery, hrecent, hpast m hm⟩

end Ttl
