import Mathlib.Tactic

/-!
# Keeping the newest

`keep` replaces a value by one that is strictly newer; `keepAll` does so for the elements
of a list, one after the other. The result is a newest element of the list, or the value
it started from (`keepAll_mem`, `keepAll_le`), and depends on the list only as a set if
no two elements of it are of the same time (`keepAll_congr`).
-/

namespace Newest

variable {α τ : Type*} [LinearOrder τ] (time : α → τ)

def keep (old : Option α) (new : α) : Option α :=
  match old with
  | none => some new
  | some r => if time r < time new then some new else some r

def keepAll (old : Option α) (l : List α) : Option α := l.foldl (keep time) old

variable {time} {old : Option α} {x r : α} {l l' : List α}

theorem keep_mem (h : keep time old x = some r) : old = some r ∨ x = r := by
  unfold keep at h
  split at h
  · exact Or.inr (Option.some.inj h)
  · split_ifs at h
    · exact Or.inr (Option.some.inj h)
    · exact Or.inl h

theorem keep_le (h : keep time old x = some r) : time x ≤ time r ∧ ∀ q, old = some q → time q ≤ time r := by
  unfold keep at h
  split at h
  · cases h
    exact ⟨le_rfl, nofun⟩
  · split_ifs at h with hlt
    · cases h
      exact ⟨le_rfl, fun q hq => by cases hq; exact hlt.le⟩
    · cases h
      exact ⟨not_lt.1 hlt, fun q hq => by cases hq; exact le_rfl⟩

variable (time old x) in
theorem keep_isSome : (keep time old x).isSome = true := by
  unfold keep
  split
  · rfl
  · split <;> rfl

/-- A tie is won by the old value. -/
theorem keep_tie {q : α} (h : keep time (some q) x = some r) (htie : time r = time q) : r = q := by
  unfold keep at h
  dsimp only at h
  split_ifs at h with hlt
  · cases h
    exact absurd htie hlt.ne'
  · exact (Option.some.inj h).symm

/-- The result is in the list, or it is the start. -/
theorem keepAll_mem : ∀ {old : Option α}, keepAll time old l = some r → old = some r ∨ r ∈ l := by
  induction l with
  | nil => exact fun h => Or.inl h
  | cons x l ih =>
    intro old h
    have hrest : keepAll time (keep time old x) l = some r := h
    rcases ih hrest with hkeep | hmem
    · rcases keep_mem hkeep with hold | rfl
      · exact Or.inl hold
      · exact Or.inr List.mem_cons_self
    · exact Or.inr (List.mem_cons_of_mem x hmem)

/-- Nothing in the list, nor the start, is newer than the result. -/
theorem keepAll_le : ∀ {old : Option α}, keepAll time old l = some r →
    (∀ q, old = some q → time q ≤ time r) ∧ ∀ x ∈ l, time x ≤ time r := by
  induction l with
  | nil =>
    intro old h
    refine ⟨fun q hq => ?_, fun x hx => absurd hx List.not_mem_nil⟩
    rw [hq] at h
    cases h
    exact le_rfl
  | cons x l ih =>
    intro old h
    have hl : keepAll time (keep time old x) l = some r := h
    obtain ⟨hstart, hrest⟩ := ih hl
    obtain ⟨q, hq⟩ := Option.isSome_iff_exists.1 (keep_isSome time old x)
    obtain ⟨hx, hold⟩ := keep_le hq
    have hle := hstart q hq
    refine ⟨fun p hp => (hold p hp).trans hle, fun y hy => ?_⟩
    rcases List.mem_cons.1 hy with rfl | hy
    · exact hx.trans hle
    · exact hrest y hy

theorem keepAll_isSome : ∀ {old : Option α},
    (keepAll time old l).isSome = true ↔ old.isSome = true ∨ l ≠ [] := by
  induction l with
  | nil => simp [keepAll]
  | cons x l ih =>
    intro old
    have hrest : (keepAll time (keep time old x) l).isSome = true ↔ _ := ih
    rw [keepAll, List.foldl_cons, ← keepAll, hrest]
    simp [keep_isSome]

/-- Where the result is of the time of the start, it is the start. -/
theorem keepAll_tie : ∀ {q : α}, keepAll time (some q) l = some r → time r = time q → r = q := by
  induction l with
  | nil => exact fun h _ => (Option.some.inj h).symm
  | cons x l ih =>
    intro q h htie
    obtain ⟨q', hq'⟩ := Option.isSome_iff_exists.1 (keep_isSome time (some q) x)
    rw [keepAll, List.foldl_cons, hq', ← keepAll] at h
    -- the value in between is no older than the start and no newer than the result
    have hle := (keep_le hq').2 q rfl
    have hle' := (keepAll_le h).1 q' rfl
    have htie' : time r = time q' := le_antisymm (htie.trans_le hle) hle'
    rw [ih h htie']
    exact keep_tie hq' (htie'.symm.trans htie)

/-- **Order and repetition do not matter** if elements of one time are the same. -/
theorem keepAll_congr (hset : ∀ x, x ∈ l ↔ x ∈ l')
    (htime : ∀ x ∈ l, ∀ y ∈ l, time x = time y → x = y) : keepAll time old l = keepAll time old l' := by
  have hempty : l = [] ↔ l' = [] := by
    simp only [List.eq_nil_iff_forall_not_mem, hset]
  have hsome : (keepAll time old l).isSome = (keepAll time old l').isSome := by
    rw [Bool.eq_iff_iff, keepAll_isSome, keepAll_isSome, Ne, Ne, hempty]
  cases h : keepAll time old l with
  | none =>
    rw [h] at hsome
    exact (Option.isSome_eq_false_iff.1 hsome.symm |> Option.isNone_iff_eq_none.1).symm
  | some r =>
    rw [h] at hsome
    obtain ⟨r', h'⟩ := Option.isSome_iff_exists.1 hsome.symm
    rw [h', Option.some.injEq]
    have hle : time r' ≤ time r := by
      rcases keepAll_mem h' with hold | hmem
      · exact (keepAll_le h).1 r' hold
      · exact (keepAll_le h).2 r' ((hset r').2 hmem)
    have hle' : time r ≤ time r' := by
      rcases keepAll_mem h with hold | hmem
      · exact (keepAll_le h').1 r hold
      · exact (keepAll_le h').2 r ((hset r).1 hmem)
    have htie := le_antisymm hle' hle
    rcases keepAll_mem h with hold | hmem
    · subst hold
      exact (keepAll_tie h' htie.symm).symm
    · rcases keepAll_mem h' with hold' | hmem'
      · subst hold'
        exact keepAll_tie h htie
      · exact htime r hmem r' ((hset r').2 hmem') htie

end Newest
