import Mathlib.Order.Interval.Set.Basic
import Mathlib.Tactic

/-!
# Half-open intervals side by side

A strictly increasing sequence of bounds, over all integers, cuts an order into the tiles
between one bound and the next. Different tiles have no point in common, and `n` of them in
a row are the interval from the first bound to the last.
-/

namespace Tiling

variable {α : Type*} [LinearOrder α] {f : ℤ → α} {i j : ℤ} {x : α}

/-- Tile `i`, from its bound to the next. -/
def tile (f : ℤ → α) (i : ℤ) : Set α := Set.Ico (f i) (f (i + 1))

theorem mem_tile : x ∈ tile f i ↔ f i ≤ x ∧ x < f (i + 1) := Set.mem_Ico

/-- **Tiles are disjoint.** -/
theorem eq_of_mem (hf : StrictMono f) (hi : x ∈ tile f i) (hj : x ∈ tile f j) : i = j := by
  have hij : i < j + 1 := hf.lt_iff_lt.1 (hi.1.trans_lt hj.2)
  have hji : j < i + 1 := hf.lt_iff_lt.1 (hj.1.trans_lt hi.2)
  omega

/-- Two tiles whose bounds overlap are one. -/
theorem overlap_iff (hf : StrictMono f) : f i < f (j + 1) ∧ f j < f (i + 1) ↔ i = j := by
  rw [hf.lt_iff_lt, hf.lt_iff_lt]
  omega

/-- **Tiles in a row leave no gap.** -/
theorem mem_row_iff (hf : StrictMono f) (n : ℕ) :
    f i ≤ x ∧ x < f (i + n) ↔ ∃ k < n, x ∈ tile f (i + k) := by
  induction n with
  | zero =>
    rw [Nat.cast_zero, add_zero]
    constructor
    · intro h
      exact absurd h.2 (not_lt.2 h.1)
    · rintro ⟨k, hk, -⟩
      exact absurd hk (Nat.not_lt_zero k)
  | succ n ih =>
    have hnext : i + ((n + 1 : ℕ) : ℤ) = i + n + 1 := by push_cast; ring
    rw [hnext]
    constructor
    · rintro ⟨hlow, hhigh⟩
      rcases lt_or_ge x (f (i + n)) with hx | hx
      · obtain ⟨k, hk, hmem⟩ := ih.1 ⟨hlow, hx⟩
        exact ⟨k, by omega, hmem⟩
      · exact ⟨n, by omega, hx, hhigh⟩
    · rintro ⟨k, hk, hlow, hhigh⟩
      have hfirst : f i ≤ f (i + k) := hf.monotone (by omega)
      have hlast : f (i + k + 1) ≤ f (i + n + 1) := hf.monotone (by omega)
      exact ⟨hfirst.trans hlow, hhigh.trans_le hlast⟩

end Tiling
