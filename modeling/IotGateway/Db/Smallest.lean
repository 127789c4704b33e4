import Mathlib.Data.List.Sort
import Mathlib.Data.Prod.Lex
import Mathlib.Tactic

/-!
# The smallest rows

`smallest key n l` is what `ORDER BY key LIMIT n` selects: the first `n` elements of the list,
sorted by a key; elements of one key stay in their order.

* `pairwise_smallest`, `length_smallest`, `le_of_not_mem`: it is sorted, as long as it can be,
  and nothing outside is smaller. `pair_sublist_smallest`: what is smaller comes first.
* `drain`: takes the smallest `n` until nothing is left. `drain_eq_some`: it takes the whole list,
  sorted, each element once.
-/

namespace Smallest

variable {α τ : Type*} [LinearOrder τ] (key : α → τ)

def smallest (n : ℕ) (l : List α) : List α := (l.insertionSort fun a b => key a ≤ key b).take n

variable {key} {n : ℕ} {l : List α} {x y : α}

theorem pairwise_sort (l : List α) :
    (l.insertionSort fun a b => key a ≤ key b).Pairwise fun a b => key a ≤ key b := by
  have htotal : Std.Total fun a b : α => key a ≤ key b := ⟨fun a b => le_total (key a) (key b)⟩
  have htrans : IsTrans α fun a b => key a ≤ key b := ⟨fun _ _ _ => le_trans⟩
  exact List.pairwise_insertionSort _ l

theorem pairwise_smallest : (smallest key n l).Pairwise fun a b => key a ≤ key b :=
  (pairwise_sort l).sublist (List.take_sublist n _)

theorem length_smallest : (smallest key n l).length = min n l.length := by
  rw [smallest, List.length_take, List.length_insertionSort]

theorem mem_of_mem_smallest (h : x ∈ smallest key n l) : x ∈ l :=
  (List.mem_insertionSort _).mp (List.mem_of_mem_take h)

theorem nodup_smallest (h : l.Nodup) : (smallest key n l).Nodup :=
  ((List.perm_insertionSort _ l).nodup_iff.mpr h).sublist (List.take_sublist n _)

/-- **What is left out is not smaller.** -/
theorem le_of_not_mem (hx : x ∈ smallest key n l) (hy : y ∈ l) (hno : y ∉ smallest key n l) :
    key x ≤ key y := by
  have hsplit := List.take_append_drop n (l.insertionSort fun a b => key a ≤ key b)
  have hcross : (l.insertionSort fun a b => key a ≤ key b).Pairwise fun a b => key a ≤ key b :=
    pairwise_sort l
  rw [← hsplit, List.pairwise_append] at hcross
  have hdrop : y ∈ (l.insertionSort fun a b => key a ≤ key b).drop n := by
    have hsort := (List.mem_insertionSort fun a b => key a ≤ key b).mpr hy
    rw [← hsplit, List.mem_append] at hsort
    exact hsort.resolve_left hno
  exact hcross.2.2 x hx y hdrop

theorem pair_sublist (hl : l.Pairwise fun a b => key a ≤ key b) (hx : x ∈ l) (hy : y ∈ l) (hlt : key x < key y) :
    [x, y].Sublist l := by
  induction l with
  | nil => exact absurd hx List.not_mem_nil
  | cons a l ih =>
    rw [List.pairwise_cons] at hl
    rcases List.mem_cons.mp hx with rfl | hx'
    · rcases List.mem_cons.mp hy with rfl | hy'
      · exact absurd hlt (lt_irrefl _)
      · exact (List.singleton_sublist.mpr hy').cons_cons x
    · rcases List.mem_cons.mp hy with rfl | hy'
      · exact absurd (hl.1 x hx') (not_le.mpr hlt)
      · exact (ih hl.2 hx' hy').cons a

/-- **What is smaller comes first**, and is not left out. -/
theorem pair_sublist_smallest (hx : x ∈ l) (hy : y ∈ smallest key n l) (hlt : key x < key y) :
    [x, y].Sublist (smallest key n l) := by
  have hmem : x ∈ smallest key n l := by
    by_contra hno
    exact absurd (le_of_not_mem hy hx hno) (not_le.mpr hlt)
  exact pair_sublist pairwise_smallest hmem hy hlt

theorem smallest_eq_nil (hn : 0 < n) : smallest key n l = [] ↔ l = [] := by
  rw [← List.length_eq_zero_iff, length_smallest, ← List.length_eq_zero_iff]
  omega

/-- A filter that picks the elements of another list. -/
theorem filter_perm {p : α → Bool} {sel : List α} (hl : l.Nodup) (hsel : sel.Nodup)
    (h : ∀ a, a ∈ l ∧ p a = true ↔ a ∈ sel) : (l.filter p).Perm sel := by
  rw [List.perm_ext_iff_of_nodup (hl.filter p) hsel]
  intro a
  rw [List.mem_filter, h]

variable [DecidableEq α]

/-- The selected elements, and the others. -/
theorem perm_smallest_append (h : l.Nodup) :
    (smallest key n l ++ l.filter (· ∉ smallest key n l)).Perm l := by
  have hsel : (l.filter (· ∈ smallest key n l)).Perm (smallest key n l) := by
    refine filter_perm h (nodup_smallest h) fun a => ?_
    rw [decide_eq_true_eq]
    exact ⟨fun ha => ha.2, fun ha => ⟨mem_of_mem_smallest ha, ha⟩⟩
  refine (hsel.symm.append_right _).trans ?_
  simpa using List.filter_append_perm (fun a => decide (a ∈ smallest key n l)) l

variable (key n)

/-- Takes the smallest `n` elements, round after round, until there are none. `none`: more rounds
are needed. -/
def drain : ℕ → List α → Option (List α)
  | 0, _ => none
  | rounds + 1, l =>
    if smallest key n l = [] then some []
    else (drain rounds (l.filter (· ∉ smallest key n l))).map (smallest key n l ++ ·)

variable {key n}

/-- **Draining ends**, and gives the whole list in order. -/
theorem drain_eq_some (hn : 0 < n) {rounds : ℕ} (h : l.Nodup) (hrounds : l.length < rounds) :
    ∃ out, drain key n rounds l = some out ∧ out.Perm l ∧ out.Pairwise fun a b => key a ≤ key b := by
  induction rounds generalizing l with
  | zero => omega
  | succ rounds ih =>
    rw [drain]
    split_ifs with hnil
    · rw [smallest_eq_nil hn] at hnil
      exact ⟨[], rfl, by rw [hnil], List.Pairwise.nil⟩
    · have hperm : (smallest key n l ++ l.filter (· ∉ smallest key n l)).Perm l :=
        perm_smallest_append h
      have hless : (l.filter (· ∉ smallest key n l)).length < l.length := by
        have hlen := hperm.length_eq
        have hpos := List.length_pos_iff.mpr hnil
        rw [List.length_append] at hlen
        omega
      obtain ⟨out, hout, houtperm, hsorted⟩ :=
        ih (h.filter fun a => decide (a ∉ smallest key n l)) (by omega)
      refine ⟨smallest key n l ++ out, by rw [hout]; rfl, (houtperm.append_left _).trans hperm, ?_⟩
      refine List.pairwise_append.mpr ⟨pairwise_smallest, hsorted, fun a ha b hb => ?_⟩
      obtain ⟨hmem, hno⟩ := List.mem_filter.mp (houtperm.mem_iff.mp hb)
      exact le_of_not_mem ha hmem (of_decide_eq_true hno)

end Smallest
