import Mathlib.Tactic

/-!
# Handles in a trace of calls

A library gives out owners, and items of an owner. Items are requested and released; an owner
is closed. A handle that is missing is `none`.

* `Disciplined t`: every call of the trace `t` is on handles that live, an item of a closed
  owner was released exactly once before, and no owner is closed twice.
* `Valid t cs`: each of the calls `cs` is `Allowed` after `t` and the calls before it. It
  splits at any place (`valid_append`), so it can be shown call by call.
* `disciplined_iff`: **the two are the same**, for the trace of all calls.
-/

namespace Handles

variable {κ ι : Type*}

inductive Call (κ ι : Type*) where
  | opened (k : κ)
  | onOwner (k : Option κ)
  /-- a request for an item, granted or not -/
  | request (i : Option ι) (granted : Bool)
  | onItem (i : Option ι)
  | release (i : Option ι)
  | close (k : Option κ)
deriving DecidableEq

/-- The owner is open after the calls. -/
def IsOpen (t : List (Call κ ι)) (k : κ) : Prop := .opened k ∈ t ∧ .close (some k) ∉ t

/-- The item was granted at some time. -/
def Requested (t : List (Call κ ι)) (i : ι) : Prop := .request (some i) true ∈ t

variable (owner : ι → κ)

/-- The item's owner is open, and it was not released. -/
def Live (t : List (Call κ ι)) (i : ι) : Prop := IsOpen t (owner i) ∧ .release (some i) ∉ t

/-- The call is on handles that live; those of an item that is used or released was granted. -/
def Alive (t : List (Call κ ι)) : Call κ ι → Prop
  | .opened _ => True
  | .onOwner k | .close k => ∃ k', k = some k' ∧ IsOpen t k'
  | .request i _ => ∃ i', i = some i' ∧ Live owner t i'
  | .onItem i | .release i => ∃ i', i = some i' ∧ Requested t i' ∧ Live owner t i'

/-- No call is on a dead handle, items are released exactly once before their owner is
closed, and owners are closed at most once. -/
structure Disciplined [DecidableEq κ] [DecidableEq ι] (t : List (Call κ ι)) : Prop where
  alive : ∀ before c after, t = before ++ c :: after → Alive owner before c
  released : ∀ before k after, t = before ++ .close (some k) :: after →
    ∀ i, owner i = k → Requested before i → before.count (.release (some i)) = 1
  closed : ∀ k, t.count (.close (some k)) ≤ 1

/-- The call may come next. -/
def Allowed (t : List (Call κ ι)) (c : Call κ ι) : Prop :=
  Alive owner t c ∧
    ∀ k i, c = .close (some k) → owner i = k → Requested t i → .release (some i) ∈ t

/-- Each of the calls may come when it does. -/
def Valid : List (Call κ ι) → List (Call κ ι) → Prop
  | _, [] => True
  | t, c :: cs => Allowed owner t c ∧ Valid (t ++ [c]) cs

variable {owner} {t a b : List (Call κ ι)} {c : Call κ ι} {k : κ} {i : ι}

@[simp] theorem valid_nil : Valid owner t [] := trivial

@[simp] theorem valid_singleton : Valid owner t [c] ↔ Allowed owner t c :=
  iff_of_eq (and_true _)

/-- **Calls can be checked piece by piece.** -/
theorem valid_append : Valid owner t (a ++ b) ↔ Valid owner t a ∧ Valid owner (t ++ a) b := by
  induction a generalizing t with
  | nil => simp
  | cons c a ih =>
    rw [List.cons_append, Valid, Valid, ih, and_assoc, List.append_assoc, List.singleton_append]

theorem Valid.allowed (h : Valid owner t (a ++ c :: b)) : Allowed owner (t ++ a) c :=
  (valid_append.mp h).2.1

theorem not_allowed_release (h : .release (some i) ∈ t) : ¬ Allowed owner t (.release (some i)) := by
  rintro ⟨⟨i', heq, -, -, hno⟩, -⟩
  cases heq
  exact hno h

theorem not_allowed_close (h : .close (some k) ∈ t) : ¬ Allowed owner t (.close (some k)) := by
  rintro ⟨⟨k', heq, -, hno⟩, -⟩
  cases heq
  exact hno h

section Count

variable [DecidableEq κ] [DecidableEq ι]

/-- What may not come after itself comes at most once. -/
theorem count_le_one {c : Call κ ι} (hc : ∀ t, c ∈ t → ¬ Allowed owner t c) :
    ∀ {t : List (Call κ ι)}, Valid owner [] t → t.count c ≤ 1 := by
  intro t
  induction t using List.reverseRecOn with
  | nil => simp
  | append_singleton t d ih =>
    intro h
    obtain ⟨ht, hd⟩ := valid_append.mp h
    have hle := ih ht
    rw [List.count_append, List.count_singleton]
    by_cases hdc : d = c
    · have hnot : c ∉ t := fun hmem => hc t hmem (hdc ▸ valid_singleton.mp hd)
      rw [List.count_eq_zero_of_not_mem hnot]
      split_ifs <;> omega
    · rw [if_neg (by simpa using hdc)]
      omega

/-- **A trace is disciplined exactly when each call may come when it does.** -/
theorem disciplined_iff : Disciplined owner t ↔ Valid owner [] t := by
  constructor
  · intro h
    induction t using List.reverseRecOn with
    | nil => exact trivial
    | append_singleton t c ih =>
      rw [valid_append, valid_singleton]
      have ht : Disciplined owner t := by
        refine ⟨fun before d after heq => h.alive before d (after ++ [c]) (by simp [heq]),
          fun before k after heq => h.released before k (after ++ [c]) (by simp [heq]), fun k => ?_⟩
        have hle := h.closed k
        rw [List.count_append] at hle
        omega
      refine ⟨ih ht, h.alive t c [] rfl, ?_⟩
      rintro k i rfl howner hreq
      have hone := h.released t k [] rfl i howner hreq
      have hpos : 0 < t.count (.release (some i)) := by omega
      exact List.count_pos_iff.mp hpos
  · intro h
    refine ⟨fun before c after heq => ?_, fun before k after heq i howner hreq => ?_, fun k => ?_⟩
    · rw [heq] at h
      exact h.allowed.1
    · rw [heq] at h
      have hmem : .release (some i) ∈ before := h.allowed.2 k i rfl howner hreq
      have hle : before.count (.release (some i)) ≤ 1 :=
        count_le_one (fun _ => not_allowed_release) (valid_append.mp h).1
      have hpos : 0 < before.count (.release (some i)) := List.count_pos_iff.mpr hmem
      omega
    · exact count_le_one (fun _ => not_allowed_close) h

end Count

/-- Items that are held can be used. -/
theorem valid_onItems {is : List ι} (hheld : ∀ i ∈ is, Requested t i ∧ Live owner t i) :
    Valid owner t (is.map fun i => .onItem (some i)) := by
  induction is generalizing t with
  | nil => exact trivial
  | cons i is ih =>
    refine ⟨⟨⟨i, rfl, hheld i List.mem_cons_self⟩, fun k i' heq => by cases heq⟩, ih fun j hj => ?_⟩
    obtain ⟨hreq, ⟨hopen, hclose⟩, hrel⟩ := hheld j (List.mem_cons_of_mem _ hj)
    refine ⟨List.mem_append_left _ hreq, ⟨List.mem_append_left _ hopen, ?_⟩, ?_⟩
    · simpa using hclose
    · simpa using hrel

/-- Items that are held can be released one after the other. -/
theorem valid_releases {is : List ι} (hheld : ∀ i ∈ is, Requested t i ∧ Live owner t i)
    (hnodup : is.Nodup) : Valid owner t (is.map fun i => .release (some i)) := by
  induction is generalizing t with
  | nil => exact trivial
  | cons i is ih =>
    obtain ⟨hnew, hnodup'⟩ := List.nodup_cons.mp hnodup
    refine ⟨⟨⟨i, rfl, hheld i List.mem_cons_self⟩, fun k i' heq => by cases heq⟩, ih (fun j hj => ?_) hnodup'⟩
    obtain ⟨hreq, ⟨hopen, hclose⟩, hrel⟩ := hheld j (List.mem_cons_of_mem _ hj)
    have hne : j ≠ i := fun heq => hnew (heq ▸ hj)
    refine ⟨List.mem_append_left _ hreq, ⟨List.mem_append_left _ hopen, ?_⟩, ?_⟩
    · simpa using hclose
    · simpa [hne] using hrel

end Handles
