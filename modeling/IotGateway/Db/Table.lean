import Mathlib.Tactic

/-!
# Tables with a unique key

A `Table α key` is a list of rows no two of which have the same key; the key may
be a single column or a tuple of them.

* `find?`: the row of a key. `find?_eq_some`: it is the only one.
* `map`, `modify`: change every row, or the row of a key, keeping the keys. `project` is
  `map` into rows of another type.
* `insert`: adds a row, or fails on a key that is present.
* `upsert`: adds a row, or changes the row of its key.
* `restrict`: the rows that satisfy a predicate. `restrict_modify`, `restrict_upsert`: a
  change of such a row is a change of the restricted table, any other leaves that alone.
-/

namespace Db

structure Table (α : Type*) {κ : Type*} (key : α → κ) where
  rows : List α
  keys : (rows.map key).Nodup

namespace Table

variable {α κ : Type*} {key : α → κ}

@[ext] theorem ext {t t' : Table α key} (h : t.rows = t'.rows) : t = t' := by
  cases t; cases t'; cases h; rfl

theorem keys_of_mapM {β : Type*} {key' : β → κ} {f : α → Option β}
    (hf : ∀ r r', f r = some r' → key' r' = key r) {rows : List α} {rows' : List β}
    (h : rows.mapM f = some rows') : rows'.map key' = rows.map key := by
  induction rows generalizing rows' with
  | nil =>
    cases h
    rfl
  | cons r rows ih =>
    rw [List.mapM_cons, Option.bind_eq_bind, Option.bind_eq_some_iff] at h
    obtain ⟨r', hr', h⟩ := h
    rw [Option.bind_eq_bind, Option.bind_eq_some_iff] at h
    obtain ⟨rest, hrest, h⟩ := h
    cases h
    rw [List.map_cons, List.map_cons, hf r r' hr', ih hrest]

variable [DecidableEq κ]

def empty : Table α key := ⟨[], List.nodup_nil⟩

def find? (t : Table α key) (k : κ) : Option α := t.rows.find? (key · = k)

/-- Changes every row. -/
def map (t : Table α key) (f : α → α) (hf : ∀ r, key (f r) = key r) : Table α key where
  rows := t.rows.map f
  keys := by
    have : (t.rows.map f).map key = t.rows.map key := by
      rw [List.map_map]
      exact List.map_congr_left fun r _ => hf r
    rw [this]
    exact t.keys

/-- The rows of another type, with the same keys. -/
def project {β : Type*} {key' : β → κ} (t : Table α key) (f : α → β) (hf : ∀ r, key' (f r) = key r) :
    Table β key' where
  rows := t.rows.map f
  keys := by
    have : (t.rows.map f).map key' = t.rows.map key := by
      rw [List.map_map]
      exact List.map_congr_left fun r _ => hf r
    rw [this]
    exact t.keys

/-- Rewrites every row, unless one of the new rows is refused. -/
def rewrite {β : Type*} {key' : β → κ} (t : Table α key) (f : α → Option β)
    (hf : ∀ r r', f r = some r' → key' r' = key r) : Option (Table β key') :=
  (t.rows.mapM f).pmap (fun rows (h : rows.map key' = t.rows.map key) => ⟨rows, h ▸ t.keys⟩)
    fun _ h => keys_of_mapM hf h

/-- Changes the row with key `k`, if there is one. -/
def modify (t : Table α key) (k : κ) (f : α → α) (hf : ∀ r, key (f r) = key r) : Table α key :=
  t.map (fun r => if key r = k then f r else r) fun r => by
    split
    · exact hf r
    · rfl

/-- Adds a row, unless its key is taken. -/
def insert (t : Table α key) (r : α) : Option (Table α key) :=
  if h : key r ∈ t.rows.map key then none
  else some ⟨t.rows ++ [r], by
    rw [List.map_append, List.nodup_append]
    refine ⟨t.keys, by simp, ?_⟩
    intro a ha b hb hab
    simp only [List.map_cons, List.map_nil, List.mem_singleton] at hb
    rw [hab, hb] at ha
    exact h ha⟩

/-- Adds a row, or, if its key is taken, changes the row that has it. -/
def upsert (t : Table α key) (r : α) (f : α → α) (hf : ∀ r, key (f r) = key r) : Table α key :=
  match t.insert r with
  | some t' => t'
  | none => t.modify (key r) f hf

variable {t t' : Table α key} {k : κ} {r : α} {f : α → α}

theorem find?_eq_some : t.find? k = some r ↔ r ∈ t.rows ∧ key r = k := by
  unfold find?
  constructor
  · intro h
    exact ⟨List.mem_of_find?_eq_some h, by simpa using List.find?_some h⟩
  · rintro ⟨hmem, rfl⟩
    have hinj := List.inj_on_of_nodup_map t.keys
    cases hf : t.rows.find? (key · = key r) with
    | none =>
      rw [List.find?_eq_none] at hf
      exact absurd (decide_eq_true rfl) (hf r hmem)
    | some r' =>
      have hkey : key r' = key r := by simpa using List.find?_some hf
      rw [hinj (List.mem_of_find?_eq_some hf) hmem hkey]

theorem key_of_find? (h : t.find? k = some r) : key r = k := (find?_eq_some.1 h).2

theorem find?_key (h : r ∈ t.rows) : t.find? (key r) = some r := find?_eq_some.2 ⟨h, rfl⟩

theorem insert_eq_some : t.insert r = some t' ↔ (∀ q ∈ t.rows, key q ≠ key r) ∧ t'.rows = t.rows ++ [r] := by
  unfold insert
  split_ifs with h
  · simp only [List.mem_map] at h
    obtain ⟨q, hq, hk⟩ := h
    refine iff_of_false (by simp) ?_
    exact fun hno => hno.1 q hq hk
  · have hno : ∀ q ∈ t.rows, key q ≠ key r := fun q hq hk => h (List.mem_map.2 ⟨q, hq, hk⟩)
    constructor
    · intro he
      cases he
      exact ⟨hno, rfl⟩
    · rintro ⟨-, hrows⟩
      congr 1
      exact ext hrows.symm

theorem mem_insert (h : t.insert r = some t') {q : α} : q ∈ t'.rows ↔ q ∈ t.rows ∨ q = r := by
  rw [(insert_eq_some.1 h).2, List.mem_append, List.mem_singleton]

theorem find?_map (hf : ∀ r, key (f r) = key r) (k : κ) : (t.map f hf).find? k = (t.find? k).map f := by
  unfold find? map
  rw [List.find?_map]
  simp only [Function.comp_def, hf]

theorem find?_project {β : Type*} {key' : β → κ} {g : α → β} (hg : ∀ r, key' (g r) = key r) (k : κ) :
    (t.project g hg).find? k = (t.find? k).map g := by
  unfold find? project
  rw [List.find?_map]
  simp only [Function.comp_def, hg]

omit [DecidableEq κ] in
theorem rewrite_project {β γ : Type*} {key' : β → κ} {key'' : γ → κ} {g : α → β}
    {hg : ∀ r, key' (g r) = key r} {f : β → Option γ} {hf : ∀ r r', f r = some r' → key'' r' = key' r}
    {f' : α → γ} (h : ∀ r, f (g r) = some (f' r)) : (t.project g hg).rewrite f hf =
      some (t.project f' fun r => (hf _ _ (h r)).trans (hg r)) := by
  have hrows : (t.rows.map g).mapM f = some (t.rows.map f') := by
    induction t.rows with
    | nil => rfl
    | cons r rows ih =>
      rw [List.map_cons, List.mapM_cons, h, ih]
      rfl
  unfold rewrite
  rw [Option.pmap_eq_some_iff]
  exact ⟨t.rows.map f', keys_of_mapM hf hrows, hrows, rfl⟩

theorem find?_modify (hf : ∀ r, key (f r) = key r) (k : κ) :
    (t.modify k f hf).find? k = (t.find? k).map f := by
  unfold modify
  rw [find?_map]
  cases h : t.find? k with
  | none => rfl
  | some r =>
    obtain ⟨-, hkey⟩ := find?_eq_some.1 h
    simp [hkey]

theorem find?_modify_ne (hf : ∀ r, key (f r) = key r) {k' : κ} (hk : k' ≠ k) :
    (t.modify k f hf).find? k' = t.find? k' := by
  unfold modify
  rw [find?_map]
  cases h : t.find? k' with
  | none => rfl
  | some r =>
    obtain ⟨-, hkey⟩ := find?_eq_some.1 h
    simp [hkey, hk]

theorem insert_eq_none (h : t.insert r = none) : ∃ q, t.find? (key r) = some q := by
  unfold insert at h
  split_ifs at h with htaken
  obtain ⟨q, hq, hkey⟩ := List.mem_map.1 htaken
  exact ⟨q, find?_eq_some.2 ⟨hq, hkey⟩⟩

/-- After an upsert, its key has the new row, or the changed old one. -/
theorem find?_upsert (hf : ∀ r, key (f r) = key r) :
    (t.upsert r f hf).find? k = if key r = k then some ((t.find? k).elim r f) else t.find? k := by
  unfold upsert
  cases hins : t.insert r with
  | some t' =>
    obtain ⟨hno, hrows⟩ := insert_eq_some.1 hins
    simp only [find?, hrows, List.find?_append]
    by_cases hk : key r = k
    · have hnone : t.rows.find? (key · = k) = none := by
        rw [List.find?_eq_none]
        intro q hq
        simpa [hk] using hno q hq
      simp [hnone, hk]
    · cases t.rows.find? (key · = k) <;> simp [hk]
  | none =>
    dsimp only
    by_cases hk : key r = k
    · subst hk
      obtain ⟨q, hq⟩ := insert_eq_none hins
      rw [find?_modify, hq, if_pos rfl]
      rfl
    · rw [if_neg hk, find?_modify_ne hf (Ne.symm hk)]

/-- Only what a change does to the row it finds matters. -/
theorem modify_congr {g : α → α} (hf : ∀ r, key (f r) = key r) (hg : ∀ r, key (g r) = key r)
    (h : ∀ r, t.find? k = some r → f r = g r) : t.modify k f hf = t.modify k g hg := by
  refine ext (List.map_congr_left fun r hr => ?_)
  by_cases hk : key r = k
  · rw [if_pos hk, if_pos hk]
    exact h r (find?_eq_some.2 ⟨hr, hk⟩)
  · rw [if_neg hk, if_neg hk]

theorem modify_rows_map {β : Type*} {g : α → β} (hf : ∀ r, key (f r) = key r) (hg : ∀ r, g (f r) = g r) :
    (t.modify k f hf).rows.map g = t.rows.map g := by
  unfold modify map
  rw [List.map_map]
  refine List.map_congr_left fun r _ => ?_
  by_cases hk : key r = k
  · simp [hk, hg]
  · simp [hk]

/-! ## Restricted tables -/

/-- The rows that satisfy `p`. -/
def restrict (t : Table α key) (p : α → Bool) : Table α key where
  rows := t.rows.filter p
  keys := t.keys.sublist (List.filter_sublist.map key)

variable {p : α → Bool}

theorem find?_restrict (h : ∀ r, t.find? k = some r → p r = true) : (t.restrict p).find? k = t.find? k := by
  cases hk : t.find? k with
  | none =>
    unfold find? at hk ⊢
    rw [List.find?_eq_none] at hk ⊢
    exact fun r hr => hk r (List.mem_of_mem_filter hr)
  | some r =>
    obtain ⟨hr, hkey⟩ := find?_eq_some.1 hk
    exact find?_eq_some.2 ⟨List.mem_filter.2 ⟨hr, h r hk⟩, hkey⟩

/-- Two tables with the same rows under `p` find the same rows under `p`. -/
theorem find?_eq_of_restrict {t' : Table α key} (h : t'.restrict p = t.restrict p) (hr : t.find? k = some r)
    (hp : p r = true) : t'.find? k = some r := by
  obtain ⟨hmem, hkey⟩ := find?_eq_some.1 hr
  have hrows : r ∈ (t'.restrict p).rows := by
    rw [h]
    exact List.mem_filter.2 ⟨hmem, hp⟩
  exact find?_eq_some.2 ⟨List.mem_of_mem_filter hrows, hkey⟩

theorem restrict_insert_of_not {t' : Table α key} (h : t.insert r = some t') (hp : p r = false) :
    t'.restrict p = t.restrict p := by
  obtain ⟨-, hrows⟩ := insert_eq_some.1 h
  refine ext ?_
  simp [restrict, hrows, List.filter_append, hp]

omit [DecidableEq κ] in
/-- Rows that go do not matter to a restriction that lacks them. -/
theorem restrict_restrict_of_imp {q : α → Bool} (h : ∀ r ∈ t.rows, p r = true → q r = true) :
    (t.restrict q).restrict p = t.restrict p := by
  refine ext ?_
  simp only [restrict, List.filter_filter]
  refine List.filter_congr fun r hr => ?_
  cases hp : p r with
  | false => rfl
  | true => simp [h r hr hp]

/-- A restricted table lacks the rows that do not satisfy the predicate. -/
theorem find?_restrict_none (h : ∀ r, t.find? k = some r → p r = false) : (t.restrict p).find? k = none := by
  cases hk : (t.restrict p).find? k with
  | none => rfl
  | some r =>
    obtain ⟨hr, hkey⟩ := find?_eq_some.1 hk
    obtain ⟨hmem, hp⟩ := List.mem_filter.1 hr
    rw [h r (find?_eq_some.2 ⟨hmem, hkey⟩)] at hp
    cases hp

theorem restrict_modify (hf : ∀ r, key (f r) = key r) (hp : ∀ r, p (f r) = p r) :
    (t.modify k f hf).restrict p = (t.restrict p).modify k f hf := by
  refine ext ?_
  have hstep : ∀ r, p (if key r = k then f r else r) = p r := by
    intro r
    split_ifs
    · exact hp r
    · rfl
  simp only [restrict, modify, map, List.filter_map]
  congr 1
  exact List.filter_congr fun r _ => hstep r

/-- A change of a row outside leaves the restricted table alone. -/
theorem restrict_modify_of_not (hf : ∀ r, key (f r) = key r) (hp : ∀ r, p (f r) = p r)
    (h : ∀ r, t.find? k = some r → p r = false) : (t.modify k f hf).restrict p = t.restrict p := by
  rw [restrict_modify hf hp]
  refine ext ?_
  simp only [restrict, modify, map]
  conv_rhs => rw [← List.map_id (t.rows.filter p)]
  refine List.map_congr_left fun r hr => ?_
  obtain ⟨hmem, hpr⟩ := List.mem_filter.1 hr
  have hne : key r ≠ k := by
    intro hk
    rw [h r (find?_eq_some.2 ⟨hmem, hk⟩)] at hpr
    cases hpr
  exact if_neg hne

/-- An upsert of a row that satisfies a predicate on keys. -/
theorem restrict_upsert {q : κ → Bool} (hf : ∀ r, key (f r) = key r) (hq : q (key r) = true) :
    (t.upsert r f hf).restrict (fun r => q (key r)) = (t.restrict fun r => q (key r)).upsert r f hf := by
  have hfq : ∀ r, q (key (f r)) = q (key r) := fun r => by rw [hf]
  unfold upsert
  cases hins : t.insert r with
  | some t' =>
    obtain ⟨hno, hrows⟩ := insert_eq_some.1 hins
    have hins' : (t.restrict fun r => q (key r)).insert r = some (t'.restrict fun r => q (key r)) := by
      refine insert_eq_some.2 ⟨fun x hx => hno x (List.mem_of_mem_filter hx), ?_⟩
      simp [restrict, hrows, List.filter_append, hq]
    rw [hins']
  | none =>
    obtain ⟨x, hx⟩ := insert_eq_none hins
    obtain ⟨hmem, hkey⟩ := find?_eq_some.1 hx
    have hins' : (t.restrict fun r => q (key r)).insert r = none := by
      refine Option.eq_none_iff_forall_ne_some.2 fun t' ht' => ?_
      refine (insert_eq_some.1 ht').1 x (List.mem_filter.2 ⟨hmem, ?_⟩) hkey
      rw [hkey, hq]
    rw [hins']
    exact restrict_modify hf hfq

/-- An upsert of a row outside leaves the restricted table alone. -/
theorem restrict_upsert_of_not {q : κ → Bool} (hf : ∀ r, key (f r) = key r) (hq : q (key r) = false) :
    (t.upsert r f hf).restrict (fun r => q (key r)) = t.restrict fun r => q (key r) := by
  have hfq : ∀ r, q (key (f r)) = q (key r) := fun r => by rw [hf]
  unfold upsert
  cases hins : t.insert r with
  | some t' =>
    obtain ⟨-, hrows⟩ := insert_eq_some.1 hins
    refine ext ?_
    simp [restrict, hrows, List.filter_append, hq]
  | none =>
    refine restrict_modify_of_not hf hfq fun x hx => ?_
    rw [key_of_find? hx, hq]

end Table

end Db
