import Mathlib.Tactic

/-!
# Anchored patterns of literals and groups

A pattern `^…$` of single characters and groups `([class]+)`, matched as backtracking
regular expression engines do: a group takes as many characters as it can and gives some
back if the rest does not match. The final `$` matches at the end of the text and, in
Python, before a newline that ends it.

`search_iff`: if each group ends where its class does, the match is the only way to read
the text as the pattern spells it, up to that newline.
-/

namespace Pattern

variable {α : Type*}

inductive Item (α : Type*) where
  | char (c : α)
  | group (p : α → Bool)

/-- Reads the items from `s`: what the groups took. -/
def search [DecidableEq α] (newline : α) : List (Item α) → List α → Option (List (List α))
  | [], s => if s = [] ∨ s = [newline] then some [] else none
  | .char c :: items, s =>
    match s with
    | x :: xs => if x = c then search newline items xs else none
    | [] => none
  | .group p :: items, s =>
    -- the longest attempt comes first
    (List.range (s.takeWhile p).length).reverse.findSome? fun n =>
      (search newline items (s.drop (n + 1))).map (s.take (n + 1) :: ·)

/-- The items spell `s`, the groups being `gs`. -/
def Spells : List (Item α) → List (List α) → List α → Prop
  | [], [], s => s = []
  | .char c :: items, gs, s => ∃ t, s = c :: t ∧ Spells items gs t
  | .group p :: items, g :: gs, s =>
    ∃ t, s = g ++ t ∧ g ≠ [] ∧ (∀ x ∈ g, p x = true) ∧ Spells items gs t
  | _, _, _ => False

/-- A group is followed by a character that is not of its class, or by the end, and then a
newline is not. -/
def Separated (newline : α) : List (Item α) → Prop
  | [] => True
  | .char _ :: items => Separated newline items
  | [.group p] => p newline = false
  | .group p :: .char c :: items => p c = false ∧ Separated newline (.char c :: items)
  | .group _ :: .group _ :: _ => False

/-- What may stand behind the text at a final `$`. -/
def AtEnd (newline : α) (e : List α) : Prop := e = [] ∨ e = [newline]

variable {newline : α} {items : List (Item α)} {s : List α} {gs : List (List α)}

theorem spells_of_search [DecidableEq α] : ∀ {items : List (Item α)} {s : List α} {gs : List (List α)},
    search newline items s = some gs → ∃ t e, s = t ++ e ∧ AtEnd newline e ∧ Spells items gs t := by
  intro items
  induction items with
  | nil =>
    intro s gs h
    simp only [search] at h
    split_ifs at h with hs
    cases h
    exact ⟨[], s, rfl, hs, rfl⟩
  | cons item items ih =>
    intro s gs h
    cases item with
    | char c =>
      cases s with
      | nil => cases h
      | cons x xs =>
        simp only [search] at h
        split_ifs at h with hx
        obtain ⟨t, e, rfl, he, ht⟩ := ih h
        exact ⟨c :: t, e, by rw [hx]; rfl, he, t, rfl, ht⟩
    | group p =>
      simp only [search] at h
      obtain ⟨n, hn, hrest⟩ := List.exists_of_findSome?_eq_some h
      obtain ⟨gs', hgs, rfl⟩ := Option.map_eq_some_iff.1 hrest
      obtain ⟨t, e, hdrop, he, ht⟩ := ih hgs
      rw [List.mem_reverse, List.mem_range] at hn
      refine ⟨s.take (n + 1) ++ t, e, ?_, he, t, rfl, ?_, ?_, ht⟩
      · rw [List.append_assoc, ← hdrop, List.take_append_drop]
      · have hlen := (s.takeWhile_sublist p).length_le
        intro hnil
        have := congrArg List.length hnil
        rw [List.length_take, List.length_nil] at this
        omega
      · intro x hx
        -- the attempt lies within the longest one
        have hpre : s.take (n + 1) <+: s.takeWhile p := by
          refine List.prefix_of_prefix_length_le (List.take_prefix _ _) (List.takeWhile_prefix _) ?_
          rw [List.length_take]
          omega
        exact List.all_eq_true.1 List.all_takeWhile x (hpre.subset hx)

/-- A separated group takes exactly its own characters. -/
theorem takeWhile_group {p : α → Bool} {g t e : List α} (hg : ∀ x ∈ g, p x = true)
    (hsep : Separated newline (.group p :: items)) (ht : Spells items gs t) (he : AtEnd newline e) :
    (g ++ (t ++ e)).takeWhile p = g := by
  rw [List.takeWhile_append_of_pos hg]
  suffices (t ++ e).takeWhile p = [] by rw [this, List.append_nil]
  cases items with
  | nil =>
    cases gs with
    | cons g gs => exact ht.elim
    | nil =>
      have hnil : t = [] := ht
      rw [hnil, List.nil_append]
      rcases he with rfl | rfl
      · rfl
      · exact List.takeWhile_cons_of_neg (by rw [show p newline = false from hsep]; exact Bool.false_ne_true)
  | cons item items =>
    cases item with
    | char c =>
      obtain ⟨t', rfl, -⟩ := ht
      exact List.takeWhile_cons_of_neg (by rw [hsep.1]; exact Bool.false_ne_true)
    | group q => exact hsep.elim

theorem separated_tail {item : Item α} (h : Separated newline (item :: items)) : Separated newline items := by
  cases item with
  | char c => exact h
  | group p =>
    cases items with
    | nil => trivial
    | cons item items =>
      cases item with
      | char c => exact h.2
      | group q => exact h.elim

theorem search_of_spells [DecidableEq α] : ∀ {items : List (Item α)} {gs : List (List α)} {t e : List α},
    Separated newline items → Spells items gs t → AtEnd newline e →
    search newline items (t ++ e) = some gs := by
  intro items
  induction items with
  | nil =>
    intro gs t e _ ht he
    cases gs with
    | cons g gs => exact ht.elim
    | nil =>
      have hnil : t = [] := ht
      rw [hnil, List.nil_append]
      exact if_pos he
  | cons item items ih =>
    intro gs t e hsep ht he
    have hrest := separated_tail hsep
    cases item with
    | char c =>
      obtain ⟨t', rfl, ht'⟩ := ht
      simp only [List.cons_append, search, if_true]
      exact ih hrest ht' he
    | group p =>
      cases gs with
      | nil => exact ht.elim
      | cons g gs =>
        obtain ⟨t', rfl, hne, hg, ht'⟩ := ht
        have hlen : 0 < g.length := List.length_pos_iff.2 hne
        -- the longest attempt is the group, and the rest matches behind it
        obtain ⟨k, hk⟩ : ∃ k, g.length = k + 1 := ⟨g.length - 1, by omega⟩
        rw [List.append_assoc]
        simp only [search, takeWhile_group hg hsep ht' he, hk, List.range_succ, List.reverse_append,
          List.reverse_singleton, List.singleton_append, List.findSome?_cons]
        rw [← hk, List.drop_left, List.take_left, ih hrest ht' he]
        rfl

/-- **A separated pattern reads exactly what it spells**, at the end of the text or before
a final newline. -/
theorem search_iff [DecidableEq α] (hsep : Separated newline items) :
    search newline items s = some gs ↔ ∃ t e, s = t ++ e ∧ AtEnd newline e ∧ Spells items gs t := by
  constructor
  · exact spells_of_search
  · rintro ⟨t, e, rfl, he, ht⟩
    exact search_of_spells hsep ht he

end Pattern
