import Mathlib.Tactic

/-!
# Calls that may fail

A function that returns an error at the first call that fails is a `do` block in `Except`.
The lemmas say when such a block succeeds.
-/

namespace Except

universe u v

variable {ε ε' : Type u} {α β : Type v}

theorem bind_eq_ok_iff {x : Except ε α} {f : α → Except ε β} {b : β} :
    x >>= f = .ok b ↔ ∃ a, x = .ok a ∧ f a = .ok b := by
  cases x with
  | error err =>
    constructor
    · intro h
      cases h
    · rintro ⟨a, ha, -⟩
      cases ha
  | ok a =>
    constructor
    · exact fun h => ⟨a, rfl, h⟩
    · rintro ⟨a', ha, h⟩
      cases ha
      exact h

theorem bind_eq_error_iff {x : Except ε α} {f : α → Except ε β} {err : ε} :
    x >>= f = .error err ↔ x = .error err ∨ ∃ a, x = .ok a ∧ f a = .error err := by
  cases x with
  | error err' =>
    constructor
    · exact fun h => .inl (congrArg Except.error (Except.error.inj h))
    · rintro (h | ⟨a, ha, -⟩)
      · rw [Except.error.inj h]
        rfl
      · cases ha
  | ok a =>
    constructor
    · exact fun h => .inr ⟨a, rfl, h⟩
    · rintro (h | ⟨a', ha, h⟩)
      · cases h
      · cases ha
        exact h

theorem map_eq_ok_iff {f : α → β} {x : Except ε α} {b : β} :
    x.map f = .ok b ↔ ∃ a, x = .ok a ∧ f a = b := by
  cases x <;> simp [Except.map]

theorem mapError_eq_ok_iff {g : ε → ε'} {x : Except ε α} {a : α} :
    x.mapError g = .ok a ↔ x = .ok a := by
  cases x <;> simp [Except.mapError]

/-- A loop that stops at the first error, when it has none. -/
theorem mapM_eq_ok_iff {f : α → Except ε β} {as : List α} :
    ∀ {bs : List β}, as.mapM f = .ok bs ↔ List.Forall₂ (fun a b => f a = .ok b) as bs := by
  induction as with
  | nil =>
    intro bs
    rw [List.mapM_nil, List.forall₂_nil_left_iff]
    exact ⟨fun h => (Except.ok.inj h).symm, fun h => by rw [h]; rfl⟩
  | cons a as ih =>
    intro bs
    rw [List.mapM_cons, bind_eq_ok_iff, List.forall₂_cons_left_iff]
    constructor
    · rintro ⟨b, hb, h⟩
      obtain ⟨bs', hbs', hbs⟩ := bind_eq_ok_iff.1 h
      exact ⟨b, bs', hb, ih.1 hbs', (Except.ok.inj hbs).symm⟩
    · rintro ⟨b, bs', hb, hbs', rfl⟩
      exact ⟨b, hb, bind_eq_ok_iff.2 ⟨bs', ih.2 hbs', rfl⟩⟩

/-- A loop over a call that succeeds on what meets `p`, with the value of `g`. -/
theorem mapM_eq_ok_map_iff {f : α → Except ε β} {g : α → β} {p : α → Prop} {as : List α}
    (h : ∀ a ∈ as, ∀ b, f a = .ok b ↔ p a ∧ b = g a) (bs : List β) :
    as.mapM f = .ok bs ↔ (∀ a ∈ as, p a) ∧ bs = as.map g := by
  induction as generalizing bs with
  | nil =>
    rw [List.mapM_nil, List.map_nil]
    exact ⟨fun hbs => ⟨by simp, (Except.ok.inj hbs).symm⟩, fun hbs => by rw [hbs.2]; rfl⟩
  | cons a as ih =>
    obtain ⟨ha, has⟩ := List.forall_mem_cons.1 h
    rw [List.mapM_cons, bind_eq_ok_iff, List.forall_mem_cons, List.map_cons]
    constructor
    · rintro ⟨b, hb, hrest⟩
      obtain ⟨bs', hbs', hbs⟩ := bind_eq_ok_iff.1 hrest
      obtain ⟨hp, rfl⟩ := (ha b).1 hb
      obtain ⟨hps, rfl⟩ := (ih has bs').1 hbs'
      exact ⟨⟨hp, hps⟩, (Except.ok.inj hbs).symm⟩
    · rintro ⟨⟨hp, hps⟩, rfl⟩
      exact ⟨g a, (ha _).2 ⟨hp, rfl⟩, bind_eq_ok_iff.2 ⟨as.map g, (ih has _).2 ⟨hps, rfl⟩, rfl⟩⟩

end Except
