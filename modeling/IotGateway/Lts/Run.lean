import Mathlib.Tactic

/-!
# Runs of a system with partial steps

A system is a step function `σ → ε → Option σ`: an event that is not enabled
in a state has no successor. `run` folds a list of events.

* `Always Q s es`: the state predicate `Q` holds in every state the run of `es`
  from `s` visits, the first and the last included.
* `Along P s es`: the step predicate `P` holds of every step that run takes.
* `always_iff_along`: if, under an invariant, a step keeps `Q` exactly when it
  meets `P`, then `Q` holds all along a run exactly when its steps meet `P`.
  `along_iff_along` is the same for a step predicate in the place of `Q`.
* `always_of_along`, `along_of_along`: what holds of the states, and of the
  steps, of a run whose steps keep an invariant (`always_of_inv`, `along_of_inv`:
  if every step keeps it).
-/

namespace Lts

variable {σ ε : Type*} (step : σ → ε → Option σ)

/-- The state after the events, if each is enabled in its turn. -/
def run : σ → List ε → Option σ
  | s, [] => some s
  | s, e :: es => (step s e).bind fun s' => run s' es

/-- `Q` holds in every state of the run of `es` from `s`. -/
def Always (Q : σ → Prop) : σ → List ε → Prop
  | s, [] => Q s
  | s, e :: es => Q s ∧ ∀ s', step s e = some s' → Always Q s' es

/-- `P` holds of every step of the run of `es` from `s`. -/
def Along (P : σ → ε → σ → Prop) : σ → List ε → Prop
  | _, [] => True
  | s, e :: es => ∀ s', step s e = some s' → P s e s' ∧ Along P s' es

variable {step} {I Q : σ → Prop} {P P' : σ → ε → σ → Prop}

theorem along_cons_of_eq {s s' : σ} {e : ε} {es : List ε} (h : step s e = some s') :
    Along step P s (e :: es) ↔ P s e s' ∧ Along step P s' es := by
  constructor
  · exact fun ha => ha s' h
  · intro ha s'' h''
    rw [h] at h''
    cases h''
    exact ha

/-- The steps of a run are checked by taking them. -/
instance decidableAlong [∀ s e s', Decidable (P s e s')] :
    ∀ (s : σ) (es : List ε), Decidable (Along step P s es)
  | _, [] => isTrue trivial
  | s, e :: es =>
    match h : step s e with
    | none => isTrue fun s' h' => by rw [h] at h'; cases h'
    | some s' =>
      have := decidableAlong s' es
      decidable_of_iff (P s e s' ∧ Along step P s' es) (along_cons_of_eq h).symm

theorem along_true {es : List ε} : ∀ {s : σ}, Along step (fun _ _ _ => True) s es := by
  induction es with
  | nil => exact trivial
  | cons e es ih => exact fun s' _ => ⟨trivial, ih⟩

theorem Along.imp (h : ∀ s e s', step s e = some s' → P s e s' → P' s e s') {es : List ε} :
    ∀ {s : σ}, Along step P s es → Along step P' s es := by
  induction es with
  | nil => exact fun _ => trivial
  | cons e es ih =>
    intro s ha s' he
    obtain ⟨hp, ha'⟩ := ha s' he
    exact ⟨h s e s' he hp, ih ha'⟩

/-- Predicates that agree on every step. -/
theorem along_congr (h : ∀ s e s', step s e = some s' → (P s e s' ↔ P' s e s')) {s : σ} {es : List ε} :
    Along step P s es ↔ Along step P' s es := by
  constructor
  · exact Along.imp fun s e s' he => (h s e s' he).1
  · exact Along.imp fun s e s' he => (h s e s' he).2

theorem run_cons_eq_some {s t : σ} {e : ε} {es : List ε} :
    run step s (e :: es) = some t ↔ ∃ s', step s e = some s' ∧ run step s' es = some t := by
  simp [run, Option.bind_eq_some_iff]

theorem run_three_eq_some {s t : σ} {e₁ e₂ e₃ : ε} : run step s [e₁, e₂, e₃] = some t ↔
    ∃ s₁ s₂, step s e₁ = some s₁ ∧ step s₁ e₂ = some s₂ ∧ step s₂ e₃ = some t := by
  simp [run, Option.bind_eq_some_iff]

theorem run_append_eq_some {s t : σ} {es es' : List ε} :
    run step s (es ++ es') = some t ↔ ∃ s', run step s es = some s' ∧ run step s' es' = some t := by
  induction es generalizing s with
  | nil => simp [run]
  | cons e es ih =>
    constructor
    · intro h
      obtain ⟨s₁, he, hr⟩ := run_cons_eq_some.1 h
      obtain ⟨s', hs', ht⟩ := ih.1 hr
      exact ⟨s', run_cons_eq_some.2 ⟨s₁, he, hs'⟩, ht⟩
    · rintro ⟨s', hs', ht⟩
      obtain ⟨s₁, he, hr⟩ := run_cons_eq_some.1 hs'
      exact run_cons_eq_some.2 ⟨s₁, he, ih.2 ⟨s', hr, ht⟩⟩

/-- What holds along a run holds along its end. -/
theorem Along.of_append {es es' : List ε} :
    ∀ {s t : σ}, Along step P s (es ++ es') → run step s es = some t → Along step P t es' := by
  induction es with
  | nil =>
    intro s t h hr
    cases Option.some.inj hr
    exact h
  | cons e es ih =>
    intro s t h hr
    obtain ⟨s', he, hr'⟩ := run_cons_eq_some.1 hr
    exact ih (h s' he).2 hr'

theorem Along.append {es es' : List ε} :
    ∀ {s t : σ}, run step s es = some t → Along step P s es → Along step P t es' → Along step P s (es ++ es') := by
  induction es with
  | nil =>
    intro s t hr _ h
    cases Option.some.inj hr
    exact h
  | cons e es ih =>
    intro s t hr h h' s' he
    obtain ⟨hp, hes⟩ := h s' he
    rw [run, he, Option.bind_some] at hr
    exact ⟨hp, ih hr hes h'⟩

/-- A run's first state satisfies what always holds. -/
theorem Always.head {s : σ} {es : List ε} (h : Always step Q s es) : Q s := by
  cases es with
  | nil => exact h
  | cons e es => exact h.1

/-- A run's last state satisfies what always holds. -/
theorem Always.last {es : List ε} :
    ∀ {s t : σ}, Always step Q s es → run step s es = some t → Q t := by
  induction es with
  | nil =>
    intro s t h hr
    cases Option.some.inj hr
    exact h
  | cons e es ih =>
    intro s t h hr
    obtain ⟨s', he, hr'⟩ := run_cons_eq_some.1 hr
    exact ih (h.2 s' he) hr'

theorem Always.imp {Q' : σ → Prop} (hQ : ∀ s, Q s → Q' s) {es : List ε} :
    ∀ {s : σ}, Always step Q s es → Always step Q' s es := by
  induction es with
  | nil => exact fun h => hQ _ h
  | cons e es ih => exact fun h => ⟨hQ _ h.1, fun s' he => ih (h.2 s' he)⟩

/-- **Exact guard of a state predicate.** Under an invariant `I`, let each step
from a state with `Q` keep `Q` exactly when it meets `P`. Then a run from a state
with `I` and `Q` has `Q` throughout exactly when all its steps meet `P`. -/
theorem always_iff_along (hI : ∀ s e s', I s → step s e = some s' → I s')
    (hQ : ∀ s e s', I s → Q s → step s e = some s' → (Q s' ↔ P s e s')) {es : List ε} :
    ∀ {s : σ}, I s → Q s → (Always step Q s es ↔ Along step P s es) := by
  induction es with
  | nil =>
    intro s _ hq
    exact ⟨fun _ => trivial, fun _ => hq⟩
  | cons e es ih =>
    intro s hi hq
    constructor
    · intro h s' he
      have hq' : Q s' := (h.2 s' he).head
      exact ⟨(hQ s e s' hi hq he).1 hq', (ih (hI s e s' hi he) hq').1 (h.2 s' he)⟩
    · intro h
      refine ⟨hq, fun s' he => ?_⟩
      have hq' : Q s' := (hQ s e s' hi hq he).2 (h s' he).1
      exact (ih (hI s e s' hi he) hq').2 (h s' he).2

/-- **Exact guard of a step predicate.** Let the steps meet an assumption `G`. Under an
invariant `I` of the steps that meet `P'`, let each step meet `P` exactly when it meets
`P'`. Then the steps of a run from a state with `I` all meet `P` exactly when they all
meet `P'`. -/
theorem along_iff_along {G : σ → ε → σ → Prop}
    (hI : ∀ s e s', I s → step s e = some s' → G s e s' → P' s e s' → I s')
    (h : ∀ s e s', I s → step s e = some s' → G s e s' → (P s e s' ↔ P' s e s')) {es : List ε} :
    ∀ {s : σ}, I s → Along step G s es → (Along step P s es ↔ Along step P' s es) := by
  induction es with
  | nil =>
    intro s _ _
    exact Iff.rfl
  | cons e es ih =>
    intro s hi hg
    constructor
    · intro ha s' he
      have hp' := (h s e s' hi he (hg s' he).1).1 (ha s' he).1
      exact ⟨hp', (ih (hI s e s' hi he (hg s' he).1 hp') (hg s' he).2).1 (ha s' he).2⟩
    · intro ha s' he
      have hp' := (ha s' he).1
      exact ⟨(h s e s' hi he (hg s' he).1).2 hp',
        (ih (hI s e s' hi he (hg s' he).1 hp') (hg s' he).2).2 (ha s' he).2⟩

/-- What always holds under an invariant of the steps that meet `P`. -/
theorem always_of_along (hI : ∀ s e s', I s → step s e = some s' → P s e s' → I s')
    (hQ : ∀ s, I s → Q s) {es : List ε} :
    ∀ {s : σ}, I s → Along step P s es → Always step Q s es := by
  induction es with
  | nil =>
    intro s hs _
    exact hQ s hs
  | cons e es ih =>
    intro s hs ha
    refine ⟨hQ s hs, fun s' he => ih (hI s e s' hs he (ha s' he).1) (ha s' he).2⟩

/-- What every step does that meets `P`, under an invariant of those steps. -/
theorem along_of_along (hI : ∀ s e s', I s → step s e = some s' → P s e s' → I s')
    (h : ∀ s e s', I s → step s e = some s' → P s e s' → P' s e s') {es : List ε} :
    ∀ {s : σ}, I s → Along step P s es → Along step P' s es := by
  induction es with
  | nil => exact fun _ _ => trivial
  | cons e es ih =>
    intro s hs ha s' he
    obtain ⟨hp, ha'⟩ := ha s' he
    exact ⟨h s e s' hs he hp, ih (hI s e s' hs he hp) ha'⟩

/-- What the states after the steps of a run show about them. -/
theorem along_of_always (hI : ∀ s e s', I s → step s e = some s' → I s')
    (h : ∀ s e s', I s → step s e = some s' → Q s' → P s e s') {es : List ε} :
    ∀ {s : σ}, I s → Always step Q s es → Along step P s es := by
  induction es with
  | nil => exact fun _ _ => trivial
  | cons e es ih =>
    intro s hs ha s' he
    have hq : Q s' := (ha.2 s' he).head
    exact ⟨h s e s' hs he hq, ih (hI s e s' hs he) (ha.2 s' he)⟩

/-- A property of the events alone. -/
theorem along_of_forall {p : ε → Prop} {es : List ε} (h : ∀ e ∈ es, p e) :
    ∀ {s : σ}, Along step (fun _ e _ => p e) s es := by
  induction es with
  | nil => exact trivial
  | cons e es ih =>
    intro s s' _
    exact ⟨h e (List.mem_cons_self ..), ih fun e' he' => h e' (List.mem_cons_of_mem _ he')⟩

/-- An invariant of every step holds in every state. -/
theorem always_of_inv (hI : ∀ s e s', I s → step s e = some s' → I s') {s : σ} (hs : I s) {es : List ε} :
    Always step I s es :=
  always_of_along (P := fun _ _ _ => True) (fun s e s' hs he _ => hI s e s' hs he) (fun _ hs => hs) hs
    along_true

/-- What every step does, under an invariant of every step. -/
theorem along_of_inv (hI : ∀ s e s', I s → step s e = some s' → I s')
    (h : ∀ s e s', I s → step s e = some s' → P s e s') {s : σ} (hs : I s) {es : List ε} :
    Along step P s es :=
  along_of_along (P := fun _ _ _ => True) (fun s e s' hs he _ => hI s e s' hs he)
    (fun s e s' hs he _ => h s e s' hs he) hs along_true

end Lts
