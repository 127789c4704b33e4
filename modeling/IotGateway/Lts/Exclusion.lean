import IotGateway.Lts.Run

/-!
# Sections of shared resources

Clients `ι` use resources: client `i` uses `resource i`, which others may use as well.
`actor s e` is the client that touches its resource in the step `e`, if one does. `inside s i`:
client `i` is in the middle of a section, from its first touch of the resource to its last.

* `Apart`: nobody touches a resource in the middle of another client's section.
* `EntersAlone`: nobody touches a resource for the first time in the middle of another
  client's section.
* `apart_iff_entersAlone`: **it is enough to look at the entries.**
-/

namespace Lts

variable {σ ε ι ρ : Type*} {step : σ → ε → Option σ}
variable (actor : σ → ε → Option ι) (inside : σ → ι → Prop) (resource : ι → ρ)

/-- At most one client of each resource is inside. -/
def Exclusive (s : σ) : Prop := ∀ i j, inside s i → inside s j → resource i = resource j → i = j

/-- Who touches a resource is the only one inside, if anyone is. -/
def Apart (s : σ) (e : ε) (_ : σ) : Prop :=
  ∀ i, actor s e = some i → ∀ j, inside s j → resource j = resource i → j = i

/-- Who enters a section finds nobody inside. -/
def EntersAlone (s : σ) (e : ε) (_ : σ) : Prop :=
  ∀ i, actor s e = some i → ¬ inside s i → ∀ j, inside s j → resource j ≠ resource i

variable {actor inside resource}

theorem apart_iff_entersAlone_step {s s' : σ} {e : ε} (hs : Exclusive inside resource s) :
    Apart actor inside resource s e s' ↔ EntersAlone actor inside resource s e s' := by
  constructor
  · intro h i hi hout j hj hres
    have hji : j = i := h i hi j hj hres
    exact hout (hji ▸ hj)
  · intro h i hi j hj hres
    by_cases hin : inside s i
    · exact hs j i hj hin hres
    · exact absurd hres (h i hi hin j hj)

/-- A step whose entry is alone keeps the sections apart. -/
theorem exclusive_step {s s' : σ} {e : ε}
    (hin : ∀ i, inside s' i → inside s i ∨ actor s e = some i)
    (hs : Exclusive inside resource s) (h : EntersAlone actor inside resource s e s') :
    Exclusive inside resource s' := by
  intro i j hi hj hres
  rcases hin i hi with hi | hi <;> rcases hin j hj with hj | hj
  · exact hs i j hi hj hres
  · by_cases hjn : inside s j
    · exact hs i j hi hjn hres
    · exact absurd hres (h j hj hjn i hi)
  · by_cases hin : inside s i
    · exact hs i j hin hj hres
    · exact absurd hres.symm (h i hi hin j hj)
  · exact Option.some.inj (hi.symm.trans hj)

/-- **Sections stay apart exactly when each is entered alone.** -/
theorem apart_iff_entersAlone
    (hin : ∀ s e s', step s e = some s' → ∀ i, inside s' i → inside s i ∨ actor s e = some i)
    {s : σ} (hs : Exclusive inside resource s) (es : List ε) :
    Along step (Apart actor inside resource) s es ↔
      Along step (EntersAlone actor inside resource) s es :=
  along_iff_along (G := fun _ _ _ => True)
    (fun s e s' hs he _ h => exclusive_step (hin s e s' he) hs h)
    (fun _ _ _ hs _ _ => apart_iff_entersAlone_step hs) hs along_true

end Lts
