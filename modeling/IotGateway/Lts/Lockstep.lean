import IotGateway.Lts.Run

/-!
# Two systems in lockstep

`abs` takes the states of one system to those of another. If, under an invariant of the first, each
event moves both alike, then so does every run (`run_map`), and what they put out is the same
(`outputs_map`).
-/

namespace Lts

variable {σ τ ε ο : Type*} {step : σ → ε → Option σ} {step' : τ → ε → Option τ}

/-- What the steps of a run put out, up to the first event that is not enabled. -/
def outputs (step : σ → ε → Option σ) (out : σ → ε → List ο) : σ → List ε → List ο
  | _, [] => []
  | s, e :: es =>
    match step s e with
    | none => []
    | some s' => out s e ++ outputs step out s' es

variable {abs : σ → τ} {I : σ → Prop} {p : ε → Prop} {out : σ → ε → List ο} {out' : τ → ε → List ο}

/-- **Every run of one is a run of the other.** -/
theorem run_map (hI : ∀ s e s', I s → p e → step s e = some s' → I s')
    (hstep : ∀ s e, I s → p e → step' (abs s) e = (step s e).map abs) {es : List ε} :
    ∀ {s : σ}, I s → (∀ e ∈ es, p e) → run step' (abs s) es = (run step s es).map abs := by
  induction es with
  | nil =>
    intro s _ _
    rfl
  | cons e es ih =>
    intro s hs hp
    have he := hp e List.mem_cons_self
    rw [run, run, hstep s e hs he]
    cases hnext : step s e with
    | none => rfl
    | some s' => exact ih (hI s e s' hs he hnext) fun e' he' => hp e' (List.mem_cons_of_mem _ he')

/-- **They put out the same.** -/
theorem outputs_map (hI : ∀ s e s', I s → p e → step s e = some s' → I s')
    (hstep : ∀ s e, I s → p e → step' (abs s) e = (step s e).map abs)
    (hout : ∀ s e s', I s → p e → step s e = some s' → out' (abs s) e = out s e) {es : List ε} :
    ∀ {s : σ}, I s → (∀ e ∈ es, p e) → outputs step' out' (abs s) es = outputs step out s es := by
  induction es with
  | nil =>
    intro s _ _
    rfl
  | cons e es ih =>
    intro s hs hp
    have he := hp e List.mem_cons_self
    unfold outputs
    rw [hstep s e hs he]
    cases hnext : step s e with
    | none => rfl
    | some s' =>
      have hrest := ih (hI s e s' hs he hnext) fun e' he' => hp e' (List.mem_cons_of_mem _ he')
      dsimp only [Option.map_some]
      rw [hout s e s' hs he hnext, hrest]

end Lts
