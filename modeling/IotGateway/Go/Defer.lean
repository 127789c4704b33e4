import Mathlib.Data.List.Basic

/-!
# Deferred calls

A function as the list of its calls. Each call may fail, panic, or be the last that the process
does. What the function has deferred runs when it is left, the last first, whether it returns
or panics; a deferred function that recovers makes its call and panics again.

* `Rule.left`: the proof rule. What holds before each call holds when the function is left.
* `Covered`: what is held has a deferred call to come that gives it back.
-/

namespace Go

variable {ε κ σ ρ : Type*}

/-- How a call ends. -/
inductive CallOutcome (ε : Type*) where
  | ok
  | error (err : ε)
  | panics
  /-- the process ends, and with it everything -/
  | dies
deriving DecidableEq, Repr

inductive Deferred (κ : Type*) where
  | call (c : κ)
  /-- `if r := recover(); r != nil { c; panic(r) }` -/
  | recovered (c : κ)
deriving DecidableEq, Repr

/-- What a function does about the error of a call. -/
inductive OnError where
  /-- `return err` -/
  | returns
  /-- goes on, without what it would have deferred -/
  | skips
  | ignores
deriving DecidableEq, Repr

/-- A call, and what is deferred after it, in order. -/
structure Stmt (κ : Type*) where
  call : κ
  onError : OnError
  defers : List (Deferred κ)
deriving DecidableEq, Repr

/-- How a function is left. -/
inductive Exit (ε : Type*) where
  | returned (err : Option ε)
  | panicked
  | died
deriving DecidableEq, Repr

/-- What comes after a call, with what is deferred then. -/
inductive Next (ε κ : Type*) where
  | goesOn (ds : List (Deferred κ))
  | leaves (x : Exit ε) (ds : List (Deferred κ))

def Stmt.next (st : Stmt κ) (ds : List (Deferred κ)) : CallOutcome ε → Next ε κ
  | .ok => .goesOn (st.defers.reverse ++ ds)
  | .error err =>
    match st.onError with
    | .returns => .leaves (.returned (some err)) ds
    | .skips => .goesOn ds
    | .ignores => .goesOn (st.defers.reverse ++ ds)
  | .panics => .leaves .panicked ds
  | .dies => .leaves .died []

/-- A function goes on after a success, or an error that it tolerates. -/
theorem Stmt.next_goesOn {st : Stmt κ} {ds ds' : List (Deferred κ)} {r : CallOutcome ε}
    (h : st.next ds r = .goesOn ds') :
    ds' = st.defers.reverse ++ ds ∧ (r = .ok ∨ st.onError = .ignores) ∨
      ds' = ds ∧ r ≠ .ok ∧ st.onError = .skips := by
  unfold Stmt.next at h
  split at h
  · cases h
    exact Or.inl ⟨rfl, Or.inl rfl⟩
  · split at h
    · cases h
    · rename_i hskips
      cases h
      exact Or.inr ⟨rfl, (nomatch ·), hskips⟩
    · rename_i hignores
      cases h
      exact Or.inl ⟨rfl, Or.inr hignores⟩
  · cases h
  · cases h

/-- What has been deferred stays, and only the statement adds to it. -/
theorem Stmt.mem_goesOn {st : Stmt κ} {ds ds' : List (Deferred κ)} {r : CallOutcome ε}
    (h : st.next ds r = .goesOn ds') (d : Deferred κ) :
    (d ∈ ds → d ∈ ds') ∧ (d ∈ ds' → d ∈ st.defers ∨ d ∈ ds) := by
  rcases Stmt.next_goesOn h with ⟨rfl, -⟩ | ⟨rfl, -⟩
  · refine ⟨fun hd => List.mem_append_right _ hd, fun hd => ?_⟩
    exact (List.mem_append.1 hd).imp_left List.mem_reverse.1
  · exact ⟨id, Or.inr⟩

/-- A function is left with the process, by a panic, or by an error that it returns. -/
theorem Stmt.next_leaves {st : Stmt κ} {ds ds' : List (Deferred κ)} {r : CallOutcome ε} {x : Exit ε}
    (h : st.next ds r = .leaves x ds') :
    x = .died ∧ r = .dies ∨ x ≠ .died ∧ x ≠ .returned none ∧ ds' = ds ∧ r ≠ .ok ∧
      (r = .panics ∨ st.onError = .returns) := by
  unfold Stmt.next at h
  split at h
  · cases h
  · split at h
    · rename_i hreturns
      cases h
      exact Or.inr ⟨(nomatch ·), (nomatch ·), rfl, (nomatch ·), Or.inr hreturns⟩
    · cases h
    · cases h
  · cases h
    exact Or.inr ⟨(nomatch ·), (nomatch ·), rfl, (nomatch ·), Or.inl rfl⟩
  · cases h
    exact Or.inl ⟨rfl, rfl⟩

/-- The call that a deferred function makes. -/
def Deferred.made : Deferred κ → Exit ε → Option κ
  | .call c, _ => some c
  | .recovered c, .panicked => some c
  | .recovered _, _ => none

def Deferred.callee : Deferred κ → κ
  | .call c => c
  | .recovered c => c

theorem Deferred.made_eq_some {d : Deferred κ} {x : Exit ε} {c : κ} (h : d.made x = some c) : d.callee = c := by
  unfold Deferred.made at h
  split at h
  · exact Option.some.inj h
  · exact Option.some.inj h
  · cases h

/-- Only a function that recovers makes no call. -/
theorem Deferred.made_eq_none {d : Deferred κ} {x : Exit ε} (h : d.made x = none) : d = .recovered d.callee := by
  unfold Deferred.made at h
  split at h
  · cases h
  · cases h
  · rfl

/-- A deferred call may change how the function is left; its error is dropped. -/
def Exit.after (x : Exit ε) : CallOutcome ε → Exit ε
  | .panics => .panicked
  | .dies => .died
  | _ => x

section Semantics

variable (act : κ → σ → CallOutcome ε × σ)

/-- The function is left: what is deferred runs. -/
def unwind : List (Deferred κ) → Exit ε → σ → Exit ε × σ
  | [], x, s => (x, s)
  | d :: ds, x, s =>
    match x with
    | .died => (.died, s)
    | x =>
      match d.made x with
      | none => unwind ds x s
      | some c => unwind ds (x.after (act c s).1) (act c s).2

def body : List (Stmt κ) → List (Deferred κ) → σ → Exit ε × σ
  | [], ds, s => unwind act ds (.returned none) s
  | st :: rest, ds, s =>
    match st.next ds (act st.call s).1 with
    | .goesOn ds' => body rest ds' (act st.call s).2
    | .leaves x ds' => unwind act ds' x (act st.call s).2

/-- The function from its first call to where it is left. -/
def perform (calls : List (Stmt κ)) (s : σ) : Exit ε × σ := body act calls [] s

/-- What each call has to keep: `Body` before the calls that are left, `Leaving` before what is
deferred. -/
structure Rule (Body : List (Stmt κ) → List (Deferred κ) → σ → Prop)
    (Leaving : Exit ε → List (Deferred κ) → σ → Prop) : Prop where
  goesOn : ∀ {st rest ds s ds'}, Body (st :: rest) ds s → st.next ds (act st.call s).1 = .goesOn ds' →
    Body rest ds' (act st.call s).2
  leaves : ∀ {st rest ds s x ds'}, Body (st :: rest) ds s →
    st.next ds (act st.call s).1 = .leaves x ds' → Leaving x ds' (act st.call s).2
  finished : ∀ {ds s}, Body [] ds s → Leaving (.returned none) ds s
  made : ∀ {d ds x s c}, x ≠ .died → Leaving x (d :: ds) s → d.made x = some c →
    Leaving (x.after (act c s).1) ds (act c s).2
  passed : ∀ {d ds x s}, x ≠ .died → Leaving x (d :: ds) s → d.made x = none → Leaving x ds s
  died : ∀ {d ds s}, Leaving .died (d :: ds) s → Leaving .died [] s

variable {act} {Body : List (Stmt κ) → List (Deferred κ) → σ → Prop}
  {Leaving : Exit ε → List (Deferred κ) → σ → Prop}

theorem Rule.unwound (h : Rule act Body Leaving) (ds : List (Deferred κ)) {x : Exit ε} {s : σ}
    (hs : Leaving x ds s) : Leaving (unwind act ds x s).1 [] (unwind act ds x s).2 := by
  induction ds generalizing x s with
  | nil => exact hs
  | cons d ds ih =>
    unfold unwind
    split
    · exact h.died hs
    · rename_i hx
      split
      · rename_i hmade
        exact ih (h.passed hx hs hmade)
      · rename_i c hmade
        exact ih (h.made hx hs hmade)

theorem Rule.left_body (h : Rule act Body Leaving) (calls : List (Stmt κ)) {ds : List (Deferred κ)} {s : σ}
    (hs : Body calls ds s) : Leaving (body act calls ds s).1 [] (body act calls ds s).2 := by
  induction calls generalizing ds s with
  | nil => exact h.unwound ds (h.finished hs)
  | cons st rest ih =>
    unfold body
    split
    · rename_i ds' hnext
      exact ih (h.goesOn hs hnext)
    · rename_i x ds' hnext
      exact h.unwound ds' (h.leaves hs hnext)

/-- **The rule.** What holds before the first call, and is kept, holds when the function is left. -/
theorem Rule.left (h : Rule act Body Leaving) {calls : List (Stmt κ)} {s : σ} (hs : Body calls [] s) :
    Leaving (perform act calls s).1 [] (perform act calls s).2 :=
  h.left_body calls hs

end Semantics

/-! ## What is held -/

/-- What is held has a deferred call to come that gives it back. -/
def Covered (gives : κ → ρ → Prop) (held : ρ → Prop) (ds : List (Deferred κ)) : Prop :=
  ∀ r, held r → ∃ c, .call c ∈ ds ∧ gives c r

variable {gives : κ → ρ → Prop} {held held' : ρ → Prop} {ds : List (Deferred κ)}

theorem covered_nil (h : Covered gives held []) (r : ρ) : ¬ held r := by
  intro hr
  obtain ⟨c, hc, -⟩ := h r hr
  exact List.not_mem_nil hc

/-- A call that takes nothing which it does not defer to give back. -/
theorem Covered.taken (h : Covered gives held ds) (taken : List (Deferred κ))
    (hheld : ∀ r, held' r → held r ∨ ∃ c, .call c ∈ taken ∧ gives c r) :
    Covered gives held' (taken ++ ds) := by
  intro r hr
  rcases hheld r hr with hr | ⟨c, hc, hgives⟩
  · obtain ⟨c, hc, hgives⟩ := h r hr
    exact ⟨c, List.mem_append_right _ hc, hgives⟩
  · exact ⟨c, List.mem_append_left _ hc, hgives⟩

/-- A deferred call has been made, and has given back what it gives. -/
theorem Covered.made {d : Deferred κ} (h : Covered gives held (d :: ds))
    (hheld : ∀ r, held' r → held r ∧ ¬ gives d.callee r) : Covered gives held' ds := by
  intro r hr
  obtain ⟨hr, hno⟩ := hheld r hr
  obtain ⟨c, hc, hgives⟩ := h r hr
  rcases List.mem_cons.1 hc with rfl | hmem
  · exact absurd hgives hno
  · exact ⟨c, hmem, hgives⟩

/-- A deferred function that recovers gives nothing back, and has nothing to. -/
theorem Covered.passed {c : κ} (h : Covered gives held (.recovered c :: ds)) : Covered gives held ds := by
  intro r hr
  obtain ⟨c', hc', hgives⟩ := h r hr
  exact ⟨c', (List.mem_cons.1 hc').resolve_left (nomatch ·), hgives⟩

end Go
