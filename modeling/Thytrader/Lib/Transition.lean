import Mathlib.Logic.Relation

/-!
# Transition systems and invariants

A system is an initial predicate and a labelled step relation. `Reachable` is the least set of
states closed under steps, `Run` a finite run with its label list. An inductive invariant holds in
every reachable state (`Reachable.invariant`) and along every run (`Run.invariant`).
-/

namespace Thytrader.Lib

variable {σ ε : Type}

/-- The states reachable from an initial state by labelled steps. -/
inductive Reachable (init : σ → Prop) (step : σ → ε → σ → Prop) : σ → Prop where
  | start {s : σ} (h : init s) : Reachable init step s
  | next {s t : σ} {e : ε} (h : Reachable init step s) (hstep : step s e t) : Reachable init step t

variable (inv : σ → Prop) {step : σ → ε → σ → Prop}

/-- An inductive invariant holds in every reachable state. -/
theorem Reachable.invariant {init : σ → Prop} (hinit : ∀ s, init s → inv s)
    (hstep : ∀ s e t, inv s → step s e t → inv t) {s : σ} (h : Reachable init step s) : inv s := by
  induction h with
  | start h => exact hinit _ h
  | next _ hs ih => exact hstep _ _ _ ih hs

/-- Replaying events with a partial function that takes steps reaches the last state. -/
theorem Reachable.replay {init : σ → Prop} {play : σ → ε → Option σ}
    (hplay : ∀ {s e t}, play s e = some t → step s e t) {s t : σ} {es : List ε}
    (h : Reachable init step s) (hrun : es.foldlM play s = some t) : Reachable init step t := by
  induction es generalizing s with
  | nil =>
    cases hrun
    exact h
  | cons _ _ ih =>
    obtain ⟨next, hnext, hrest⟩ := Option.bind_eq_some_iff.mp hrun
    exact ih (h.next (hplay hnext)) hrest

/-- A finite run: the labels taken from `s` to `t`, in order. -/
inductive Run (step : σ → ε → σ → Prop) : σ → List ε → σ → Prop where
  | nil (s : σ) : Run step s [] s
  | cons {s t u : σ} {e : ε} {es : List ε} (hstep : step s e t) (hrest : Run step t es u) :
      Run step s (e :: es) u

theorem Reachable.run {init : σ → Prop} {s t : σ} {es : List ε} (h : Reachable init step s)
    (hrun : Run step s es t) : Reachable init step t := by
  induction hrun with
  | nil => exact h
  | cons hfirst _ ih => exact ih (h.next hfirst)

theorem Run.invariant (hstep : ∀ s e t, inv s → step s e t → inv t) {s t : σ} {es : List ε}
    (h : Run step s es t) (hs : inv s) : inv t := by
  induction h with
  | nil => exact hs
  | cons hfirst _ ih => exact ih (hstep _ _ _ hs hfirst)

/-- The labels meet a check in the states they lead through. -/
def Along (check : σ → ε → Bool) (next : σ → ε → σ) : σ → List ε → Bool
  | _, [] => true
  | s, e :: es => check s e && Along check next (next s e) es

theorem Run.of_along {check : σ → ε → Bool} {next : σ → ε → σ}
    (hstep : ∀ s e, check s e = true → step s e (next s e)) {s : σ} {es : List ε}
    (h : Along check next s es = true) : Run step s es (es.foldl next s) := by
  induction es generalizing s with
  | nil => exact .nil s
  | cons e _ ih =>
    obtain ⟨hcheck, hrest⟩ := (Bool.and_eq_true _ _).mp h
    exact .cons (hstep s e hcheck) (ih hrest)

end Thytrader.Lib
