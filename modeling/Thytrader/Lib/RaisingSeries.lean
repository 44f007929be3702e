import Thytrader.Lib.PartialSeries

/-!
# Series loops that may raise

The loops of `Lib.Series` with a body that may raise: a trailing window, an entrywise
combination and a carried state. A loop that raises nowhere returns what the plain loop
computes, so that a computation is free of errors when each of its bodies is, on the
entries it is really run at.
-/

namespace Thytrader.Lib

variable {α β γ σ ε : Type}

theorem ok_bind (x : α) (f : α → Except ε β) : (Except.ok x >>= f) = f x := rfl

variable {xs : List α}

theorem mapM_eq_map {fM : α → Except ε β} {f : α → β}
    (h : ∀ x ∈ xs, fM x = .ok (f x)) : xs.mapM fM = .ok (xs.map f) := by
  induction xs with
  | nil => rfl
  | cons x _ ih =>
    rw [List.mapM_cons, h x (by simp), ih (fun other hother => h other (by simp [hother]))]
    rfl

/-- `rolling` with an answer that may raise. -/
def rollingM (period : Nat) (answer : List α → Except ε (Option β)) (xs : List α) :
    Except ε (List (Option β)) :=
  (List.range xs.length).mapM (fun index =>
    if index + 1 < period then .ok none
    else answer (slice xs (index + 1 - period) (index + 1)))

/-- Only full windows of the series are answered. -/
theorem rollingM_eq {period : Nat} {answerM : List α → Except ε (Option β)}
    {answer : List α → Option β}
    (h : ∀ window, window.length = period → (∀ x ∈ window, x ∈ xs) → answerM window = .ok (answer
      window)) :
    rollingM period answerM xs = .ok (rolling period answer xs) := by
  refine mapM_eq_map ?_
  intro index hindex
  by_cases hshort : index + 1 < period
  · simp only [if_pos hshort]
  · simp only [if_neg hshort]
    refine h _ (window_length period (List.mem_range.mp hindex) (by omega)) ?_
    intro x hx
    exact mem_of_mem_window hx

/-- `List.zipWith` with an operation that may raise. -/
def combineM (op : α → β → Except ε γ) (xs : List α) (ys : List β) : Except ε (List γ) :=
  (xs.zip ys).mapM (fun row => op row.1 row.2)

theorem combineM_eq {opM : α → β → Except ε γ} {op : α → β → γ} {ys : List β}
    (h : ∀ x ∈ xs, ∀ y ∈ ys, opM x y = .ok (op x y)) :
    combineM opM xs ys = .ok (List.zipWith op xs ys) := by
  have hzip : List.zipWith op xs ys = (xs.zip ys).map (fun row => op row.1 row.2) := by
    rw [List.zip, List.map_zipWith]
  rw [hzip]
  refine mapM_eq_map ?_
  intro row hrow
  obtain ⟨hx, hy⟩ := List.of_mem_zip hrow
  exact h row.1 hx row.2 hy

/-- `machine` with a step that may raise. -/
def machineM (step : σ → α → Except ε (σ × β)) : σ → List α → Except ε (List β)
  | _, [] => .ok []
  | state, x :: xs => do
    let next ← step state x
    let rest ← machineM step next.1 xs
    return next.2 :: rest

section

variable {stepM : σ → α → Except ε (σ × β)} {step : σ → α → σ × β}

/-- The step is run only at the states the loop reaches, which keep an invariant. -/
theorem machineM_eq (Inv : σ → Prop) {state : σ} (hstate : Inv state)
    (h : ∀ state x, Inv state → x ∈ xs → stepM state x = .ok (step state x) ∧ Inv (step state x).1) :
    machineM stepM state xs = .ok (machine step state xs) := by
  induction xs generalizing state with
  | nil => rfl
  | cons x _ ih =>
    obtain ⟨hrun, hnext⟩ := h state x hstate (by simp)
    have hrest := ih hnext (fun state other hinv hother => h state other hinv (by simp [hother]))
    rw [machineM, hrun, ok_bind, hrest, ok_bind]
    rfl

/-- A step that raises nowhere needs no invariant. -/
theorem machineM_eq_of_forall
    (h : ∀ state x, stepM state x = .ok (step state x)) (state : σ) (xs : List α) :
    machineM stepM state xs = .ok (machine step state xs) :=
  machineM_eq (fun _ => True) trivial (fun state x _ _ => ⟨h state x, trivial⟩)

end

/-- `withPrevious` with an answer that may raise. -/
def withPreviousM (answer : Option α → α → Except ε β) : List α → Except ε (List β) :=
  machineM (fun previous x => return (some x, ← answer previous x)) none

theorem withPreviousM_eq {answerM : Option α → α → Except ε β} {answer : Option α → α → β}
    (h : ∀ previous x, answerM previous x = .ok (answer previous x)) (xs : List α) :
    withPreviousM answerM xs = .ok (withPrevious answer xs) := by
  refine machineM_eq_of_forall ?_ none xs
  intro previous x
  rw [h, ok_bind]
  rfl

end Thytrader.Lib
