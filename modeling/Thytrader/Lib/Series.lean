import Mathlib.Data.List.Forall2
import Mathlib.Data.Option.Basic

/-!
# Causal series transformers

A series is a list with one entry per bar, oldest first. A transformer is *causal* when it answers
one value per bar and the answers over a prefix are the prefix of the answers.

The loops that compute series come in three shapes, each causal for its own reason:

* `tabulate` computes entry `i` from the whole series by index; it is causal when what it
  reads at `i` lies at or before `i` (`Local`), as a trailing window does (`rolling`);
* `machine` carries a state along the series and emits one value per entry;
* `lag` delays a series by a number of bars.

Composition and entrywise combination keep causality.

Two series that share their stamps and agree on every entry whose stamp is settled
(`Matches`) stay so when a causal transformer is read beside them.
-/

namespace Thytrader.Lib

open List

variable {α β γ δ σ : Type}

/-- One answer per bar, and the answers over a prefix are the prefix of the answers. -/
structure Causal (f : List α → List β) : Prop where
  length_eq : ∀ xs, (f xs).length = xs.length
  take_eq : ∀ xs n, f (xs.take n) = (f xs).take n

namespace Causal

variable {f : List α → List β} {g : List α → List γ}

/-- Two inputs with a common prefix have answers with that common prefix. -/
theorem take_congr (hf : Causal f) {xs ys : List α} {n : Nat} (h : xs.take n = ys.take n) :
    (f xs).take n = (f ys).take n := by
  rw [← hf.take_eq, ← hf.take_eq, h]

/-- An answer inside a prefix can be read off the prefix. -/
theorem getElem?_take (hf : Causal f) (xs : List α) {n i : Nat} (h : i < n) :
    (f (xs.take n))[i]? = (f xs)[i]? := by
  rw [hf.take_eq, getElem?_take_of_lt h]

theorem id : Causal (fun xs : List α => xs) := ⟨fun _ => rfl, fun _ _ => rfl⟩

theorem map (h : α → β) : Causal (List.map h) :=
  ⟨fun xs => by simp, fun xs n => by rw [map_take]⟩

theorem comp {h : List β → List δ} (hh : Causal h) (hf : Causal f) :
    Causal (fun xs => h (f xs)) :=
  ⟨fun xs => by rw [hh.length_eq, hf.length_eq], fun xs n => by rw [hf.take_eq, hh.take_eq]⟩

theorem zipWith (op : β → γ → δ) (hf : Causal f) (hg : Causal g) :
    Causal (fun xs => List.zipWith op (f xs) (g xs)) :=
  ⟨fun xs => by rw [length_zipWith, hf.length_eq, hg.length_eq, Nat.min_self],
    fun xs n => by rw [hf.take_eq, hg.take_eq, take_zipWith]⟩

theorem zip (hf : Causal f) (hg : Causal g) : Causal (fun xs => (f xs).zip (g xs)) :=
  zipWith Prod.mk hf hg

end Causal

/-! ## Tables -/

/-- `for index in range(len(xs))`: entry `i` computed from the whole series. -/
def tabulate (entry : List α → Nat → β) (xs : List α) : List β :=
  (List.range xs.length).map (entry xs)

/-- An entry that reads nothing after its own bar. -/
def Local (entry : List α → Nat → β) : Prop :=
  ∀ xs n i, i < n → entry (xs.take n) i = entry xs i

theorem causal_tabulate {entry : List α → Nat → β} (h : Local entry) : Causal (tabulate entry) := by
  refine ⟨fun xs => by simp [tabulate], ?_⟩
  intro xs n
  unfold tabulate
  rw [← map_take, take_range, length_take]
  apply map_congr_left
  intro i hi
  exact h xs n i (by have := mem_range.mp hi; omega)

/-- `xs[start:stop]`. -/
def slice (xs : List α) (start stop : Nat) : List α := (xs.take stop).drop start

theorem slice_take (xs : List α) {start stop n : Nat} (h : stop ≤ n) :
    slice (xs.take n) start stop = slice xs start stop := by
  rw [slice, slice, take_take, Nat.min_eq_left h]

/-- The trailing window of `period` entries at each bar; undefined until it is full. -/
def rolling (period : Nat) (answer : List α → Option β) : List α → List (Option β) :=
  tabulate (fun xs index =>
    if index + 1 < period then none else answer (slice xs (index + 1 - period) (index + 1)))

theorem causal_rolling (period : Nat) (answer : List α → Option β) :
    Causal (rolling period answer) := by
  apply causal_tabulate
  intro xs n i hi
  simp only [slice_take xs (show i + 1 ≤ n from hi)]

/-! ## Machines -/

/-- A loop that carries a state along the series and emits one value per entry. -/
def machine (step : σ → α → σ × β) : σ → List α → List β
  | _, [] => []
  | state, x :: xs => (step state x).2 :: machine step (step state x).1 xs

variable (step : σ → α → σ × β)

theorem machine_take (state : σ) (xs : List α) (n : Nat) :
    machine step state (xs.take n) = (machine step state xs).take n := by
  induction xs generalizing state n with
  | nil => simp [machine]
  | cons _ _ ih =>
    cases n with
    | zero => simp [machine]
    | succ => rw [take_succ_cons, machine, ih, machine, take_succ_cons]

theorem causal_machine (state : σ) : Causal (machine step state) := by
  refine ⟨?_, machine_take step state⟩
  intro xs
  induction xs generalizing state with
  | nil => rfl
  | cons _ _ ih => rw [machine, length_cons, ih, length_cons]

/-- Each entry together with the one before it, if there is one. -/
def withPrevious (answer : Option α → α → β) : List α → List β :=
  machine (fun previous x => (some x, answer previous x)) none

theorem causal_withPrevious (answer : Option α → α → β) : Causal (withPrevious answer) :=
  causal_machine _ _

/-! ## Delays -/

/-- The series delayed by `bars`: a filler first, then the entries that still fit. -/
def lag (bars : Nat) (filler : α) (xs : List α) : List α :=
  List.replicate (min bars xs.length) filler ++ xs.take (xs.length - min bars xs.length)

theorem causal_lag (bars : Nat) (filler : α) : Causal (lag bars filler) := by
  constructor
  · intro xs
    simp only [lag, length_append, length_replicate, length_take]
    omega
  · intro xs n
    simp only [lag, take_append, take_replicate, take_take, length_take, length_replicate]
    congr 2 <;> omega

/-! ## Two series up to a cut -/

variable {τ : Type} {stamp : α → τ} {settled : τ → Prop} {xs ys : List α}

def Matches (stamp : α → τ) (settled : τ → Prop) : List α → List α → Prop :=
  List.Forall₂ (fun x y => stamp x = stamp y ∧ (settled (stamp x) → x = y))

theorem matches_of_stamps (hstamps : xs.map stamp = ys.map stamp)
    (hentries : ∀ x ∈ xs, ∀ y ∈ ys, stamp x = stamp y → settled (stamp x) → x = y) :
    Matches stamp settled xs ys := by
  induction xs generalizing ys with
  | nil =>
    cases ys with
    | nil => exact .nil
    | cons => simp at hstamps
  | cons x _ ih =>
    cases ys with
    | nil => simp at hstamps
    | cons y =>
      rw [map_cons, map_cons, List.cons.injEq] at hstamps
      refine .cons ⟨hstamps.1, hentries x (by simp) y (by simp) hstamps.1⟩ (ih hstamps.2 ?_)
      intro x' hx' y' hy'
      exact hentries x' (by simp [hx']) y' (by simp [hy'])

namespace Matches

theorem filter_eq [DecidablePred settled] (h : Matches stamp settled xs ys) :
    xs.filter (fun x => settled (stamp x)) = ys.filter (fun y => settled (stamp y)) := by
  induction h with
  | nil => rfl
  | @cons x y xs ys hentry _ ih =>
    by_cases hsettled : settled (stamp x)
    · obtain rfl := hentry.2 hsettled
      rw [filter_cons_of_pos (by simpa using hsettled),
        filter_cons_of_pos (by simpa using hsettled), ih]
    · have hother : ¬ settled (stamp y) := hentry.1 ▸ hsettled
      rw [filter_cons_of_neg (by simpa using hsettled),
        filter_cons_of_neg (by simpa using hother), ih]

theorem take_eq (h : Matches stamp settled xs ys) {n : Nat}
    (hsettled : ∀ x ∈ xs.take n, settled (stamp x)) : xs.take n = ys.take n := by
  induction h generalizing n with
  | nil => rfl
  | @cons x y xs ys hentry _ ih =>
    cases n with
    | zero => rfl
    | succ =>
      obtain rfl := hentry.2 (hsettled x (by simp))
      rw [take_succ_cons, take_succ_cons, ih (fun x' hx' => hsettled x' (by simp [hx']))]

/-- A causal transformer read beside matching series leaves them matching, when no
settled stamp comes after an unsettled one. -/
theorem zip_causal {f : List α → List β} (hf : Causal f)
    (hordered : (xs.map stamp).Pairwise (fun a b => settled b → settled a))
    (h : Matches stamp settled xs ys) :
    Matches (fun entry => stamp entry.1) settled (xs.zip (f xs)) (ys.zip (f ys)) := by
  have hlength := h.length_eq
  have hxs := hf.length_eq xs
  have hys := hf.length_eq ys
  have hentries := (forall₂_iff_get.mp h).2
  refine forall₂_iff_get.mpr ⟨by simp [hxs, hys, hlength], ?_⟩
  intro i hi hi'
  have hlt : i < xs.length := by simp only [length_zip] at hi; omega
  have hlt' : i < ys.length := by omega
  simp only [get_eq_getElem, getElem_zip]
  refine ⟨(hentries i hlt hlt').1, ?_⟩
  intro hsettled
  -- every entry up to `i` is settled, so the answers there come from one common prefix
  have hprefix : xs.take (i + 1) = ys.take (i + 1) := by
    apply h.take_eq
    intro x hx
    obtain ⟨j, hj, rfl⟩ := mem_iff_getElem.mp hx
    rw [getElem_take]
    rw [length_take] at hj
    by_cases hji : j = i
    · subst hji
      exact hsettled
    · have hpair := pairwise_iff_getElem.mp hordered j i (by simp; omega) (by simpa using hlt)
        (by omega)
      simp only [getElem_map] at hpair
      exact hpair hsettled
  have hanswers := hf.take_congr hprefix
  have hanswer : (f xs)[i]? = (f ys)[i]? := by
    rw [← getElem?_take_of_lt (show i < i + 1 by omega), hanswers,
      getElem?_take_of_lt (show i < i + 1 by omega)]
  rw [getElem?_eq_getElem (by omega), getElem?_eq_getElem (by omega)] at hanswer
  exact Prod.ext ((hentries i hlt hlt').2 hsettled) (Option.some.inj hanswer)

end Matches

end Thytrader.Lib
