import Mathlib.Data.Int.ConditionallyCompleteOrder
import Mathlib.Data.List.Chain
import Mathlib.Tactic.Linarith
import Mathlib.Tactic.Ring

/-!
# The open spans of a covered range

Bars of one step at increasing stamps on the grid of a half-open range, and the maximal spans
they leave open: bars and spans tile the range, and the open grid points are found in order.
-/

namespace Thytrader.Lib

open List

/-- The spans before, between and after the bars at the stamps. -/
def openSpans (step stop : ℤ) : ℤ → List ℤ → List (ℤ × ℤ)
  | start, [] => if start < stop then [(start, stop)] else []
  | start, x :: xs =>
    if start < x then (start, x) :: openSpans step stop (x + step) xs
    else openSpans step stop (x + step) xs

/-- Increasing stamps whose bars lie on the grid of a range. -/
structure OnGrid (step start stop : ℤ) (xs : List ℤ) : Prop where
  ordered : xs.Pairwise (· < ·)
  within : ∀ x ∈ xs, start ≤ x ∧ x + step ≤ stop ∧ step ∣ x - start

/-- The grid points of a range without a bar. -/
def openPoints (step start stop : ℤ) (xs : List ℤ) : Set ℤ :=
  {t | start ≤ t ∧ t < stop ∧ step ∣ t - start ∧ t ∉ xs}

/-- The first instant at or after a cut inside one of the spans. -/
def firstFrom (cut : ℤ) (spans : List (ℤ × ℤ)) : Option ℤ :=
  spans.findSome? fun span => if max span.1 cut < span.2 then some (max span.1 cut) else none

variable {step start stop : ℤ} {x : ℤ} {xs : List ℤ}

theorem dvd_sub_next (hx : step ∣ x - start) (t : ℤ) :
    step ∣ t - (x + step) ↔ step ∣ t - start := by
  have hsplit : t - start = t - (x + step) + (x - start + step) := by ring
  rw [hsplit, Int.dvd_add_left (Int.dvd_add hx (Int.dvd_refl step))]

theorem OnGrid.next_le (h : OnGrid step start stop (x :: xs)) {t : ℤ} (hgrid : step ∣ t - start)
    (ht : x < t) : x + step ≤ t := by
  have hdvd := Int.dvd_sub hgrid (h.within x (by simp)).2.2
  rw [sub_sub_sub_cancel_right] at hdvd
  have := Int.le_of_dvd (sub_pos.mpr ht) hdvd
  omega

theorem OnGrid.tail (h : OnGrid step start stop (x :: xs)) : OnGrid step (x + step) stop xs := by
  refine ⟨h.ordered.of_cons, fun y hy => ?_⟩
  obtain ⟨-, hstop, hgrid⟩ := h.within y (by simp [hy])
  have hle := h.next_le hgrid (rel_of_pairwise_cons h.ordered hy)
  exact ⟨hle, hstop, (dvd_sub_next (h.within x (by simp)).2.2 y).mpr hgrid⟩

/-- Every instant of the range lies in one bar or one open span, never in both or in two. -/
theorem countP_openSpans (hstep : 0 < step) (hrange : start ≤ stop)
    (h : OnGrid step start stop xs) (t : ℤ) :
    xs.countP (fun x => x ≤ t ∧ t < x + step) +
        (openSpans step stop start xs).countP (fun span => span.1 ≤ t ∧ t < span.2) =
      if start ≤ t ∧ t < stop then 1 else 0 := by
  induction xs generalizing start with
  | nil =>
    unfold openSpans
    split <;> simp
    omega
  | cons x xs ih =>
    obtain ⟨hstart, hstop, -⟩ := h.within x (by simp)
    have hrest := ih hstop h.tail
    unfold openSpans
    split <;> simp only [countP_cons, decide_eq_true_eq] <;> split_ifs at hrest ⊢ <;> omega

theorem openSpans_within (hstep : 0 < step) (hgrid : step ∣ stop - start)
    (h : OnGrid step start stop xs) {span : ℤ × ℤ} (hspan : span ∈ openSpans step stop start xs) :
    start ≤ span.1 ∧ span.1 < span.2 ∧ span.2 ≤ stop ∧
      step ∣ span.1 - start ∧ step ∣ span.2 - start := by
  induction xs generalizing start with
  | nil =>
    simp only [openSpans, mem_ite_nil_right, mem_singleton] at hspan
    obtain ⟨hrange, rfl⟩ := hspan
    exact ⟨le_rfl, hrange, le_rfl, by simp, hgrid⟩
  | cons x xs ih =>
    obtain ⟨hstart, hstop, hx⟩ := h.within x (by simp)
    have hcases : span = (start, x) ∧ start < x ∨ span ∈ openSpans step stop (x + step) xs := by
      unfold openSpans at hspan
      split at hspan
      next hlt => exact (mem_cons.mp hspan).imp_left fun h => ⟨h, hlt⟩
      · exact .inr hspan
    obtain ⟨rfl, hlt⟩ | hlater := hcases
    · exact ⟨le_rfl, hlt, by linarith, by simp, hx⟩
    · obtain ⟨hfrom, hlt, hto, hopen, hclose⟩ :=
        ih ((dvd_sub_next hx stop).mpr hgrid) h.tail hlater
      rw [dvd_sub_next hx] at hopen hclose
      exact ⟨by linarith, hlt, hto, hopen, hclose⟩

theorem OnGrid.length_le (hrange : start ≤ stop)
    (h : OnGrid step start stop xs) : xs.length * step ≤ stop - start := by
  induction xs generalizing start with
  | nil => simpa using hrange
  | cons x xs ih =>
    obtain ⟨hstart, hstop, -⟩ := h.within x (by simp)
    have := ih hstop h.tail
    push_cast [length_cons]
    linarith

theorem openSpans_eq_nil_iff (hrange : start ≤ stop)
    (h : OnGrid step start stop xs) :
    openSpans step stop start xs = [] ↔ xs.length * step = stop - start := by
  induction xs generalizing start with
  | nil =>
    simp only [openSpans]
    split <;> simp <;> omega
  | cons x xs ih =>
    obtain ⟨hstart, hstop, -⟩ := h.within x (by simp)
    have hlength := h.tail.length_le hstop
    have hrest := ih hstop h.tail
    simp only [openSpans]
    push_cast [length_cons]
    rw [add_mul, one_mul]
    split
    · simp
      omega
    · rw [hrest]
      omega

theorem isChain_of_openSpans (h : OnGrid step start stop xs)
    (hnone : openSpans step stop start xs = []) : xs.IsChain (fun a b => b = a + step) := by
  induction xs generalizing start with
  | nil => exact .nil
  | cons x xs ih =>
    have hrest : openSpans step stop (x + step) xs = [] := by
      unfold openSpans at hnone
      split at hnone
      · cases hnone
      · exact hnone
    refine isChain_cons.mpr ⟨fun y hy => ?_, ih h.tail hrest⟩
    obtain ⟨ys, rfl⟩ := head?_eq_some_iff.mp hy
    have hle := (h.tail.within y (by simp)).1
    unfold openSpans at hrest
    split at hrest
    · cases hrest
    · omega

/-! ## The first open point -/

theorem mem_openPoints_cons (hstep : 0 < step) (h : OnGrid step start stop (x :: xs)) (t : ℤ) :
    t ∈ openPoints step start stop (x :: xs) ↔
      (start ≤ t ∧ t < x ∧ step ∣ t - start) ∨ t ∈ openPoints step (x + step) stop xs := by
  obtain ⟨hstart, hstop, hx⟩ := h.within x (by simp)
  simp only [openPoints, Set.mem_ofPred_eq, mem_cons, not_or, dvd_sub_next hx]
  constructor
  · rintro ⟨hfrom, hto, hgrid, hne, hopen⟩
    obtain hlt | hlt := lt_or_gt_of_ne hne
    · exact .inl ⟨hfrom, hlt, hgrid⟩
    · exact .inr ⟨h.next_le hgrid hlt, hto, hgrid, hopen⟩
  · rintro (⟨hfrom, hlt, hgrid⟩ | ⟨hfrom, hto, hgrid, hopen⟩)
    · refine ⟨hfrom, by omega, hgrid, hlt.ne, fun hmem => ?_⟩
      exact absurd (rel_of_pairwise_cons h.ordered hmem) hlt.not_gt
    · exact ⟨by omega, hto, hgrid, by omega, hopen⟩

theorem firstFrom_span (cut start next : ℤ) (later : List (ℤ × ℤ)) :
    firstFrom cut (if start < next then (start, next) :: later else later) =
      if max start cut < next then some (max start cut) else firstFrom cut later := by
  split
  · simp only [firstFrom, findSome?_cons]
    split_ifs <;> rfl
  next hclosed => rw [if_neg (fun h => hclosed ((le_max_left _ _).trans_lt h))]

/-- Where the grid points before `next` come first, a cut finds one of them or skips them. -/
theorem cut_points {points later : Set ℤ} {cut next : ℤ} (hlater : ∀ t ∈ later, next ≤ t)
    (hpoints : ∀ t, t ∈ points ↔ (start ≤ t ∧ t < next ∧ step ∣ t - start) ∨ t ∈ later)
    (hcut : step ∣ cut - start) :
    if max start cut < next then IsLeast (points ∩ Set.Ici cut) (max start cut)
    else points ∩ Set.Ici cut = later ∩ Set.Ici cut := by
  split
  next hnext =>
    have hgrid : step ∣ max start cut - start := by
      obtain hle | hle := max_choice start cut
      · simp [hle]
      · rwa [hle]
    refine ⟨⟨(hpoints _).mpr (.inl ⟨le_max_left _ _, hnext, hgrid⟩), le_max_right start cut⟩, ?_⟩
    rintro t ⟨ht, hle⟩
    obtain ⟨hstart, -⟩ | ht := (hpoints t).mp ht
    · exact max_le hstart hle
    · exact hnext.le.trans (hlater t ht)
  next hnext =>
    ext t
    rw [Set.mem_inter_iff, Set.mem_inter_iff, hpoints]
    refine and_congr_left fun hle => or_iff_right fun h => ?_
    exact hnext ((max_le h.1 hle).trans_lt h.2.1)

/-- The first open instant at or after a cut of the grid is the least open grid point there. -/
theorem firstFrom_openSpans (hstep : 0 < step) (h : OnGrid step start stop xs) {cut : ℤ}
    (hcut : step ∣ cut - start) :
    match firstFrom cut (openSpans step stop start xs) with
    | none => openPoints step start stop xs ∩ Set.Ici cut = ∅
    | some t => IsLeast (openPoints step start stop xs ∩ Set.Ici cut) t := by
  induction xs generalizing start with
  | nil =>
    have hempty (t : ℤ) : t ∈ openPoints step start stop [] ↔
        (start ≤ t ∧ t < stop ∧ step ∣ t - start) ∨ t ∈ (∅ : Set ℤ) := by
      simp [openPoints]
    have hpoints := cut_points (fun t ht => absurd ht (Set.notMem_empty t)) hempty hcut
    rw [openSpans, firstFrom_span]
    split at hpoints
    next hnext => rwa [if_pos hnext]
    next hnext =>
      rw [if_neg hnext]
      simpa [firstFrom] using hpoints
  | cons x xs ih =>
    obtain ⟨-, -, hx⟩ := h.within x (by simp)
    have hpoints := cut_points (fun t ht => (ht.1 : x + step ≤ t).trans' (by omega))
      (mem_openPoints_cons hstep h) hcut
    have hrest := ih h.tail ((dvd_sub_next hx cut).mpr hcut)
    rw [openSpans, firstFrom_span]
    split at hpoints
    next hnext => rwa [if_pos hnext]
    next hnext => rwa [if_neg hnext, hpoints]

end Thytrader.Lib
