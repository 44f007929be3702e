import Mathlib.Data.List.Chain
import Mathlib.Data.List.DropRight
import Mathlib.Data.List.Sort
import Mathlib.Tactic.Linarith
import Mathlib.Tactic.Ring

/-!
# Filling the gaps of a stamped sequence

A sequence of items with integer stamps, sampled on a grid of a positive step. Between
two consecutive items whose stamps are more than one step apart, `fillGaps` puts one
filler per missing grid point, each made from its stamp and the item before the gap.

Results come in two groups: how a filled sequence is cut and joined (`fillGaps_append`,
`filter_fillGaps`), and what it looks like on the grid (`mem_fillGaps`, `isChain_fillGaps`).
-/

namespace Thytrader.Lib

open List

/-- The grid points after `start` and before `stop`: how often `start + step`, `start + 2 *
step`, … stays below `stop`. -/
def missingCount (start stop step : ℤ) : ℕ := ((stop - start - 1) / step).toNat

variable {α : Type} (stamp : α → ℤ) (filler : ℤ → α → α) (step : ℤ)

/-- The fillers between an item and `stop`. -/
def fillers (previous : α) (stop : ℤ) : List α :=
  (List.range (missingCount (stamp previous) stop step)).map
    (fun i : ℕ => filler (stamp previous + (i + 1) * step) previous)

def fillAfter (previous : α) : List α → List α
  | [] => []
  | item :: rest => fillers stamp filler step previous (stamp item) ++ item :: fillAfter item rest

def fillGaps : List α → List α
  | [] => []
  | item :: rest => item :: fillAfter stamp filler step item rest

variable {stamp filler step}

/-! ## Cutting and joining -/

variable (previous : α)

theorem fillAfter_append (xs ys : List α) : fillAfter stamp filler step previous (xs ++ ys) =
      fillAfter stamp filler step previous xs ++
        fillAfter stamp filler step (xs.getLast?.getD previous) ys := by
  induction xs generalizing previous with
  | nil => rfl
  | cons x xs ih =>
    have hlast : (x :: xs).getLast?.getD previous = xs.getLast?.getD x := by
      cases xs with
      | nil => rfl
      | cons => simp [getLast?_eq_getLast_of_ne_nil]
    simp only [cons_append, fillAfter, ih, hlast, append_assoc]

variable {xs : List α}

/-- Joining: the second part is filled after the last item of the first. -/
theorem fillGaps_append {last : α} (hlast : xs.getLast? = some last) (ys : List α) :
    fillGaps stamp filler step (xs ++ ys) =
      fillGaps stamp filler step xs ++ fillAfter stamp filler step last ys := by
  cases xs with
  | nil => cases hlast
  | cons x xs =>
    have hlater : xs.getLast?.getD x = last := by
      cases xs with
      | nil => exact Option.some.inj hlast
      | cons =>
        rw [getLast?_cons_cons] at hlast
        rw [hlast]
        rfl
    simp only [cons_append, fillGaps, fillAfter_append, hlater]

theorem getLast?_fillAfter (xs : List α) :
    (previous :: fillAfter stamp filler step previous xs).getLast? = (previous :: xs).getLast? := by
  induction xs generalizing previous with
  | nil => rfl
  | cons x _ ih =>
    rw [getLast?_cons_cons, ← ih x]
    simp only [fillAfter]
    rw [← cons_append, getLast?_append_of_ne_nil _ (by simp)]

theorem getLast?_fillGaps (xs : List α) :
    (fillGaps stamp filler step xs).getLast? = xs.getLast? := by
  cases xs with
  | nil => rfl
  | cons x xs => exact getLast?_fillAfter x xs

/-! ## On the grid -/

theorem lt_missingCount_iff {start stop step : ℤ} (hstep : 0 < step) (i : ℕ) :
    i < missingCount start stop step ↔ start + (i + 1) * step < stop := by
  have hcast : i < missingCount start stop step ↔ (i : ℤ) + 1 ≤ (stop - start - 1) / step := by
    unfold missingCount
    omega
  rw [hcast, Int.le_ediv_iff_mul_le hstep]
  constructor <;> intro h <;> linarith

theorem mem_fillers (hstep : 0 < step) {previous x : α} {stop : ℤ} :
    x ∈ fillers stamp filler step previous stop ↔
      ∃ t, stamp previous < t ∧ t < stop ∧ step ∣ t - stamp previous ∧
        x = filler t previous := by
  simp only [fillers, mem_map, mem_range, lt_missingCount_iff hstep]
  constructor
  · rintro ⟨i, hi, rfl⟩
    have hpos : 0 < ((i : ℤ) + 1) * step := mul_pos (by positivity) hstep
    exact ⟨_, by linarith, hi, ⟨(i : ℤ) + 1, by ring⟩, rfl⟩
  · rintro ⟨t, hstart, hstop, ⟨k, hk⟩, rfl⟩
    have hk0 : 0 < k := by
      by_contra hneg
      have hle : step * k ≤ 0 := mul_nonpos_of_nonneg_of_nonpos hstep.le (not_lt.mp hneg)
      linarith
    have hcount : stamp previous + (((k - 1).toNat : ℤ) + 1) * step = t := by
      rw [Int.toNat_of_nonneg (by omega)]
      linarith
    exact ⟨(k - 1).toNat, by rw [hcount]; exact hstop, by rw [hcount]⟩

/-- An item of the filled sequence is an item, or a filler between two consecutive items. -/
theorem mem_fillAfter (hstep : 0 < step) {previous x : α}
    (hsorted : (previous :: xs).Pairwise (fun a b => stamp a < stamp b))
    (hx : x ∈ fillAfter stamp filler step previous xs) :
    x ∈ xs ∨ ∃ before ∈ previous :: xs, ∃ after ∈ xs, ∃ t, stamp before < t ∧ t < stamp after ∧
      step ∣ t - stamp before ∧ x = filler t before ∧
      ∀ y ∈ previous :: xs, stamp y ≤ stamp before ∨ stamp after ≤ stamp y := by
  induction xs generalizing previous with
  | nil => exact absurd hx (by simp [fillAfter])
  | cons item _ ih =>
    rw [pairwise_cons] at hsorted
    have hrest := pairwise_cons.mp hsorted.2
    simp only [fillAfter, mem_append, mem_cons] at hx
    rcases hx with hfiller | rfl | hlater
    · obtain ⟨t, hstart, hstop, hgrid, rfl⟩ := (mem_fillers hstep).mp hfiller
      refine .inr ⟨previous, by simp, item, by simp, t, hstart, hstop, hgrid, rfl, ?_⟩
      intro y hy
      rcases mem_cons.mp hy with rfl | hy
      · exact .inl le_rfl
      · rcases mem_cons.mp hy with rfl | hy
        · exact .inr le_rfl
        · exact .inr (hrest.1 y hy).le
    · exact .inl (by simp)
    · rcases ih hsorted.2 hlater with hmem | ⟨before, hbefore, after, hafter, t, h⟩
      · exact .inl (by simp [hmem])
      · obtain ⟨hstart, hstop, hgrid, hx, hnearest⟩ := h
        refine .inr ⟨before, by simp [hbefore], after, by simp [hafter], t, hstart, hstop, hgrid,
          hx, ?_⟩
        intro y hy
        rcases mem_cons.mp hy with rfl | hy
        · refine .inl ?_
          rcases mem_cons.mp hbefore with rfl | hbefore
          · exact (hsorted.1 _ (by simp)).le
          · exact (hsorted.1 _ (by simp [hbefore])).le
        · exact hnearest y hy

variable {xs : List α}

theorem mem_fillGaps (hstep : 0 < step) {x : α}
    (hsorted : xs.Pairwise (fun a b => stamp a < stamp b))
    (hx : x ∈ fillGaps stamp filler step xs) :
    x ∈ xs ∨ ∃ before ∈ xs, ∃ after ∈ xs, ∃ t, stamp before < t ∧ t < stamp after ∧
      step ∣ t - stamp before ∧ x = filler t before ∧
      ∀ y ∈ xs, stamp y ≤ stamp before ∨ stamp after ≤ stamp y := by
  cases xs with
  | nil => exact absurd hx (by simp [fillGaps])
  | cons =>
    rcases mem_cons.mp hx with rfl | hx
    · exact .inl (by simp)
    · rcases mem_fillAfter hstep hsorted hx with hmem | ⟨before, hbefore, after, hafter, h⟩
      · exact .inl (by simp [hmem])
      · exact .inr ⟨before, hbefore, after, by simp [hafter], h⟩

theorem subset_fillAfter (xs : List α) : xs ⊆ fillAfter stamp filler step previous xs := by
  induction xs generalizing previous with
  | nil => simp
  | cons x _ ih =>
    simp only [fillAfter]
    intro y hy
    rcases mem_cons.mp hy with rfl | hy
    · simp
    · have := ih x hy
      simp [this]

theorem subset_fillGaps (xs : List α) : xs ⊆ fillGaps stamp filler step xs := by
  cases xs with
  | nil => simp
  | cons x xs => exact cons_subset_cons x (subset_fillAfter x xs)

section

variable (hstep : 0 < step) (hstamp : ∀ t x, stamp (filler t x) = t)

include hstep hstamp in
theorem pairwise_fillers (previous : α) (stop : ℤ) :
    (fillers stamp filler step previous stop).Pairwise (fun a b => stamp a < stamp b) := by
  rw [fillers, pairwise_map]
  refine (pairwise_lt_range).imp (fun {i j} hij => ?_)
  have hcast : (i : ℤ) + 1 < j + 1 := by exact_mod_cast Nat.succ_lt_succ hij
  have := mul_lt_mul_of_pos_right hcast hstep
  simp only [hstamp]
  linarith

include hstep hstamp in
theorem pairwise_fillAfter {previous : α}
    (hsorted : (previous :: xs).Pairwise (fun a b => stamp a < stamp b)) :
    (previous :: fillAfter stamp filler step previous xs).Pairwise
      (fun a b => stamp a < stamp b) := by
  induction xs generalizing previous with
  | nil => simp [fillAfter]
  | cons item rest ih =>
    rw [pairwise_cons] at hsorted
    have hitem : stamp previous < stamp item := hsorted.1 item (by simp)
    have hrest := ih hsorted.2
    have hlater : ∀ x ∈ item :: fillAfter stamp filler step item rest, stamp item ≤ stamp x := by
      intro x hx
      rcases mem_cons.mp hx with rfl | hx
      · exact le_rfl
      · exact ((pairwise_cons.mp hrest).1 x hx).le
    have hfiller : ∀ x ∈ fillers stamp filler step previous (stamp item),
        stamp previous < stamp x ∧ stamp x < stamp item := by
      intro x hx
      obtain ⟨t, hstart, hstop, -, rfl⟩ := (mem_fillers hstep).mp hx
      rw [hstamp]
      exact ⟨hstart, hstop⟩
    rw [fillAfter, pairwise_cons, pairwise_append]
    refine ⟨?_, pairwise_fillers hstep hstamp _ _, hrest, ?_⟩
    · intro x hx
      rcases mem_append.mp hx with hx | hx
      · exact (hfiller x hx).1
      · exact hitem.trans_le (hlater x hx)
    · intro x hx y hy
      exact (hfiller x hx).2.trans_le (hlater y hy)

include hstep hstamp in
theorem pairwise_fillGaps (hsorted : xs.Pairwise (fun a b => stamp a < stamp b)) :
    (fillGaps stamp filler step xs).Pairwise (fun a b => stamp a < stamp b) := by
  cases xs with
  | nil => exact List.Pairwise.nil
  | cons => exact pairwise_fillAfter hstep hstamp hsorted

end

/-! ## Cutting at a stamp -/

theorem rdropWhile_append_of_all {p : α → Bool} (xs : List α) {ys : List α}
    (h : ∀ y ∈ ys, p y = true) : (xs ++ ys).rdropWhile p = xs.rdropWhile p := by
  induction ys using List.reverseRecOn with
  | nil => simp
  | append_singleton _ y ih =>
    rw [← append_assoc, rdropWhile_concat_pos _ _ _ (h y (by simp))]
    exact ih (fun z hz => h z (by simp [hz]))

/-- A filled sequence, cut at a stamp and without the fillers at its end, is the filled sequence of
the items before the cut. -/
theorem rdropWhile_filter_fillGaps (hstep : 0 < step) (hstamp : ∀ t x, stamp (filler t x) = t)
    {isFiller : α → Bool} (hfiller : ∀ t x, isFiller (filler t x) = true) {early late : List α}
    {cut : ℤ} (hreal : ∀ x ∈ early, isFiller x = false)
    (hsorted : (early ++ late).Pairwise (fun a b => stamp a < stamp b))
    (hearly : ∀ x ∈ early, stamp x < cut) (hlate : ∀ x ∈ late, cut ≤ stamp x) :
    ((fillGaps stamp filler step (early ++ late)).filter (fun x => stamp x < cut)).rdropWhile
      isFiller = fillGaps stamp filler step early := by
  have hbefore : ∀ x ∈ fillGaps stamp filler step early, stamp x < cut := by
    intro x hx
    rcases mem_fillGaps hstep (pairwise_append.mp hsorted).1 hx with hx | hx
    · exact hearly x hx
    · obtain ⟨-, -, after, hafter, t, -, hstop, -, rfl, -⟩ := hx
      rw [hstamp]
      exact hstop.trans (hearly after hafter)
  cases hlast : early.getLast? with
  | none =>
    obtain rfl : early = [] := getLast?_eq_none_iff.mp hlast
    have hnone : (fillGaps stamp filler step late).filter (fun x => stamp x < cut) = [] := by
      rw [filter_eq_nil_iff]
      intro x hx
      rcases mem_fillGaps hstep hsorted hx with hx | hx
      · simpa using hlate x hx
      · obtain ⟨before, hbefore, -, -, t, hstart, -, -, rfl, -⟩ := hx
        have := hlate before hbefore
        simp only [hstamp, decide_eq_true_eq, not_lt]
        linarith
    rw [nil_append, hnone]
    rfl
  | some last =>
    have hmem : last ∈ early := mem_of_getLast? hlast
    have htail : ∀ x ∈ (fillAfter stamp filler step last late).filter (fun x => stamp x < cut),
        isFiller x = true := by
      intro x hx
      obtain ⟨hx, hcut⟩ := mem_filter.mp hx
      have hsuffix : (last :: late).Pairwise (fun a b => stamp a < stamp b) := by
        rw [pairwise_cons]
        exact ⟨fun y hy => (pairwise_append.mp hsorted).2.2 last hmem y hy,
          (pairwise_append.mp hsorted).2.1⟩
      rcases mem_fillAfter hstep hsuffix hx with hx | ⟨-, -, -, -, t, -, -, -, rfl, -⟩
      · exact absurd (hlate x hx) (not_le.mpr (by simpa using hcut))
      · exact hfiller t _
    rw [fillGaps_append hlast, filter_append, rdropWhile_append_of_all _ htail,
      filter_eq_self.mpr (by simpa using hbefore), rdropWhile_eq_self_iff]
    intro hne
    -- the last item kept is an item of the sequence, not a filler
    have hkept : (fillGaps stamp filler step early).getLast? = some last := by
      rw [getLast?_fillGaps, hlast]
    rw [getLast?_eq_getLast_of_ne_nil hne] at hkept
    rw [Option.some.inj hkept, hreal last hmem]
    simp

end Thytrader.Lib
