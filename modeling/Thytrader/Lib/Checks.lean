import Mathlib.Algebra.Order.BigOperators.Group.List
import Mathlib.Data.List.Dedup

/-!
# Checks in sequence

A gate asks one check after another and stops at the first objection; it passes
exactly when every check passes. `Check.andThen` is that composition, for checks
that may also fail.

A gate passes exactly when its parts do (`andThen_pass_iff`), and a property inherited by smaller
proposals survives composition (`Hereditary.andThen`).

Limits are compared with totals over rows. A total taken key by key, over a
duplicate-free list of keys, counts each row whose key is listed exactly once
(`sum_map_sum_filter`).
-/

namespace Thytrader.Lib

open List

variable {φ ε α κ M : Type}

/-- The answer of one check: a failure, an objection, or nothing to object. -/
abbrev Check (φ ε : Type) := Except φ (Option ε)

namespace Check

/-- No objection. -/
def pass : Check φ ε := .ok none

def andThen (first second : Check φ ε) : Check φ ε :=
  match first with
  | .error failure => .error failure
  | .ok (some objection) => .ok (some objection)
  | .ok none => second

theorem andThen_pass_iff {first second : Check φ ε} :
    first.andThen second = pass ↔ first = pass ∧ second = pass := by
  unfold andThen pass
  constructor
  · intro h
    split at h
    · cases h
    · cases h
    · exact ⟨rfl, h⟩
  · rintro ⟨rfl, rfl⟩
    rfl

theorem pass_andThen (second : Check φ ε) : pass.andThen second = second := rfl

/-- Object to what violates a condition. -/
def require (condition : Prop) [Decidable condition] (objection : ε) : Check φ ε :=
  if condition then pass else .ok (some objection)

theorem require_pass_iff {condition : Prop} [Decidable condition] {objection : ε} :
    (require condition objection : Check φ ε) = pass ↔ condition := by
  unfold require
  split
  next h => simp [h]
  next h => simp [h, pass]

end Check

/-! ## Smaller proposals -/

/-- A check that passes a proposal passes every proposal below it. -/
def Hereditary (below : α → α → Prop) (check : α → Check φ ε) : Prop :=
  ∀ ⦃small big : α⦄, below small big → check big = .pass → check small = .pass

namespace Hereditary

variable {below : α → α → Prop} {check first second : α → Check φ ε}

theorem of_eq (h : ∀ ⦃small big : α⦄, below small big → check small = check big) :
    Hereditary below check := by
  intro small big hbelow hpass
  rw [h hbelow]
  exact hpass

theorem andThen (hfirst : Hereditary below first) (hsecond : Hereditary below second) :
    Hereditary below (fun proposal => (first proposal).andThen (second proposal)) := by
  intro small big hbelow hpass
  obtain ⟨hone, htwo⟩ := Check.andThen_pass_iff.mp hpass
  exact Check.andThen_pass_iff.mpr ⟨hfirst hbelow hone, hsecond hbelow htwo⟩

end Hereditary

/-! ## Totals taken key by key -/

variable [DecidableEq κ] [AddCommMonoid M]

theorem sum_map_ite_eq_key (keys : List κ) (hnodup : keys.Nodup) (k : κ) (value : M) :
    (keys.map (fun key => if k = key then value else 0)).sum = if k ∈ keys then value else 0 := by
  induction keys with
  | nil => simp
  | cons key _ ih =>
    obtain ⟨hfresh, hrest⟩ := nodup_cons.mp hnodup
    rw [map_cons, sum_cons, ih hrest]
    by_cases h : k = key
    · subst h
      simp [hfresh]
    · simp [h]

theorem sum_map_sum_filter (key : α → κ) (value : α → M) (keys : List κ) (hnodup : keys.Nodup)
    (rows : List α) :
    (keys.map (fun k => ((rows.filter (fun row => key row = k)).map value).sum)).sum =
      ((rows.filter (fun row => key row ∈ keys)).map value).sum := by
  induction rows with
  | nil => simp
  | cons row rows ih =>
    -- Split the head row off every key's subtotal, then off the total.
    have hsplit : ∀ (p : α → Bool),
        (((row :: rows).filter p).map value).sum =
          (if p row then value row else 0) + ((rows.filter p).map value).sum := by
      intro p
      rw [filter_cons]
      split
      · rw [map_cons, sum_cons]
      · rw [zero_add]
    simp only [hsplit, decide_eq_true_eq, sum_map_add, ih]
    rw [sum_map_ite_eq_key keys hnodup]

/-- Rows without value may be left out of a total. -/
theorem sum_map_filter_of_zero {value : α → M} {p : α → Bool} {rows : List α}
    (hzero : ∀ row ∈ rows, p row = false → value row = 0) :
    ((rows.filter p).map value).sum = (rows.map value).sum := by
  induction rows with
  | nil => rfl
  | cons row _ ih =>
    have hrest := ih (fun other hmem => hzero other (mem_cons_of_mem _ hmem))
    rw [filter_cons, map_cons, sum_cons]
    split
    · rw [map_cons, sum_cons, hrest]
    next hp =>
      have hvalue := hzero row (mem_cons_self ..) (by simpa using hp)
      rw [hvalue, zero_add, hrest]

/-- Leaving out a row of value lowers a total of rows that are worth nothing or more. -/
theorem sum_map_filter_lt [LinearOrder M] [IsOrderedCancelAddMonoid M] {value : α → M} {p : α → Bool}
    {row : α} {rows : List α} (hnonneg : ∀ other ∈ rows, 0 ≤ value other) (hrow : row ∈ rows)
    (hp : p row = false) (hvalue : 0 < value row) :
    ((rows.filter p).map value).sum < (rows.map value).sum := by
  have hrest : ∀ rows : List α, (∀ other ∈ rows, 0 ≤ value other) →
      ((rows.filter p).map value).sum ≤ (rows.map value).sum := by
    intro rows hrows
    refine List.Sublist.sum_le_sum (filter_sublist.map value) ?_
    simpa using hrows
  obtain ⟨before, after, rfl⟩ := append_of_mem hrow
  have hbefore := hrest before fun other hother => hnonneg other (by simp [hother])
  have hafter := hrest after fun other hother => hnonneg other (by simp [hother])
  have hkept : (before ++ row :: after).filter p = before.filter p ++ after.filter p := by
    simp [hp]
  rw [hkept, map_append, sum_append, map_append, sum_append, map_cons, sum_cons]
  exact add_lt_add_of_le_of_lt hbefore (hafter.trans_lt (lt_add_of_pos_left _ hvalue))

end Thytrader.Lib
