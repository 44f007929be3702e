import Mathlib.Algebra.Order.BigOperators.Group.List
import Thytrader.Evaluation.Indicators
import Thytrader.Lib.PartialSeries

/-!
# First values of the indicator series

The bar at which each series of `evaluation/indicator_math/` first has a value, and which
later bars have one. Most series start at one bar and never stop (`StartsAt`). A
series with a guarded denominator has a hole where the denominator is zero, and a
smoothing of such a series either needs its whole window (`DefinedOver`) or skips the
holes and counts what it has seen (`definedCount`).
-/

namespace Thytrader.Evaluation

open Lib MarketData Strategies List

variable {state : SeedState} {series : Series}

/-! ## Smoothings -/

section

variable {update : Decimal → Decimal → Decimal} {period : Nat}

theorem isSome_ite_none_iff {α : Type} {p : Prop} [Decidable p] (value : α) :
    (if p then none else some value).isSome ↔ ¬ p := by
  split <;> simp_all

theorem defined_smaDefined (hperiod : 1 ≤ period) (series : Series) (bar : Nat) :
    Defined (simpleMovingAverageDefined period series) bar ↔
      period ≤ bar + 1 ∧ DefinedOver series period bar := by
  refine defined_rolling_all hperiod series ?_ bar
  intro row _
  rw [isSome_ite_none_iff, any_eq_true, not_exists]
  refine forall_congr' (fun entry => ?_)
  cases entry <;> simp

theorem length_filterMap_id_iff (row : Series) :
    (row.filterMap id).length = row.length ↔ ∀ entry ∈ row, entry.isSome := by
  rw [filterMap_length_eq_length]
  rfl

theorem defined_windowsDefined (hperiod : 1 ≤ period) (series : Series) (bar : Nat) :
    Defined (windowsDefined period series) bar ↔
      period ≤ bar + 1 ∧ DefinedOver series period bar := by
  refine defined_rolling_all hperiod series ?_ bar
  intro row hrow
  rw [← length_filterMap_id_iff, hrow]
  dsimp only
  split
  next h => exact iff_of_true rfl h
  next h => exact iff_of_false (by simp) h

theorem startsAt_sma (period : Nat) (values : List Decimal) :
    StartsAt (simpleMovingAverage period values) values.length (period - 1) :=
  startsAt_rolling _ _ _

theorem startsAt_seededLoop (values rest : List Decimal) (index : Nat) (previous : Option Decimal) :
    StartsAt (seededLoop update period values index previous rest) rest.length
      (period - 1 - index) := by
  induction rest generalizing index previous with
  | nil => intro bar; simp [seededLoop, Defined]
  | cons value _ ih =>
    intro bar
    unfold seededLoop
    by_cases hearly : index + 1 < period
    · rw [if_pos hearly]
      cases bar with
      | zero => simp [Defined]; omega
      | succ bar =>
        have hrest := ih (index + 1) previous bar
        simp only [Defined, getElem?_cons_succ, length_cons] at hrest ⊢
        refine hrest.trans ?_
        omega
    · rw [if_neg hearly]
      cases bar with
      | zero => simp [Defined]; omega
      | succ bar =>
        simp only [Defined, getElem?_cons_succ, length_cons]
        refine (ih (index + 1) (some _) bar).trans ?_
        omega

theorem startsAt_seededAverage (update : Decimal → Decimal → Decimal) (period : Nat)
    (values : List Decimal) :
    StartsAt (seededAverage update period values) values.length (period - 1) :=
  startsAt_seededLoop values values 0 none

/-- What the seed of an average with holes has collected. -/
def Seeded (period : Nat) (count : Nat) (state : SeedState) : Prop :=
  (state.previous = none ∧ state.seed.length = count ∧ count < period) ∨
    (state.previous.isSome ∧ period ≤ count)

theorem seedStep_seeded (update : Decimal → Decimal → Decimal) {count : Nat}
    (h : Seeded period count state) (entry : Option Decimal) :
    Seeded period (count + entry.toList.length) (seedStep update period state entry).1 ∧
      ((seedStep update period state entry).2.isSome ↔
        entry.isSome ∧ period ≤ count + entry.toList.length) := by
  cases entry with
  | none => exact ⟨h, by simp [seedStep]⟩
  | some =>
    obtain ⟨hnone, hlength, hcount⟩ | ⟨hsome, hcount⟩ := h
    · -- still collecting: this value may complete the seed
      by_cases hshort : count + 1 < period
      · simp [seedStep, hnone, Seeded, hlength, hshort]
      · simp [seedStep, hnone, Seeded, hlength, hshort]
        omega
    · obtain ⟨previous, hprevious⟩ := Option.isSome_iff_exists.mp hsome
      simp [seedStep, hprevious, Seeded]
      omega

/-- An average with holes has a value at a defined bar once it has seen a period of them. -/
theorem defined_seedOptional (hperiod : 1 ≤ period) (series : Series) (bar : Nat) :
    Defined (machine (seedStep update period) {} series) bar ↔
      Defined series bar ∧ period ≤ definedCount series (bar + 1) := by
  have hstate (part : Series) : Seeded period (part.filterMap id).length
      (stateAfter (seedStep update period) {} part) := by
    induction part using List.reverseRecOn with
    | nil => exact .inl ⟨rfl, rfl, hperiod⟩
    | append_singleton _ entry ih =>
      rw [stateAfter, foldl_append, filterMap_append, length_append]
      have hstep := (seedStep_seeded update ih entry).1
      cases entry <;> exact hstep
  rw [defined_machine]
  constructor
  · rintro ⟨entry, hentry, hsome⟩
    obtain ⟨hpresent, hcount⟩ := (seedStep_seeded update (hstate (series.take bar)) entry).2.mp hsome
    obtain ⟨value, rfl⟩ := Option.isSome_iff_exists.mp hpresent
    refine ⟨⟨value, hentry⟩, ?_⟩
    rw [definedCount_succ, hentry]
    exact hcount
  · rintro ⟨⟨value, hvalue⟩, hcount⟩
    refine ⟨some value, hvalue, ?_⟩
    rw [definedCount_succ, hvalue] at hcount
    exact (seedStep_seeded update (hstate (series.take bar)) (some value)).2.mpr ⟨rfl, hcount⟩

variable (update : Decimal → Decimal → Decimal) (hperiod : 1 ≤ period)
include hperiod

theorem blank_seedOptional {bars : Nat} (h : Blank series bars) :
    Blank (machine (seedStep update period) {} series) (bars + period - 1) := by
  intro bar hbar hdefined
  have hcount := ((defined_seedOptional hperiod series bar).mp hdefined).2
  have hle := definedCount_le_of_blank h (bar + 1)
  omega

theorem defined_seedOptional_of_over {bar : Nat} (hfull : period ≤ bar + 1)
    (h : DefinedOver series period bar) :
    Defined (machine (seedStep update period) {} series) bar :=
  (defined_seedOptional hperiod series bar).mpr ⟨h bar le_rfl (by omega), le_definedCount hfull h⟩

theorem startsAt_seedOptional {length first : Nat} (h : StartsAt series length first) :
    StartsAt (machine (seedStep update period) {} series) length (first + period - 1) := by
  intro bar
  constructor
  · intro hdefined
    have hlast := (h bar).mp ((defined_seedOptional hperiod series bar).mp hdefined).1
    refine ⟨hlast.1, ?_⟩
    by_contra hearly
    exact blank_seedOptional update hperiod h.blank bar (by omega) hdefined
  · rintro ⟨hbar, hfirst⟩
    refine defined_seedOptional_of_over update hperiod (by omega) ?_
    intro earlier hle hnear
    exact h.defined (by omega) (by omega)

end

/-! ## Positive values -/

def Positive (series : Series) : Prop :=
  ∀ (bar : Nat) (value : Decimal), series[bar]? = some (some value) → 0 < value

/-- A recurrence that keeps positive levels positive. -/
def KeepsPositive (update : Decimal → Decimal → Decimal) : Prop :=
  ∀ previous value : Decimal, 0 < previous → 0 < value → 0 < update previous value

theorem keepsPositive_emaUpdate (period : Nat) : KeepsPositive (emaUpdate period) := by
  intro previous value hprevious hvalue
  unfold emaUpdate
  positivity

variable {values : List Decimal}

theorem sum_pos_of_forall_pos (h : ∀ value ∈ values, 0 < value)
    (hne : values ≠ []) : 0 < values.sum := by
  cases values with
  | nil => exact absurd rfl hne
  | cons value rest =>
    rw [sum_cons]
    have hrest : 0 ≤ rest.sum := sum_nonneg (fun x hx => (h x (by simp [hx])).le)
    linarith [h value (by simp)]

section

variable {values : List Decimal} {period : Nat} (hperiod : 1 ≤ period)
  (h : ∀ value ∈ values, 0 < value)
include hperiod h

/-- The mean of a full window of positive values is positive. -/
theorem mean_pos (hne : values ≠ []) : 0 < values.sum / (period : Decimal) := by
  have hsum := sum_pos_of_forall_pos h hne
  have hdivisor : (0 : Decimal) < period := by exact_mod_cast hperiod
  exact div_pos hsum hdivisor

theorem positive_sma : Positive (simpleMovingAverage period values) := by
  intro bar value hvalue
  rw [simpleMovingAverage, getElem?_rolling] at hvalue
  obtain ⟨hbar, hvalue⟩ := of_ite_ne_else hvalue nofun
  by_cases hearly : bar + 1 < period
  · simp [hearly] at hvalue
  · simp only [if_neg hearly, Option.some.injEq] at hvalue
    subst hvalue
    refine mean_pos hperiod (fun x hx => h x (mem_of_mem_window hx)) ?_
    intro hempty
    have hlength := window_length period hbar (Nat.le_of_not_lt hearly)
    rw [hempty, length_nil] at hlength
    omega

end

section

variable {period : Nat} {update : Decimal → Decimal → Decimal} (hupdate : KeepsPositive update)
  (hperiod : 1 ≤ period)
include hupdate hperiod

theorem positive_seededLoop (hvalues : ∀ value ∈ values, 0 < value) (hne : values ≠ [])
    {rest : List Decimal} (hrest : ∀ value ∈ rest, 0 < value) (index : Nat)
    {previous : Option Decimal} (hprevious : ∀ level ∈ previous, 0 < level) :
    Positive (seededLoop update period values index previous rest) := by
  induction rest generalizing index previous with
  | nil => intro bar value hvalue; simp [seededLoop] at hvalue
  | cons value rest ih =>
    have hrest' : ∀ other ∈ rest, 0 < other := fun other hother => hrest other (by simp [hother])
    unfold seededLoop
    by_cases hearly : index + 1 < period
    · rw [if_pos hearly]
      intro bar level hlevel
      cases bar with
      | zero => simp at hlevel
      | succ bar => exact ih hrest' (index + 1) hprevious bar level hlevel
    · rw [if_neg hearly]
      have hfrom (next : Decimal) (hnext : 0 < next) :
          Positive (some next :: seededLoop update period values (index + 1) (some next) rest) := by
        intro bar level hlevel
        cases bar with
        | zero =>
          simp only [getElem?_cons_zero, Option.some.injEq] at hlevel
          exact hlevel ▸ hnext
        | succ bar =>
          refine ih hrest' (index + 1) ?_ bar level hlevel
          intro other hother
          exact (Option.some.inj hother) ▸ hnext
      -- the level of this bar: the seed's mean, or one update of a positive level
      cases previous with
      | none =>
        refine hfrom _ (mean_pos hperiod (fun x hx => hvalues x (mem_of_mem_take hx)) ?_)
        intro hempty
        rcases take_eq_nil_iff.mp hempty with h | h
        · omega
        · exact hne h
      | some level =>
        exact hfrom _ (hupdate level value (hprevious level rfl) (hrest value (by simp)))

theorem positive_seededAverage (h : ∀ value ∈ values, 0 < value) :
    Positive (seededAverage update period values) := by
  by_cases hne : values = []
  · subst hne
    intro bar value hvalue
    simp [seededAverage, seededLoop] at hvalue
  · exact positive_seededLoop hupdate hperiod h hne h 0 (by simp)

end

/-- The levels an average with holes has reached, and the values it has collected. -/
def SeedPositive (state : SeedState) : Prop :=
  (∀ value ∈ state.seed, 0 < value) ∧ ∀ level ∈ state.previous, 0 < level

variable {period : Nat} {update : Decimal → Decimal → Decimal} (hupdate : KeepsPositive update)
  (hperiod : 1 ≤ period)
include hupdate hperiod

theorem seedStep_positive (hstate : SeedPositive state) {entry : Option Decimal}
    (hentry : ∀ value ∈ entry, 0 < value) :
    SeedPositive (seedStep update period state entry).1 ∧
      ∀ level ∈ (seedStep update period state entry).2, 0 < level := by
  obtain ⟨hseed, hprevious⟩ := hstate
  cases entry with
  | none => exact ⟨⟨hseed, hprevious⟩, by simp [seedStep]⟩
  | some value =>
    have hvalue := hentry value rfl
    cases hlevel : state.previous with
    | none =>
      have hcollected : ∀ other ∈ state.seed ++ [value], 0 < other :=
        forall_mem_append.mpr ⟨hseed, forall_mem_singleton.mpr hvalue⟩
      by_cases hshort : (state.seed ++ [value]).length < period
      · simp only [seedStep, hlevel, if_pos hshort]
        exact ⟨⟨hcollected, by simp⟩, by simp⟩
      · simp only [seedStep, hlevel, if_neg hshort]
        have hmean : 0 < (state.seed ++ [value]).sum / (period : Decimal) :=
          mean_pos hperiod hcollected (by simp)
        exact ⟨⟨hcollected, by simpa using hmean⟩, by simpa using hmean⟩
    | some previous =>
      have hnext := hupdate previous value (hprevious previous hlevel) hvalue
      simp only [seedStep, hlevel]
      exact ⟨⟨hseed, by simpa using hnext⟩, by simpa using hnext⟩

theorem positive_seedOptional (h : Positive series) :
    Positive (machine (seedStep update period) {} series) := by
  have hentry (bar : Nat) (entry : Option Decimal) (hget : series[bar]? = some entry) :
      ∀ value ∈ entry, 0 < value := by
    intro value hvalue
    exact h bar value (by rw [hget]; exact congrArg some hvalue)
  have hstate (bar : Nat) :
      SeedPositive (stateAfter (seedStep update period) {} (series.take bar)) := by
    induction bar with
    | zero => exact ⟨by simp [stateAfter], by simp [stateAfter]⟩
    | succ bar ih =>
      rw [take_add_one, stateAfter, foldl_append]
      cases hget : series[bar]? with
      | none => exact ih
      | some entry => exact (seedStep_positive hupdate hperiod ih (hentry bar entry hget)).1
  intro bar level hlevel
  rw [getElem?_machine, Option.map_eq_some_iff] at hlevel
  obtain ⟨entry, hget, hlevel⟩ := hlevel
  exact (seedStep_positive hupdate hperiod (hstate bar) (hentry bar entry hget)).2 level hlevel

end Thytrader.Evaluation
