import Thytrader.Evaluation.Averages
import Thytrader.Lib.RaisingSeries

/-!
# Averages over raising division

The averages and rolling statistics of `evaluation/indicator_math/` once more, with the
division of `Decimal`, which raises on a zero divisor, in the place of the total one. Each
returns what the plain definition computes: its divisors are a validated period, a sum of
positive weights, or a value a guard has just compared with zero.

Divisions by a literal stay plain. A definition here has the name of the series it repeats.
-/

namespace Thytrader.Evaluation.Raising

open Lib MarketData Strategies

theorem divide_natCast {count : Nat} (h : 1 ≤ count) (numerator : Decimal) :
    divide numerator (count : Decimal) = .ok (numerator / count) :=
  divide_of_ne (Nat.cast_ne_zero.mpr (by omega))

/-- A quotient that is undefined on a zero divisor. -/
def divideUnlessZero (numerator denominator : Decimal) : Result (Option Decimal) :=
  if denominator = 0 then .ok none else return some (← divide numerator denominator)

theorem divideUnlessZero_eq (numerator denominator : Decimal) :
    divideUnlessZero numerator denominator =
      .ok (if denominator = 0 then none else some (numerator / denominator)) := by
  unfold divideUnlessZero
  by_cases h : denominator = 0
  · rw [if_pos h, if_pos h]
  · rw [if_neg h, if_neg h, divide_of_ne h]
    rfl

variable {window : List Decimal}

/-! ## Moving averages -/

section

variable {period : Nat}

def simpleMovingAverageDefined (period : Nat) : Series → Result Series :=
  rollingM period (fun window =>
    if window.any (·.isNone) then .ok none
    else return some (← divide (window.filterMap id).sum period))

theorem smaDefined_eq (hperiod : 1 ≤ period) (series : Series) :
    simpleMovingAverageDefined period series =
      .ok (Evaluation.simpleMovingAverageDefined period series) := by
  refine rollingM_eq ?_
  intro window _ _
  by_cases hhole : window.any (·.isNone)
  · rw [if_pos hhole, if_pos hhole]
  · rw [if_neg hhole, if_neg hhole, divide_natCast hperiod]
    rfl

def simpleMovingAverage (period : Nat) : List Decimal → Result Series :=
  rollingM period (fun window => return some (← divide window.sum period))

theorem sma_eq (hperiod : 1 ≤ period) (values : List Decimal) :
    simpleMovingAverage period values = .ok (Evaluation.simpleMovingAverage period values) := by
  refine rollingM_eq ?_
  intro window _ _
  rw [divide_natCast hperiod]
  rfl

def wilderUpdate (period : Nat) (previous value : Decimal) : Result Decimal :=
  divide (previous * (period - 1 : Nat) + value) period

theorem wilderUpdate_eq (hperiod : 1 ≤ period) (previous value : Decimal) :
    wilderUpdate period previous value = .ok (Evaluation.wilderUpdate period previous value) :=
  divide_natCast hperiod _

def emaUpdate (period : Nat) (previous value : Decimal) : Result Decimal :=
  divide ((period - 1 : Nat) * previous + 2 * value) (period + 1 : Nat)

theorem emaUpdate_eq (period : Nat) (previous value : Decimal) :
    emaUpdate period previous value = .ok (Evaluation.emaUpdate period previous value) :=
  divide_natCast (by omega) _

/-- The level of a seeded average at a bar that reports one. -/
def seededLevel (update : Decimal → Decimal → Result Decimal) (period : Nat)
    (values : List Decimal) (previous : Option Decimal) (value : Decimal) : Result Decimal :=
  match previous with
  | none => divide (values.take period).sum period
  | some previous => update previous value

def seededLoop (update : Decimal → Decimal → Result Decimal) (period : Nat) (values : List Decimal) :
    Nat → Option Decimal → List Decimal → Result Series
  | _, _, [] => .ok []
  | index, previous, value :: rest =>
    if index + 1 < period then do
      let later ← seededLoop update period values (index + 1) previous rest
      return none :: later
    else do
      let next ← seededLevel update period values previous value
      let later ← seededLoop update period values (index + 1) (some next) rest
      return some next :: later

def seededAverage (update : Decimal → Decimal → Result Decimal) (period : Nat)
    (values : List Decimal) : Result Series :=
  seededLoop update period values 0 none values

section

variable {updateM : Decimal → Decimal → Result Decimal} {update : Decimal → Decimal → Decimal}

section

variable (hperiod : 1 ≤ period)
  (hupdate : ∀ previous value, updateM previous value = .ok (update previous value))
include hperiod hupdate

theorem seededLoop_eq (values rest : List Decimal) (index : Nat) (previous : Option Decimal) :
    seededLoop updateM period values index previous rest =
      .ok (Evaluation.seededLoop update period values index previous rest) := by
  induction rest generalizing index previous with
  | nil => rfl
  | cons _ _ ih =>
    unfold seededLoop Evaluation.seededLoop
    by_cases hshort : index + 1 < period
    · rw [if_pos hshort, if_pos hshort, ih]
      rfl
    · rw [if_neg hshort, if_neg hshort]
      cases previous with
      | none =>
        rw [seededLevel, divide_natCast hperiod, ok_bind, ih]
        rfl
      | some =>
        rw [seededLevel, hupdate, ok_bind, ih]
        rfl

theorem seededAverage_eq (values : List Decimal) :
    seededAverage updateM period values = .ok (Evaluation.seededAverage update period values) :=
  seededLoop_eq hperiod hupdate values values 0 none

end

def seedStep (update : Decimal → Decimal → Result Decimal) (period : Nat) (state : SeedState)
    (value : Option Decimal) : Result (SeedState × Option Decimal) :=
  match value, state.previous with
  | none, _ => .ok (state, none)
  | some value, none =>
    let seed := state.seed ++ [value]
    if seed.length < period then .ok (⟨seed, none⟩, none)
    else do
      let level ← divide seed.sum period
      return (⟨seed, some level⟩, some level)
  | some value, some previous => do
    let level ← update previous value
    return (⟨state.seed, some level⟩, some level)

theorem seedStep_eq (hperiod : 1 ≤ period)
    (hupdate : ∀ previous value, updateM previous value = .ok (update previous value))
    (state : SeedState) (value : Option Decimal) :
    seedStep updateM period state value = .ok (Evaluation.seedStep update period state value) := by
  obtain ⟨-, previous⟩ := state
  cases value with
  | none => rfl
  | some =>
    cases previous with
    | none =>
      simp only [seedStep, Evaluation.seedStep, divide_natCast hperiod]
      split
      · rfl
      · rfl
    | some =>
      simp only [seedStep, Evaluation.seedStep, hupdate]
      rfl

end

def wilderSmooth (period : Nat) : List Decimal → Result Series :=
  seededAverage (wilderUpdate period) period

theorem wilderSmooth_eq (hperiod : 1 ≤ period) (values : List Decimal) :
    wilderSmooth period values = .ok (Evaluation.wilderSmooth period values) :=
  seededAverage_eq hperiod (wilderUpdate_eq hperiod) values

def exponentialMovingAverage (period : Nat) : List Decimal → Result Series :=
  seededAverage (emaUpdate period) period

theorem ema_eq (hperiod : 1 ≤ period) (values : List Decimal) :
    exponentialMovingAverage period values =
      .ok (Evaluation.exponentialMovingAverage period values) :=
  seededAverage_eq hperiod (emaUpdate_eq period) values

def wilderSmoothOptional (period : Nat) : Series → Result Series :=
  machineM (seedStep (wilderUpdate period) period) {}

theorem wilderSmoothOptional_eq (hperiod : 1 ≤ period) (series : Series) :
    wilderSmoothOptional period series = .ok (Evaluation.wilderSmoothOptional period series) :=
  machineM_eq_of_forall (seedStep_eq hperiod (wilderUpdate_eq hperiod)) _ series

def exponentialMovingAverageOptional (period : Nat) : Series → Result Series :=
  machineM (seedStep (emaUpdate period) period) {}

theorem emaOptional_eq (hperiod : 1 ≤ period) (series : Series) :
    exponentialMovingAverageOptional period series =
      .ok (Evaluation.exponentialMovingAverageOptional period series) :=
  machineM_eq_of_forall (seedStep_eq hperiod (emaUpdate_eq period)) _ series

/-! ## Weighted and chained averages -/

def weightedMean (window : List Decimal) : Result Decimal :=
  let folded := (window.zipIdx 1).foldl (fun (sums : Decimal × Decimal) row =>
    (sums.1 + row.1 * row.2, sums.2 + row.2)) (0, 0)
  divide folded.1 folded.2

/-- The weights are positive, so they add up to more than they started with. -/
theorem weights_lt (window : List Decimal) (first : Nat) (sums : Decimal × Decimal)
    (hwindow : window ≠ []) (hfirst : 1 ≤ first) :
    sums.2 < ((window.zipIdx first).foldl (fun (sums : Decimal × Decimal) row =>
      (sums.1 + row.1 * row.2, sums.2 + row.2)) sums).2 := by
  induction window generalizing first sums with
  | nil => exact absurd rfl hwindow
  | cons value rest ih =>
    have hpos : (0 : Decimal) < (first : Decimal) := by exact_mod_cast hfirst
    have hlt : sums.2 < sums.2 + first := by linarith
    cases rest with
    | nil => exact hlt
    | cons =>
      exact hlt.trans (ih (first + 1) (sums.1 + value * first, sums.2 + first) (by simp) (by omega))

theorem weightedMean_eq (hwindow : window ≠ []) :
    weightedMean window = .ok (Evaluation.weightedMean window) :=
  divide_of_ne (weights_lt window 1 (0, 0) hwindow le_rfl).ne'

def weightedMovingAverage (period : Nat) : List Decimal → Result Series :=
  rollingM period (fun window => return some (← weightedMean window))

theorem wma_eq (hperiod : 1 ≤ period) (values : List Decimal) :
    weightedMovingAverage period values = .ok (Evaluation.weightedMovingAverage period values) := by
  refine rollingM_eq ?_
  intro window hlength _
  have hwindow : window ≠ [] := List.ne_nil_of_length_pos (by omega)
  rw [weightedMean_eq hwindow]
  rfl

theorem length_of_mem_windowsDefined {series : Series}
    (h : some window ∈ windowsDefined period series) : window.length = period := by
  obtain ⟨bar, hbar⟩ := List.mem_iff_getElem?.mp h
  rw [windowsDefined, getElem?_rolling] at hbar
  obtain ⟨-, hbar⟩ := of_ite_ne_else hbar nofun
  have hsome := Option.some.inj hbar
  obtain ⟨-, hsome⟩ := of_ite_ne hsome nofun
  obtain ⟨hlength, hsome⟩ := of_ite_ne_else hsome nofun
  rw [← Option.some.inj hsome, hlength]

def weightedMovingAverageOptional (period : Nat) (values : Series) : Result Series :=
  (windowsDefined period values).mapM (fun window =>
    match window with
    | none => .ok none
    | some window => return some (← weightedMean window))

theorem wmaOptional_eq (hperiod : 1 ≤ period) (values : Series) :
    weightedMovingAverageOptional period values =
      .ok (Evaluation.weightedMovingAverageOptional period values) := by
  refine mapM_eq_map ?_
  intro window hwindow
  cases window with
  | none => rfl
  | some window =>
    have hlength := length_of_mem_windowsDefined hwindow
    have hne : window ≠ [] := List.ne_nil_of_length_pos (by omega)
    simp only [weightedMean_eq hne]
    rfl

def doubleExponentialMovingAverage (period : Nat) (values : List Decimal) : Result Series := do
  let first ← exponentialMovingAverage period values
  let second ← exponentialMovingAverageOptional period first
  return List.zipWith (Option.map₂ (fun outer inner => 2 * outer - inner)) first second

theorem dema_eq (hperiod : 1 ≤ period) (values : List Decimal) :
    doubleExponentialMovingAverage period values =
      .ok (Evaluation.doubleExponentialMovingAverage period values) := by
  rw [doubleExponentialMovingAverage, ema_eq hperiod, ok_bind,
    emaOptional_eq hperiod]
  rfl

def tripleExponential (period : Nat) (values : List Decimal) :
    Result (Series × Series × Series) := do
  let first ← exponentialMovingAverage period values
  let second ← exponentialMovingAverageOptional period first
  let third ← exponentialMovingAverageOptional period second
  return (first, second, third)

theorem tripleExponential_eq (hperiod : 1 ≤ period) (values : List Decimal) :
    tripleExponential period values = .ok (Evaluation.tripleExponential period values) := by
  rw [tripleExponential, ema_eq hperiod, ok_bind,
    emaOptional_eq hperiod, ok_bind,
    emaOptional_eq hperiod]
  rfl

def tripleExponentialMovingAverage (period : Nat) (values : List Decimal) : Result Series := do
  let (first, second, third) ← tripleExponential period values
  return List.zipWith (Option.map₂ (fun outer tri => outer + tri))
    (List.zipWith (Option.map₂ (fun one two => 3 * one - 3 * two)) first second) third

theorem tema_eq (hperiod : 1 ≤ period) (values : List Decimal) :
    tripleExponentialMovingAverage period values =
      .ok (Evaluation.tripleExponentialMovingAverage period values) := by
  rw [tripleExponentialMovingAverage, tripleExponential_eq hperiod]
  rfl

def hullMovingAverage (period : Nat) (values : List Decimal) : Result Series := do
  let half ← weightedMovingAverage (period / 2) values
  let full ← weightedMovingAverage period values
  weightedMovingAverageOptional (Nat.sqrt period)
    (List.zipWith (Option.map₂ (fun short long => 2 * short - long)) half full)

theorem hma_eq (hperiod : 2 ≤ period) (values : List Decimal) :
    hullMovingAverage period values = .ok (Evaluation.hullMovingAverage period values) := by
  have hroot : 1 ≤ Nat.sqrt period := Nat.sqrt_pos.mpr (by omega)
  rw [hullMovingAverage, wma_eq (by omega), ok_bind,
    wma_eq (by omega), ok_bind, wmaOptional_eq hroot]
  rfl

end

def kamaSmoothing (fast slow : Decimal) (window : List Decimal) : Result Decimal := do
  let change := |window.getLastD 0 - window.headD 0|
  let volatility := ((pairwise window).map (fun pair => |pair.2 - pair.1|)).sum
  let efficiency ← if volatility = 0 then .ok 1 else divide change volatility
  let base := efficiency * (fast - slow) + slow
  return base * base

theorem kamaSmoothing_eq (fast slow : Decimal) (window : List Decimal) :
    kamaSmoothing fast slow window = .ok (Evaluation.kamaSmoothing fast slow window) := by
  simp only [kamaSmoothing, Evaluation.kamaSmoothing]
  split
  · rfl
  next hne =>
    rw [divide_of_ne hne]
    rfl

def kaufmanAdaptiveValues (parameters : KamaParameters) (values : List Decimal) :
    Result Series := do
  let fast ← divide 2 (parameters.fastPeriod.value + 1 : Nat)
  let slow ← divide 2 (parameters.slowPeriod.value + 1 : Nat)
  let smoothing ← rollingM (parameters.period.value + 1)
    (fun window => return some (← kamaSmoothing fast slow window)) values
  return machine (kamaStep parameters.period.value) (0, 0) (values.zip smoothing)

theorem kama_eq (parameters : KamaParameters) (values : List Decimal) :
    kaufmanAdaptiveValues parameters values =
      .ok (Evaluation.kaufmanAdaptiveValues parameters values) := by
  have hsmoothing (fast slow : Decimal) :
      (rollingM (parameters.period.value + 1)
        (fun window => return some (← kamaSmoothing fast slow window)) values : Result Series) =
        .ok (rolling (parameters.period.value + 1)
          (fun window => some (Evaluation.kamaSmoothing fast slow window)) values) := by
    refine rollingM_eq ?_
    intro window _ _
    rw [kamaSmoothing_eq]
    rfl
  rw [kaufmanAdaptiveValues, divide_natCast (by omega), ok_bind, divide_natCast (by omega), ok_bind,
    hsmoothing]
  rfl

/-! ## Rolling statistics -/

variable {period : Nat}

def windowDeviation (math : DecimalMath) (divisor : Nat) (window : List Decimal) :
    Result Decimal := do
  let mean ← divide window.sum window.length
  let variance ← divide (window.map (fun value => (value - mean) * (value - mean))).sum divisor
  return if variance ≤ 0 then 0 else math.sqrt variance

variable (math : DecimalMath)

theorem windowDeviation_eq {divisor : Nat} (hdivisor : 1 ≤ divisor) (hwindow : 1 ≤ window.length) :
    windowDeviation math divisor window = .ok (Evaluation.windowDeviation math divisor window) := by
  rw [windowDeviation, divide_natCast hwindow, ok_bind, divide_natCast hdivisor, ok_bind]
  rfl

def rollingStdev (math : DecimalMath) (divisor period : Nat) : List Decimal → Result Series :=
  rollingM period (fun window => return some (← windowDeviation math divisor window))

theorem rollingStdev_eq {divisor : Nat} (hdivisor : 1 ≤ divisor) (hperiod : 1 ≤ period)
    (values : List Decimal) : rollingStdev math divisor period values =
      .ok (Evaluation.rollingStdev math divisor period values) := by
  refine rollingM_eq ?_
  intro window hlength _
  rw [windowDeviation_eq math hdivisor (by omega)]
  rfl

def rollingPopulationStdev (math : DecimalMath) (period : Nat) : List Decimal → Result Series :=
  rollingStdev math period period

def rollingSampleStdev (math : DecimalMath) (period : Nat) : List Decimal → Result Series :=
  rollingStdev math (period - 1) period

theorem six_dvd_squares (count : Nat) : 6 ∣ count * (count + 1) * (2 * count + 1) := by
  induction count with
  | zero => exact ⟨0, rfl⟩
  | succ count ih =>
    obtain ⟨sum, hsum⟩ := ih
    refine ⟨sum + (count + 1) ^ 2, ?_⟩
    have hstep : (count + 1) * (count + 1 + 1) * (2 * (count + 1) + 1) =
        count * (count + 1) * (2 * count + 1) + 6 * (count + 1) ^ 2 := by ring
    rw [hstep, hsum]
    ring

theorem regressionDivisor_pos (hperiod : 2 ≤ period) :
    0 < period * ((period - 1) * period * (2 * period - 1) / 6) -
      period * (period - 1) / 2 * (period * (period - 1) / 2) := by
  obtain ⟨last, rfl⟩ : ∃ last, period = last + 2 := ⟨period - 2, by omega⟩
  obtain ⟨squares, hsquares⟩ := six_dvd_squares (last + 1)
  obtain ⟨sum, hsum⟩ := (Nat.even_mul_succ_self (last + 1)).two_dvd
  have hx : (last + 2) * (last + 2 - 1) / 2 = sum := by
    rw [show last + 2 - 1 = last + 1 by omega, Nat.mul_comm, hsum, Nat.mul_div_cancel_left _ (by omega)]
  have hxx : (last + 2 - 1) * (last + 2) * (2 * (last + 2) - 1) / 6 = squares := by
    rw [show last + 2 - 1 = last + 1 by omega, show 2 * (last + 2) - 1 = 2 * (last + 1) + 1 by omega,
      hsquares, Nat.mul_div_cancel_left _ (by omega)]
  rw [hx, hxx, Nat.sub_pos_iff_lt]
  -- twelve times the difference is a product of positive factors
  have hdiff : 12 * ((last + 2) * squares) =
      12 * (sum * sum) + (last + 1) * (last + 2) ^ 2 * (last + 3) := by
    have hleft : 12 * ((last + 2) * squares) = 2 * (last + 2) * (6 * squares) := by ring
    have hright : 12 * (sum * sum) = 3 * ((2 * sum) * (2 * sum)) := by ring
    rw [hleft, hright, ← hsquares, ← hsum]
    ring
  have hpos : 0 < (last + 1) * (last + 2) ^ 2 * (last + 3) := by positivity
  omega

def regressionLine (period : Nat) (window : List Decimal) : Result (Decimal × Decimal) := do
  let sumX := period * (period - 1) / 2
  let sumXX := (period - 1) * period * (2 * period - 1) / 6
  let divisor : Decimal := (period * sumXX - sumX * sumX : Nat)
  let sumY := window.sum
  let sumXY := (window.zipIdx.map (fun row => (row.2 : Decimal) * row.1)).sum
  let slope ← divide (period * sumXY - sumX * sumY) divisor
  let intercept ← divide (sumY - slope * sumX) period
  return (intercept + slope * (period - 1 : Nat), slope)

theorem regressionLine_eq (hperiod : 2 ≤ period) (window : List Decimal) :
    regressionLine period window = .ok (Evaluation.regressionLine period window) := by
  simp only [regressionLine, divide_natCast (regressionDivisor_pos hperiod),
    divide_natCast (show 1 ≤ period by omega), ok_bind]
  rfl

def linearRegressionSeries (read : Decimal × Decimal → Decimal) (period : Nat) :
    List Decimal → Result Series :=
  rollingM period (fun window => return some (read (← regressionLine period window)))

theorem linearRegressionSeries_eq (read : Decimal × Decimal → Decimal) (hperiod : 2 ≤ period)
    (values : List Decimal) :
    linearRegressionSeries read period values =
      .ok (rolling period (fun window => some (read (Evaluation.regressionLine period window)))
        values) := by
  refine rollingM_eq ?_
  intro window _ _
  rw [regressionLine_eq hperiod]
  rfl

def rollingZscore (math : DecimalMath) (period : Nat) (values : List Decimal) :
    Result Series := do
  let means ← simpleMovingAverage period values
  let deviations ← rollingPopulationStdev math period values
  combineM (fun value row =>
    match row with
    | (some mean, some deviation) => divideUnlessZero (value - mean) deviation
    | _ => .ok none) values (means.zip deviations)

theorem rollingZscore_eq (hperiod : 1 ≤ period) (values : List Decimal) :
    rollingZscore math period values = .ok (Evaluation.rollingZscore math period values) := by
  rw [rollingZscore, sma_eq hperiod, ok_bind, rollingPopulationStdev,
    rollingStdev_eq math hperiod hperiod, ok_bind]
  refine combineM_eq ?_
  intro value _ row _
  obtain ⟨mean, deviation⟩ := row
  cases mean with
  | none => rfl
  | some =>
    cases deviation with
    | none => rfl
    | some => exact divideUnlessZero_eq _ _

def percentRank (period : Nat) : List Decimal → Result Series :=
  rollingM (period + 1) (fun window => do
    let rank := window.dropLast.countP (· ≤ window.getLastD 0)
    return some (← divide (100 * (rank : Nat)) period))

theorem percentRank_eq (hperiod : 1 ≤ period) (values : List Decimal) :
    percentRank period values = .ok (Evaluation.percentRank period values) := by
  refine rollingM_eq ?_
  intro window _ _
  simp only [divide_natCast hperiod]
  rfl

end Thytrader.Evaluation.Raising
