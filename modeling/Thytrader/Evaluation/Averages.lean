import Thytrader.Lib.Series
import Thytrader.Strategies.Schema

/-!
# Moving averages and rolling statistics

`evaluation/indicator_math/core.py`, `moving_averages.py` and `rolling_statistics.py`.
A value is undefined (`none`) until its window is full, or where the source says so.
Every series here is causal, which its definition shows: a trailing window, a state
carried along the bars, or an entrywise combination of such series.

Mirroring notes: the engine context's 64 digits are exact rationals here; the three
irrational `Decimal` functions are `DecimalMath`. A divisor that no guard protects is a
validated period or a sum of positive weights, so no division raises.
-/

namespace Thytrader.Evaluation

open Lib MarketData Strategies List

/-- `Decimal.sqrt`, `Decimal.ln` and `Decimal.log10` under the engine context. -/
structure DecimalMath where
  sqrt : Decimal → Decimal
  ln : Decimal → Decimal
  log10 : Decimal → Decimal

/-- One optional value per bar. -/
abbrev Series := List (Option Decimal)

/-! ## Shared helpers -/

/-- The selected OHLCV field of every candle (`_locked_source_series`). -/
def sourceSeries (field : CandleField) : List Candle → List Decimal := List.map (·.field field)

/-- `_windows_defined`: the windows that are complete and fully defined. -/
def windowsDefined (period : Nat) : Series → List (Option (List Decimal)) :=
  rolling period (fun window =>
    let defined := window.filterMap id
    if defined.length = period then some defined else none)

variable (period : Nat)

theorem causal_windowsDefined : Causal (windowsDefined period) :=
  causal_rolling _ _

/-- `_difference`: `left - right`, undefined when either side is. -/
def difference : Series → Series → Series :=
  List.zipWith (Option.map₂ (· - ·))

/-! ## Moving averages -/

def simpleMovingAverageDefined (period : Nat) : Series → Series :=
  rolling period (fun window =>
    if window.any (·.isNone) then none else some ((window.filterMap id).sum / period))

theorem causal_smaDefined :
    Causal (simpleMovingAverageDefined period) := causal_rolling _ _

def simpleMovingAverage (period : Nat) : List Decimal → Series :=
  rolling period (fun window => some (window.sum / period))

theorem causal_sma : Causal (simpleMovingAverage period) :=
  causal_rolling _ _

/-- The recurrence of the Wilder average. -/
def wilderUpdate (period : Nat) (previous value : Decimal) : Decimal :=
  (previous * (period - 1 : Nat) + value) / period

/-- The recurrence of the exponential average. -/
def emaUpdate (period : Nat) (previous value : Decimal) : Decimal :=
  ((period - 1 : Nat) * previous + 2 * value) / (period + 1 : Nat)

/-- The loop the seeded averages share: undefined before bar `period - 1`, there the mean
of `values[:period]`, afterwards the recurrence. -/
def seededLoop (update : Decimal → Decimal → Decimal) (period : Nat) (values : List Decimal) :
    Nat → Option Decimal → List Decimal → Series
  | _, _, [] => []
  | index, previous, value :: rest =>
    if index + 1 < period then none :: seededLoop update period values (index + 1) previous rest
    else
      let next := match previous with
        | none => (values.take period).sum / period
        | some previous => update previous value
      some next :: seededLoop update period values (index + 1) (some next) rest

def seededAverage (update : Decimal → Decimal → Decimal) (period : Nat) (values : List Decimal) :
    Series :=
  seededLoop update period values 0 none values

section

variable (update : Decimal → Decimal → Decimal) (period : Nat) (values rest : List Decimal)

theorem seededLoop_length (index : Nat) (previous : Option Decimal) :
    (seededLoop update period values index previous rest).length = rest.length := by
  induction rest generalizing index previous with
  | nil => rfl
  | cons _ _ ih =>
    unfold seededLoop
    split
    · rw [length_cons, ih, length_cons]
    · rw [length_cons, ih, length_cons]

/-- The loop over a prefix: the seed is read at or after bar `period - 1`, and a prefix with that
bar holds it whole. -/
theorem seededLoop_take (index count : Nat) (previous : Option Decimal) :
    seededLoop update period (values.take (index + count)) index previous (rest.take count) =
      (seededLoop update period values index previous rest).take count := by
  induction rest generalizing index count previous with
  | nil => simp [seededLoop]
  | cons _ _ ih =>
    cases count with
    | zero => simp [seededLoop]
    | succ count =>
      rw [take_succ_cons]
      unfold seededLoop
      have hshift : index + (count + 1) = index + 1 + count := by omega
      split
      · rw [take_succ_cons, hshift, ih]
      next hfull =>
        have hseed : (values.take (index + (count + 1))).take period = values.take period := by
          rw [take_take, Nat.min_eq_left (by omega)]
        rw [hseed, hshift]
        simp only [ih, take_succ_cons]

theorem causal_seededAverage : Causal (seededAverage update period) := by
  refine ⟨fun values => seededLoop_length _ _ _ _ _ _, ?_⟩
  intro values n
  have h := seededLoop_take update period values values 0 n none
  rw [Nat.zero_add] at h
  exact h

end

def wilderSmooth (period : Nat) : List Decimal → Series := seededAverage (wilderUpdate period) period

def exponentialMovingAverage (period : Nat) : List Decimal → Series :=
  seededAverage (emaUpdate period) period

variable (period : Nat)

theorem causal_wilderSmooth : Causal (wilderSmooth period) :=
  causal_seededAverage _ _

theorem causal_ema : Causal (exponentialMovingAverage period) :=
  causal_seededAverage _ _

/-- The values a seeded average over a series with holes has collected, and its level. -/
structure SeedState where
  seed : List Decimal := []
  previous : Option Decimal := none

/-- One bar of a seeded average with holes: a hole is skipped, the first `period` defined
values seed it, then the recurrence runs. -/
def seedStep (update : Decimal → Decimal → Decimal) (period : Nat) (state : SeedState)
    (value : Option Decimal) : SeedState × Option Decimal :=
  match value, state.previous with
  | none, _ => (state, none)
  | some value, none =>
    let seed := state.seed ++ [value]
    if seed.length < period then (⟨seed, none⟩, none)
    else
      let level := seed.sum / period
      (⟨seed, some level⟩, some level)
  | some value, some previous =>
    let level := update previous value
    (⟨state.seed, some level⟩, some level)

def wilderSmoothOptional (period : Nat) : Series → Series :=
  machine (seedStep (wilderUpdate period) period) {}

def exponentialMovingAverageOptional (period : Nat) : Series → Series :=
  machine (seedStep (emaUpdate period) period) {}

theorem causal_emaOptional :
    Causal (exponentialMovingAverageOptional period) := causal_machine _ _

def weightedMean (window : List Decimal) : Decimal :=
  let folded := (window.zipIdx 1).foldl (fun (sums : Decimal × Decimal) row =>
    (sums.1 + row.1 * row.2, sums.2 + row.2)) (0, 0)
  folded.1 / folded.2

def weightedMovingAverage (period : Nat) : List Decimal → Series :=
  rolling period (fun window => some (weightedMean window))

def weightedMovingAverageOptional (period : Nat) (values : Series) : Series :=
  (windowsDefined period values).map (Option.map weightedMean)

theorem causal_wma : Causal (weightedMovingAverage period) :=
  causal_rolling _ _

theorem causal_wmaOptional :
    Causal (weightedMovingAverageOptional period) :=
  (Causal.map _).comp (causal_windowsDefined period)

def doubleExponentialMovingAverage (period : Nat) (values : List Decimal) : Series :=
  let first := exponentialMovingAverage period values
  let second := exponentialMovingAverageOptional period first
  List.zipWith (Option.map₂ (fun outer inner => 2 * outer - inner)) first second

/-- The three chained averages of TEMA and TRIX. -/
def tripleExponential (period : Nat) (values : List Decimal) : Series × Series × Series :=
  let first := exponentialMovingAverage period values
  let second := exponentialMovingAverageOptional period first
  (first, second, exponentialMovingAverageOptional period second)

def tripleExponentialMovingAverage (period : Nat) (values : List Decimal) : Series :=
  let (first, second, third) := tripleExponential period values
  List.zipWith (Option.map₂ (fun outer tri => outer + tri))
    (List.zipWith (Option.map₂ (fun one two => 3 * one - 3 * two)) first second) third

section

variable (period : Nat)

theorem causal_secondExponential : Causal (fun values =>
    exponentialMovingAverageOptional period (exponentialMovingAverage period values)) :=
  (causal_emaOptional period).comp (causal_ema period)

theorem causal_thirdExponential :
    Causal (fun values => (tripleExponential period values).2.2) :=
  (causal_emaOptional period).comp (causal_secondExponential period)

theorem causal_dema : Causal (doubleExponentialMovingAverage period) :=
  (causal_ema period).zipWith _ (causal_secondExponential period)

theorem causal_tema : Causal (tripleExponentialMovingAverage period) :=
  ((causal_ema period).zipWith _ (causal_secondExponential period)).zipWith _
    (causal_thirdExponential period)

end

def hullMovingAverage (period : Nat) (values : List Decimal) : Series :=
  let half := weightedMovingAverage (period / 2) values
  let full := weightedMovingAverage period values
  weightedMovingAverageOptional (Nat.sqrt period)
    (List.zipWith (Option.map₂ (fun short long => 2 * short - long)) half full)

theorem causal_hma : Causal (hullMovingAverage period) :=
  (causal_wmaOptional _).comp
    ((causal_wma _).zipWith _ (causal_wma _))

/-- Consecutive entries, older first (`itertools.pairwise`). -/
def pairwise {α : Type} (xs : List α) : List (α × α) := xs.zip xs.tail

/-- The squared smoothing constant KAMA reads off a window of `period + 1` values. -/
def kamaSmoothing (fast slow : Decimal) (window : List Decimal) : Decimal :=
  let change := |window.getLastD 0 - window.headD 0|
  let volatility := ((pairwise window).map (fun pair => |pair.2 - pair.1|)).sum
  let efficiency := if volatility = 0 then 1 else change / volatility
  let base := efficiency * (fast - slow) + slow
  base * base

/-- One bar of KAMA: the bar before the first full window seeds the level, later bars move it by the
window's smoothing constant. -/
def kamaStep (period : Nat) (state : Nat × Decimal) (row : Decimal × Option Decimal) :
    (Nat × Decimal) × Option Decimal :=
  match row.2 with
  | none =>
    -- `previous = values[period - 1]`, which is not reported
    ((state.1 + 1, if state.1 + 1 = period then row.1 else state.2), none)
  | some smoothing =>
    let level := state.2 + smoothing * (row.1 - state.2)
    ((state.1 + 1, level), some level)

def kaufmanAdaptiveValues (parameters : KamaParameters) (values : List Decimal) : Series :=
  let fast : Decimal := 2 / (parameters.fastPeriod.value + 1 : Nat)
  let slow : Decimal := 2 / (parameters.slowPeriod.value + 1 : Nat)
  let smoothing := rolling (parameters.period.value + 1)
    (fun window => some (kamaSmoothing fast slow window)) values
  machine (kamaStep parameters.period.value) (0, 0) (values.zip smoothing)

/-! ## Rolling statistics -/

def windowExtreme (maximum : Bool) : List Decimal → Option Decimal
  | [] => none
  | first :: rest => some (rest.foldl (fun extreme value =>
      if (if maximum then extreme < value else value < extreme) then value else extreme) first)

def rollingExtreme (maximum : Bool) (period : Nat) : List Decimal → Series :=
  rolling period (windowExtreme maximum)

def rollingExtremeOptional (maximum : Bool) (period : Nat) (values : Series) : Series :=
  (windowsDefined period values).map (·.bind (windowExtreme maximum))

def rollingHighest (period : Nat) : List Decimal → Series := rollingExtreme true period

def rollingLowest (period : Nat) : List Decimal → Series := rollingExtreme false period

theorem causal_rollingExtreme (maximum : Bool) (period : Nat) :
    Causal (rollingExtreme maximum period) := causal_rolling _ _

theorem causal_extremeOptional (maximum : Bool) (period : Nat) :
    Causal (rollingExtremeOptional maximum period) :=
  (Causal.map _).comp (causal_windowsDefined period)

def windowDeviation (math : DecimalMath) (divisor : Nat) (window : List Decimal) : Decimal :=
  let mean := window.sum / window.length
  let variance := (window.map (fun value => (value - mean) * (value - mean))).sum / divisor
  if variance ≤ 0 then 0 else math.sqrt variance

def rollingStdev (math : DecimalMath) (divisor period : Nat) : List Decimal → Series :=
  rolling period (fun window => some (windowDeviation math divisor window))

def rollingPopulationStdev (math : DecimalMath) (period : Nat) : List Decimal → Series :=
  rollingStdev math period period

def rollingSampleStdev (math : DecimalMath) (period : Nat) : List Decimal → Series :=
  rollingStdev math (period - 1) period

theorem causal_rollingStdev (math : DecimalMath) (divisor period : Nat) :
    Causal (rollingStdev math divisor period) := causal_rolling _ _

/-- The least-squares slope and endpoint of a window. -/
def regressionLine (period : Nat) (window : List Decimal) : Decimal × Decimal :=
  let sumX := period * (period - 1) / 2
  let sumXX := (period - 1) * period * (2 * period - 1) / 6
  let divisor : Decimal := (period * sumXX - sumX * sumX : Nat)
  let sumY := window.sum
  let sumXY := (window.zipIdx.map (fun row => (row.2 : Decimal) * row.1)).sum
  let slope := (period * sumXY - sumX * sumY) / divisor
  let intercept := (sumY - slope * sumX) / period
  (intercept + slope * (period - 1 : Nat), slope)

/-- `_linear_regression_series`: the fitted endpoint. -/
def linearRegressionValue (period : Nat) : List Decimal → Series :=
  rolling period (fun window => some (regressionLine period window).1)

/-- `_linear_regression_series`: the slope. -/
def linearRegressionSlope (period : Nat) : List Decimal → Series :=
  rolling period (fun window => some (regressionLine period window).2)

def rollingZscore (math : DecimalMath) (period : Nat) (values : List Decimal) : Series :=
  List.zipWith (fun value row =>
    match row with
    | (some mean, some deviation) => if deviation = 0 then none else some ((value - mean) / deviation)
    | _ => none)
    values ((simpleMovingAverage period values).zip (rollingPopulationStdev math period values))

/-- `_percent_rank`: the share of the previous `period` values at or below the current. -/
def percentRank (period : Nat) : List Decimal → Series :=
  rolling (period + 1) (fun window =>
    some (100 * (window.dropLast.countP (· ≤ window.getLastD 0) : Nat) / period))

end Thytrader.Evaluation
