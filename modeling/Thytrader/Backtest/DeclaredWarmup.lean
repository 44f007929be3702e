import Mathlib.Data.Nat.Log
import Thytrader.Backtest.Accounting
import Thytrader.Evaluation.FirstBar
import Thytrader.Evaluation.RaisingOutputs

/-!
# Declared warmup

The warmup formulas of `strategies/schema/indicator_warmup.py` against the recursions of
`evaluation/indicator_math/`: the declared warmup of an indicator is the bar its outputs are
complete at, up to zero denominators, and a validated document starts its evaluation on
complete rows (`declaredWarmup_exact`).
-/

namespace Thytrader.Backtest

open Lib MarketData Strategies Evaluation

/-- The declared warmup is what an indicator's recursions need: from it on every output has a value
unless a zero denominator lies among the last warmup bars, and before it an output has none. A
validated document reads complete rows at its first evaluation bar and the one before, and no output
divides by zero. -/
theorem declaredWarmup_exact {engine : Engine}
    (hlog : ∀ count : Nat, 2 ≤ count → engine.math.log10 count ≠ 0) :
    (∀ (indicator : IndicatorDefinition) (candles : List Candle), PositivePrices candles →
      ∀ bar < candles.length,
        (indicatorMinWarmup indicator ≤ bar + 1 →
          Regular engine.math candles indicator.rule (indicatorMinWarmup indicator) bar →
          ∀ key ∈ indicatorValueKeys indicator,
            (readRow (keyedIndicatorValues engine.math indicator candles) bar key).isSome) ∧
        (bar + 1 < indicatorMinWarmup indicator → ∃ key ∈ indicatorValueKeys indicator,
          readRow (keyedIndicatorValues engine.math indicator candles) bar key = none)) ∧
      (∀ specification strategy candles references trace,
        ValidatedDocument engine.updatesToConverge strategy →
        RegularRun engine specification strategy candles references →
        evaluateSignalTrace engine specification strategy candles references = .ok trace →
          FirstBarsDefined engine specification strategy candles references) ∧
      ∀ rule : IndicatorRule, List.Forall₂ Raising.Agrees (Raising.indicatorOutputs engine.math rule)
        (indicatorOutputs engine.math rule) := by
  refine ⟨?_, ?_, Raising.indicatorOutputs_ok hlog⟩
  · intro indicator candles hpositive bar hbar
    exact keyedIndicatorValues_warmup engine.math indicator candles hpositive hbar
  · intro specification strategy candles references trace hvalid hregular hrun
    exact evaluateSignalTrace_firstReads hvalid hregular hrun

/-- Five digits of the decimal logarithm of a power of two. -/
def coarseLog10 (value : Decimal) : Decimal := Nat.log 2 ⌊value⌋₊ * (30103 / 100000)

theorem coarseLog10_ne_zero (count : Nat) (h : 2 ≤ count) : coarseLog10 count ≠ 0 := by
  have hlog : 0 < Nat.log 2 count := Nat.log_pos (by decide) h
  unfold coarseLog10
  positivity

def coarseEngine : Engine := { hourlyEngine with math := ⟨id, id, coarseLog10⟩ }

/-- The candles the hourly run reads on its decision clock. -/
def hourlyCandles : ProductCandles := ⟨hourlyHistory.candles, [], .empty⟩

theorem hourlyStrategy_validated :
    ValidatedDocument coarseEngine.updatesToConverge hourlyStrategy where
  identifiers := by decide
  distinct := by decide
  entryResolved := by
    intro operand hoperand
    have hread : conditionIndicatorOperands hourlyStrategy.entry.condition =
        [{ indicator := "close" }] := by decide
    rw [hread, List.mem_singleton] at hoperand
    subst hoperand
    exact ⟨{ id := "close", rule := .identity .close }, by decide, rfl, by decide⟩
  exitResolved := by simp [hourlyStrategy]
  sources := by simp [hourlyStrategy]
  warmup := by decide
  filter := by simp [hourlyStrategy]

theorem hourlyRun_regular :
    RegularRun coarseEngine hourlySpecification hourlyStrategy hourlyCandles .empty := by
  have hregular (candles : List Candle) :
      NonDegenerate coarseEngine.math (decisionClockIndicators hourlyStrategy) candles := by
    intro indicator hindicator bar
    have hlisted : indicator ∈ hourlyStrategy.indicators := List.mem_of_mem_filter hindicator
    simp only [hourlyStrategy, List.mem_cons, List.not_mem_nil, or_false] at hlisted
    obtain rfl | rfl := hlisted
    · exact id
    · exact id
  refine ⟨fun selected _ => hregular selected, ?_, ?_, by simp [hourlyStrategy]⟩
  · intro group hgroup
    cases hgroup
  · intro group hgroup
    cases hgroup

def rateIndicator : IndicatorDefinition :=
  { id := "rate", rule := .roc .close ⟨3, by decide, by decide⟩ }

def hourlyRate : List Row :=
  keyedIndicatorValues coarseEngine.math rateIndicator hourlyHistory.candles

/-- The hourly document reads complete rows, and the rate of change is first defined on the
fourth bar. -/
theorem hourlyRun_declaredWarmup :
    ((∃ trace, evaluateSignalTrace coarseEngine hourlySpecification hourlyStrategy hourlyCandles
        .empty = .ok trace) ∧
      FirstBarsDefined coarseEngine hourlySpecification hourlyStrategy hourlyCandles .empty) ∧
    (∀ key ∈ indicatorValueKeys rateIndicator, (readRow hourlyRate 3 key).isSome) ∧
      ∃ key ∈ indicatorValueKeys rateIndicator, readRow hourlyRate 2 key = none := by
  obtain ⟨trace, hrun⟩ := exists_eq_ok (show (evaluateSignalTrace coarseEngine hourlySpecification
    hourlyStrategy hourlyCandles .empty).toOption.isSome = true by decide +kernel)
  have hlog (count : Nat) (h : 2 ≤ count) : coarseEngine.math.log10 count ≠ 0 :=
    coarseLog10_ne_zero count h
  obtain ⟨hkinds, hfirst, -⟩ := declaredWarmup_exact hlog
  have hpositive : PositivePrices hourlyHistory.candles := by
    unfold PositivePrices
    decide +kernel
  have hregular : Regular coarseEngine.math hourlyHistory.candles rateIndicator.rule 4 3 := by
    rintro earlier hle - ⟨hfull, hzero⟩
    obtain rfl := le_antisymm hle hfull
    exact absurd hzero (by decide +kernel)
  exact ⟨⟨⟨trace, hrun⟩, hfirst _ _ _ _ trace hourlyStrategy_validated hourlyRun_regular hrun⟩,
    (hkinds rateIndicator _ hpositive 3 (by decide)).1 (by decide) hregular,
    (hkinds rateIndicator _ hpositive 2 (by decide)).2 (by decide)⟩

/-! ## Smoothed outputs

Two flat bars, then a rising one: the directional index of the last bar is the only one of
its window, so the average of two is undefined, at the warmup bar of the indicator. -/

/-- A bar that trades at one price. -/
def flatBar (index : Nat) : Candle :=
  { startsAt := CandleInterval.oneHour.duration * index
    open_ := 100, high := 100, low := 100, close := 100, volume := 1 }

def flatStart : List Candle := [flatBar 0, flatBar 1,
  { startsAt := CandleInterval.oneHour.duration * 2
    open_ := 100, high := 102, low := 100, close := 101, volume := 1 }]

theorem flatStart_undefined :
    ¬ ∀ (math : DecimalMath) (indicator : IndicatorDefinition) (candles : List Candle),
      PositivePrices candles → ∀ bar < candles.length, indicatorMinWarmup indicator ≤ bar + 1 →
        ¬ ZeroDenominator math candles bar indicator.rule →
        ∀ key ∈ indicatorValueKeys indicator,
          (readRow (keyedIndicatorValues math indicator candles) bar key).isSome := by
  intro hclaim
  have hnone : ¬ ∀ key ∈ indicatorValueKeys
      { id := "trend", rule := .adx ⟨2, by decide, by decide⟩ },
      (readRow (keyedIndicatorValues coarseEngine.math
        { id := "trend", rule := .adx ⟨2, by decide, by decide⟩ } flatStart) 2 key).isSome := by
    decide +kernel
  refine hnone (hclaim coarseEngine.math _ flatStart ?_ 2 (by decide) (by decide) ?_)
  · intro candle hcandle
    simp only [flatStart, List.mem_cons, List.not_mem_nil, or_false] at hcandle
    obtain rfl | rfl | rfl := hcandle <;> norm_num [flatBar]
  · intro hzero
    obtain hzero | ⟨lines, hlines, hsum⟩ := hzero
    · revert hzero
      decide +kernel
    · have hfound : (adxLines 2 flatStart)[2]? = some (some (100, 0)) := by decide +kernel
      obtain rfl : (100, 0) = lines := Option.some.inj (Option.some.inj (hfound.symm.trans hlines))
      norm_num at hsum

end Thytrader.Backtest
