import Thytrader.Evaluation.RaisingOscillators

/-!
# Indicator outputs over raising division

The volatility and trend series with the division that raises, and the outputs of every
indicator kind. No output raises, whatever the candles: `indicatorOutputs_ok`.
-/

namespace Thytrader.Evaluation.Raising

open Lib MarketData Strategies

variable {math : DecimalMath}

/-! ## Volatility -/

section

variable {period : Nat}

/-- The average true range of a bar that reports one. -/
def atrLevel (period : Nat) (previousAtr : Option Decimal) (ranges : List Decimal)
    (range : Decimal) : Result Decimal :=
  match previousAtr with
  | none => divide (ranges.drop (ranges.length - period)).sum period
  | some previous => wilderUpdate period previous range

def atrStep (period : Nat) (state : AtrState) (candle : Candle) :
    Result (AtrState × Option Decimal) :=
  let range := trueRange state.previousClose candle
  let ranges := state.trueRanges ++ [range]
  if ranges.length < period then .ok (⟨ranges, some candle.close, state.previousAtr⟩, none)
  else do
    let atr ← atrLevel period state.previousAtr ranges range
    return (⟨ranges, some candle.close, some atr⟩, some atr)

theorem atrStep_eq (hperiod : 1 ≤ period) (state : AtrState) (candle : Candle) :
    atrStep period state candle = .ok (Evaluation.atrStep period state candle) := by
  obtain ⟨-, -, previousAtr⟩ := state
  simp only [atrStep, Evaluation.atrStep]
  split
  · rfl
  · cases previousAtr with
    | none =>
      rw [atrLevel, divide_natCast hperiod]
      rfl
    | some =>
      rw [atrLevel, wilderUpdate_eq hperiod]
      rfl

def averageTrueRange (period : Nat) : List Candle → Result Series := machineM (atrStep period) {}

theorem atr_eq (hperiod : 1 ≤ period) (candles : List Candle) :
    averageTrueRange period candles = .ok (Evaluation.averageTrueRange period candles) :=
  machineM_eq_of_forall (atrStep_eq hperiod) _ candles

def normalizedAverageTrueRange (period : Nat) (candles : List Candle) : Result Series := do
  combineM (fun (candle : Candle) atr =>
    match atr with
    | none => .ok none
    | some atr => divideUnlessZero (100 * atr) candle.close)
    candles (← averageTrueRange period candles)

theorem natr_eq (hperiod : 1 ≤ period) (candles : List Candle) :
    normalizedAverageTrueRange period candles =
      .ok (Evaluation.normalizedAverageTrueRange period candles) := by
  rw [normalizedAverageTrueRange, atr_eq hperiod, ok_bind]
  refine combineM_eq ?_
  intro candle _ atr _
  cases atr with
  | none => rfl
  | some => exact divideUnlessZero_eq _ _

def bollingerBand (math : DecimalMath) (parameters : BollingerParameters) (multiplier : Decimal)
    (closes : List Decimal) : Result Series := do
  return bandAround multiplier (← simpleMovingAverage parameters.period.value closes)
    (← rollingPopulationStdev math parameters.period.value closes)

theorem bollingerBand_eq (math : DecimalMath) (parameters : BollingerParameters)
    (multiplier : Decimal) (closes : List Decimal) :
    bollingerBand math parameters multiplier closes =
      .ok (Evaluation.bollingerBand math parameters multiplier closes) := by
  rw [bollingerBand, sma_eq parameters.period.one_le, ok_bind,
    rollingPopulationStdev,
    rollingStdev_eq math parameters.period.one_le parameters.period.one_le]
  rfl

def bollingerPercentBValues (math : DecimalMath) (parameters : BollingerParameters)
    (closes : List Decimal) : Result Series := do
  let upper ← bollingerBand math parameters parameters.stdevMultiplier.value closes
  let lower ← bollingerBand math parameters (-parameters.stdevMultiplier.value) closes
  combineM (fun close bands =>
    match bands with
    | (some upper, some lower) =>
      if upper = lower then .ok none else return some (← divide (close - lower) (upper - lower))
    | _ => .ok none) closes (upper.zip lower)

theorem percentB_eq (math : DecimalMath) (parameters : BollingerParameters)
    (closes : List Decimal) :
    bollingerPercentBValues math parameters closes =
      .ok (Evaluation.bollingerPercentBValues math parameters closes) := by
  rw [bollingerPercentBValues, bollingerBand_eq, ok_bind, bollingerBand_eq, ok_bind]
  refine combineM_eq ?_
  intro close _ bands _
  obtain ⟨upper, lower⟩ := bands
  rcases upper with _ | upper
  · rfl
  rcases lower with _ | lower
  · rfl
  simp only
  split
  · rfl
  next hne =>
    rw [divide_of_ne (sub_ne_zero.mpr hne)]
    rfl

def bollingerBandwidthValues (math : DecimalMath) (parameters : BollingerParameters)
    (closes : List Decimal) : Result Series := do
  let middle ← simpleMovingAverage parameters.period.value closes
  let upper ← bollingerBand math parameters parameters.stdevMultiplier.value closes
  let lower ← bollingerBand math parameters (-parameters.stdevMultiplier.value) closes
  combineM (fun middle bands =>
    match middle, bands with
    | some middle, (some upper, some lower) => divideUnlessZero (upper - lower) middle
    | _, _ => .ok none) middle (upper.zip lower)

theorem bandwidth_eq (math : DecimalMath) (parameters : BollingerParameters)
    (closes : List Decimal) :
    bollingerBandwidthValues math parameters closes =
      .ok (Evaluation.bollingerBandwidthValues math parameters closes) := by
  rw [bollingerBandwidthValues, sma_eq parameters.period.one_le, ok_bind,
    bollingerBand_eq, ok_bind, bollingerBand_eq, ok_bind]
  refine combineM_eq ?_
  intro middle _ bands _
  obtain ⟨upper, lower⟩ := bands
  rcases middle with _ | middle
  · rfl
  rcases upper with _ | upper
  · rfl
  rcases lower with _ | lower
  · rfl
  exact divideUnlessZero_eq _ _

def keltnerBand (parameters : KeltnerParameters) (multiplier : Decimal) (candles : List Candle) :
    Result Series := do
  return bandAround multiplier
    (← exponentialMovingAverage parameters.period.value (candles.map (·.close)))
    (← averageTrueRange parameters.atrPeriod.value candles)

theorem keltnerBand_eq (parameters : KeltnerParameters) (multiplier : Decimal)
    (candles : List Candle) :
    keltnerBand parameters multiplier candles =
      .ok (Evaluation.keltnerBand parameters multiplier candles) := by
  rw [keltnerBand, ema_eq parameters.period.one_le, ok_bind,
    atr_eq parameters.atrPeriod.one_le]
  rfl

def choppinessIndex (math : DecimalMath) (period : Nat) (candles : List Candle) : Result Series :=
  combineM (fun range rangeSum =>
    match range, rangeSum with
    | (some high, some low), some rangeSum =>
      if high = low then .ok none
      else do
        let spread ← divide rangeSum (high - low)
        return some (← divide (100 * math.log10 spread) (math.log10 period))
    | _, _ => .ok none)
    (candleRange period candles)
    (rolling period (fun (window : List Decimal) => some window.sum) (trueRanges candles))

/-- The logarithm of a period is a divisor, and only 1 has a zero one. -/
theorem choppinessIndex_eq (hlog : math.log10 period ≠ 0) (candles : List Candle) :
    choppinessIndex math period candles = .ok (Evaluation.choppinessIndex math period candles) := by
  refine combineM_eq ?_
  intro range _ rangeSum _
  obtain ⟨high, low⟩ := range
  rcases high with _ | high
  · rfl
  rcases low with _ | low
  · rfl
  rcases rangeSum with _ | rangeSum
  · rfl
  simp only
  split
  · rfl
  next hne =>
    rw [divide_of_ne (sub_ne_zero.mpr hne), ok_bind, divide_of_ne hlog]
    rfl

def logReturn (math : DecimalMath) (previous : Option Candle) (candle : Candle) :
    Result (Option Decimal) :=
  match previous with
  | none => .ok none
  | some previous =>
    if previous.close ≤ 0 ∨ candle.close ≤ 0 then .ok none
    else return some (math.ln (← divide candle.close previous.close))

theorem logReturn_eq (math : DecimalMath) (previous : Option Candle) (candle : Candle) :
    logReturn math previous candle = .ok (Evaluation.logReturn math previous candle) := by
  cases previous with
  | none => rfl
  | some previous =>
    simp only [logReturn, Evaluation.logReturn, Option.bind_some]
    split
    · rfl
    next hpositive =>
      have hne : previous.close ≠ 0 := (not_le.mp (fun hle => hpositive (.inl hle))).ne'
      rw [divide_of_ne hne]
      rfl

def historicalVolatilityValues (math : DecimalMath) (period : Nat)
    (annualizationPeriods : Option Nat) (candles : List Candle) : Result Series := do
  let scale := annualizationPeriods.map (fun periods => math.sqrt periods)
  let returns ← withPreviousM (logReturn math) candles
  (windowsDefined period returns).mapM (fun window =>
    match window with
    | none => .ok none
    | some window => do
      let volatility := 100 * (← windowDeviation math (window.length - 1) window)
      return some (scale.elim volatility (volatility * ·)))

theorem historicalVolatility_eq (math : DecimalMath) (hperiod : 2 ≤ period)
    (annualizationPeriods : Option Nat) (candles : List Candle) :
    historicalVolatilityValues math period annualizationPeriods candles =
      .ok (Evaluation.historicalVolatilityValues math period annualizationPeriods candles) := by
  rw [historicalVolatilityValues, withPreviousM_eq (logReturn_eq math), ok_bind]
  refine mapM_eq_map ?_
  intro window hwindow
  cases window with
  | none => rfl
  | some window =>
    have hlength := length_of_mem_windowsDefined hwindow
    simp only [windowDeviation_eq math (show 1 ≤ window.length - 1 by omega)
      (show 1 ≤ window.length by omega), ok_bind]
    rfl

end

/-! ## Trend systems -/

section

variable {period : Nat}

def directionalLines (row : Option Decimal × Option Decimal × Option Decimal) :
    Result (Option (Decimal × Decimal)) :=
  match row with
  | (some range, some plus, some minus) =>
    if range = 0 then .ok none
    else return some (← divide (100 * plus) range, ← divide (100 * minus) range)
  | _ => .ok none

theorem directionalLines_eq (row : Option Decimal × Option Decimal × Option Decimal) :
    directionalLines row = .ok (Evaluation.directionalLines row) := by
  obtain ⟨range, plus, minus⟩ := row
  rcases range with _ | range
  · rfl
  rcases plus with _ | plus
  · rfl
  rcases minus with _ | minus
  · rfl
  simp only [directionalLines, Evaluation.directionalLines]
  split
  · rfl
  next hrange =>
    rw [divide_of_ne hrange, ok_bind, divide_of_ne hrange]
    rfl

def directionalIndex (lines : Option (Decimal × Decimal)) : Result (Option Decimal) :=
  match lines with
  | none => .ok none
  | some lines => divideUnlessZero (100 * |lines.1 - lines.2|) (lines.1 + lines.2)

theorem directionalIndex_eq (lines : Option (Decimal × Decimal)) :
    directionalIndex lines = .ok (Evaluation.directionalIndex lines) := by
  cases lines with
  | none => rfl
  | some => exact divideUnlessZero_eq _ _

def adxLines (period : Nat) (candles : List Candle) :
    Result (List (Option (Decimal × Decimal))) := do
  let ranges ← wilderSmooth period (trueRanges candles)
  let plus ← wilderSmooth period (withPrevious plusMove candles)
  let minus ← wilderSmooth period (withPrevious minusMove candles)
  (ranges.zip (plus.zip minus)).mapM directionalLines

theorem adxLines_eq (hperiod : 1 ≤ period) (candles : List Candle) :
    adxLines period candles = .ok (Evaluation.adxLines period candles) := by
  rw [adxLines, wilderSmooth_eq hperiod, ok_bind, wilderSmooth_eq hperiod, ok_bind,
    wilderSmooth_eq hperiod, ok_bind]
  exact mapM_eq_map (fun row _ => directionalLines_eq row)

def adxValues (period : Nat) (candles : List Candle) : Result Series := do
  let lines ← adxLines period candles
  let indices ← lines.mapM directionalIndex
  wilderSmoothOptional period indices

theorem adxValues_eq (hperiod : 1 ≤ period) (candles : List Candle) :
    adxValues period candles = .ok (Evaluation.adxValues period candles) := by
  rw [adxValues, adxLines_eq hperiod, ok_bind,
    mapM_eq_map (fun lines _ => directionalIndex_eq lines), ok_bind,
    wilderSmoothOptional_eq hperiod]
  rfl

/-- `+DI` or `-DI`, read off the lines of each bar. -/
def adxLine (read : Decimal × Decimal → Decimal) (period : Nat) (candles : List Candle) :
    Result Series := do
  return (← adxLines period candles).map (Option.map read)

variable (read : Decimal × Decimal → Decimal)

theorem adxLine_eq (hperiod : 1 ≤ period) (candles : List Candle) : adxLine read period candles =
      .ok ((Evaluation.adxLines period candles).map (Option.map read)) := by
  rw [adxLine, adxLines_eq hperiod]
  rfl

def supertrendBands (parameters : SupertrendParameters) (candles : List Candle) :
    Result (List (Option SupertrendBands)) := do
  let atr ← averageTrueRange parameters.period.value candles
  return machine (supertrendStep parameters.multiplier.value) (none, none) (candles.zip atr)

def supertrendSeries (read : SupertrendBands → Decimal) (parameters : SupertrendParameters)
    (candles : List Candle) : Result Series := do
  return (← supertrendBands parameters candles).map (Option.map read)

theorem supertrendSeries_eq (read : SupertrendBands → Decimal) (parameters : SupertrendParameters)
    (candles : List Candle) :
    supertrendSeries read parameters candles =
      .ok ((Evaluation.supertrendBands parameters candles).map (Option.map read)) := by
  rw [supertrendSeries, supertrendBands, atr_eq parameters.period.one_le]
  rfl

def aroonLine (beats : Decimal → Decimal → Bool) (period : Nat) (values : List Decimal) :
    Result Decimal :=
  divide (100 * (lastExtremeIndex beats values : Nat)) period

def aroonSeries (read : Decimal × Decimal → Decimal) (period : Nat) : List Candle → Result Series :=
  rollingM (period + 1) (fun window => do
    let up ← aroonLine (fun value held => held ≤ value) period (window.map (·.high))
    let down ← aroonLine (fun value held => value ≤ held) period (window.map (·.low))
    return some (read (up, down)))

theorem aroonSeries_eq (hperiod : 1 ≤ period) (candles : List Candle) :
    aroonSeries read period candles = .ok (Evaluation.aroonSeries read period candles) := by
  refine rollingM_eq ?_
  intro window _ _
  rw [aroonLine, divide_natCast hperiod, ok_bind, aroonLine, divide_natCast hperiod]
  rfl

def vortexSeries (movement : Candle → Candle → Decimal) (period : Nat) :
    List Candle → Result Series :=
  rollingRatio (fun window => ((pairwise window).map (fun pair => movement pair.1 pair.2)).sum)
    (fun window => ((pairwise window).map (fun pair => trueRange (some pair.1.close) pair.2)).sum)
    (period + 1)

end

/-! ## Dispatch -/

def onSource (field : CandleField) (calculate : List Decimal → Result Series)
    (candles : List Candle) : Result Series :=
  calculate (sourceSeries field candles)

/-- An output that divides by nothing but literals. -/
def undivided (series : List Candle → Series) (candles : List Candle) : Result Series :=
  .ok (series candles)

def cumulativeSignal (line : List Candle → Result (List Decimal)) (period : Nat)
    (candles : List Candle) : Result Series := do
  simpleMovingAverage period (← line candles)

/-- `indicatorOutputs`, output for output. -/
def indicatorOutputs (math : DecimalMath) : IndicatorRule → List (List Candle → Result Series)
  | .ema input period => [onSource input (exponentialMovingAverage period.value)]
  | .sma input period => [onSource input (simpleMovingAverage period.value)]
  | .rsi period => [onSource .close (relativeStrengthIndex period.value)]
  | .atr period => [averageTrueRange period.value]
  | .volumeSma period => [onSource .volume (simpleMovingAverage period.value)]
  | .highest input period =>
    [undivided (Evaluation.onSource input (rollingHighest period.value))]
  | .lowest input period => [undivided (Evaluation.onSource input (rollingLowest period.value))]
  | .stdev input period => [onSource input (rollingPopulationStdev math period.value)]
  | .roc input period => [onSource input (rateOfChange period.value)]
  | .williamsR period => [williamsPercentR period.value]
  | .cci period => [commodityChannelIndex period.value]
  | .identity input => [undivided (Evaluation.onSource input identityValues)]
  | .constant value => [undivided (constantValues value)]
  | .wma input period => [onSource input (weightedMovingAverage period.value)]
  | .momentum input period => [undivided (Evaluation.onSource input (momentum period.value))]
  | .mfi period => [moneyFlowIndex period.value]
  | .macd parameters =>
    [onSource .close (macdLine parameters), onSource .close (macdSignal parameters),
      onSource .close (macdHistogram parameters)]
  | .bollinger parameters =>
    [onSource .close (simpleMovingAverage parameters.period.value),
      onSource .close (bollingerBand math parameters parameters.stdevMultiplier.value),
      onSource .close (bollingerBand math parameters (-parameters.stdevMultiplier.value))]
  | .stdevSample input period => [onSource input (rollingSampleStdev math period.value)]
  | .stochastic parameters => [stochasticK parameters, stochasticD parameters]
  | .adx period =>
    [adxValues period.value, adxLine Prod.fst period.value, adxLine Prod.snd period.value]
  | .dema input period => [onSource input (doubleExponentialMovingAverage period.value)]
  | .tema input period => [onSource input (tripleExponentialMovingAverage period.value)]
  | .hma input period => [onSource input (hullMovingAverage period.value)]
  | .kama input parameters => [onSource input (kaufmanAdaptiveValues parameters)]
  | .vwma period => [volumeWeighted (fun candle => .ok candle.close) period.value]
  | .supertrend parameters =>
    [supertrendSeries (fun bands => if bands.rising then bands.lower else bands.upper) parameters,
      supertrendSeries (fun bands => if bands.rising then 1 else -1) parameters]
  | .parabolicSar parameters => [undivided (parabolicSarValues parameters)]
  | .aroon period =>
    [aroonSeries Prod.fst period.value, aroonSeries Prod.snd period.value,
      aroonSeries (fun lines => lines.1 - lines.2) period.value]
  | .ichimoku parameters =>
    [undivided (midpointSeries parameters.tenkanPeriod.value),
      undivided (midpointSeries parameters.kijunPeriod.value), undivided (senkouA parameters),
      undivided (midpointSeries parameters.senkouBPeriod.value)]
  | .vortex period =>
    [vortexSeries (fun previous current => |current.high - previous.low|) period.value,
      vortexSeries (fun previous current => |current.low - previous.high|) period.value]
  | .linearRegression input period =>
    [onSource input (linearRegressionSeries Prod.fst period.value),
      onSource input (linearRegressionSeries Prod.snd period.value)]
  | .trix period => [onSource .close (tripleExponentialRate period.value)]
  | .stochasticRsi parameters =>
    [onSource .close (stochasticRsiK parameters), onSource .close (stochasticRsiD parameters)]
  | .ppo parameters =>
    [onSource .close (ppoLine parameters), onSource .close (ppoSignal parameters),
      onSource .close (ppoHistogram parameters)]
  | .ultimateOscillator parameters => [ultimateOscillatorValues parameters]
  | .awesomeOscillator parameters => [awesomeOscillatorValues parameters]
  | .cmo period => [onSource .close (chandeMomentumOscillator period.value)]
  | .tsi parameters =>
    [onSource .close (trueStrengthLine parameters), onSource .close (trueStrengthSignal parameters)]
  | .keltner parameters =>
    [keltnerBand parameters parameters.multiplier.value,
      onSource .close (exponentialMovingAverage parameters.period.value),
      keltnerBand parameters (-parameters.multiplier.value)]
  | .donchian period =>
    [undivided (donchianUpper period.value), undivided (midpointSeries period.value),
      undivided (donchianLower period.value)]
  | .bollingerPercentB parameters => [onSource .close (bollingerPercentBValues math parameters)]
  | .bollingerBandwidth parameters => [onSource .close (bollingerBandwidthValues math parameters)]
  | .natr period => [normalizedAverageTrueRange period.value]
  | .choppiness period => [choppinessIndex math period.value]
  | .historicalVolatility period annualizationPeriods =>
    [historicalVolatilityValues math period.value (annualizationPeriods.map (·.value))]
  | .obv signalPeriod =>
    [undivided (cumulativeSeries onBalanceLine),
      cumulativeSignal (fun candles => .ok (onBalanceLine candles)) signalPeriod.value]
  | .cmf period => [volumeWeighted moneyFlowMultiplier period.value]
  | .accumulationDistribution signalPeriod =>
    [fun candles => return (← accumulationLine candles).map some,
      cumulativeSignal accumulationLine signalPeriod.value]
  | .vwap period => [volumeWeighted (fun candle => .ok (typicalPrice candle)) period.value]
  | .forceIndex period => [forceIndex period.value]
  | .zscore input period => [onSource input (rollingZscore math period.value)]
  | .percentRank input period => [onSource input (percentRank period.value)]

/-- An output that may raise returns what the plain one computes, on any candles. -/
def Agrees (raising : List Candle → Result Series) (plain : List Candle → Series) : Prop :=
  ∀ candles, raising candles = .ok (plain candles)

theorem agrees_undivided (series : List Candle → Series) : Agrees (undivided series) series :=
  fun _ => rfl

theorem agrees_onSource (field : CandleField) {raising : List Decimal → Result Series}
    {plain : List Decimal → Series} (h : ∀ values, raising values = .ok (plain values)) :
    Agrees (onSource field raising) (Evaluation.onSource field plain) :=
  fun _ => h _

theorem agrees_cumulativeSignal {raising : List Candle → Result (List Decimal)}
    {line : List Candle → List Decimal} (h : ∀ candles, raising candles = .ok (line candles))
    {period : Nat} (hperiod : 1 ≤ period) :
    Agrees (cumulativeSignal raising period) (Evaluation.cumulativeSignal line period) := by
  intro candles
  rw [cumulativeSignal, h, ok_bind, sma_eq hperiod]
  rfl

/-- No output of any kind divides by zero, whatever the candles. The choppiness index
divides by the decimal logarithm of its period, which is zero for a period of 1 only. -/
theorem indicatorOutputs_ok (hlog : ∀ count : Nat, 2 ≤ count → math.log10 count ≠ 0)
    (rule : IndicatorRule) :
    List.Forall₂ Agrees (indicatorOutputs math rule) (Evaluation.indicatorOutputs math rule) := by
  cases rule with
  | ema _ period =>
    exact .cons (agrees_onSource _ (ema_eq period.one_le)) .nil
  | sma _ period | volumeSma period => exact .cons (agrees_onSource _ (sma_eq period.one_le)) .nil
  | rsi period => exact .cons (agrees_onSource _ (rsi_eq period.one_le)) .nil
  | atr period => exact .cons (atr_eq period.one_le) .nil
  | stdev _ period =>
    exact .cons (agrees_onSource _ (rollingStdev_eq math period.one_le period.one_le)) .nil
  | roc | cmo => exact .cons (agrees_onSource _ (rollingRatio_eq _ _ _)) .nil
  | williamsR => exact .cons (williamsR_eq _) .nil
  | cci period => exact .cons (cci_eq period.one_le) .nil
  | wma _ period =>
    exact .cons (agrees_onSource _ (wma_eq period.one_le)) .nil
  | mfi => exact .cons (rollingRatio_eq _ _ _) .nil
  | macd parameters =>
    exact .cons (agrees_onSource _ (macdLine_eq parameters))
      (.cons (agrees_onSource _ (macdSignal_eq parameters))
        (.cons (agrees_onSource _ (macdHistogram_eq parameters)) .nil))
  | bollinger parameters =>
    exact .cons (agrees_onSource _ (sma_eq parameters.period.one_le))
      (.cons (agrees_onSource _ (bollingerBand_eq math parameters _))
        (.cons (agrees_onSource _ (bollingerBand_eq math parameters _)) .nil))
  | stdevSample _ period =>
    have hdivisor : 1 ≤ period.value - 1 := by have := period.lower; omega
    exact .cons (agrees_onSource _ (rollingStdev_eq math hdivisor period.one_le)) .nil
  | stochastic parameters =>
    exact .cons (stochasticK_eq parameters) (.cons (stochasticD_eq parameters) .nil)
  | adx period =>
    exact .cons (adxValues_eq period.one_le)
      (.cons (adxLine_eq _ period.one_le) (.cons (adxLine_eq _ period.one_le) .nil))
  | dema _ period =>
    exact .cons (agrees_onSource _ (dema_eq period.one_le)) .nil
  | tema _ period =>
    exact .cons (agrees_onSource _ (tema_eq period.one_le)) .nil
  | hma _ period => exact .cons (agrees_onSource _ (hma_eq period.lower)) .nil
  | kama _ parameters =>
    exact .cons (agrees_onSource _ (kama_eq parameters)) .nil
  | vwma | vwap => exact .cons (volumeWeighted_eq (fun _ => rfl) _) .nil
  | supertrend parameters =>
    exact .cons (supertrendSeries_eq _ parameters) (.cons (supertrendSeries_eq _ parameters) .nil)
  | aroon period =>
    exact .cons (aroonSeries_eq _ period.one_le) (.cons (aroonSeries_eq _ period.one_le)
      (.cons (aroonSeries_eq _ period.one_le) .nil))
  | ichimoku =>
    exact .cons (agrees_undivided _) (.cons (agrees_undivided _) (.cons (agrees_undivided _)
      (.cons (agrees_undivided _) .nil)))
  | vortex =>
    exact .cons (rollingRatio_eq _ _ _) (.cons (rollingRatio_eq _ _ _) .nil)
  | linearRegression _ period =>
    exact .cons (agrees_onSource _ (linearRegressionSeries_eq _ period.lower))
      (.cons (agrees_onSource _ (linearRegressionSeries_eq _ period.lower)) .nil)
  | trix period => exact .cons (agrees_onSource _ (trix_eq period.one_le)) .nil
  | stochasticRsi parameters =>
    exact .cons (agrees_onSource _ (stochasticRsiK_eq parameters))
      (.cons (agrees_onSource _ (stochasticRsiD_eq parameters)) .nil)
  | ppo parameters =>
    exact .cons (agrees_onSource _ (ppoLine_eq parameters))
      (.cons (agrees_onSource _ (ppoSignal_eq parameters))
        (.cons (agrees_onSource _ (ppoHistogram_eq parameters)) .nil))
  | ultimateOscillator parameters => exact .cons (ultimate_eq parameters) .nil
  | awesomeOscillator parameters => exact .cons (awesome_eq parameters) .nil
  | tsi parameters =>
    exact .cons (agrees_onSource _ (trueStrengthLine_eq parameters))
      (.cons (agrees_onSource _ (trueStrengthSignal_eq parameters)) .nil)
  | keltner parameters =>
    exact .cons (keltnerBand_eq parameters _)
      (.cons (agrees_onSource _ (ema_eq parameters.period.one_le))
        (.cons (keltnerBand_eq parameters _) .nil))
  | donchian =>
    exact .cons (agrees_undivided _) (.cons (agrees_undivided _) (.cons (agrees_undivided _) .nil))
  | bollingerPercentB parameters =>
    exact .cons (agrees_onSource _ (percentB_eq math parameters)) .nil
  | bollingerBandwidth parameters =>
    exact .cons (agrees_onSource _ (bandwidth_eq math parameters)) .nil
  | natr period => exact .cons (natr_eq period.one_le) .nil
  | choppiness period => exact .cons (choppinessIndex_eq (hlog _ period.lower)) .nil
  | historicalVolatility period =>
    exact .cons (historicalVolatility_eq math period.lower _) .nil
  | obv signalPeriod =>
    exact .cons (agrees_undivided _)
      (.cons (agrees_cumulativeSignal (fun _ => rfl) signalPeriod.one_le) .nil)
  | cmf => exact .cons (volumeWeighted_eq moneyFlowMultiplier_eq _) .nil
  | accumulationDistribution signalPeriod =>
    refine .cons ?_ (.cons (agrees_cumulativeSignal accumulationLine_eq signalPeriod.one_le) .nil)
    intro candles
    simp only [accumulationLine_eq, ok_bind]
    rfl
  | forceIndex period =>
    exact .cons (fun _ => emaOptional_eq period.one_le _) .nil
  | zscore _ period =>
    exact .cons (agrees_onSource _ (rollingZscore_eq math period.one_le)) .nil
  | percentRank _ period =>
    exact .cons (agrees_onSource _ (percentRank_eq period.one_le)) .nil
  | _ => exact .cons (agrees_undivided _) .nil

end Thytrader.Evaluation.Raising
