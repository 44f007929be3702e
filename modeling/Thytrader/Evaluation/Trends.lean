import Thytrader.Evaluation.Oscillators

/-!
# Volatility, bands and trend systems

`evaluation/indicator_math/volatility.py` and `trend.py`. The trend systems (Wilder ATR,
ADX, Supertrend, Parabolic SAR) carry state from bar to bar; each is a `machine` whose
state is the dataclass or the loop variables of the source.
-/

namespace Thytrader.Evaluation

open Lib MarketData Strategies Causal Option

/-! ## True range -/

/-- `_true_range`: `high - low` on the first bar. -/
def trueRange (previousClose : Option Decimal) (candle : Candle) : Decimal :=
  let highLow := candle.high - candle.low
  match previousClose with
  | none => highLow
  | some previousClose =>
    max (max highLow |candle.high - previousClose|) |candle.low - previousClose|

def trueRanges : List Candle → List Decimal :=
  withPrevious (fun previous candle => trueRange (previous.map (·.close)) candle)

theorem causal_trueRanges : Causal trueRanges := causal_withPrevious _

/-- What the ATR loop carries. -/
structure AtrState where
  trueRanges : List Decimal := []
  previousClose : Option Decimal := none
  previousAtr : Option Decimal := none

/-- One bar of the ATR loop: the seed is the mean of the last `period` true ranges. -/
def atrStep (period : Nat) (state : AtrState) (candle : Candle) : AtrState × Option Decimal :=
  let range := trueRange state.previousClose candle
  let ranges := state.trueRanges ++ [range]
  if ranges.length < period then (⟨ranges, some candle.close, state.previousAtr⟩, none)
  else
    let atr := match state.previousAtr with
      | none => (ranges.drop (ranges.length - period)).sum / period
      | some previous => wilderUpdate period previous range
    (⟨ranges, some candle.close, some atr⟩, some atr)

def averageTrueRange (period : Nat) : List Candle → Series := machine (atrStep period) {}

def normalizedAverageTrueRange (period : Nat) (candles : List Candle) : Series :=
  List.zipWith (fun (candle : Candle) atr =>
    atr.bind (fun atr => if candle.close = 0 then none else some (100 * atr / candle.close)))
    candles (averageTrueRange period candles)

variable (period : Nat)

theorem causal_atr : Causal (averageTrueRange period) :=
  causal_machine _ _

theorem causal_natr : Causal (normalizedAverageTrueRange period) :=
  id.zipWith _ (causal_atr period)

/-! ## Bands and channels -/

def bandAround (multiplier : Decimal) (middle width : Series) : Series :=
  List.zipWith (map₂ (fun middle width => middle + multiplier * width)) middle width

theorem causal_bandAround {α : Type} (multiplier : Decimal) {middle width : List α → Series}
    (hmiddle : Causal middle) (hwidth : Causal width) :
    Causal (fun xs => bandAround multiplier (middle xs) (width xs)) :=
  hmiddle.zipWith _ hwidth

/-- `_bollinger_series`, the middle. -/
def bollingerMiddle (parameters : BollingerParameters) : List Decimal → Series :=
  simpleMovingAverage parameters.period.value

/-- `_bollinger_series`, a band: the multiplier is negated for the lower one. -/
def bollingerBand (math : DecimalMath) (parameters : BollingerParameters) (multiplier : Decimal)
    (closes : List Decimal) : Series :=
  bandAround multiplier (bollingerMiddle parameters closes)
    (rollingPopulationStdev math parameters.period.value closes)

/-- `_bollinger_series`, the upper band. -/
def bollingerUpper (math : DecimalMath) (parameters : BollingerParameters) :
    List Decimal → Series :=
  bollingerBand math parameters parameters.stdevMultiplier.value

/-- `_bollinger_series`, the lower band. -/
def bollingerLower (math : DecimalMath) (parameters : BollingerParameters) :
    List Decimal → Series :=
  bollingerBand math parameters (-parameters.stdevMultiplier.value)

theorem causal_bollingerMiddle (parameters : BollingerParameters) :
    Causal (bollingerMiddle parameters) := causal_sma _

variable (math : DecimalMath)

theorem causal_bollingerBand (parameters : BollingerParameters) (multiplier : Decimal) :
    Causal (bollingerBand math parameters multiplier) :=
  causal_bandAround _ (causal_bollingerMiddle parameters) (causal_rollingStdev math _ _)

def bollingerPercentBValues (math : DecimalMath) (parameters : BollingerParameters)
    (closes : List Decimal) : Series :=
  List.zipWith (fun close bands =>
    match bands with
    | (some upper, some lower) =>
      if upper = lower then none else some ((close - lower) / (upper - lower))
    | _ => none)
    closes ((bollingerUpper math parameters closes).zip (bollingerLower math parameters closes))

def bollingerBandwidthValues (math : DecimalMath) (parameters : BollingerParameters)
    (closes : List Decimal) : Series :=
  List.zipWith (fun middle bands =>
    match middle, bands with
    | some middle, (some upper, some lower) =>
      if middle = 0 then none else some ((upper - lower) / middle)
    | _, _ => none)
    (bollingerMiddle parameters closes)
    ((bollingerUpper math parameters closes).zip (bollingerLower math parameters closes))

theorem causal_percentB (parameters : BollingerParameters) :
    Causal (bollingerPercentBValues math parameters) :=
  id.zipWith _
    ((causal_bollingerBand math parameters _).zip (causal_bollingerBand math parameters _))

theorem causal_bandwidth (parameters : BollingerParameters) :
    Causal (bollingerBandwidthValues math parameters) :=
  (causal_bollingerMiddle parameters).zipWith _
    ((causal_bollingerBand math parameters _).zip (causal_bollingerBand math parameters _))

/-- `_keltner_series`, the middle. -/
def keltnerMiddle (parameters : KeltnerParameters) (candles : List Candle) : Series :=
  exponentialMovingAverage parameters.period.value (candles.map (·.close))

/-- `_keltner_series`, a band: the multiplier is negated for the lower one. -/
def keltnerBand (parameters : KeltnerParameters) (multiplier : Decimal) (candles : List Candle) :
    Series :=
  bandAround multiplier (keltnerMiddle parameters candles)
    (averageTrueRange parameters.atrPeriod.value candles)

variable (parameters : KeltnerParameters)

theorem causal_keltnerMiddle : Causal (keltnerMiddle parameters) :=
  (causal_ema _).comp (map _)

theorem causal_keltnerBand (multiplier : Decimal) :
    Causal (keltnerBand parameters multiplier) :=
  causal_bandAround _ (causal_keltnerMiddle parameters) (causal_atr _)

/-- `_donchian_series`, the upper channel. -/
def donchianUpper (period : Nat) (candles : List Candle) : Series :=
  rollingExtreme true period (candles.map (·.high))

/-- `_donchian_series`, the lower channel. -/
def donchianLower (period : Nat) (candles : List Candle) : Series :=
  rollingExtreme false period (candles.map (·.low))

/-- `_midpoint_series`, also the Donchian middle. -/
def midpointSeries (period : Nat) (candles : List Candle) : Series :=
  (candleRange period candles).map (fun range =>
    map₂ (fun high low => (high + low) / 2) range.1 range.2)

theorem causal_donchianUpper : Causal (donchianUpper period) :=
  (causal_rollingExtreme true period).comp (map _)

theorem causal_donchianLower : Causal (donchianLower period) :=
  (causal_rollingExtreme false period).comp (map _)

theorem causal_midpointSeries : Causal (midpointSeries period) :=
  (map _).comp (causal_candleRange period)

def choppinessIndex (math : DecimalMath) (period : Nat) (candles : List Candle) : Series :=
  List.zipWith (fun range rangeSum =>
    match range, rangeSum with
    | (some high, some low), some rangeSum =>
      if high = low then none
      else some (100 * math.log10 (rangeSum / (high - low)) / math.log10 period)
    | _, _ => none)
    (candleRange period candles)
    (rolling period (fun (window : List Decimal) => some window.sum) (trueRanges candles))

/-- The log return of a bar, undefined on the first bar or a non-positive close. -/
def logReturn (math : DecimalMath) (previous : Option Candle) (candle : Candle) : Option Decimal :=
  previous.bind (fun previous =>
    if previous.close ≤ 0 ∨ candle.close ≤ 0 then none
    else some (math.ln (candle.close / previous.close)))

def historicalVolatilityValues (math : DecimalMath) (period : Nat)
    (annualizationPeriods : Option Nat) (candles : List Candle) : Series :=
  let scale := annualizationPeriods.map (fun periods => math.sqrt periods)
  (windowsDefined period (withPrevious (logReturn math) candles)).map (Option.map (fun window =>
    -- `_sample_deviation` divides by one less than the window
    let volatility := 100 * windowDeviation math (window.length - 1) window
    scale.elim volatility (volatility * ·)))

/-! ## Directional movement -/

/-- A bar's positive directional movement against the bar before it. -/
def plusMove (previous : Option Candle) (candle : Candle) : Decimal :=
  previous.elim 0 (fun previous =>
    let upMove := candle.high - previous.high
    let downMove := previous.low - candle.low
    if downMove < upMove ∧ 0 < upMove then upMove else 0)

/-- A bar's negative directional movement against the bar before it. -/
def minusMove (previous : Option Candle) (candle : Candle) : Decimal :=
  previous.elim 0 (fun previous =>
    let upMove := candle.high - previous.high
    let downMove := previous.low - candle.low
    if upMove < downMove ∧ 0 < downMove then downMove else 0)

/-- The smoothed true range and directional movements of each bar. -/
def smoothedMoves (period : Nat) (candles : List Candle) :
    List (Option Decimal × Option Decimal × Option Decimal) :=
  (wilderSmooth period (trueRanges candles)).zip
    ((wilderSmooth period (withPrevious plusMove candles)).zip
      (wilderSmooth period (withPrevious minusMove candles)))

/-- `+DI` and `-DI` of a bar, undefined on a zero smoothed range. -/
def directionalLines (row : Option Decimal × Option Decimal × Option Decimal) :
    Option (Decimal × Decimal) :=
  match row with
  | (some range, some plus, some minus) =>
    if range = 0 then none else some (100 * plus / range, 100 * minus / range)
  | _ => none

/-- The DX of a bar, undefined when both lines are zero. -/
def directionalIndex (lines : Option (Decimal × Decimal)) : Option Decimal :=
  lines.bind (fun lines =>
    let sum := lines.1 + lines.2
    if sum = 0 then none else some (100 * |lines.1 - lines.2| / sum))

/-- `_adx_series`, the lines of each bar. -/
def adxLines (period : Nat) (candles : List Candle) : List (Option (Decimal × Decimal)) :=
  (smoothedMoves period candles).map directionalLines

/-- `_adx_series`, ADX. -/
def adxValues (period : Nat) (candles : List Candle) : Series :=
  wilderSmoothOptional period ((adxLines period candles).map directionalIndex)

/-- `_adx_series`, `+DI`. -/
def plusDi (period : Nat) (candles : List Candle) : Series :=
  (adxLines period candles).map (Option.map Prod.fst)

/-- `_adx_series`, `-DI`. -/
def minusDi (period : Nat) (candles : List Candle) : Series :=
  (adxLines period candles).map (Option.map Prod.snd)

theorem causal_adxLines : Causal (adxLines period) :=
  (map _).comp (((causal_wilderSmooth period).comp causal_trueRanges).zip
    (((causal_wilderSmooth period).comp (causal_withPrevious _)).zip
      ((causal_wilderSmooth period).comp (causal_withPrevious _))))

theorem causal_adxValues : Causal (adxValues period) :=
  (causal_machine _ _).comp ((map _).comp (causal_adxLines period))

theorem causal_plusDi : Causal (plusDi period) :=
  (map _).comp (causal_adxLines period)

theorem causal_minusDi : Causal (minusDi period) :=
  (map _).comp (causal_adxLines period)

/-! ## Supertrend -/

/-- `_SupertrendState`; `rising` is a positive direction. -/
structure SupertrendBands where
  upper : Decimal
  lower : Decimal
  rising : Bool

/-- `_advance_supertrend`: bands only tighten unless the previous close broke them. -/
def advanceSupertrend (state : SupertrendBands) (close previousClose midpoint width : Decimal) :
    SupertrendBands :=
  let basicUpper := midpoint + width
  let basicLower := midpoint - width
  let upper := if basicUpper < state.upper ∨ state.upper < previousClose then basicUpper
    else state.upper
  let lower := if state.lower < basicLower ∨ previousClose < state.lower then basicLower
    else state.lower
  let rising : Bool := if state.rising then ¬ close < lower else upper < close
  ⟨upper, lower, rising⟩

/-- One bar of the Supertrend loop. -/
def supertrendStep (multiplier : Decimal) (state : Option SupertrendBands × Option Decimal)
    (row : Candle × Option Decimal) :
    (Option SupertrendBands × Option Decimal) × Option SupertrendBands :=
  match row.2 with
  | none => ((state.1, some row.1.close), none)
  | some atr =>
    let midpoint := (row.1.high + row.1.low) / 2
    let width := multiplier * atr
    let bands := match state with
      | (some bands, some previousClose) =>
        advanceSupertrend bands row.1.close previousClose midpoint width
      | _ => ⟨midpoint + width, midpoint - width, false⟩
    ((some bands, some row.1.close), some bands)

/-- The bands of `_supertrend_series`. -/
def supertrendBands (parameters : SupertrendParameters) (candles : List Candle) :
    List (Option SupertrendBands) :=
  machine (supertrendStep parameters.multiplier.value) (none, none)
    (candles.zip (averageTrueRange parameters.period.value candles))

/-- `_supertrend_series`, the value: the band the trend rests on. -/
def supertrendValue (parameters : SupertrendParameters) (candles : List Candle) : Series :=
  (supertrendBands parameters candles).map
    (Option.map (fun bands => if bands.rising then bands.lower else bands.upper))

/-- `_supertrend_series`, the direction: 1 up, -1 down. -/
def supertrendDirection (parameters : SupertrendParameters) (candles : List Candle) : Series :=
  (supertrendBands parameters candles).map (Option.map (fun bands => if bands.rising then 1 else -1))

section

variable (parameters : SupertrendParameters)

theorem causal_supertrendBands : Causal (supertrendBands parameters) :=
  (causal_machine _ _).comp (id.zip (causal_atr _))

theorem causal_supertrendValue : Causal (supertrendValue parameters) :=
  (map _).comp (causal_supertrendBands parameters)

theorem causal_supertrendDirection : Causal (supertrendDirection parameters) :=
  (map _).comp (causal_supertrendBands parameters)

end

/-! ## Parabolic SAR -/

structure SarState where
  isLong : Bool
  sar : Decimal
  extreme : Decimal
  acceleration : Decimal

/-- `_advance_long_sar`: the reported value and the state it leaves. -/
def advanceLongSar (state : SarState) (candle : Candle)
    (previousHigh previousLow step maxStep : Decimal) : SarState × Decimal :=
  if candle.low ≤ state.sar then
    let reported := max (max state.extreme previousHigh) candle.high
    let following := reported + step * (candle.low - reported)
    (⟨false, max (max following previousHigh) candle.high, candle.low, step⟩, reported)
  else
    let extreme := if state.extreme < candle.high then candle.high else state.extreme
    let acceleration := if state.extreme < candle.high then min (state.acceleration + step) maxStep
      else state.acceleration
    let following := state.sar + acceleration * (extreme - state.sar)
    (⟨true, min (min following previousLow) candle.low, extreme, acceleration⟩, state.sar)

/-- `_advance_short_sar`: the reported value and the state it leaves. -/
def advanceShortSar (state : SarState) (candle : Candle)
    (previousHigh previousLow step maxStep : Decimal) : SarState × Decimal :=
  if state.sar ≤ candle.high then
    let reported := min (min state.extreme previousLow) candle.low
    let following := reported + step * (candle.high - reported)
    (⟨true, min (min following previousLow) candle.low, candle.high, step⟩, reported)
  else
    let extreme := if candle.low < state.extreme then candle.low else state.extreme
    let acceleration := if candle.low < state.extreme then min (state.acceleration + step) maxStep
      else state.acceleration
    let following := state.sar + acceleration * (extreme - state.sar)
    (⟨false, max (max following previousHigh) candle.high, extreme, acceleration⟩, state.sar)

/-- The trend the first two bars start. -/
def initialSar (first second : Candle) (step : Decimal) : SarState :=
  let downMove := first.low - second.low
  let upMove := second.high - first.high
  let isLong : Bool := ¬ (0 < downMove ∧ upMove < downMove)
  { isLong := isLong
    sar := if isLong then first.low else first.high
    extreme := if isLong then second.high else second.low
    acceleration := step }

/-- Where the SAR loop stands: before the first bar, after it, or running. -/
inductive SarPhase where
  | empty
  | started (first : Candle)
  | running (state : SarState) (previousHigh previousLow : Decimal)

def reportSar (parameters : ParabolicSarParameters) (state : SarState) (candle : Candle)
    (previousHigh previousLow : Decimal) : SarPhase × Option Decimal :=
  let advanced := if state.isLong
    then advanceLongSar state candle previousHigh previousLow parameters.step parameters.maxStep
    else advanceShortSar state candle previousHigh previousLow parameters.step parameters.maxStep
  (.running advanced.1 candle.high candle.low, some advanced.2)

/-- One bar of the SAR loop: bar 0 reports nothing, bar 1 starts the trend and reports. -/
def sarStep (parameters : ParabolicSarParameters) (phase : SarPhase) (candle : Candle) :
    SarPhase × Option Decimal :=
  match phase with
  | .empty => (.started candle, none)
  | .started first =>
    reportSar parameters (initialSar first candle parameters.step) candle candle.high candle.low
  | .running state previousHigh previousLow =>
    reportSar parameters state candle previousHigh previousLow

def parabolicSarValues (parameters : ParabolicSarParameters) : List Candle → Series :=
  machine (sarStep parameters) .empty

/-! ## Aroon, Ichimoku and Vortex -/

/-- The position of the last extreme of a window: ties pick the most recent bar. -/
def lastExtremeIndex (beats : Decimal → Decimal → Bool) (values : List Decimal) : Nat :=
  (values.zipIdx.foldl (fun (best : Option (Decimal × Nat)) row =>
    match best with
    | none => some row
    | some held => if beats row.1 held.1 then some row else some held) none).elim 0 Prod.snd

/-- `100 * (period - bars since the extreme) / period` over a window of `period + 1`. -/
def aroonLine (beats : Decimal → Decimal → Bool) (period : Nat) (values : List Decimal) : Decimal :=
  100 * (lastExtremeIndex beats values : Nat) / period

def aroonLines (period : Nat) (window : List Candle) : Decimal × Decimal :=
  (aroonLine (fun value held => held ≤ value) period (window.map (·.high)),
    aroonLine (fun value held => value ≤ held) period (window.map (·.low)))

/-- `_aroon_series`, a line read off each window. -/
def aroonSeries (read : Decimal × Decimal → Decimal) (period : Nat) : List Candle → Series :=
  rolling (period + 1) (fun window => some (read (aroonLines period window)))

theorem causal_aroonSeries (read : Decimal × Decimal → Decimal) (period : Nat) :
    Causal (aroonSeries read period) := causal_rolling _ _

/-- `_ichimoku_series`, `senkou_a`. -/
def senkouA (parameters : IchimokuParameters) (candles : List Candle) : Series :=
  List.zipWith (map₂ (fun conversion base => (conversion + base) / 2))
    (midpointSeries parameters.tenkanPeriod.value candles)
    (midpointSeries parameters.kijunPeriod.value candles)

/-- `_vortex_series`: a movement summed over the window, over its summed true range. -/
def vortexSeries (movement : Candle → Candle → Decimal) (period : Nat) : List Candle → Series :=
  rolling (period + 1) (fun window =>
    let pairs := pairwise window
    let rangeSum := (pairs.map (fun pair => trueRange (some pair.1.close) pair.2)).sum
    if rangeSum = 0 then none
    else some ((pairs.map (fun pair => movement pair.1 pair.2)).sum / rangeSum))

/-- `_vortex_series`, VI+. -/
def vortexPlus : Nat → List Candle → Series :=
  vortexSeries (fun previous current => |current.high - previous.low|)

/-- `_vortex_series`, VI-. -/
def vortexMinus : Nat → List Candle → Series :=
  vortexSeries (fun previous current => |current.low - previous.high|)

theorem causal_vortexSeries (movement : Candle → Candle → Decimal) (period : Nat) :
    Causal (vortexSeries movement period) := causal_rolling _ _

end Thytrader.Evaluation
