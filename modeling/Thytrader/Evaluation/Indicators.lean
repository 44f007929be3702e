import Thytrader.Evaluation.Trends

/-!
# Indicator rows

`evaluation/indicators.py`, with the warmup rules of `strategies/schema/`
(`indicator_warmup.py`, `indicator_convergence.py`, `timeframes.py`): every declared
indicator is dispatched to its output series, the series are keyed and lagged, and one
row of values results per candle, from the candles up to it (`calculateIndicatorRows_prefix`).

The dispatch tables of the source are `indicatorOutputs`: the output series of a kind, in the order
of `indicator_output_series`.
-/

namespace Thytrader.Evaluation

open Lib MarketData Strategies Causal

/-! ## Dispatch -/

def onSource (field : CandleField) (calculate : List Decimal → Series) (candles : List Candle) :
    Series :=
  calculate (sourceSeries field candles)

theorem causal_onSource (field : CandleField) {calculate : List Decimal → Series}
    (h : Causal calculate) : Causal (onSource field calculate) :=
  h.comp (map _)

def identityValues : List Decimal → Series := List.map some

def constantValues (value : Decimal) : List Candle → Series := List.map (fun _ => some value)

def indicatorOutputs (math : DecimalMath) : IndicatorRule → List (List Candle → Series)
  | .ema input period => [onSource input (exponentialMovingAverage period.value)]
  | .sma input period => [onSource input (simpleMovingAverage period.value)]
  | .rsi period => [onSource .close (relativeStrengthIndex period.value)]
  | .atr period => [averageTrueRange period.value]
  | .volumeSma period => [onSource .volume (simpleMovingAverage period.value)]
  | .highest input period => [onSource input (rollingHighest period.value)]
  | .lowest input period => [onSource input (rollingLowest period.value)]
  | .stdev input period => [onSource input (rollingPopulationStdev math period.value)]
  | .roc input period => [onSource input (rateOfChange period.value)]
  | .williamsR period => [williamsPercentR period.value]
  | .cci period => [commodityChannelIndex period.value]
  | .identity input => [onSource input identityValues]
  | .constant value => [constantValues value]
  | .wma input period => [onSource input (weightedMovingAverage period.value)]
  | .momentum input period => [onSource input (momentum period.value)]
  | .mfi period => [moneyFlowIndex period.value]
  | .macd parameters =>
    [onSource .close (macdLine parameters), onSource .close (macdSignal parameters),
      onSource .close (macdHistogram parameters)]
  | .bollinger parameters =>
    [onSource .close (bollingerMiddle parameters), onSource .close (bollingerUpper math parameters),
      onSource .close (bollingerLower math parameters)]
  | .stdevSample input period => [onSource input (rollingSampleStdev math period.value)]
  | .stochastic parameters => [stochasticK parameters, stochasticD parameters]
  | .adx period => [adxValues period.value, plusDi period.value, minusDi period.value]
  | .dema input period => [onSource input (doubleExponentialMovingAverage period.value)]
  | .tema input period => [onSource input (tripleExponentialMovingAverage period.value)]
  | .hma input period => [onSource input (hullMovingAverage period.value)]
  | .kama input parameters => [onSource input (kaufmanAdaptiveValues parameters)]
  | .vwma period => [volumeWeightedMovingAverage period.value]
  | .supertrend parameters => [supertrendValue parameters, supertrendDirection parameters]
  | .parabolicSar parameters => [parabolicSarValues parameters]
  | .aroon period =>
    [aroonSeries Prod.fst period.value, aroonSeries Prod.snd period.value,
      aroonSeries (fun lines => lines.1 - lines.2) period.value]
  | .ichimoku parameters =>
    [midpointSeries parameters.tenkanPeriod.value, midpointSeries parameters.kijunPeriod.value,
      senkouA parameters, midpointSeries parameters.senkouBPeriod.value]
  | .vortex period => [vortexPlus period.value, vortexMinus period.value]
  | .linearRegression input period =>
    [onSource input (linearRegressionValue period.value),
      onSource input (linearRegressionSlope period.value)]
  | .trix period => [onSource .close (tripleExponentialRate period.value)]
  | .stochasticRsi parameters =>
    [onSource .close (stochasticRsiK parameters), onSource .close (stochasticRsiD parameters)]
  | .ppo parameters =>
    [onSource .close (ppoLine parameters), onSource .close (ppoSignal parameters),
      onSource .close (ppoHistogram parameters)]
  | .ultimateOscillator parameters => [ultimateOscillatorValues parameters]
  | .awesomeOscillator parameters => [awesomeOscillatorValues parameters]
  | .cmo period => [onSource .close (chandeMomentumOscillator period.value)]
  | .tsi parameters =>
    [onSource .close (trueStrengthLine parameters), onSource .close (trueStrengthSignal parameters)]
  | .keltner parameters =>
    [keltnerBand parameters parameters.multiplier.value, keltnerMiddle parameters,
      keltnerBand parameters (-parameters.multiplier.value)]
  | .donchian period =>
    [donchianUpper period.value, midpointSeries period.value, donchianLower period.value]
  | .bollingerPercentB parameters => [onSource .close (bollingerPercentBValues math parameters)]
  | .bollingerBandwidth parameters => [onSource .close (bollingerBandwidthValues math parameters)]
  | .natr period => [normalizedAverageTrueRange period.value]
  | .choppiness period => [choppinessIndex math period.value]
  | .historicalVolatility period annualizationPeriods =>
    [historicalVolatilityValues math period.value (annualizationPeriods.map (·.value))]
  | .obv signalPeriod =>
    [cumulativeSeries onBalanceLine, cumulativeSignal onBalanceLine signalPeriod.value]
  | .cmf period => [chaikinMoneyFlow period.value]
  | .accumulationDistribution signalPeriod =>
    [cumulativeSeries accumulationLine, cumulativeSignal accumulationLine signalPeriod.value]
  | .vwap period => [rollingVolumeWeightedAveragePrice period.value]
  | .forceIndex period => [forceIndex period.value]
  | .zscore input period => [onSource input (rollingZscore math period.value)]
  | .percentRank input period => [onSource input (percentRank period.value)]

variable (math : DecimalMath)

theorem causal_indicatorOutputs (rule : IndicatorRule) :
    (indicatorOutputs math rule).Forall Causal := by
  cases rule with
  | ema => exact causal_onSource _ (causal_ema _)
  | sma | volumeSma => exact causal_onSource _ (causal_sma _)
  | rsi => exact causal_onSource _ (causal_rsi _)
  | atr => exact causal_atr _
  | highest | lowest => exact causal_onSource _ (causal_rollingExtreme _ _)
  | stdev | stdevSample => exact causal_onSource _ (causal_rollingStdev _ _ _)
  | roc | momentum | cmo | percentRank => exact causal_onSource _ (causal_rolling _ _)
  | williamsR => exact causal_williamsR _
  | cci => exact (causal_rolling _ _).comp (map _)
  | identity => exact causal_onSource _ (map _)
  | constant => exact map _
  | wma => exact causal_onSource _ (causal_wma _)
  | mfi => exact causal_rolling _ _
  | macd =>
    exact ⟨causal_onSource _ (causal_macdLine _), causal_onSource _ (causal_macdSignal _),
      causal_onSource _ (causal_macdHistogram _)⟩
  | bollinger =>
    exact ⟨causal_onSource _ (causal_bollingerMiddle _),
      causal_onSource _ (causal_bollingerBand _ _ _), causal_onSource _ (causal_bollingerBand _ _ _)⟩
  | stochastic => exact ⟨causal_stochasticK _, (causal_smaDefined _).comp (causal_stochasticK _)⟩
  | adx => exact ⟨causal_adxValues _, causal_plusDi _, causal_minusDi _⟩
  | dema => exact causal_onSource _ (causal_dema _)
  | tema => exact causal_onSource _ (causal_tema _)
  | hma => exact causal_onSource _ (causal_hma _)
  | kama => exact causal_onSource _ ((causal_machine _ _).comp (id.zip (causal_rolling _ _)))
  | vwma | cmf | vwap => exact causal_volumeWeighted _ _
  | supertrend => exact ⟨causal_supertrendValue _, causal_supertrendDirection _⟩
  | parabolicSar => exact causal_machine _ _
  | aroon =>
    exact ⟨causal_aroonSeries _ _, causal_aroonSeries _ _, causal_aroonSeries _ _⟩
  | ichimoku =>
    exact ⟨causal_midpointSeries _, causal_midpointSeries _, (causal_midpointSeries _).zipWith _ (causal_midpointSeries _),
      causal_midpointSeries _⟩
  | vortex => exact ⟨causal_vortexSeries _ _, causal_vortexSeries _ _⟩
  | linearRegression =>
    exact ⟨causal_onSource _ (causal_rolling _ _),
      causal_onSource _ (causal_rolling _ _)⟩
  | trix => exact causal_onSource _ (causal_trix _)
  | stochasticRsi =>
    exact ⟨causal_onSource _ (causal_stochasticRsiK _), causal_onSource _ (causal_stochasticRsiD _)⟩
  | ppo =>
    exact ⟨causal_onSource _ (causal_ppoLine _), causal_onSource _ (causal_ppoSignal _),
      causal_onSource _ (causal_ppoHistogram _)⟩
  | ultimateOscillator => exact (causal_rolling _ _).comp (causal_withPrevious _)
  | awesomeOscillator => exact causal_awesome _
  | tsi =>
    exact ⟨causal_onSource _ (causal_trueStrengthLine _),
      causal_onSource _ (causal_trueStrengthSignal _)⟩
  | keltner =>
    exact ⟨causal_keltnerBand _ _, causal_keltnerMiddle _, causal_keltnerBand _ _⟩
  | donchian =>
    exact ⟨causal_donchianUpper _, causal_midpointSeries _, causal_donchianLower _⟩
  | bollingerPercentB => exact causal_onSource _ (causal_percentB _ _)
  | bollingerBandwidth => exact causal_onSource _ (causal_bandwidth _ _)
  | natr => exact causal_natr _
  | choppiness => exact (causal_candleRange _).zipWith _ ((causal_rolling _ _).comp causal_trueRanges)
  | historicalVolatility =>
    exact (map _).comp ((causal_windowsDefined _).comp (causal_withPrevious _))
  | obv =>
    exact ⟨causal_cumulativeSeries causal_onBalanceLine,
      causal_cumulativeSignal causal_onBalanceLine _⟩
  | accumulationDistribution =>
    exact ⟨causal_cumulativeSeries causal_accumulationLine,
      causal_cumulativeSignal causal_accumulationLine _⟩
  | forceIndex => exact causal_forceIndex _
  | zscore => exact causal_onSource _ (id.zipWith _ ((causal_sma _).zip (causal_rollingStdev _ _ _)))

/-! ## Rows -/

/-- The values of one bar by output key. -/
abbrev Row := Dict String (Option Decimal)

/-- `row.get(key)`: an absent key reads as undefined. -/
def Row.value (row : Row) (key : String) : Option Decimal := (row.get? key).join

def assignSeries (key : String) (rows : List Row) (series : Series) : List Row :=
  List.zipWith (fun row value => Dict.set row key value) rows series

def unlaggedKeyedValues (math : DecimalMath) (indicator : IndicatorDefinition)
    (candles : List Candle) : List Row :=
  ((indicatorValueKeys indicator).zip (indicatorOutputs math indicator.rule)).foldl
    (fun rows output => assignSeries output.1 rows (output.2 candles))
    (candles.map (fun _ => Dict.empty))

/-- `_keyed_indicator_values`: the outputs, delayed by the declared offset. -/
def keyedIndicatorValues (math : DecimalMath) (indicator : IndicatorDefinition)
    (candles : List Candle) : List Row :=
  lag (indicatorOffset indicator) (Dict.fromKeys (indicatorValueKeys indicator) none)
    (unlaggedKeyedValues math indicator candles)

def addOperandLag (known : List String) (rows : List Row) (operand : IndicatorOperand) :
    List Row :=
  match operand.offset with
  | none => rows
  | some offset =>
    if operand.indicator ∈ known then
      let baseKey := operandValueKey { operand with offset := none }
      assignSeries (operandValueKey operand) rows
        (lag offset.value none (rows.map (fun row => Row.value row baseKey)))
    else rows

def calculateIndicatorRows (math : DecimalMath) (indicators : List IndicatorDefinition)
    (operands : List IndicatorOperand) (candles : List Candle) : List Row :=
  operands.foldl (addOperandLag (indicators.map (·.id)))
    (indicators.foldl (fun rows indicator =>
      List.zipWith Dict.update rows (keyedIndicatorValues math indicator candles))
      (candles.map (fun _ => Dict.empty)))

theorem causal_foldl {ι : Type} {items : List ι} {extend : List Candle → List Row → ι → List Row}
    {start : List Candle → List Row} (hstart : Causal start)
    (hstep : ∀ item ∈ items, ∀ rows : List Candle → List Row, Causal rows →
      Causal (fun candles => extend candles (rows candles) item)) :
    Causal (fun candles => items.foldl (extend candles) (start candles)) := by
  induction items generalizing start with
  | nil => exact hstart
  | cons item _ ih =>
    exact ih (hstep item (by simp) start hstart)
      (fun other hother => hstep other (by simp [hother]))

variable (indicator : IndicatorDefinition)

theorem causal_unlaggedKeyedValues : Causal (unlaggedKeyedValues math indicator) := by
  refine causal_foldl (map _) ?_
  intro output houtput rows hrows
  have hcausal := (List.forall_iff_forall_mem.mp (causal_indicatorOutputs math indicator.rule))
    output.2 (List.of_mem_zip houtput).2
  exact hrows.zipWith _ hcausal

theorem causal_keyedIndicatorValues : Causal (keyedIndicatorValues math indicator) :=
  (causal_lag _ _).comp (causal_unlaggedKeyedValues math indicator)

theorem causal_addOperandLag (known : List String) (operand : IndicatorOperand)
    {rows : List Candle → List Row} (hrows : Causal rows) :
    Causal (fun candles => addOperandLag known (rows candles) operand) := by
  unfold addOperandLag
  cases operand.offset with
  | none => exact hrows
  | some =>
    by_cases hknown : operand.indicator ∈ known
    · simp only [if_pos hknown]
      exact hrows.zipWith _ ((causal_lag _ _).comp ((map _).comp hrows))
    · simp only [if_neg hknown]
      exact hrows

/-- The row of a bar depends on no later bar. -/
theorem causal_calculateIndicatorRows (indicators : List IndicatorDefinition)
    (operands : List IndicatorOperand) :
    Causal (calculateIndicatorRows math indicators operands) := by
  refine causal_foldl (causal_foldl (map _) ?_) ?_
  · intro indicator _ rows hrows
    exact hrows.zipWith _ (causal_keyedIndicatorValues math indicator)
  · intro operand _ rows hrows
    exact causal_addOperandLag _ operand hrows

/-- One row results per candle, and the rows of a prefix are the first rows of the whole list, so
the newest row of a growing window is the one-shot row of its bar. -/
theorem calculateIndicatorRows_prefix (math : DecimalMath) (indicators : List IndicatorDefinition)
    (operands : List IndicatorOperand) {part candles : List Candle} (hpart : part <+: candles) :
    (calculateIndicatorRows math indicators operands part).length = part.length ∧
      (∀ index < part.length, (calculateIndicatorRows math indicators operands part)[index]? =
        (calculateIndicatorRows math indicators operands candles)[index]?) ∧
      ∀ index < candles.length,
        (calculateIndicatorRows math indicators operands (candles.take (index + 1))).getLast? =
          (calculateIndicatorRows math indicators operands candles)[index]? := by
  have hcausal := causal_calculateIndicatorRows math indicators operands
  refine ⟨hcausal.length_eq part, ?_, ?_⟩
  · intro index hindex
    rw [List.prefix_iff_eq_take.mp hpart]
    exact hcausal.getElem?_take candles hindex
  · intro index hindex
    rw [List.getLast?_eq_getElem?, hcausal.length_eq, List.length_take,
      show min (index + 1) candles.length - 1 = index by omega]
    exact hcausal.getElem?_take candles (by omega)

/-- Three rising closes. -/
def risingCandles : List Candle :=
  [⟨0, 1, 1, 1, 1, 1⟩, ⟨1, 2, 2, 2, 2, 1⟩, ⟨2, 4, 4, 4, 4, 1⟩]

theorem calculateIndicatorRows_prefix_rising :
    (calculateIndicatorRows ⟨id, id, id⟩
        [{ id := "fast", rule := .ema .close ⟨2, by decide, by decide⟩ }] []
        (risingCandles.take 2))[1]? =
      (calculateIndicatorRows ⟨id, id, id⟩
        [{ id := "fast", rule := .ema .close ⟨2, by decide, by decide⟩ }] [] risingCandles)[1]? ∧
    ((calculateIndicatorRows ⟨id, id, id⟩
        [{ id := "fast", rule := .ema .close ⟨2, by decide, by decide⟩ }] []
        risingCandles)[1]?.bind (Row.value · "fast")) = some (3 / 2) := by
  refine ⟨?_, by decide +kernel⟩
  have hrows := calculateIndicatorRows_prefix ⟨id, id, id⟩
    [{ id := "fast", rule := .ema .close ⟨2, by decide, by decide⟩ }] []
    (List.take_prefix 2 risingCandles)
  exact hrows.2.1 1 (by decide)

end Thytrader.Evaluation
