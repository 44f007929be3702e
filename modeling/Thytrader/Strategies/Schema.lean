import Mathlib.Data.List.Sort
import Thytrader.Lib.Dict
import Thytrader.MarketData.Candles
import Thytrader.Trading.Models

/-!
# Strategy documents

`strategies/models.py` and `strategies/schema/*`: the validated document a run evaluates. Parameter
blocks carry the bounds their validators check and indicator kinds their input and parameters, so a
rejected declaration cannot be built. Timeframes are the closed set of candle intervals.

Mirroring notes: only the fields a modelled function reads are kept. `Decimal` texts are the numbers
they parse to. A zero offset is normalized to an omitted one, so a present offset is positive.
-/

namespace Thytrader.Strategies

open MarketData Trading

/-! ## Indicator parameters -/

/-- An integer field with its validated bounds. -/
structure Bounded (low high : Nat) where
  value : Nat
  lower : low ≤ value
  upper : value ≤ high
  deriving DecidableEq

/-- A band-width multiplier in `(0, 10]`. -/
structure BandMultiplier where
  value : Decimal
  positive : 0 < value
  bounded : value ≤ 10
  deriving DecidableEq

/-- `MacdIndicatorParameters`. -/
structure MacdParameters where
  fastPeriod : Bounded 2 500
  slowPeriod : Bounded 2 500
  signalPeriod : Bounded 2 500
  ordered : fastPeriod.value < slowPeriod.value
  deriving DecidableEq

/-- `BollingerIndicatorParameters`. -/
structure BollingerParameters where
  period : Bounded 2 500
  stdevMultiplier : BandMultiplier
  deriving DecidableEq

/-- `StochasticIndicatorParameters`. -/
structure StochasticParameters where
  kPeriod : Bounded 2 100
  dPeriod : Bounded 2 500
  deriving DecidableEq

/-- `KamaIndicatorParameters`. -/
structure KamaParameters where
  period : Bounded 2 100
  fastPeriod : Bounded 2 100
  slowPeriod : Bounded 2 500
  ordered : fastPeriod.value < slowPeriod.value
  deriving DecidableEq

/-- `SupertrendIndicatorParameters`. -/
structure SupertrendParameters where
  period : Bounded 2 100
  multiplier : BandMultiplier
  deriving DecidableEq

/-- `ParabolicSarIndicatorParameters`. -/
structure ParabolicSarParameters where
  step : Decimal
  maxStep : Decimal
  positive : 0 < step
  ordered : step ≤ maxStep
  bounded : maxStep ≤ 1
  deriving DecidableEq

/-- `IchimokuIndicatorParameters`. -/
structure IchimokuParameters where
  tenkanPeriod : Bounded 2 500
  kijunPeriod : Bounded 2 500
  senkouBPeriod : Bounded 2 500
  ordered : tenkanPeriod.value < kijunPeriod.value ∧ kijunPeriod.value < senkouBPeriod.value
  deriving DecidableEq

/-- `StochasticRsiIndicatorParameters`. -/
structure StochasticRsiParameters where
  rsiPeriod : Bounded 2 100
  stochPeriod : Bounded 2 100
  kPeriod : Bounded 1 100
  dPeriod : Bounded 1 100
  deriving DecidableEq

/-- `UltimateOscillatorIndicatorParameters`. -/
structure UltimateOscillatorParameters where
  shortPeriod : Bounded 2 100
  mediumPeriod : Bounded 2 100
  longPeriod : Bounded 2 100
  ordered : shortPeriod.value < mediumPeriod.value ∧ mediumPeriod.value < longPeriod.value
  deriving DecidableEq

/-- `AwesomeOscillatorIndicatorParameters`. -/
structure AwesomeOscillatorParameters where
  fastPeriod : Bounded 2 500
  slowPeriod : Bounded 2 500
  ordered : fastPeriod.value < slowPeriod.value
  deriving DecidableEq

/-- `TsiIndicatorParameters`. -/
structure TsiParameters where
  longPeriod : Bounded 2 500
  shortPeriod : Bounded 2 500
  signalPeriod : Bounded 2 500
  ordered : shortPeriod.value < longPeriod.value
  deriving DecidableEq

/-- `KeltnerIndicatorParameters`. -/
structure KeltnerParameters where
  period : Bounded 2 500
  atrPeriod : Bounded 2 100
  multiplier : BandMultiplier
  deriving DecidableEq

/-! ## Indicators -/

/-- `IndicatorKind` with the input and the parameters its validator requires; a locked source has no
input, `_SHORT_PERIOD_KINDS` stop at 100 bars. -/
inductive IndicatorRule where
  | ema (input : CandleField) (period : Bounded 2 500)
  | sma (input : CandleField) (period : Bounded 2 500)
  | rsi (period : Bounded 2 100)
  | atr (period : Bounded 2 100)
  | volumeSma (period : Bounded 2 500)
  | highest (input : CandleField) (period : Bounded 2 500)
  | lowest (input : CandleField) (period : Bounded 2 500)
  | stdev (input : CandleField) (period : Bounded 2 500)
  | roc (input : CandleField) (period : Bounded 2 500)
  | williamsR (period : Bounded 2 100)
  | cci (period : Bounded 2 100)
  | identity (input : CandleField)
  | constant (value : Decimal)
  | wma (input : CandleField) (period : Bounded 2 500)
  | momentum (input : CandleField) (period : Bounded 2 500)
  | mfi (period : Bounded 2 100)
  | macd (parameters : MacdParameters)
  | bollinger (parameters : BollingerParameters)
  | stdevSample (input : CandleField) (period : Bounded 2 500)
  | stochastic (parameters : StochasticParameters)
  | adx (period : Bounded 2 100)
  | dema (input : CandleField) (period : Bounded 2 500)
  | tema (input : CandleField) (period : Bounded 2 500)
  | hma (input : CandleField) (period : Bounded 2 500)
  | kama (input : CandleField) (parameters : KamaParameters)
  | vwma (period : Bounded 2 500)
  | supertrend (parameters : SupertrendParameters)
  | parabolicSar (parameters : ParabolicSarParameters)
  | aroon (period : Bounded 2 500)
  | ichimoku (parameters : IchimokuParameters)
  | vortex (period : Bounded 2 500)
  | linearRegression (input : CandleField) (period : Bounded 2 500)
  | trix (period : Bounded 2 500)
  | stochasticRsi (parameters : StochasticRsiParameters)
  | ppo (parameters : MacdParameters)
  | ultimateOscillator (parameters : UltimateOscillatorParameters)
  | awesomeOscillator (parameters : AwesomeOscillatorParameters)
  | cmo (period : Bounded 2 100)
  | tsi (parameters : TsiParameters)
  | keltner (parameters : KeltnerParameters)
  | donchian (period : Bounded 2 500)
  | bollingerPercentB (parameters : BollingerParameters)
  | bollingerBandwidth (parameters : BollingerParameters)
  | natr (period : Bounded 2 100)
  | choppiness (period : Bounded 2 500)
  | historicalVolatility (period : Bounded 2 500)
      (annualizationPeriods : Option (Bounded 1 525600))
  | obv (signalPeriod : Bounded 2 500)
  | cmf (period : Bounded 2 500)
  | accumulationDistribution (signalPeriod : Bounded 2 500)
  | vwap (period : Bounded 2 500)
  | forceIndex (period : Bounded 2 500)
  | zscore (input : CandleField) (period : Bounded 2 500)
  | percentRank (input : CandleField) (period : Bounded 2 500)
  deriving DecidableEq

structure IndicatorDefinition where
  id : String
  rule : IndicatorRule
  timeframe : Option CandleInterval := none
  offset : Option (Bounded 1 500) := none
  source : Option String := none
  deriving DecidableEq

def indicatorOffset (indicator : IndicatorDefinition) : Nat :=
  match indicator.offset with
  | none => 0
  | some offset => offset.value

/-- `indicator_output_series`: the output names of a multi-series kind. -/
def indicatorOutputSeries : IndicatorRule → Option (List String)
  | .macd _ => some ["macd", "signal", "histogram"]
  | .bollinger _ => some ["middle", "upper", "lower"]
  | .stochastic _ => some ["k", "d"]
  | .adx _ => some ["adx", "plus_di", "minus_di"]
  | .supertrend _ => some ["value", "direction"]
  | .aroon _ => some ["up", "down", "oscillator"]
  | .ichimoku _ => some ["tenkan", "kijun", "senkou_a", "senkou_b"]
  | .vortex _ => some ["plus", "minus"]
  | .linearRegression _ _ => some ["value", "slope"]
  | .stochasticRsi _ => some ["k", "d"]
  | .ppo _ => some ["ppo", "signal", "histogram"]
  | .tsi _ => some ["tsi", "signal"]
  | .keltner _ => some ["upper", "middle", "lower"]
  | .donchian _ => some ["upper", "middle", "lower"]
  | .obv _ => some ["obv", "signal"]
  | .accumulationDistribution _ => some ["ad", "signal"]
  | _ => none

def indicatorValueKeys (indicator : IndicatorDefinition) : List String :=
  match indicatorOutputSeries indicator.rule with
  | none => [indicator.id]
  | some series => series.map (fun name => indicator.id ++ "." ++ name)

/-! ## Conditions -/

structure IndicatorOperand where
  indicator : String
  series : Option String := none
  offset : Option (Bounded 1 500) := none
  deriving DecidableEq

/-- `ConditionOperand`: an indicator read or an exact literal. -/
inductive ConditionOperand where
  | indicator (operand : IndicatorOperand)
  | literal (value : Decimal)
  deriving DecidableEq

inductive ComparisonOperator where
  | greaterThan
  | greaterThanOrEqual
  | lessThan
  | lessThanOrEqual
  | equals
  | crossesAbove
  | crossesBelow
  deriving DecidableEq, Repr

/-- `ConditionNode`: comparisons under `all`, `any` and `not`. -/
inductive ConditionNode where
  | comparison (left : ConditionOperand) (operator : ComparisonOperator) (right : ConditionOperand)
  | all (children : List ConditionNode)
  | any (children : List ConditionNode)
  | not (child : ConditionNode)

def operandValueKey (operand : IndicatorOperand) : String :=
  let key := match operand.series with
    | none => operand.indicator
    | some series => operand.indicator ++ "." ++ series
  match operand.offset with
  | none => key
  | some offset => key ++ "@" ++ toString offset.value

mutual

/-- The indicator reads of `_comparison_conditions`, left before right. -/
def conditionOperands : ConditionNode → List IndicatorOperand
  | .comparison left _ right =>
    [left, right].filterMap (fun operand =>
      match operand with
      | .indicator operand => some operand
      | .literal _ => none)
  | .all children => conditionOperandsOf children
  | .any children => conditionOperandsOf children
  | .not child => conditionOperands child

/-- The reads of a group's children, in order. -/
def conditionOperandsOf : List ConditionNode → List IndicatorOperand
  | [] => []
  | child :: rest => conditionOperands child ++ conditionOperandsOf rest

end

/-- `dict.fromkeys`: the first occurrence of each element, in order. -/
def distinct {α : Type} [DecidableEq α] (items : List α) : List α :=
  items.foldl (fun seen item => if item ∈ seen then seen else seen ++ [item]) []

def conditionIndicatorOperands (condition : ConditionNode) : List IndicatorOperand :=
  distinct (conditionOperands condition)

/-! ## The document -/

structure Instrument where
  productId : String
  baseCurrency : String
  isFuture : Bool := false
  deriving DecidableEq

/-- `ReferenceInstrument`: a read-only series indicators may name as their source. -/
structure ReferenceInstrument where
  id : String
  productId : String
  timeframe : CandleInterval
  deriving DecidableEq

structure DataRequirements where
  warmupBars : Bounded 1 10000
  convergenceWarmup : Bool := false
  referenceInstruments : List ReferenceInstrument := []
  referencesDistinct : (referenceInstruments.map (·.id)).Nodup ∧
    (referenceInstruments.map (fun reference => (reference.productId, reference.timeframe))).Nodup

structure HigherTimeframeFilter where
  timeframe : CandleInterval
  dataRequirements : DataRequirements
  indicators : List IndicatorDefinition
  condition : ConditionNode

/-- `EntryDefinition`; `pyramiding` is whether the document opts into adds, and
`economicGuard` the minimum net target return. -/
structure EntryDefinition where
  side : PositionSide
  condition : ConditionNode
  cooldownBars : Nat
  maxOpenPositions : Nat
  economicGuard : Option Decimal := none
  pyramiding : Bool := false
  positionBounds : if pyramiding then 2 ≤ maxOpenPositions ∧ maxOpenPositions ≤ 8
    else maxOpenPositions = 1

structure RiskFractionSizing where
  riskFraction : Decimal
  minQuoteNotional : Decimal
  maxQuoteNotional : Decimal
  riskBounded : 0 < riskFraction ∧ riskFraction ≤ 1 / 4
  notionalOrdered : 0 < minQuoteNotional ∧ minQuoteNotional ≤ maxQuoteNotional

structure PortfolioLimits where
  maxStrategyExposureFraction : Decimal
  maxConcurrentPositions : Nat
  exposureBounded : 0 < maxStrategyExposureFraction ∧ maxStrategyExposureFraction ≤ 1
  positionsBounded : 1 ≤ maxConcurrentPositions ∧ maxConcurrentPositions ≤ 8

/-- `AtrMultipleStop` and `AtrTrailingStop`: a multiple of a named ATR. -/
structure AtrMultiple where
  atrIndicator : String
  multiple : Decimal
  bounded : 1 / 2 ≤ multiple ∧ multiple ≤ 10

/-- `RewardRiskTakeProfit`: the reward-to-risk multiple of the target. -/
structure RewardRiskTakeProfit where
  multiple : Decimal
  bounded : 1 / 2 ≤ multiple ∧ multiple ≤ 10

/-- `ExitDefinition`; `takeProfit` and `trailingStop` are absent when disabled. -/
structure ExitDefinition where
  initialStop : AtrMultiple
  takeProfit : Option RewardRiskTakeProfit
  trailingStop : Option AtrMultiple
  maxBarsHeld : Nat
  signalExit : Option ConditionNode := none

/-- `on_unfilled_entry`. -/
inductive UnfilledEntry where
  | cancel
  | reprice
  deriving DecidableEq, Repr

structure ExecutionPreferences where
  maxEntryWaitBars : Bounded 1 50
  onUnfilledEntry : UnfilledEntry

structure Derivatives where
  maxLeverage : Decimal
  flattenBeforeExpiryHours : Option (Bounded 1 720) := none
  leverageBounded : 1 ≤ maxLeverage ∧ maxLeverage ≤ 20

structure StrategyDefinition where
  instrument : Instrument
  additionalInstruments : List Instrument := []
  timeframe : CandleInterval
  dataRequirements : DataRequirements
  indicators : List IndicatorDefinition
  htfFilter : Option HigherTimeframeFilter := none
  entry : EntryDefinition
  sizing : RiskFractionSizing
  portfolioLimits : PortfolioLimits
  exits : ExitDefinition
  execution : ExecutionPreferences
  derivatives : Option Derivatives := none
  productsDistinct : ((instrument :: additionalInstruments).map (·.productId)).Nodup
  futuresAlone : if instrument.isFuture then
      derivatives.isSome ∧ additionalInstruments = [] ∧ entry.pyramiding = false
    else derivatives = none ∧ ∀ other ∈ additionalInstruments, other.isFuture = false
  positionsCovered : portfolioLimits.maxConcurrentPositions ≤ additionalInstruments.length + 1

/-! ## Queries -/

/-- `covered_product_ids`: the primary product, then the additional ones. -/
def coveredProductIds (strategy : StrategyDefinition) : List String :=
  (strategy.instrument :: strategy.additionalInstruments).map (·.productId)

def lockstepProductIds (strategy : StrategyDefinition) : List String :=
  (coveredProductIds strategy).insertionSort (· ≤ ·)

def rewardRiskMultiple (exits : ExitDefinition) : Option Decimal :=
  exits.takeProfit.map (·.multiple)

def canPyramidAdd (strategy : StrategyDefinition) (side : PositionSide)
    (entryPrice mark : Decimal) (addCount : Nat) : Bool :=
  if strategy.entry.pyramiding = false ∨ addCount < 1 ∨ strategy.entry.maxOpenPositions ≤ addCount
  then false
  else
    match side with
    | .long => entryPrice < mark
    | .short => mark < entryPrice

def resolvedIndicatorTimeframe (indicator : IndicatorDefinition)
    (decisionTimeframe : CandleInterval) : CandleInterval :=
  indicator.timeframe.getD decisionTimeframe

def decisionClockIndicators (strategy : StrategyDefinition) : List IndicatorDefinition :=
  strategy.indicators.filter (fun indicator => indicator.source = none ∧
    resolvedIndicatorTimeframe indicator strategy.timeframe = strategy.timeframe)

def referenceInstruments (strategy : StrategyDefinition) : List ReferenceInstrument :=
  strategy.dataRequirements.referenceInstruments

def referenceIndicatorGroups (strategy : StrategyDefinition) :
    List (ReferenceInstrument × List IndicatorDefinition) :=
  (referenceInstruments strategy).map (fun reference =>
    (reference, strategy.indicators.filter (fun indicator =>
      indicator.source = some reference.id)))

/-- `extra_indicator_timeframe_groups`: indicators of other clocks, in
venue-duration order of the clocks. -/
def extraIndicatorTimeframeGroups (strategy : StrategyDefinition) :
    List (CandleInterval × List IndicatorDefinition) :=
  let grouped (timeframe : CandleInterval) := strategy.indicators.filter (fun indicator =>
    resolvedIndicatorTimeframe indicator strategy.timeframe = timeframe ∧
      timeframe ≠ strategy.timeframe)
  (executionTimeframes.filter (fun timeframe => grouped timeframe ≠ [])).map (fun timeframe =>
    (timeframe, grouped timeframe))

def unboundIndicatorTimeframes (strategy : StrategyDefinition) : List CandleInterval :=
  ((extraIndicatorTimeframeGroups strategy).map Prod.fst).filter (fun timeframe =>
    some timeframe ≠ strategy.htfFilter.map (·.timeframe))

/-- `strategy_indicator_operands`: entry, signal exit, then filter. -/
def strategyIndicatorOperands (strategy : StrategyDefinition) : List IndicatorOperand :=
  let conditions := strategy.entry.condition ::
    (strategy.exits.signalExit.toList ++ (strategy.htfFilter.map (·.condition)).toList)
  distinct (conditions.flatMap conditionIndicatorOperands)

def decisionAndFilterIndicators (strategy : StrategyDefinition) : List IndicatorDefinition :=
  match strategy.htfFilter with
  | none => strategy.indicators
  | some filter => strategy.indicators ++ filter.indicators

def strategyIndicatorValueKeys (strategy : StrategyDefinition) : List String :=
  (decisionAndFilterIndicators strategy).flatMap indicatorValueKeys ++
    ((strategyIndicatorOperands strategy).filter (fun operand => operand.offset ≠ none)).map
      operandValueKey

end Thytrader.Strategies
