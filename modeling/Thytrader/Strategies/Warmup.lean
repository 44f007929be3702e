import Thytrader.Strategies.Schema

/-!
# Indicator warmup

`strategies/schema/indicator_warmup.py`, `indicator_convergence.py` and the warmup of one
clock in `timeframes.py`: how many closed bars an indicator needs before its first
value, or before the seeds of its recursive stages have decayed.

Mirroring notes: the decay count `updates_to_converge` is a ratio of floating-point
logarithms; it is the parameter `updates` here, a function of the smoothing constant.
-/

namespace Thytrader.Strategies

/-- `_base_min_warmup`: bars before every output of the unlagged series is defined. -/
def baseMinWarmup : IndicatorRule → Nat
  | .identity _ => 1
  | .constant _ => 1
  | .macd parameters => parameters.slowPeriod.value + parameters.signalPeriod.value - 1
  | .ppo parameters => parameters.slowPeriod.value + parameters.signalPeriod.value - 1
  | .bollinger parameters => parameters.period.value
  | .bollingerPercentB parameters => parameters.period.value
  | .bollingerBandwidth parameters => parameters.period.value
  | .stochastic parameters => parameters.kPeriod.value + parameters.dPeriod.value - 1
  | .adx period => 2 * period.value - 1
  | .dema _ period => 2 * period.value - 1
  | .tema _ period => 3 * period.value - 2
  | .trix period => 3 * period.value - 1
  | .hma _ period => period.value + Nat.sqrt period.value - 1
  | .kama _ parameters => parameters.period.value + 1
  | .supertrend parameters => parameters.period.value
  | .parabolicSar _ => 2
  | .ichimoku parameters =>
    max (max parameters.tenkanPeriod.value parameters.kijunPeriod.value)
      parameters.senkouBPeriod.value
  | .stochasticRsi parameters =>
    parameters.rsiPeriod.value + parameters.stochPeriod.value + parameters.kPeriod.value +
      parameters.dPeriod.value - 2
  | .ultimateOscillator parameters => parameters.longPeriod.value + 1
  | .awesomeOscillator parameters => parameters.slowPeriod.value
  | .tsi parameters =>
    parameters.longPeriod.value + parameters.shortPeriod.value + parameters.signalPeriod.value - 1
  | .keltner parameters => max parameters.period.value parameters.atrPeriod.value
  | .historicalVolatility period _ => period.value + 1
  | .obv signalPeriod => signalPeriod.value
  | .accumulationDistribution signalPeriod => signalPeriod.value
  -- `_LOOKBACK_WARMUP_KINDS` compare with a bar before their window
  | .rsi period => period.value + 1
  | .roc _ period => period.value + 1
  | .momentum _ period => period.value + 1
  | .mfi period => period.value + 1
  | .aroon period => period.value + 1
  | .vortex period => period.value + 1
  | .cmo period => period.value + 1
  | .forceIndex period => period.value + 1
  | .percentRank _ period => period.value + 1
  | .ema _ period => period.value
  | .sma _ period => period.value
  | .atr period => period.value
  | .volumeSma period => period.value
  | .highest _ period => period.value
  | .lowest _ period => period.value
  | .stdev _ period => period.value
  | .williamsR period => period.value
  | .cci period => period.value
  | .wma _ period => period.value
  | .stdevSample _ period => period.value
  | .vwma period => period.value
  | .linearRegression _ period => period.value
  | .donchian period => period.value
  | .natr period => period.value
  | .choppiness period => period.value
  | .cmf period => period.value
  | .vwap period => period.value
  | .zscore _ period => period.value

def indicatorMinWarmup (indicator : IndicatorDefinition) : Nat :=
  baseMinWarmup indicator.rule + indicatorOffset indicator

def emaUpdates (updates : Decimal → Nat) (period : Nat) : Nat := updates (2 / (period + 1))

def wilderUpdates (updates : Decimal → Nat) (period : Nat) : Nat := updates (1 / period)

/-- `_CONVERGENCE_RULES`: the decay updates of a kind's recursive stages. -/
def convergenceUpdates (updates : Decimal → Nat) : IndicatorRule → Nat
  | .ema _ period => emaUpdates updates period.value
  | .dema _ period => 2 * emaUpdates updates period.value
  | .tema _ period => 3 * emaUpdates updates period.value
  | .trix period => 3 * emaUpdates updates period.value
  | .forceIndex period => emaUpdates updates period.value
  | .macd parameters =>
    emaUpdates updates parameters.slowPeriod.value +
      emaUpdates updates parameters.signalPeriod.value
  | .ppo parameters =>
    emaUpdates updates parameters.slowPeriod.value +
      emaUpdates updates parameters.signalPeriod.value
  | .tsi parameters =>
    emaUpdates updates parameters.longPeriod.value +
      emaUpdates updates parameters.shortPeriod.value +
      emaUpdates updates parameters.signalPeriod.value
  | .kama _ parameters => max 1 (updates ((2 / (parameters.slowPeriod.value + 1)) ^ 2))
  | .rsi period => wilderUpdates updates period.value
  | .atr period => wilderUpdates updates period.value
  | .natr period => wilderUpdates updates period.value
  | .adx period => 2 * wilderUpdates updates period.value
  | .supertrend parameters => wilderUpdates updates parameters.period.value
  | .stochasticRsi parameters => wilderUpdates updates parameters.rsiPeriod.value
  | _ => 0

/-- `_base_convergence_warmup`; the two branches of Keltner run in parallel. -/
def baseConvergenceWarmup (updates : Decimal → Nat) : IndicatorRule → Nat
  | .keltner parameters =>
    max (parameters.period.value + emaUpdates updates parameters.period.value)
      (parameters.atrPeriod.value + wilderUpdates updates parameters.atrPeriod.value)
  | rule => baseMinWarmup rule + convergenceUpdates updates rule

def indicatorConvergenceWarmup (updates : Decimal → Nat) (indicator : IndicatorDefinition) : Nat :=
  baseConvergenceWarmup updates indicator.rule + indicatorOffset indicator

def largestOperandLag (operands : List IndicatorOperand) (indicator : IndicatorDefinition) : Nat :=
  ((operands.filter (fun operand => operand.indicator = indicator.id)).map (fun operand =>
    operand.offset.elim 0 (·.value))).foldl max 0

/-- `extra_indicator_timeframe_warmup`: native-clock warmup, with the operand lags. -/
def extraIndicatorTimeframeWarmup (updates : Decimal → Nat) (indicators : List IndicatorDefinition)
    (operands : List IndicatorOperand) (convergence : Bool) : Nat :=
  let perIndicator (indicator : IndicatorDefinition) :=
    (if convergence then indicatorConvergenceWarmup updates indicator
      else indicatorMinWarmup indicator) + largestOperandLag operands indicator
  match indicators.map perIndicator with
  | [] => 1
  | first :: rest => rest.foldl max first

end Thytrader.Strategies
