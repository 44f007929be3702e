import Thytrader.Strategies.Schema

/-!
# Research runs and signal traces

`evaluation/models.py`, `evaluation/futures_spec.py`, `evaluation/stress.py` and
`evaluation/trace.py`: the immutable request of one simulation, its execution
stress, and the per-bar records a signal evaluation emits.

Mirroring notes: identifiers, creation times, seeds and dataset fingerprints only
name a run, so a dataset binding is reduced to the fact that it is declared. The
contract fields no modelled function reads are left out.
-/

namespace Thytrader.Evaluation

open MarketData Strategies

/-! ## Execution stress -/

structure ExecutionStress where
  entryLatencyBars : Nat := 0
  makerPenetrationBps : Decimal := 0
  entryFillFraction : Decimal := 1
  penetrationBounded : 0 ≤ makerPenetrationBps ∧ makerPenetrationBps ≤ 1000
  fillBounded : 0 < entryFillFraction ∧ entryFillFraction ≤ 1

/-- `maker_touched`: the bar trades through the price by the stressed penetration. -/
def makerTouched (high low price : Decimal) (buy : Bool) (stress : Option ExecutionStress) : Bool :=
  let buffer := match stress with
    | none => 0
    | some stress => stress.makerPenetrationBps / 10000
  if buy then low ≤ price * (1 - buffer) else price * (1 + buffer) ≤ high

/-! ## The specification -/

structure EvaluationWindow where
  startsAt : Time
  endsAt : Time
  nonempty : startsAt + minuteLength ≤ endsAt

structure WarmupWindow where
  bars : Nat
  startsAt : Time

structure CostAssumptions where
  makerFeeRate : Decimal
  takerFeeRate : Decimal
  fixedSlippageBps : Decimal
  spreadBps : Decimal := 0
  executionStress : Option ExecutionStress := none
  feePerContract : Option Decimal := none
  feesBounded : 0 ≤ makerFeeRate ∧ makerFeeRate ≤ takerFeeRate ∧ takerFeeRate ≤ 1 / 10
  slippageBounded : 0 ≤ fixedSlippageBps ∧ fixedSlippageBps ≤ 1000
  spreadBounded : 0 ≤ spreadBps ∧ spreadBps ≤ 1000
  contractFeeBounded : ∀ fee ∈ feePerContract, 0 ≤ fee ∧ fee ≤ 100

/-- `InstrumentContract`; a dated contract has an expiry, a perpetual has none. -/
structure InstrumentContract where
  productId : String
  underlying : String
  contractSize : Decimal
  expiresAt : Option Time
  sizePositive : 0 < contractSize

structure MarginAssumption where
  longRate : Decimal
  shortRate : Decimal
  stressMultiplier : Decimal := 1
  maintenanceFractionOfInitial : Decimal := 1
  minLiquidationBufferFraction : Decimal := 1 / 2
  ratesBounded : ∀ rate ∈ [longRate, shortRate, maintenanceFractionOfInitial], 0 < rate ∧ rate ≤ 1
  stressBounded : 1 ≤ stressMultiplier ∧ stressMultiplier ≤ 5
  bufferBounded : 0 ≤ minLiquidationBufferFraction ∧ minLiquidationBufferFraction < 1

/-- `FundingAssumption`: a recorded series with its fingerprint and hour count,
or a constant hourly rate. -/
inductive FundingAssumption where
  | series (fingerprint : String) (settledHours : Nat)
  | constant (rate : Decimal)

structure ResearchRunSpecification where
  strategyFingerprint : String
  htfDataset : Bool := false
  indicatorDatasets : List CandleInterval := []
  referenceDatasets : List ReferenceInstrument := []
  evaluation : EvaluationWindow
  warmup : WarmupWindow
  initialQuoteBalance : Decimal
  costs : CostAssumptions
  instrumentContract : Option InstrumentContract := none
  margin : Option MarginAssumption := none
  funding : Option FundingAssumption := none
  balancePositive : 0 < initialQuoteBalance
  futuresTogether : instrumentContract.isSome = margin.isSome
  fundingPerpetual :
    funding.isSome = (instrumentContract.elim false (fun contract => contract.expiresAt.isNone))
  contractFeeFutures : instrumentContract = none → costs.feePerContract = none

/-- `specification_bar_interval`: the clock inferred from the warmup spacing. -/
def specificationBarInterval (specification : ResearchRunSpecification) : Result CandleInterval :=
  let span := specification.evaluation.startsAt - specification.warmup.startsAt
  match CandleInterval.all.find? (fun interval =>
    span = interval.duration * specification.warmup.bars) with
  | none =>
    .error (.valueError
      "warmup starts_at must equal evaluation starts_at minus the declared warmup bars")
  | some interval =>
    if [specification.warmup.startsAt, specification.evaluation.startsAt,
        specification.evaluation.endsAt].any (fun stamp => interval.alignClosedEnd stamp ≠ stamp)
    then
      .error (.valueError "warmup and evaluation bounds must align to the inferred candle interval")
    else .ok interval

/-- `funding_hours`: every hour `T` with `startsAt < T ≤ endsAt`. -/
def fundingHours (startsAt endsAt : Time) : List Time :=
  let hour := 60 * minuteLength
  let first := startsAt / hour + 1
  (List.range (endsAt / hour - first + 1).toNat).map (fun index : Nat => (first + index) * hour)

/-! ## Traces -/

inductive EntryConditionOutcome where
  | matched
  | notMatched
  | undefined
  deriving DecidableEq, Repr

structure IndicatorTraceValue where
  indicatorId : String
  value : Option Decimal
  deriving DecidableEq

/-- `SignalTraceRecord`: one condition result for a completed candle. -/
structure SignalTraceRecord where
  candleStartsAt : Time
  indicatorValues : List IndicatorTraceValue
  entryCondition : EntryConditionOutcome
  exitCondition : Option EntryConditionOutcome := none
  deriving DecidableEq

/-- `SignalTrace`: the records, oldest first. -/
structure SignalTrace where
  records : List SignalTraceRecord
  deriving DecidableEq

end Thytrader.Evaluation
