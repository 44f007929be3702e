import Thytrader.Evaluation.Indicators
import Thytrader.Evaluation.MultiTimeframe
import Thytrader.Strategies.Warmup

/-!
# Signal evaluation

`evaluation/signal_evaluator.py`: verify a research request against its strategy, select
the exact candles of every clock, calculate their indicator rows, hold the last
completed slower row onto each decision close, and evaluate the entry and exit trees.

Mirroring notes: a request and a strategy are validated by construction, so only the
identity checks of `_verify_contract` remain. `_within_decimal_contract` bounds the digits
of a `Decimal`, which an exact rational does not have. Fingerprints and the decay
count of a warmup are functions of the `Engine`.
-/

namespace Thytrader.Evaluation

open Lib MarketData Strategies

/-- What is outside exact arithmetic: irrational `Decimal` functions, the floating-point decay
count, content fingerprints. -/
structure Engine where
  math : DecimalMath
  updatesToConverge : Decimal → Nat
  strategyFingerprint : StrategyDefinition → String
  fundingSeriesFingerprint : String → Dict Time Decimal → String

/-- Raise a `SignalEvaluationError`. -/
def reject {α : Type} (message : String) : Result α := .error (.signalEvaluation message)

/-! ## Conditions -/

def operandValue (values : Row) : ConditionOperand → Option Decimal
  | .indicator operand => Row.value values (operandValueKey operand)
  | .literal value => some value

def compareValues (operator : ComparisonOperator) (left right : Decimal)
    (previous : Option (Decimal × Decimal)) : Option Bool :=
  match operator with
  | .greaterThan => some (right < left)
  | .greaterThanOrEqual => some (right ≤ left)
  | .lessThan => some (left < right)
  | .lessThanOrEqual => some (left ≤ right)
  | .equals => some (left = right)
  | .crossesAbove => previous.map (fun pair => pair.1 ≤ pair.2 ∧ right < left)
  | .crossesBelow => previous.map (fun pair => pair.2 ≤ pair.1 ∧ left < right)

def evaluateComparison (left : ConditionOperand) (operator : ComparisonOperator)
    (right : ConditionOperand) (current : Row) (previous : Option Row) : Option Bool :=
  match operandValue current left, operandValue current right with
  | some leftValue, some rightValue =>
    compareValues operator leftValue rightValue (previous.bind (fun previous =>
      Option.map₂ Prod.mk (operandValue previous left) (operandValue previous right)))
  | _, _ => none

mutual

/-- `_evaluate_condition`: no short circuit hides an undefined operand. -/
def evaluateCondition (current : Row) (previous : Option Row) : ConditionNode → Option Bool
  | .comparison left operator right => evaluateComparison left operator right current previous
  | .not child => (evaluateCondition current previous child).map (!·)
  | .all children => (evaluateConditions current previous children).map (·.all id)
  | .any children => (evaluateConditions current previous children).map (·.any id)

/-- The outcomes of a group's children, undefined when one of them is. -/
def evaluateConditions (current : Row) (previous : Option Row) :
    List ConditionNode → Option (List Bool)
  | [] => some []
  | child :: rest =>
    Option.map₂ List.cons (evaluateCondition current previous child)
      (evaluateConditions current previous rest)

end

def conditionOutcome (condition : ConditionNode) (current : Row) (previous : Option Row) :
    EntryConditionOutcome :=
  match evaluateCondition current previous condition with
  | none => .undefined
  | some true => .matched
  | some false => .notMatched

def andEntryOutcomes (left right : EntryConditionOutcome) : EntryConditionOutcome :=
  if left = .undefined ∨ right = .undefined then .undefined
  else if left = .matched ∧ right = .matched then .matched
  else .notMatched

/-! ## Candle selection -/

def invalidOhlcGeometry (candle : Candle) : Bool :=
  candle.open_ ≤ 0 ∨ candle.high ≤ 0 ∨ candle.low ≤ 0 ∨ candle.close ≤ 0 ∨
    candle.high < candle.low ∨ candle.volume < 0 ∨ candle.open_ < candle.low ∨
    candle.high < candle.open_ ∨ candle.close < candle.low ∨ candle.high < candle.close

def requireOhlcvContract (candle : Candle) : Result Unit :=
  if invalidOhlcGeometry candle then reject "Signal evaluation candles violate OHLCV invariants."
  else .ok ()

/-- The loop of `_required_candles`: every candle on its expected start, well formed. -/
def requireContiguous (startsAt : Time) (bar : Duration) : Nat → List Candle → Result Unit
  | _, [] => .ok ()
  | index, candle :: rest => do
    if candle.startsAt ≠ startsAt + bar * index then
      reject "Signal evaluation candles are not contiguous UTC bars."
    else
      requireOhlcvContract candle
      requireContiguous startsAt bar (index + 1) rest

/-- `_required_candles`: the exact warmup and evaluation candles. -/
def requiredCandles (specification : ResearchRunSpecification) (candles : List Candle) :
    Result (List Candle) := do
  let selected := candles.filter (fun candle =>
    specification.warmup.startsAt ≤ candle.startsAt ∧
      candle.startsAt < specification.evaluation.endsAt)
  let interval ← specificationBarInterval specification
  let bar := interval.duration
  let span := specification.evaluation.endsAt - specification.evaluation.startsAt
  if selected.length ≠ specification.warmup.bars + (span.tdiv bar).toNat then
    reject "Signal evaluation candle coverage is incomplete or duplicated."
  else
    requireContiguous specification.warmup.startsAt bar 0 selected
    return selected

/-- `index_candles_by_start`, which rejects duplicate timestamps. -/
def indexCandlesByStart : List Candle → Dict Time Candle → Result (Dict Time Candle)
  | [], indexed => .ok indexed
  | candle :: rest, indexed =>
    if indexed.contains candle.startsAt then
      reject "Closed-bar candles contain duplicate timestamps."
    else indexCandlesByStart rest (indexed.set candle.startsAt candle)

/-- One expected bar of a slower clock. -/
def expectedCandle (byStart : Dict Time Candle) (start : Time) : Result Candle := do
  match byStart.get? start with
  | none => reject "HTF candle coverage is incomplete or not contiguous."
  | some candle =>
    requireOhlcvContract candle
    return candle

/-- `_required_htf_candles`: the exact closed bars of a slower clock. -/
def requiredHtfCandles (expectedStarts : List Time) (candles : List Candle) :
    Result (List Candle) := do
  let byStart ← indexCandlesByStart candles .empty
  expectedStarts.mapM (expectedCandle byStart)

/-! ## Rows of the slower clocks -/

/-- `{candle.starts_at: values for candle, values in zip(selected, rows)}`. -/
def rowsByStart (selected : List Candle) (rows : List Row) : Dict Time Row :=
  (selected.zip rows).foldl (fun byStart bar => byStart.set bar.1.startsAt bar.2) .empty

/-- The rows of one slower clock over its exact closed bars. -/
def clockRows (engine : Engine) (strategy : StrategyDefinition)
    (indicators : List IndicatorDefinition) (expectedStarts : List Time) (candles : List Candle) :
    Result (Dict Time Row) := do
  let selected ← requiredHtfCandles expectedStarts candles
  return rowsByStart selected (calculateIndicatorRows engine.math indicators
    (strategyIndicatorOperands strategy) selected)

def clockStarts (engine : Engine) (strategy : StrategyDefinition) (window : EvaluationWindow)
    (timeframe : CandleInterval) (indicators : List IndicatorDefinition) : List Time :=
  closedBarStarts window.startsAt window.endsAt timeframe
    (extraIndicatorTimeframeWarmup engine.updatesToConverge indicators
      (strategyIndicatorOperands strategy) strategy.dataRequirements.convergenceWarmup)

def calculateHtfIndicatorRows (engine : Engine) (strategy : StrategyDefinition)
    (htfCandles : List Candle) (window : EvaluationWindow) : Result (Dict Time Row) :=
  match strategy.htfFilter with
  | none =>
    if htfCandles ≠ [] then reject "HTF candles were supplied without an HTF filter."
    else .ok .empty
  | some filter =>
    if htfCandles = [] then reject "HTF candles are required for an HTF-filter strategy."
    else
      clockRows engine strategy filter.indicators
        (closedBarStarts window.startsAt window.endsAt filter.timeframe
          filter.dataRequirements.warmupBars.value) htfCandles

def extraClockCandles (strategy : StrategyDefinition)
    (extraCandles : Dict CandleInterval (List Candle)) (htfCandles : List Candle)
    (timeframe : CandleInterval) : List Candle :=
  match extraCandles.get? timeframe with
  | some candles => candles
  | none => if strategy.htfFilter.map (·.timeframe) = some timeframe then htfCandles else []

def extraClockRows (engine : Engine) (strategy : StrategyDefinition)
    (extraCandles : Dict CandleInterval (List Candle)) (htfCandles : List Candle)
    (window : EvaluationWindow) (group : CandleInterval × List IndicatorDefinition) :
    Result (CandleInterval × Dict Time Row) := do
  let candles := extraClockCandles strategy extraCandles htfCandles group.1
  if candles = [] then
    reject ("Candles are required for indicator timeframe " ++ group.1.token ++ ".")
  else
    let rows ← clockRows engine strategy group.2
      (clockStarts engine strategy window group.1 group.2) candles
    return (group.1, rows)

/-- `calculate_extra_indicator_rows`: the clocks are distinct, in venue order. -/
def calculateExtraIndicatorRows (engine : Engine) (strategy : StrategyDefinition)
    (extraCandles : Dict CandleInterval (List Candle)) (htfCandles : List Candle)
    (window : EvaluationWindow) : Result (List (CandleInterval × Dict Time Row)) :=
  (extraIndicatorTimeframeGroups strategy).mapM
    (extraClockRows engine strategy extraCandles htfCandles window)

/-- The text that names a reference in its errors. -/
def referenceLabel (reference : ReferenceInstrument) : String :=
  reference.id ++ " (" ++ reference.productId ++ " " ++ reference.timeframe.token ++ ")"

def referenceRows (engine : Engine) (strategy : StrategyDefinition)
    (referenceCandles : Dict String (List Candle)) (window : EvaluationWindow)
    (group : ReferenceInstrument × List IndicatorDefinition) : Result (String × Dict Time Row) := do
  let candles := (referenceCandles.get? group.1.id).getD []
  if candles = [] then
    reject ("Candles are required for reference instrument " ++ referenceLabel group.1 ++ ".")
  else
    match clockRows engine strategy group.2
        (clockStarts engine strategy window group.1.timeframe group.2) candles with
    | .ok rows => return (group.1.id, rows)
    | .error _ =>
      reject ("Reference instrument " ++ referenceLabel group.1 ++
        " candle coverage is incomplete or not contiguous.")

/-- `calculate_reference_indicator_rows` as research calls it (`strict`). -/
def calculateReferenceIndicatorRows (engine : Engine) (strategy : StrategyDefinition)
    (referenceCandles : Dict String (List Candle)) (window : EvaluationWindow) :
    Result (List (String × Dict Time Row)) := do
  let declared := (referenceInstruments strategy).map (·.id)
  if referenceCandles.entries.any (fun entry => entry.1 ∉ declared) then
    reject "Reference candles were supplied for undeclared reference instruments."
  else
    (referenceIndicatorGroups strategy).mapM (referenceRows engine strategy referenceCandles window)

/-! ## Holding slower rows onto a decision close -/

/-- The row of a slower clock whose bar closed last at or before an instant. -/
def heldRow (rows : Dict Time Row) (closeAt : Time) (timeframe : CandleInterval)
    (missed : String) : Result Row :=
  match rows.get? (mappedHtfStart closeAt timeframe) with
  | none => reject missed
  | some row => .ok row

/-- What a decision bar reads: its row, and the previous bar's close and row. -/
structure Held where
  current : Row
  previous : Option (Time × Row)

def holdClock (rows : Dict Time Row) (timeframe : CandleInterval) (closeAt : Time)
    (missedLast missedPrevious : String) (held : Held) : Result Held := do
  let mapped ← heldRow rows closeAt timeframe missedLast
  let current := held.current.update mapped
  match held.previous with
  | none => return ⟨current, none⟩
  | some (previousClose, previous) =>
    let mappedPrevious ← heldRow rows previousClose timeframe missedPrevious
    return ⟨current, some (previousClose, previous.update mappedPrevious)⟩

/-- The extra clocks of `overlay_indicator_timeframe_values`. -/
def overlayExtraRows (closeAt : Time) :
    List (CandleInterval × Dict Time Row) → Held → Result Held
  | [], held => .ok held
  | (timeframe, rows) :: rest, held => do
    let held ← holdClock rows timeframe closeAt
      "Indicator timeframe alignment missed a last completed bar."
      "Indicator timeframe alignment missed a previous completed bar." held
    overlayExtraRows closeAt rest held

/-- `_overlay_reference_values`. -/
def overlayReferenceRows (closeAt : Time) (rowsById : List (String × Dict Time Row)) :
    List (ReferenceInstrument × List IndicatorDefinition) → Held → Result Held
  | [], held => .ok held
  | (reference, _) :: rest, held => do
    let rows := ((rowsById.find? (fun entry => entry.1 = reference.id)).map Prod.snd).getD .empty
    let held ← holdClock rows reference.timeframe closeAt
      "Reference instrument alignment missed a last completed bar."
      "Reference instrument alignment missed a previous completed bar." held
    overlayReferenceRows closeAt rowsById rest held

def overlayIndicatorTimeframeValues (strategy : StrategyDefinition) (closeAt : Time)
    (extraRows : List (CandleInterval × Dict Time Row))
    (referenceRows : List (String × Dict Time Row)) (held : Held) : Result Held := do
  let held ← overlayExtraRows closeAt extraRows held
  overlayReferenceRows closeAt referenceRows (referenceIndicatorGroups strategy) held

def htfFilterOutcome (strategy : StrategyDefinition) (closeAt : Time)
    (previousClose : Option Time) (htfRows : Dict Time Row) :
    Result (EntryConditionOutcome × Row) := do
  match strategy.htfFilter with
  | none => return (.matched, .empty)
  | some filter =>
    let current ← heldRow htfRows closeAt filter.timeframe
      "HTF alignment missed a last completed HTF bar."
    match previousClose with
    | none => return (conditionOutcome filter.condition current none, current)
    | some previousClose =>
      let previous ← heldRow htfRows previousClose filter.timeframe
        "HTF alignment missed a previous completed HTF bar."
      return (conditionOutcome filter.condition current (some previous), current)

/-! ## Traces -/

/-- The slower rows every decision bar of a trace reads. -/
structure SlowerRows where
  extra : List (CandleInterval × Dict Time Row)
  reference : List (String × Dict Time Row)
  htf : Dict Time Row

def rowValue (values htfValues : Row) (key : String) : Option Decimal :=
  if values.contains key then Row.value values key else Row.value htfValues key

def signalRecord (strategy : StrategyDefinition) (slower : SlowerRows)
    (previous : Option (Candle × Row)) (bar : Candle × Row) : Result SignalTraceRecord := do
  let closeAt := ltfClose bar.1.startsAt strategy.timeframe
  let previousClose := previous.map (fun previous => ltfClose previous.1.startsAt strategy.timeframe)
  let held ← overlayIndicatorTimeframeValues strategy closeAt slower.extra slower.reference
    ⟨bar.2, previous.map (fun previous =>
      (ltfClose previous.1.startsAt strategy.timeframe, previous.2))⟩
  let previousValues := held.previous.map Prod.snd
  let ltfOutcome := conditionOutcome strategy.entry.condition held.current previousValues
  let (htfOutcome, htfValues) ← htfFilterOutcome strategy closeAt previousClose slower.htf
  return {
    candleStartsAt := bar.1.startsAt
    indicatorValues := (strategyIndicatorValueKeys strategy).map (fun key =>
      ⟨key, rowValue held.current htfValues key⟩)
    entryCondition := andEntryOutcomes ltfOutcome htfOutcome
    exitCondition := strategy.exits.signalExit.map (fun condition =>
      conditionOutcome condition held.current previousValues) }

def signalRecords (strategy : StrategyDefinition) (slower : SlowerRows) (startsAt : Time) :
    Option (Candle × Row) → List (Candle × Row) → Result (List SignalTraceRecord)
  | _, [] => .ok []
  | previous, bar :: rest =>
    if bar.1.startsAt < startsAt then signalRecords strategy slower startsAt (some bar) rest
    else do
      let record ← signalRecord strategy slower previous bar
      let records ← signalRecords strategy slower startsAt (some bar) rest
      return record :: records

def verifyContract (engine : Engine) (specification : ResearchRunSpecification)
    (strategy : StrategyDefinition) : Result Unit := do
  if engine.strategyFingerprint strategy ≠ specification.strategyFingerprint then
    reject "Research run strategy identity failed verification."
  else if specification.warmup.bars ≠ strategy.dataRequirements.warmupBars.value then
    reject "Research run warmup does not match the strategy requirement."
  else
    let interval ← specificationBarInterval specification
    if interval ≠ strategy.timeframe then
      reject "Research run bar spacing does not match the published strategy timeframe."
    else if strategy.htfFilter.isSome ≠ specification.htfDataset then
      reject "Research run HTF dataset identity does not match the published strategy."
    else if specification.indicatorDatasets ≠ unboundIndicatorTimeframes strategy then
      reject "Research run indicator-timeframe datasets do not match the published strategy."
    else if specification.referenceDatasets ≠ referenceInstruments strategy then
      reject "Research run reference-instrument datasets do not match the published strategy."
    else .ok ()

/-- The candles one product's trace reads: its decision clock, the filter's clock, and
the extra clocks. -/
structure ProductCandles where
  decision : List Candle
  htf : List Candle
  extra : Dict CandleInterval (List Candle)

def slowerRows (engine : Engine) (specification : ResearchRunSpecification)
    (strategy : StrategyDefinition) (candles : ProductCandles)
    (referenceCandles : Dict String (List Candle)) : Result SlowerRows := do
  let extra ← calculateExtraIndicatorRows engine strategy candles.extra candles.htf
    specification.evaluation
  let reference ← calculateReferenceIndicatorRows engine strategy referenceCandles
    specification.evaluation
  let htf ← calculateHtfIndicatorRows engine strategy candles.htf specification.evaluation
  return ⟨extra, reference, htf⟩

def evaluateSignalTrace (engine : Engine) (specification : ResearchRunSpecification)
    (strategy : StrategyDefinition) (candles : ProductCandles)
    (referenceCandles : Dict String (List Candle)) : Result SignalTrace := do
  verifyContract engine specification strategy
  let engineCandles ← requiredCandles specification candles.decision
  let rows := calculateIndicatorRows engine.math (decisionClockIndicators strategy)
    (strategyIndicatorOperands strategy) engineCandles
  let slower ← slowerRows engine specification strategy candles referenceCandles
  let records ← signalRecords strategy slower specification.evaluation.startsAt none
    (engineCandles.zip rows)
  return ⟨records⟩

end Thytrader.Evaluation
