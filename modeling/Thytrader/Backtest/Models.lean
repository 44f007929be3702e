import Thytrader.Evaluation.Specification
import Thytrader.Trading.Geometry

/-!
# Backtest evidence, broker prices and simulation state

`backtest/models.py`, `backtest/broker.py`, `backtest/kernel_state.py` and
`backtest/research_validity.py`: the fills, trades and equity points a simulation
emits, the one fill model that prices them, and the per-product books the bar loop
carries.

Mirroring notes: `canonical_decimal` renders a number exactly, so a text field is the number it
renders. Fingerprints and version tags only name a result and are left out. The candles and records
of a `_Book` are `BookFeed`; `Book` is what the loop mutates.
-/

namespace Thytrader.Backtest

open Lib MarketData Strategies Trading Evaluation

/-! ## Broker prices -/

/-- The side of the book a taker leg executes against. -/
inductive ExecutableSide where
  | ask
  | bid
  deriving DecidableEq, Repr

structure FillQuote where
  referencePrice : Decimal
  price : Decimal
  executableSide : Option ExecutableSide
  spreadCost : Decimal
  deriving DecidableEq

/-- `FillModel`: maker limits at the limit, taker legs across the spread. -/
structure FillModel where
  spreadBps : Decimal
  deriving DecidableEq

namespace FillModel

variable (model : FillModel)

def spreadStressed : Bool := 0 < model.spreadBps

def halfSpreadFraction : Decimal := model.spreadBps / 20000

/-- `maker`: exactly the posted price, whatever the spread. -/
def maker (_model : FillModel) (limitPrice : Decimal) : FillQuote := ⟨limitPrice, limitPrice, none, 0⟩

def bid (rawPrice : Decimal) : Decimal :=
  if model.spreadStressed then rawPrice * (1 - model.halfSpreadFraction) else rawPrice

def ask (rawPrice : Decimal) : Decimal :=
  if model.spreadStressed then rawPrice * (1 + model.halfSpreadFraction) else rawPrice

/-- `_quote`: executable-side evidence only under spread stress. -/
def quote (referencePrice price : Decimal) (side : ExecutableSide) (spreadCost : Decimal) :
    FillQuote :=
  if model.spreadStressed then ⟨referencePrice, price, some side, spreadCost⟩
  else ⟨referencePrice, price, none, 0⟩

def takerBuy (referencePrice slippageBps : Decimal) : FillQuote :=
  let ask := model.ask referencePrice
  model.quote referencePrice (ask * (1 + slippageBps / 10000)) .ask (ask - referencePrice)

def takerSell (referencePrice slippageBps : Decimal) : FillQuote :=
  let bid := model.bid referencePrice
  model.quote referencePrice (bid * (1 - slippageBps / 10000)) .bid (referencePrice - bid)

def rawForBid (bidPrice : Decimal) : Result Decimal :=
  if model.spreadStressed then divide bidPrice (1 - model.halfSpreadFraction) else .ok bidPrice

def rawForAsk (askPrice : Decimal) : Result Decimal :=
  if model.spreadStressed then divide askPrice (1 + model.halfSpreadFraction) else .ok askPrice

/-- `mark`: longs at the liquidation bid, shorts at the cover ask. -/
def mark (rawPrice : Decimal) (side : PositionSide) : Decimal :=
  match side with
  | .short => model.ask rawPrice
  | .long => model.bid rawPrice

end FillModel

/-! ## Evidence -/

structure BacktestFill where
  candleStartsAt : Time
  price : Decimal
  quantity : Decimal
  notional : Decimal
  fee : Decimal
  feeRate : Decimal
  referencePrice : Option Decimal := none
  executableSide : Option ExecutableSide := none
  spreadCost : Option Decimal := none
  deriving DecidableEq

/-- `BacktestExitReason`. -/
inductive ExitReason where
  | stopLoss
  | takeProfit
  | timeExit
  | signal
  | evaluationEnd
  | liquidation
  | expiry
  deriving DecidableEq, Repr

def ExitReason.value : ExitReason → String
  | stopLoss => "stop_loss"
  | takeProfit => "take_profit"
  | timeExit => "time_exit"
  | signal => "signal"
  | evaluationEnd => "evaluation_end"
  | liquidation => "liquidation"
  | expiry => "expiry"

structure BacktestExitFill extends BacktestFill where
  reason : ExitReason
  deriving DecidableEq

structure BacktestTrade where
  entry : BacktestFill
  exit : BacktestExitFill
  grossPnl : Decimal
  netPnl : Decimal
  holdingBars : Int
  funding : Option Decimal
  deriving DecidableEq

structure EquityPoint where
  candleStartsAt : Time
  cash : Decimal
  baseQuantity : Decimal
  markPrice : Decimal
  equity : Decimal
  deriving DecidableEq

inductive ResearchValidityLimitCode where
  | makerTouchFullFill
  | stopBeforeTpSameBar
  | spotShortSynthetic
  | signalExitAtClose
  | syntheticNoTradeBars
  | executionStress
  | futuresConstantMargin
  | futuresConservativeLiquidation
  | futuresSharedUsdcCollateral
  | futuresConstantFunding
  | futuresFundingAtBarClose
  deriving DecidableEq, Repr

def collectBacktestValidityLimits (strategy : StrategyDefinition) (noTradeBars : Nat)
    (executionStress : Option ExecutionStress)
    (futuresLimits : List ResearchValidityLimitCode) : List ResearchValidityLimitCode :=
  [if executionStress.isNone then .makerTouchFullFill else .executionStress,
    .stopBeforeTpSameBar] ++
  (if strategy.entry.side = .short ∧ strategy.instrument.isFuture = false
    then [.spotShortSynthetic] else []) ++
  (if strategy.exits.signalExit.isSome then [.signalExitAtClose] else []) ++
  (if 0 < noTradeBars then [.syntheticNoTradeBars] else []) ++ futuresLimits

structure BacktestSummary where
  initialEquity : Decimal
  finalEquity : Decimal
  totalNetPnl : Decimal
  totalReturnFraction : Decimal
  grossProfit : Decimal
  grossLoss : Decimal
  winRate : Decimal
  profitFactor : Option Decimal
  averageWin : Option Decimal
  averageLoss : Option Decimal
  tradeCount : Nat
  winningTradeCount : Nat
  maximumDrawdown : Decimal
  maximumDrawdownFraction : Decimal
  exposureBars : Int
  evaluationBars : Nat
  totalSpreadCost : Option Decimal
  validityLimits : List ResearchValidityLimitCode
  totalFunding : Option Decimal

structure BacktestResult where
  trades : List BacktestTrade
  equityCurve : List EquityPoint
  summary : BacktestSummary

/-! ## Entry funnel -/

/-- `BacktestGateReason`. -/
inductive GateReason where
  | pendingEntry
  | cooldown
  | maxPositions
  | inPosition
  | expiryWindow
  deriving DecidableEq, Repr

/-- Why a matched signal rested no entry: a book state, or a sizing refusal. -/
inductive SkipReason where
  | gate (reason : GateReason)
  | entry (reason : EntrySkipReason)
  deriving DecidableEq, Repr

/-- The `StrEnum` value of a skip reason. -/
def SkipReason.value : SkipReason → String
  | gate .pendingEntry => "pending_entry"
  | gate .cooldown => "cooldown"
  | gate .maxPositions => "max_positions"
  | gate .inPosition => "in_position"
  | gate .expiryWindow => "expiry_window"
  | entry reason => reason.value

/-- `_PendingEntry`: a close-limit entry, or a same-side add, resting for a later bar. -/
structure PendingEntry where
  signal : SignalTraceRecord
  limitPrice : Decimal
  quantity : Decimal
  stopPrice : Decimal
  targetPrice : Option Decimal
  waitedBars : Nat
  side : PositionSide := .long
  isPyramidAdd : Bool := false
  sizeCapped : Bool := false
  deriving DecidableEq

structure Position where
  entry : BacktestFill
  stopPrice : Decimal
  targetPrice : Option Decimal
  enteredBarIndex : Nat
  takeProfitResting : Bool := false
  trailExtreme : Option Decimal := none
  side : PositionSide := .long
  addCount : Nat := 1
  unitFee : Option Decimal := none
  funding : Option Decimal := none
  deriving DecidableEq

structure Tally where
  signalsMatched : Nat := 0
  entriesRested : Nat := 0
  entriesFilled : Nat := 0
  entriesExpired : Nat := 0
  entriesRepriced : Nat := 0
  entriesRefusedAtFill : Nat := 0
  entriesUnfilledAtEnd : Nat := 0
  entriesSizeCapped : Nat := 0
  warmupBars : Nat := 0
  skipped : Dict SkipReason Nat := .empty
  exits : Dict ExitReason Nat := .empty

namespace Tally

def skip (tally : Tally) (reason : SkipReason) : Tally :=
  { tally with skipped := tally.skipped.set reason ((tally.skipped.get? reason).getD 0 + 1) }

def closed (tally : Tally) (trade : BacktestTrade) : Tally :=
  let reason := trade.exit.reason
  { tally with exits := tally.exits.set reason ((tally.exits.get? reason).getD 0 + 1) }

def rested (tally : Tally) (pending : PendingEntry) : Tally :=
  { tally with
    entriesRested := tally.entriesRested + 1
    entriesSizeCapped :=
      if pending.sizeCapped then tally.entriesSizeCapped + 1 else tally.entriesSizeCapped }

end Tally

structure BacktestDiagnostics where
  signalsMatched : Nat
  entriesRested : Nat
  entriesFilled : Nat
  entriesExpired : Nat
  entriesRepriced : Nat
  entriesRefusedAtFill : Nat
  entriesUnfilledAtEnd : Nat
  entriesSizeCapped : Nat
  warmupBars : Nat
  skipped : List (SkipReason × Nat)
  exitReasons : List (ExitReason × Nat)

/-- The field bounds and funnel checks of `BacktestDiagnostics`. -/
def BacktestDiagnostics.validated (diagnostics : BacktestDiagnostics) :
    Result BacktestDiagnostics :=
  if (diagnostics.skipped.map Prod.snd).any (· < 1) ∨
      (diagnostics.exitReasons.map Prod.snd).any (· < 1) then
    .error (.valueError "Input should be greater than or equal to 1")
  else if 32 < diagnostics.skipped.length then
    .error (.valueError "Tuple should have at most 32 items after validation")
  else if 8 < diagnostics.exitReasons.length then
    .error (.valueError "Tuple should have at most 8 items after validation")
  else if ¬ (diagnostics.exitReasons.map Prod.fst).Nodup then
    .error (.valueError "exit_reasons must be unique")
  else if diagnostics.signalsMatched ≠
      diagnostics.entriesRested + (diagnostics.skipped.map Prod.snd).sum then
    .error (.valueError "signals_matched must equal entries_rested plus skipped counts")
  else if diagnostics.entriesRested ≠ diagnostics.entriesFilled + diagnostics.entriesExpired +
      diagnostics.entriesRefusedAtFill + diagnostics.entriesUnfilledAtEnd then
    .error (.valueError "entries_rested must equal filled, expired, refused, and unfilled")
  else if ¬ (diagnostics.skipped.map Prod.fst).Nodup then
    .error (.valueError "skipped reasons must be unique")
  else .ok diagnostics

/-- `_Tally.diagnostics`: the counters, reasons in lexicographic order. -/
def Tally.diagnostics (tally : Tally) : Result BacktestDiagnostics :=
  BacktestDiagnostics.validated
    { signalsMatched := tally.signalsMatched
      entriesRested := tally.entriesRested
      entriesFilled := tally.entriesFilled
      entriesExpired := tally.entriesExpired
      entriesRepriced := tally.entriesRepriced
      entriesRefusedAtFill := tally.entriesRefusedAtFill
      entriesUnfilledAtEnd := tally.entriesUnfilledAtEnd
      entriesSizeCapped := tally.entriesSizeCapped
      warmupBars := tally.warmupBars
      skipped := tally.skipped.entries.insertionSort (fun a b => a.1.value ≤ b.1.value)
      exitReasons := tally.exits.entries.insertionSort (fun a b => a.1.value ≤ b.1.value) }

/-! ## Books and costs -/

/-- The part of a `_Book` a run never changes. -/
structure BookFeed where
  productId : String
  candleByStart : Dict Time Candle
  records : Dict Time SignalTraceRecord

/-- The part of a `_Book` the bar loop mutates. -/
structure Book where
  pending : Option PendingEntry := none
  position : Option Position := none
  cooldownBars : Nat := 0
  deriving DecidableEq

/-- `is_open`: the book holds a position or an entry that may open one. -/
def Book.isOpen (book : Book) : Bool := book.position.isSome || book.pending.isSome

structure FuturesTerms extends FuturesMarginTerms where
  fundingRates : Option (Dict Time Decimal) := none
  constantFundingRate : Option Decimal := none
  flattenAt : Option Time := none

/-- `perpetual`: the contract charges hourly funding. -/
def FuturesTerms.perpetual (terms : FuturesTerms) : Bool :=
  terms.fundingRates.isSome || terms.constantFundingRate.isSome

structure Costs where
  makerFeeRate : Decimal
  takerFeeRate : Decimal
  slippageBps : Decimal
  fillModel : FillModel
  executionStress : Option ExecutionStress := none
  futures : Option FuturesTerms := none

end Thytrader.Backtest
