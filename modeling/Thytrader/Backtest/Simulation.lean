import Thytrader.Backtest.Kernel
import Thytrader.Evaluation.SignalEvaluator
import Thytrader.MarketData.NoTrade

/-!
# The shared-cash bar loop

`backtest/kernel.py`, `backtest/kernel_bars.py`, `backtest/kernel_results.py` and the
binding rules of `backtest/kernel_futures.py`: candle coverage, the loop over shared
bars, the close-out at the end of the window, and the assembled result.

The loop over bars is `runBars`, a recursion on the number of bars already processed,
so that the state after any prefix of a run is a term a theorem can name.
-/

namespace Thytrader.Backtest

open Lib MarketData Strategies Trading Evaluation

variable {specification : ResearchRunSpecification} {sim : Simulation}
  {fundingRates : Option (Dict Time Decimal)} {engine : Engine}

/-! ## Bar grid -/

def validateCandleValues (candle : Candle) : Result Unit :=
  if candle.open_ ≤ 0 ∨ candle.high ≤ 0 ∨ candle.low ≤ 0 ∨ candle.close ≤ 0 ∨
      candle.volume < 0 ∨ candle.high < max candle.open_ candle.close ∨
      min candle.open_ candle.close < candle.low ∨ candle.high < candle.low then
    .error (.valueError "Candle OHLCV values are semantically invalid.")
  else .ok ()

/-- `starts_at + bar * offset for offset in range(count)`. -/
def barStarts (startsAt : Time) (bar : Duration) (count : Nat) : List Time :=
  (List.range count).map (fun offset : Nat => startsAt + bar * offset)

/-- `_candle_map`: exactly one well-formed candle from warmup through the terminal bar. -/
def candleMap (specification : ResearchRunSpecification) (candles : List Candle)
    (interval : CandleInterval) : Result (Dict Time Candle) := do
  let startsAt := specification.warmup.startsAt
  let bar := interval.duration
  let endsAt := specification.evaluation.endsAt + bar
  let selected := candles.filter (fun candle => startsAt ≤ candle.startsAt ∧ candle.startsAt < endsAt)
  if selected.any (fun candle => !(validateCandleValues candle).isOk) then
    throw (.simulation "Backtest candles have invalid timestamps or values.")
  let expectedCount := ((endsAt - startsAt).tdiv bar).toNat
  let mapped := candlesByStart selected
  if selected.length ≠ expectedCount then
    throw (.simulation "Backtest candle coverage is incomplete or duplicated.")
  if mapped.entries.length ≠ expectedCount then
    throw (.simulation "Backtest candle coverage is duplicated.")
  if (barStarts startsAt bar expectedCount).any (fun start =>
      (mapped.get? start).elim true (fun candle => candle.open_ ≤ 0 ∨ candle.high < candle.low)) then
    throw (.simulation "Backtest candles are not valid contiguous OHLC bars.")
  return mapped

/-- `_bar_interval`: the run windows and the strategy share one supported bar length. -/
def barInterval (specification : ResearchRunSpecification) (strategy : StrategyDefinition) :
    Result CandleInterval := do
  let specInterval ← specificationBarInterval specification
  if strategy.timeframe ≠ specInterval then
    throw (.simulation "Backtest timeframe does not match the strategy and run windows.")
  let span := specification.evaluation.endsAt - specification.evaluation.startsAt
  if span < strategy.timeframe.duration ∨ span % strategy.timeframe.duration ≠ 0 then
    throw (.simulation
      "Backtest evaluation window is not a positive multiple of the strategy timeframe.")
  return strategy.timeframe

/-! ## Futures binding -/

/-- The rule that settled funding rows apply to perpetual runs only. -/
def rejectFundingRates (fundingRates : Option (Dict Time Decimal)) (message : String) :
    Result Unit :=
  if fundingRates.isSome then .error (.simulation message) else .ok ()

/-- The text of the refusal of funding rows outside a perpetual run. -/
def fundingPerpOnly : String := "Funding rates apply to perp-style futures runs only."

/-- `_funding_terms`: verify the funding series a perpetual run consumed, or take its
declared constant rate. `fingerprint` is `funding_series_fingerprint`. -/
def fundingTerms (fingerprint : String → Dict Time Decimal → String)
    (specification : ResearchRunSpecification) (contract : InstrumentContract)
    (fundingRates : Option (Dict Time Decimal)) :
    Result (Option (Dict Time Decimal) × Option Decimal) := do
  match contract.expiresAt, specification.funding with
  | none, some (.constant rate) =>
    rejectFundingRates fundingRates "A constant-rate funding assumption takes no funding series."
    return (none, some rate)
  | none, some (.series seriesFingerprint settledHours) =>
    match fundingRates with
    | none =>
      throw (.simulation
        "FUNDING_HISTORY_MISSING: the run binds a funding series but none was supplied.")
    | some rates =>
      let hours := fundingHours specification.evaluation.startsAt specification.evaluation.endsAt
      if hours.any (fun hour => !rates.contains hour) then
        throw (.simulation "FUNDING_HISTORY_MISSING: no settled funding rate.")
      if rates.entries.length ≠ hours.length then
        throw (.simulation
          "FUNDING_SERIES_MISMATCH: the funding series has hours outside the window.")
      if rates.entries.length ≠ settledHours ∨
          fingerprint contract.productId rates ≠ seriesFingerprint then
        throw (.simulation
          "FUNDING_SERIES_MISMATCH: the funding rows do not match the bound series.")
      return (some rates, none)
  | _, _ =>
    rejectFundingRates fundingRates fundingPerpOnly
    return (none, none)

def flattenTime (specification : ResearchRunSpecification) (contract : InstrumentContract)
    (derivatives : Derivatives) : Result (Option Time) := do
  match contract.expiresAt with
  | none => return none
  | some expiresAt =>
    match derivatives.flattenBeforeExpiryHours with
    | none =>
      throw (.simulation
        "FUTURES_EXPIRY_UNSET: a dated contract needs derivatives.flatten_before_expiry_hours.")
    | some hours =>
      if expiresAt < specification.evaluation.endsAt then
        throw (.simulation ("FUTURES_WINDOW_PAST_EXPIRY: the evaluation window ends after " ++
          contract.productId ++ " expires."))
      return some (expiresAt - hours.value * (60 * minuteLength))

def requireContractMatches (contract : InstrumentContract) (strategy : StrategyDefinition) :
    Result Unit :=
  if contract.productId ≠ strategy.instrument.productId then
    .error (.simulation "FUTURES_SPEC_MISMATCH: instrument_contract names a different product.")
  else if contract.underlying ≠ strategy.instrument.baseCurrency then
    .error (.simulation "FUTURES_SPEC_MISMATCH: instrument_contract names a different underlying.")
  else .ok ()

/-- `_futures_terms`: the verified futures terms of a run, or `none` for a spot run. -/
def futuresTerms (fingerprint : String → Dict Time Decimal → String)
    (specification : ResearchRunSpecification) (strategy : StrategyDefinition)
    (fundingRates : Option (Dict Time Decimal)) : Result (Option FuturesTerms) := do
  if strategy.instrument.isFuture = false ∧ specification.instrumentContract.isNone then
    rejectFundingRates fundingRates fundingPerpOnly
    return none
  match strategy.instrument.isFuture, specification.instrumentContract, specification.margin with
  | true, some contract, some margin =>
    requireContractMatches contract strategy
    match strategy.derivatives with
    | none => throw (.simulation "A futures strategy needs a derivatives block.")
    | some derivatives =>
      let flattenAt ← flattenTime specification contract derivatives
      let (rates, constant) ← fundingTerms fingerprint specification contract fundingRates
      return some
        { contractSize := contract.contractSize
          longRate := margin.longRate * margin.stressMultiplier
          shortRate := margin.shortRate * margin.stressMultiplier
          maintenanceFraction := margin.maintenanceFractionOfInitial
          minBufferFraction := margin.minLiquidationBufferFraction
          maxLeverage := derivatives.maxLeverage
          feePerContract := specification.costs.feePerContract.getD 0
          fundingRates := rates
          constantFundingRate := constant
          flattenAt := flattenAt }
  | _, _, _ =>
    throw (.simulation
      "FUTURES_SPEC_MISMATCH: a futures strategy needs a futures run specification and a futures run specification needs a futures strategy.")

def futuresValidityLimits (terms : Option FuturesTerms) (barDuration : Duration) :
    List ResearchValidityLimitCode :=
  match terms with
  | none => []
  | some terms =>
    [.futuresConstantMargin, .futuresConservativeLiquidation, .futuresSharedUsdcCollateral] ++
    (if terms.constantFundingRate.isSome then [.futuresConstantFunding] else []) ++
    (if terms.perpetual ∧ 60 * minuteLength < barDuration then [.futuresFundingAtBarClose] else [])

/-! ## One product's turn on a bar -/

/-- `_record_close`: record a closed trade and start the strategy's cooldown. -/
def recordClose (desk : Desk) (closing : Closing) (strategy : StrategyDefinition) : Desk :=
  match closing.trade with
  | none => { desk with cash := closing.cash, book := closing.book }
  | some trade =>
    { cash := closing.cash
      trades := desk.trades ++ [trade]
      tally := desk.tally.closed trade
      book := { closing.book with cooldownBars := strategy.entry.cooldownBars } }

def exitPosition (feed : BookFeed) (book : Book) (candle : Candle) (offset : Nat)
    (strategy : StrategyDefinition) (costs : Costs) (cash : Decimal) (barDuration : Duration) :
    Result Closing := do
  let closing ← liquidate book candle costs cash barDuration
  if closing.trade.isSome then return closing
  let closing ← stopOut closing.book candle costs closing.cash barDuration
  if closing.trade.isSome then return closing
  let closing ← matchTakeProfit closing.book candle costs closing.cash barDuration
  if closing.trade.isSome then return closing
  managePosition feed closing.book candle offset strategy costs closing.cash barDuration

def coolDown (desk : Desk) : Desk :=
  { desk with book := { desk.book with cooldownBars := desk.book.cooldownBars - 1 } }

/-- `_process_bar`: the resting entry, then the open position, then funding. -/
def processBar (feed : BookFeed) (desk : Desk) (candle : Candle) (offset : Nat)
    (strategy : StrategyDefinition) (costs : Costs) (barDuration : Duration) : Result Desk := do
  let desk := coolDown desk
  if inExpiryWindow costs candle.startsAt then
    let (closing, tally) ← flattenForExpiry desk candle costs barDuration
    return recordClose { desk with tally := tally } closing strategy
  let desk ← matchEntry desk candle offset strategy costs
  let closing ← exitPosition feed desk.book candle offset strategy costs desk.cash barDuration
  let desk := recordClose desk closing strategy
  let (book, cash) ← chargeFunding desk.book candle costs desk.cash barDuration
  return { desk with book := book, cash := cash }

/-- What stays fixed while the bar loop runs. -/
structure Simulation where
  strategy : StrategyDefinition
  costs : Costs
  bar : Duration
  startsAt : Time
  endsAt : Time
  initialCash : Decimal
  evaluationBars : Nat
  feeds : List BookFeed

/-- The opening instant of an evaluation bar. -/
def Simulation.barStart (sim : Simulation) (offset : Nat) : Time := sim.startsAt + sim.bar * offset

/-- One product's turn: process its bar, then maybe rest an entry at the close. The concurrency cap
counts the other books, `done` and `todo`. -/
def takeTurn (sim : Simulation) (offset : Nat) (feed : BookFeed) (done todo : List Book)
    (desk : Desk) : Result Desk := do
  let candle ← lookup feed.candleByStart (sim.barStart offset)
  let desk ← processBar feed desk candle offset sim.strategy sim.costs sim.bar
  let record ← lookup feed.records (sim.barStart offset)
  let openBooks := (done ++ desk.book :: todo).countP (·.isOpen)
  maybeRestEntry desk record sim.strategy sim.costs candle.close
    (openBooks < sim.strategy.portfolioLimits.maxConcurrentPositions)
    (inExpiryWindow sim.costs (sim.barStart offset + sim.bar))

/-- The turns of one bar, in product order, over one account. -/
def takeTurns (sim : Simulation) (offset : Nat) :
    List BookFeed → List Book → List Book → Account → Result (List Book × Account)
  | feed :: feeds, done, book :: todo, account => do
    let desk ← takeTurn sim offset feed done todo { toAccount := account, book := book }
    takeTurns sim offset feeds (done ++ [desk.book]) todo desk.toAccount
  | _, done, todo, account => .ok (done ++ todo, account)

/-! ## Equity -/

def markBooks (feeds : List BookFeed) (books : List Book) (startsAt : Time)
    (fillModel : FillModel) (useOpen : Bool) : Result (List (Option Position × Decimal)) :=
  (feeds.zip books).mapM (fun (feed, book) => do
    let candle ← lookup feed.candleByStart startsAt
    let raw := if useOpen then candle.open_ else candle.close
    return (book.position, book.position.elim raw (fun position => fillModel.mark raw position.side)))

/-- `equity += signed quantity * mark`, for an open book. -/
def addMarked (equity : Decimal) (row : Option Position × Decimal) : Decimal :=
  match row.1 with
  | none => equity
  | some position => equity + signedQuantity position * row.2

/-- `_equity_point`: the shared quote balance plus every open inventory at its mark. -/
def equityPoint (startsAt : Time) (cash : Decimal) (feeds : List BookFeed) (books : List Book)
    (fillModel : FillModel) (useOpen : Bool) : Result EquityPoint := do
  let marked ← markBooks feeds books startsAt fillModel useOpen
  let equity := marked.foldl addMarked cash
  let openBooks := marked.filterMap (fun row => row.1.map (fun position => (position, row.2)))
  let firstMark := (marked.head?.map Prod.snd).getD 0
  let (baseQuantity, mark) := match openBooks with
    | [(position, mark)] => (signedQuantity position, mark)
    | _ => (0, firstMark)
  return { candleStartsAt := startsAt, cash := cash, baseQuantity := baseQuantity,
           markPrice := mark, equity := equity }

/-! ## The run -/

/-- The state of a run between bars. -/
structure RunState extends Account where
  books : List Book
  equityCurve : List EquityPoint

/-- Before the first bar: empty books over the initial balance. -/
def Simulation.initial (sim : Simulation) : RunState :=
  { cash := sim.initialCash, trades := [], tally := {}, books := sim.feeds.map (fun _ => {})
    equityCurve := [] }

/-- One iteration of the bar loop: every product's turn, then the equity mark. -/
def simulateBar (sim : Simulation) (offset : Nat) (state : RunState) : Result RunState := do
  let (books, account) ← takeTurns sim offset sim.feeds [] state.books state.toAccount
  let point ← equityPoint (sim.barStart offset) account.cash sim.feeds books sim.costs.fillModel
    false
  return { toAccount := account, books := books, equityCurve := state.equityCurve ++ [point] }

/-- The state after the first `bars` evaluation bars. -/
def runBars (sim : Simulation) : Nat → Result RunState
  | 0 => .ok sim.initial
  | bars + 1 => do
    let state ← runBars sim bars
    simulateBar sim bars state

def closeOutBook (sim : Simulation) (feed : BookFeed) (desk : Desk) : Result Desk := do
  let tally := if desk.book.pending.isSome then
    { desk.tally with entriesUnfilledAtEnd := desk.tally.entriesUnfilledAtEnd + 1 }
    else desk.tally
  let book := { desk.book with pending := none }
  match book.position with
  | none => return { desk with tally := tally, book := book }
  | some position =>
    let candle ← lookup feed.candleByStart sim.endsAt
    let (trade, cash) ← closePosition position candle desk.cash
      (takerExitQuote position candle.open_ sim.costs) .evaluationEnd sim.costs.takerFeeRate sim.bar
    return { cash := cash, trades := desk.trades ++ [trade], tally := tally.closed trade
             book := { book with position := none } }

def closeOutBooks (sim : Simulation) :
    List BookFeed → List Book → Account → Result (List Book × Account)
  | feed :: feeds, book :: books, account => do
    let desk ← closeOutBook sim feed { toAccount := account, book := book }
    let (rest, account) ← closeOutBooks sim feeds books desk.toAccount
    return (desk.book :: rest, account)
  | _, books, account => .ok (books, account)

/-- The whole loop: every evaluation bar, the close-out, and the terminal mark. -/
def runSimulation (sim : Simulation) : Result RunState := do
  let state ← runBars sim sim.evaluationBars
  let (books, account) ← closeOutBooks sim sim.feeds state.books state.toAccount
  let point ← equityPoint sim.endsAt account.cash sim.feeds books sim.costs.fillModel true
  return { toAccount := account, books := books, equityCurve := state.equityCurve ++ [point] }

/-! ## Results -/

def evaluatedNoTradeBars (feeds : List BookFeed) (startsAt : Time) (bar : Duration)
    (evaluationBars : Nat) : Result Nat := do
  let counts ← (barStarts startsAt bar evaluationBars).mapM (fun start => do
    let candles ← feeds.mapM (fun feed => lookup feed.candleByStart start)
    return candles.countP isNoTradeBar)
  return counts.sum

/-- The drawdown scan of `_summary`: peak, maximum drawdown and its fraction. -/
def drawdownScan : List EquityPoint → Decimal × Decimal × Decimal →
    Result (Decimal × Decimal × Decimal)
  | [], scan => .ok scan
  | point :: rest, (peak, maximum, fraction) => do
    let peak := max peak point.equity
    let drawdown := peak - point.equity
    let relative ← divide drawdown peak
    drawdownScan rest (peak, max maximum drawdown, max fraction relative)

/-- `numerator / denominator if denominator else None`. -/
def divideUnlessZero (numerator denominator : Decimal) : Option Decimal :=
  if denominator = 0 then none else some (numerator / denominator)

/-- The spread cost every fill of a trade recorded, per unit times quantity. -/
def tradeSpreadCost (trade : BacktestTrade) : Decimal :=
  trade.entry.spreadCost.getD 0 * trade.entry.quantity +
    trade.exit.spreadCost.getD 0 * trade.exit.quantity

def summary (initialCash finalCash : Decimal) (trades : List BacktestTrade)
    (equityCurve : List EquityPoint) (includeSpreadCost includeFunding : Bool)
    (evaluationBars : Nat) (validityLimits : List ResearchValidityLimitCode) :
    Result BacktestSummary := do
  let (_, maximumDrawdown, maximumDrawdownFraction) ← drawdownScan equityCurve (initialCash, 0, 0)
  let netPnls := trades.map (·.netPnl)
  let wins := netPnls.filter (0 < ·)
  let losses := netPnls.filter (· < 0)
  let grossProfit := wins.sum
  let grossLoss := -losses.sum
  let totalReturnFraction ← divide (finalCash - initialCash) initialCash
  return {
    initialEquity := initialCash
    finalEquity := finalCash
    totalNetPnl := finalCash - initialCash
    totalReturnFraction := totalReturnFraction
    grossProfit := grossProfit
    grossLoss := grossLoss
    winRate := (divideUnlessZero wins.length trades.length).getD 0
    profitFactor := divideUnlessZero grossProfit grossLoss
    averageWin := divideUnlessZero grossProfit wins.length
    averageLoss := divideUnlessZero grossLoss losses.length
    tradeCount := trades.length
    winningTradeCount := wins.length
    maximumDrawdown := maximumDrawdown
    maximumDrawdownFraction := maximumDrawdownFraction
    exposureBars := (trades.map (fun trade => max 1 trade.holdingBars)).sum
    evaluationBars := evaluationBars
    totalSpreadCost :=
      if includeSpreadCost then some (trades.map tradeSpreadCost).sum else none
    validityLimits := validityLimits
    totalFunding :=
      if includeFunding then some (trades.map (fun trade => trade.funding.getD 0)).sum else none }

/-! ## Books of a run -/

def bookFeed (specification : ResearchRunSpecification) (interval : CandleInterval)
    (candlesByProduct : Dict String (List Candle)) (traces : Dict String SignalTrace)
    (productId : String) : Result BookFeed := do
  let candles ← lookup candlesByProduct productId
  let candleByStart ← candleMap specification candles interval
  let trace ← lookup traces productId
  return { productId := productId
           candleByStart := candleByStart
           records := trace.records.foldl (fun records record =>
             records.set record.candleStartsAt record) .empty }

/-- The fixed part of `_simulate_books`: interval, feeds, costs and window. -/
def prepareSimulation (specification : ResearchRunSpecification) (strategy : StrategyDefinition)
    (candlesByProduct : Dict String (List Candle)) (traces : Dict String SignalTrace)
    (futures : Option FuturesTerms) : Result Simulation := do
  let interval ← barInterval specification strategy
  let feeds ← (lockstepProductIds strategy).mapM
    (bookFeed specification interval candlesByProduct traces)
  return {
    strategy := strategy
    costs := {
      makerFeeRate := specification.costs.makerFeeRate
      takerFeeRate := specification.costs.takerFeeRate
      slippageBps := specification.costs.fixedSlippageBps
      fillModel := ⟨specification.costs.spreadBps⟩
      executionStress := specification.costs.executionStress
      futures := futures }
    bar := interval.duration
    startsAt := specification.evaluation.startsAt
    endsAt := specification.evaluation.endsAt
    initialCash := specification.initialQuoteBalance
    evaluationBars := ((specification.evaluation.endsAt - specification.evaluation.startsAt).tdiv
      interval.duration).toNat
    feeds := feeds }

def assembleResult (sim : Simulation) (state : RunState) :
    Result (BacktestResult × BacktestDiagnostics) := do
  let noTradeBars ← evaluatedNoTradeBars sim.feeds sim.startsAt sim.bar sim.evaluationBars
  let limits := collectBacktestValidityLimits sim.strategy noTradeBars sim.costs.executionStress
    (futuresValidityLimits sim.costs.futures sim.bar)
  let summary ← summary sim.initialCash state.cash state.trades state.equityCurve
    sim.costs.fillModel.spreadStressed (sim.costs.futures.any (·.perpetual)) sim.evaluationBars
    limits
  let diagnostics ← state.tally.diagnostics
  return (⟨state.trades, state.equityCurve, summary⟩, diagnostics)

/-- `_simulate_books`: every product book in lexicographic order on each shared bar. -/
def simulateBooks (specification : ResearchRunSpecification) (strategy : StrategyDefinition)
    (candlesByProduct : Dict String (List Candle)) (traces : Dict String SignalTrace)
    (futures : Option FuturesTerms) : Result (BacktestResult × BacktestDiagnostics) := do
  let sim ← prepareSimulation specification strategy candlesByProduct traces futures
  let state ← runSimulation sim
  assembleResult sim state

/-! ## The entry points -/

/-- The candles of a run: the primary product's three clocks, the additional products', the
reference series by id. -/
structure History where
  candles : List Candle
  htfCandles : List Candle := []
  indicatorTimeframeCandles : Dict CandleInterval (List Candle) := .empty
  additionalInstrumentCandles : Dict String (List Candle) := .empty
  additionalHtfCandles : Dict String (List Candle) := .empty
  additionalIndicatorCandles : Dict String (Dict CandleInterval (List Candle)) := .empty
  referenceCandles : Dict String (List Candle) := .empty

namespace History

variable (history : History) (strategy : StrategyDefinition)

def candlesByProduct : Dict String (List Candle) :=
  history.additionalInstrumentCandles.set strategy.instrument.productId history.candles

def htfByProduct : Dict String (List Candle) :=
  history.additionalHtfCandles.set strategy.instrument.productId history.htfCandles

def extraByProduct : Dict String (Dict CandleInterval (List Candle)) :=
  history.additionalIndicatorCandles.set strategy.instrument.productId
    history.indicatorTimeframeCandles

def productCandles (productId : String) (decision : List Candle) : ProductCandles :=
  { decision := decision
    htf := ((history.htfByProduct strategy).get? productId).getD []
    extra := ((history.extraByProduct strategy).get? productId).getD .empty }

end History

/-- A `SignalEvaluationError` of a trace is reported as unverifiable inputs. -/
def signalInputs {α : Type} : Result α → Result α
  | .error (.signalEvaluation _) =>
    .error (.simulation "Backtest signal inputs could not be verified.")
  | other => other

def productTrace (engine : Engine) (specification : ResearchRunSpecification)
    (strategy : StrategyDefinition) (history : History) (productId : String) :
    Result SignalTrace := do
  let decision ← lookup (history.candlesByProduct strategy) productId
  signalInputs (evaluateSignalTrace engine specification strategy
    (history.productCandles strategy productId decision) history.referenceCandles)

/-- `traces[product_id] = …` for every covered product, in lockstep order. -/
def evaluateTraces (engine : Engine) (specification : ResearchRunSpecification)
    (strategy : StrategyDefinition) (history : History) :
    List String → Dict String SignalTrace → Result (Dict String SignalTrace)
  | [], traces => .ok traces
  | productId :: rest, traces => do
    let trace ← productTrace engine specification strategy history productId
    evaluateTraces engine specification strategy history rest (traces.set productId trace)

def verifiedInputs (engine : Engine) (specification : ResearchRunSpecification)
    (strategy : StrategyDefinition) (history : History)
    (fundingRates : Option (Dict Time Decimal)) :
    Result (Option FuturesTerms × Dict String SignalTrace) := do
  if engine.strategyFingerprint strategy ≠ specification.strategyFingerprint then
    throw (.simulation "Backtest strategy identity failed verification.")
  let futures ← futuresTerms engine.fundingSeriesFingerprint specification strategy fundingRates
  if (lockstepProductIds strategy).any (fun productId =>
      productId ≠ strategy.instrument.productId ∧
        !history.additionalInstrumentCandles.contains productId) then
    throw (.simulation
      "Multi-instrument backtests require additional_instrument_candles for every extra product.")
  let traces ← evaluateTraces engine specification strategy history
    (lockstepProductIds strategy) .empty
  return (futures, traces)

/-- `_simulate_backtest`. -/
def simulateVerified (engine : Engine) (specification : ResearchRunSpecification)
    (strategy : StrategyDefinition) (history : History)
    (fundingRates : Option (Dict Time Decimal)) :
    Result (BacktestResult × BacktestDiagnostics) := do
  let (futures, traces) ← verifiedInputs engine specification strategy history fundingRates
  simulateBooks specification strategy (history.candlesByProduct strategy) traces futures

/-- `except (DecimalException, ValueError)`: a simulation error passes through, a missing
key is neither. -/
def decimalContract {α : Type} : Result α → Result α
  | .error (.valueError _) | .error (.signalEvaluation _) | .error .divisionByZero =>
    .error (.simulation "Backtest arithmetic failed under the deterministic Decimal contract.")
  | other => other

def simulateBacktestWithDiagnostics (engine : Engine) (specification : ResearchRunSpecification)
    (strategy : StrategyDefinition) (history : History)
    (fundingRates : Option (Dict Time Decimal)) :
    Result (BacktestResult × BacktestDiagnostics) :=
  decimalContract (simulateVerified engine specification strategy history fundingRates)

def simulateBacktest (engine : Engine) (specification : ResearchRunSpecification)
    (strategy : StrategyDefinition) (history : History)
    (fundingRates : Option (Dict Time Decimal)) : Result BacktestResult := do
  let (result, _) ← simulateBacktestWithDiagnostics engine specification strategy history
    fundingRates
  return result

/-! ## What an accepted run went through -/

def backtestSimulation (engine : Engine) (specification : ResearchRunSpecification)
    (strategy : StrategyDefinition) (history : History)
    (fundingRates : Option (Dict Time Decimal)) : Result Simulation := do
  let (futures, traces) ← verifiedInputs engine specification strategy history fundingRates
  prepareSimulation specification strategy (history.candlesByProduct strategy) traces futures

theorem signalInputs_eq_ok {α : Type} {x : Result α} {value : α} (h : signalInputs x = .ok value) :
    x = .ok value := by
  unfold signalInputs at h
  split at h
  · cases h
  · exact h

theorem decimalContract_eq_ok {α : Type} {x : Result α} {value : α}
    (h : decimalContract x = .ok value) : x = .ok value := by
  unfold decimalContract at h
  split at h
  · cases h
  · cases h
  · cases h
  · exact h

variable {candlesByProduct : Dict String (List Candle)} {traces : Dict String SignalTrace}
  {futures : Option FuturesTerms} {interval : CandleInterval} {result : BacktestResult}
  {strategy : StrategyDefinition}

theorem prepareSimulation_spec
    (h : prepareSimulation specification strategy candlesByProduct traces futures = .ok sim) :
    ∃ interval, barInterval specification strategy = .ok interval ∧
      (lockstepProductIds strategy).mapM
        (bookFeed specification interval candlesByProduct traces) = .ok sim.feeds ∧
      sim.initialCash = specification.initialQuoteBalance ∧
      sim.bar = interval.duration ∧ sim.startsAt = specification.evaluation.startsAt ∧
      sim.endsAt = specification.evaluation.endsAt := by
  obtain ⟨interval, hinterval, h⟩ := bind_eq_ok h
  obtain ⟨feeds, hfeeds, rfl⟩ := bind_pure_ok h
  exact ⟨interval, hinterval, hfeeds, rfl, rfl, rfl, rfl⟩

theorem futuresTerms_spot {fingerprint : String → Dict Time Decimal → String}
    (hspot : strategy.instrument.isFuture = false)
    (h : futuresTerms fingerprint specification strategy fundingRates = .ok futures) :
    futures = none := by
  unfold futuresTerms at h
  split at h
  · obtain ⟨-, -, h⟩ := bind_eq_ok h
    exact (Except.ok.inj h).symm
  · rw [hspot] at h
    simp at h

theorem candleMap_eq_ok {candles : List Candle} {mapped : Dict Time Candle}
    (h : candleMap specification candles interval = .ok mapped) :
    mapped = candlesByStart (candles.filter (fun candle =>
      specification.warmup.startsAt ≤ candle.startsAt ∧
        candle.startsAt < specification.evaluation.endsAt + interval.duration)) ∧
    ∀ candle ∈ candles.filter (fun candle =>
      specification.warmup.startsAt ≤ candle.startsAt ∧
        candle.startsAt < specification.evaluation.endsAt + interval.duration),
      validateCandleValues candle = .ok () := by
  unfold candleMap at h
  simp only at h
  split at h
  · exact absurd h throw_bind_ne_ok
  next hvalid =>
    refine ⟨?_, ?_⟩
    · split at h
      · exact absurd h throw_bind_ne_ok
      · split at h
        · exact absurd h throw_bind_ne_ok
        · split at h
          · exact absurd h throw_bind_ne_ok
          · exact (Except.ok.inj h).symm
    · intro candle hcandle
      by_contra hinvalid
      refine hvalid (List.any_eq_true.mpr ⟨candle, hcandle, ?_⟩)
      cases hcheck : validateCandleValues candle with
      | error => rfl
      | ok => exact absurd hcheck hinvalid

theorem bookFeed_inv {productId : String} {feed : BookFeed}
    (h : bookFeed specification interval candlesByProduct traces productId = .ok feed) :
    ∃ candles trace, candlesByProduct.get? productId = some candles ∧
      candleMap specification candles interval = .ok feed.candleByStart ∧
      traces.get? productId = some trace ∧
      feed.records = trace.records.foldl (fun records record =>
        records.set record.candleStartsAt record) .empty := by
  obtain ⟨candles, hcandles, h⟩ := bind_eq_ok h
  obtain ⟨candleByStart, hmap, h⟩ := bind_eq_ok h
  obtain ⟨trace, htrace, h⟩ := bind_eq_ok h
  obtain rfl := Except.ok.inj h
  exact ⟨candles, trace, lookup_eq_ok.mp hcandles, hmap, lookup_eq_ok.mp htrace, rfl⟩

section

variable {strategy : StrategyDefinition} {history : History}
  (h : backtestSimulation engine specification strategy history fundingRates = .ok sim)
include h

theorem backtestSimulation_inv :
    ∃ futures traces,
      futuresTerms engine.fundingSeriesFingerprint specification strategy fundingRates =
        .ok futures ∧
      evaluateTraces engine specification strategy history (lockstepProductIds strategy) .empty =
        .ok traces ∧
      prepareSimulation specification strategy (history.candlesByProduct strategy) traces futures =
        .ok sim := by
  obtain ⟨⟨futures, traces⟩, hinputs, hprepare⟩ := bind_eq_ok h
  unfold verifiedInputs at hinputs
  simp only at hinputs
  split at hinputs
  · exact absurd hinputs throw_bind_ne_ok
  · obtain ⟨terms, hterms, hinputs⟩ := bind_eq_ok hinputs
    split at hinputs
    · exact absurd hinputs throw_bind_ne_ok
    · obtain ⟨evaluated, hevaluated, hinputs⟩ := bind_eq_ok hinputs
      obtain ⟨rfl, rfl⟩ := Prod.mk.inj (Except.ok.inj hinputs)
      exact ⟨terms, evaluated, hterms, hevaluated, hprepare⟩

theorem backtestSimulation_spec :
    ∃ futures traces interval,
      futuresTerms engine.fundingSeriesFingerprint specification strategy fundingRates =
        .ok futures ∧
      (lockstepProductIds strategy).mapM (bookFeed specification interval
        (history.candlesByProduct strategy) traces) = .ok sim.feeds ∧
      sim.strategy = strategy ∧ sim.initialCash = specification.initialQuoteBalance ∧
      sim.costs =
        { makerFeeRate := specification.costs.makerFeeRate
          takerFeeRate := specification.costs.takerFeeRate
          slippageBps := specification.costs.fixedSlippageBps
          fillModel := ⟨specification.costs.spreadBps⟩
          executionStress := specification.costs.executionStress
          futures := futures } := by
  obtain ⟨futures, traces, hterms, -, hprepare⟩ := backtestSimulation_inv h
  obtain ⟨interval, -, hprepare⟩ := bind_eq_ok hprepare
  obtain ⟨feeds, hfeeds, rfl⟩ := bind_pure_ok hprepare
  exact ⟨futures, traces, interval, hterms, hfeeds, rfl, rfl, rfl⟩

theorem backtestSimulation_pyramids (hpyramids : sim.strategy.entry.pyramiding = true) :
    sim.costs.futures = none := by
  obtain ⟨futures, _, _, hterms, -, hstrategy, -, hcosts⟩ := backtestSimulation_spec h
  rw [hstrategy] at hpyramids
  rw [hcosts]
  refine futuresTerms_spot ?_ hterms
  by_contra hfuture
  have halone := strategy.futuresAlone
  rw [if_pos (by simpa using hfuture)] at halone
  exact absurd hpyramids (by simp [halone.2.2])

end

theorem assembleResult_spec {final : RunState} {diagnostics : BacktestDiagnostics}
    (h : assembleResult sim final = .ok (result, diagnostics)) :
    result.trades = final.trades ∧ result.equityCurve = final.equityCurve ∧
      result.summary.initialEquity = sim.initialCash ∧
      result.summary.finalEquity = final.cash := by
  obtain ⟨noTradeBars, -, h⟩ := bind_eq_ok h
  obtain ⟨totals, htotals, h⟩ := bind_eq_ok h
  obtain ⟨counted, -, h⟩ := bind_eq_ok h
  cases h
  obtain ⟨⟨peak, maximum, fraction⟩, -, htotals⟩ := bind_eq_ok htotals
  obtain ⟨ratio, -, htotals⟩ := bind_eq_ok htotals
  cases htotals
  exact ⟨rfl, rfl, rfl, rfl⟩

/-- An accepted backtest ran its simulation to the end, and reports that run. -/
theorem simulateBacktest_run {strategy : StrategyDefinition} {history : History}
    (h : simulateBacktest engine specification strategy history fundingRates = .ok result) :
    ∃ sim final,
      backtestSimulation engine specification strategy history fundingRates = .ok sim ∧
      runSimulation sim = .ok final ∧ result.trades = final.trades ∧
      result.equityCurve = final.equityCurve ∧
      result.summary.initialEquity = sim.initialCash ∧
      result.summary.finalEquity = final.cash := by
  obtain ⟨⟨result, diagnostics⟩, hrun, rfl⟩ := bind_pure_ok h
  obtain ⟨⟨futures, traces⟩, hinputs, hbooks⟩ := bind_eq_ok (decimalContract_eq_ok hrun)
  obtain ⟨sim, hsim, hbooks⟩ := bind_eq_ok hbooks
  obtain ⟨final, hfinal, hassembled⟩ := bind_eq_ok hbooks
  refine ⟨sim, final, ?_, hfinal, assembleResult_spec hassembled⟩
  simp only [backtestSimulation, hinputs, bind, Except.bind]
  exact hsim

end Thytrader.Backtest
