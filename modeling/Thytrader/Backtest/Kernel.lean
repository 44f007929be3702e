import Thytrader.Backtest.Models

/-!
# The backtest kernel

`backtest/kernel.py` and its `kernel_*` siblings: the bar-level simulation of one
strategy over one or many products that share a quote balance. Products take their
turn on every bar in lexicographic order; a turn matches the resting entry, manages the
open position, and may rest a new entry.

Mirroring notes: a function that mutates its book and returns cash returns both, in a
`Desk` when it also counts. `_scale_in` hands back the unchanged position when cash
cannot fund the add; that refusal is `none` here. A missing dictionary key raises.
-/

namespace Thytrader.Backtest

open Lib MarketData Strategies Trading Evaluation

/-- `mapping[key]`, which raises when the key is absent. -/
def lookup {κ α : Type} [DecidableEq κ] (mapping : Dict κ α) (key : κ) : Result α :=
  match mapping.get? key with
  | none => .error .keyError
  | some value => .ok value

theorem lookup_eq_ok {κ α : Type} [DecidableEq κ] {mapping : Dict κ α} {key : κ} {value : α} :
    lookup mapping key = .ok value ↔ mapping.get? key = some value := by
  unfold lookup
  cases mapping.get? key with
  | none | some => simp

/-- What the products of a run share: the quote balance, the closed trades and the
entry-funnel counters. -/
structure Account where
  cash : Decimal
  trades : List BacktestTrade
  tally : Tally

/-- One product's turn: the shared account and the product's own book. -/
structure Desk extends Account where
  book : Book

/-! ## Fills -/

/-- `_signed_quantity`: base inventory, negative for shorts. -/
def signedQuantity (position : Position) : Decimal :=
  match position.side with
  | .short => -position.entry.quantity
  | .long => position.entry.quantity

/-- The quantity and unit fee a fill opens with, in whole contracts and with the per-contract fee
for futures; `none` refuses it. -/
def openingQuantity (terms : Option FuturesTerms) (quantity : Decimal) :
    Result (Option (Decimal × Option Decimal)) := do
  match terms with
  | none => return some (quantity, none)
  | some terms =>
    let quantity ← terms.wholeContracts quantity
    if quantity ≤ 0 then return none
    let unitFee ← divide terms.feePerContract terms.contractSize
    return some (quantity, some unitFee)

def entryCash (side : PositionSide) (cash notional fee : Decimal) : Decimal :=
  match side with
  | .short => cash + notional - fee
  | .long => cash - notional - fee

/-- `_open_position`: fill the resting limit at the posted price as a maker. -/
def openPosition (pending : PendingEntry) (candle : Candle) (cash : Decimal)
    (entryBarIndex : Nat) (costs : Costs) : Result (Option (Position × Decimal)) := do
  let quote := costs.fillModel.maker pending.limitPrice
  match ← openingQuantity costs.futures pending.quantity with
  | none => return none
  | some (quantity, unitFee) =>
    let notional := quantity * quote.price
    let fee := notional * costs.makerFeeRate + unitFee.elim 0 (quantity * ·)
    if costs.futures.isNone ∧ pending.side = .long ∧ cash < notional + fee then return none
    let entry : BacktestFill :=
      { candleStartsAt := candle.startsAt
        price := quote.price
        quantity := quantity
        notional := notional
        fee := fee
        feeRate := costs.makerFeeRate }
    return some
      ({ entry := entry
         stopPrice := pending.stopPrice
         targetPrice := pending.targetPrice
         enteredBarIndex := entryBarIndex
         side := pending.side
         unitFee := unitFee
         funding := if costs.futures.any (·.perpetual) then some 0 else none },
        entryCash pending.side cash notional fee)

/-- `_scale_in`: average a same-side maker add onto the open position; `none` when
cash cannot fund it. -/
def scaleIn (pending : PendingEntry) (position : Position) (cash : Decimal) (costs : Costs) :
    Result (Option (Position × Decimal)) := do
  let quote := costs.fillModel.maker pending.limitPrice
  let notional := pending.quantity * quote.price
  let fee := notional * costs.makerFeeRate
  if pending.side = .long ∧ cash < notional + fee then return none
  let quantity := position.entry.quantity + pending.quantity
  let entryPrice ← divide
    (position.entry.price * position.entry.quantity + quote.price * pending.quantity) quantity
  let entry : BacktestFill :=
    { candleStartsAt := position.entry.candleStartsAt
      price := entryPrice
      quantity := quantity
      notional := quantity * entryPrice
      fee := position.entry.fee + fee
      feeRate := position.entry.feeRate }
  return some ({ position with entry := entry, addCount := position.addCount + 1 },
    entryCash pending.side cash notional fee)

def fillPosition (held : Option Position) (pending : PendingEntry) (candle : Candle)
    (cash : Decimal) (offset : Nat) (costs : Costs) : Result (Option (Position × Decimal)) :=
  match held with
  | some position => scaleIn pending position cash costs
  | none => openPosition pending candle cash offset costs

/-- `_fill_resting_entry`: open or scale into the book; an unfundable fill is refused. -/
def fillRestingEntry (desk : Desk) (pending : PendingEntry) (candle : Candle) (offset : Nat)
    (costs : Costs) : Result Desk := do
  match ← fillPosition desk.book.position pending candle desk.cash offset costs with
  | none =>
    return { desk with
      tally := { desk.tally with entriesRefusedAtFill := desk.tally.entriesRefusedAtFill + 1 } }
  | some (position, cash) =>
    return { desk with
      book := { desk.book with position := some position }
      cash := cash
      tally := { desk.tally with entriesFilled := desk.tally.entriesFilled + 1 } }

/-- `_fill_evidence`: the spread fields, only on a stressed taker fill. -/
def fillEvidence (quote : FillQuote) (fill : BacktestFill) : BacktestFill :=
  match quote.executableSide with
  | none => fill
  | some side =>
    { fill with
      referencePrice := some quote.referencePrice
      executableSide := some side
      spreadCost := some quote.spreadCost }

/-- `_holding_bars`: whole bars between the entry and exit boundaries. -/
def holdingBars (entry exit_ : Time) (barDuration : Duration) : Int :=
  (exit_ - entry).tdiv barDuration

/-- Net profit, gross profit and cash after a covering fill. -/
def exitLedger (side : PositionSide) (entry : BacktestFill)
    (cash exitNotional exitFee : Decimal) : Decimal × Decimal × Decimal :=
  match side with
  | .short =>
    (entry.notional - entry.fee - exitNotional - exitFee, entry.notional - exitNotional,
      cash - exitNotional - exitFee)
  | .long =>
    (exitNotional - exitFee - entry.notional - entry.fee, exitNotional - entry.notional,
      cash + exitNotional - exitFee)

/-- `_close_position`: one covering fill, its fee, and the complete trade. -/
def closePosition (position : Position) (candle : Candle) (cash : Decimal) (quote : FillQuote)
    (reason : ExitReason) (feeRate : Decimal) (barDuration : Duration) :
    Result (BacktestTrade × Decimal) :=
  let quantity := position.entry.quantity
  let exitNotional := quantity * quote.price
  let exitFee := exitNotional * feeRate + position.unitFee.elim 0 (quantity * ·)
  let exitFill : BacktestFill := fillEvidence quote
    { candleStartsAt := candle.startsAt
      price := quote.price
      quantity := quantity
      notional := exitNotional
      fee := exitFee
      feeRate := feeRate }
  let (netPnl, grossPnl, nextCash) :=
    exitLedger position.side position.entry cash exitNotional exitFee
  -- `require_ordered_fills` rejects the trade record itself
  if candle.startsAt < position.entry.candleStartsAt then
    .error (.valueError "trade exit cannot precede entry")
  else
    .ok
      ({ entry := position.entry
         exit := { toBacktestFill := exitFill, reason := reason }
         grossPnl := grossPnl
         netPnl := netPnl + position.funding.getD 0
         holdingBars := holdingBars position.entry.candleStartsAt candle.startsAt barDuration
         funding := position.funding },
        nextCash)

/-! ## Exits -/

/-- What an exit attempt leaves: the trade if one closed, the cash, and the book. -/
structure Closing where
  trade : Option BacktestTrade
  cash : Decimal
  book : Book

def closeBook (book : Book) (position : Position) (candle : Candle) (cash : Decimal)
    (quote : FillQuote) (reason : ExitReason) (feeRate : Decimal) (barDuration : Duration) :
    Result Closing := do
  let (trade, cash) ← closePosition position candle cash quote reason feeRate barDuration
  return ⟨some trade, cash, { book with position := none }⟩

def signalExitMatched (record : Option SignalTraceRecord) : Bool :=
  record.any (fun record => record.exitCondition = some .matched)

/-- `_stop_hit`: the bar's executable extreme trades through the working stop. -/
def stopHit (position : Position) (candle : Candle) (fillModel : FillModel) : Bool :=
  match position.side with
  | .short => position.stopPrice ≤ fillModel.ask candle.high
  | .long => fillModel.bid candle.low ≤ position.stopPrice

/-- `_stop_reference`: the raw stop price, gapping to the adverse open. -/
def stopReference (position : Position) (candle : Candle) (costs : Costs) : Result Decimal := do
  match position.side with
  | .short => return max candle.open_ (← costs.fillModel.rawForAsk position.stopPrice)
  | .long => return min candle.open_ (← costs.fillModel.rawForBid position.stopPrice)

/-- `_taker_exit_quote`: sell longs at the bid, cover shorts at the ask, with slippage. -/
def takerExitQuote (position : Position) (referencePrice : Decimal) (costs : Costs) : FillQuote :=
  match position.side with
  | .short => costs.fillModel.takerBuy referencePrice costs.slippageBps
  | .long => costs.fillModel.takerSell referencePrice costs.slippageBps

def takerClose (book : Book) (position : Position) (candle : Candle) (costs : Costs)
    (cash referencePrice : Decimal) (reason : ExitReason) (barDuration : Duration) :
    Result Closing :=
  closeBook book position candle cash (takerExitQuote position referencePrice costs) reason
    costs.takerFeeRate barDuration

def stopClose (book : Book) (position : Position) (candle : Candle) (costs : Costs)
    (cash : Decimal) (barDuration : Duration) : Result Closing := do
  let reference ← stopReference position candle costs
  takerClose book position candle costs cash reference .stopLoss barDuration

/-- `_stop_out`: the stop of a position armed on an earlier bar. -/
def stopOut (book : Book) (candle : Candle) (costs : Costs) (cash : Decimal)
    (barDuration : Duration) : Result Closing :=
  match book.position with
  | none => .ok ⟨none, cash, book⟩
  | some position =>
    if position.takeProfitResting = false ∨ stopHit position candle costs.fillModel = false then
      .ok ⟨none, cash, book⟩
    else stopClose book position candle costs cash barDuration

/-- `_match_take_profit`: the resting target, filled as a maker. -/
def matchTakeProfit (book : Book) (candle : Candle) (costs : Costs) (cash : Decimal)
    (barDuration : Duration) : Result Closing :=
  match book.position with
  | none => .ok ⟨none, cash, book⟩
  | some position =>
    match position.targetPrice with
    | none => .ok ⟨none, cash, book⟩
    | some target =>
      if position.takeProfitResting = false ∨
          makerTouched candle.high candle.low target (position.side = .short)
            costs.executionStress = false then .ok ⟨none, cash, book⟩
      else
        closeBook book position candle cash (costs.fillModel.maker target) .takeProfit
          costs.makerFeeRate barDuration

def optionalIndicatorValue (record : Option SignalTraceRecord) (indicatorId : String) :
    Option Decimal :=
  record.bind (fun record => record.indicatorValues.findSome? (fun value =>
    if value.indicatorId = indicatorId then value.value else none))

/-- `_indicator_value`: the ATR that was available when the signal closed. -/
def indicatorValue (record : SignalTraceRecord) (indicatorId : String) : Result Decimal :=
  match optionalIndicatorValue (some record) indicatorId with
  | none => .error (.simulation "Backtest entry signal lacks its required ATR value.")
  | some value => .ok value

/-- The ratchet of a position's side over one bar, without venue increments. -/
def ratchetedStop (position : Position) (candle : Candle) (atr : Option Decimal)
    (multiple : Decimal) (ratchet : Bool) : Result TrailingStopState :=
  match position.side with
  | .short =>
    ratchetedShortStop position.stopPrice position.trailExtreme candle.low atr multiple none ratchet
  | .long =>
    ratchetedLongStop position.stopPrice position.trailExtreme candle.high atr multiple none ratchet

/-- `_trail_position`: advance an ATR trailing stop after the fill bar. -/
def trailPosition (position : Position) (candle : Candle) (strategy : StrategyDefinition)
    (record : Option SignalTraceRecord) (isFillBar : Bool) : Result Position :=
  match strategy.exits.trailingStop with
  | none => .ok position
  | some policy => do
    let atr := optionalIndicatorValue record policy.atrIndicator
    let state ← ratchetedStop position candle atr policy.multiple (!isFillBar)
    return { position with
      stopPrice := state.stopPrice
      trailExtreme := some state.trailExtreme }

/-- `_manage_position`: the entering stop, the trail, the signal and time exits at the
close, then arm the target. -/
def managePosition (feed : BookFeed) (book : Book) (candle : Candle) (offset : Nat)
    (strategy : StrategyDefinition) (costs : Costs) (cash : Decimal) (barDuration : Duration) :
    Result Closing :=
  match book.position with
  | none => .ok ⟨none, cash, book⟩
  | some position =>
    if stopHit position candle costs.fillModel then
      stopClose book position candle costs cash barDuration
    else do
      let isFillBar : Bool := offset = position.enteredBarIndex
      let record := feed.records.get? candle.startsAt
      let position ← trailPosition position candle strategy record isFillBar
      if isFillBar = false ∧ signalExitMatched record then
        takerClose book position candle costs cash candle.close .signal barDuration
      else if (strategy.exits.maxBarsHeld : Int) ≤ offset - position.enteredBarIndex then
        takerClose book position candle costs cash candle.close .timeExit barDuration
      else
        return ⟨none, cash, { book with
          position := some { position with takeProfitResting := true } }⟩

/-! ## Futures -/

def inExpiryWindow (costs : Costs) (instant : Time) : Bool :=
  costs.futures.any (fun terms => terms.flattenAt.any (fun flattenAt => flattenAt ≤ instant))

/-- `_flatten_for_expiry`: cancel the resting entry, close at the open as a taker. -/
def flattenForExpiry (desk : Desk) (candle : Candle) (costs : Costs) (barDuration : Duration) :
    Result (Closing × Tally) := do
  let tally := if desk.book.pending.isSome then
    { desk.tally with entriesExpired := desk.tally.entriesExpired + 1 } else desk.tally
  let book := { desk.book with pending := none }
  match book.position with
  | none => return (⟨none, desk.cash, book⟩, tally)
  | some position =>
    let closing ← takerClose book position candle costs desk.cash candle.open_ .expiry barDuration
    return (closing, tally)

/-- The bar's worst price for a position. -/
def adverseExtreme (position : Position) (candle : Candle) : Decimal :=
  match position.side with
  | .short => candle.high
  | .long => candle.low

/-- `_liquidate`: close at the adverse extreme when equity there is below maintenance. -/
def liquidate (book : Book) (candle : Candle) (costs : Costs) (cash : Decimal)
    (barDuration : Duration) : Result Closing :=
  match costs.futures, book.position with
  | some terms, some position =>
    let adverse := adverseExtreme position candle
    let equity := cash + signedQuantity position * costs.fillModel.mark adverse position.side
    if terms.maintenance position.entry.quantity adverse position.side ≤ equity then
      .ok ⟨none, cash, book⟩
    else takerClose book position candle costs cash adverse .liquidation barDuration
  | _, _ => .ok ⟨none, cash, book⟩

def fundingRate (terms : FuturesTerms) (hour : Time) : Result Decimal :=
  match terms.constantFundingRate, terms.fundingRates.bind (·.get? hour) with
  | some rate, _ => .ok rate
  | none, some rate => .ok rate
  | none, none => .error (.simulation "FUNDING_HISTORY_MISSING: no settled funding rate.")

/-- `_charge_funding`: every funding hour that closes inside the bar. -/
def chargeFunding (book : Book) (candle : Candle) (costs : Costs) (cash : Decimal)
    (barDuration : Duration) : Result (Book × Decimal) := do
  match costs.futures, book.position with
  | some terms, some position =>
    let hours := fundingHours candle.startsAt (candle.startsAt + barDuration)
    if terms.perpetual = false ∨ hours = [] then return (book, cash)
    let charges ← hours.mapM (fun hour => do
      let rate ← fundingRate terms hour
      return signedQuantity position * candle.close * rate)
    let flow := -charges.sum
    return ({ book with
      position := some { position with funding := some (position.funding.getD 0 + flow) } },
      cash + flow)
  | _, _ => return (book, cash)

/-- `_size_contracts`. -/
def sizeContractsFor (terms : FuturesTerms) (strategy : StrategyDefinition) (cash : Decimal)
    (side : PositionSide) (limitPrice requestedNotional makerFeeRate : Decimal) :
    Result (OrSkip (Decimal × Bool)) :=
  sizeContracts terms.toFuturesMarginTerms
    { maxQuoteNotional := strategy.sizing.maxQuoteNotional
      minQuoteNotional := strategy.sizing.minQuoteNotional
      maxExposureFraction := strategy.portfolioLimits.maxStrategyExposureFraction }
    cash side limitPrice requestedNotional makerFeeRate

/-! ## Entries -/

structure SizedNotional where
  notional : Decimal
  capped : Bool

def cashCapHeadroom : Decimal := 1 / 10 ^ 12

/-- `_bounded_notional`: ATR-risk notional within strategy, exposure and cash limits. -/
def boundedNotional (strategy : StrategyDefinition)
    (cash stopDistance limitPrice makerFeeRate : Decimal) : Result (OrSkip SizedNotional) := do
  let riskQuantity ← divide (cash * strategy.sizing.riskFraction) stopDistance
  let fundable ← divide cash (1 + makerFeeRate)
  let maximumNotional := min (min strategy.sizing.maxQuoteNotional
    (cash * strategy.portfolioLimits.maxStrategyExposureFraction))
    (fundable * (1 - cashCapHeadroom))
  let requested := riskQuantity * limitPrice
  let notional := min requested maximumNotional
  if notional < strategy.sizing.minQuoteNotional then return .error .notionalBelowMinimum
  return .ok ⟨notional, maximumNotional < requested⟩

def entryQuantity (strategy : StrategyDefinition) (cash stopDistance limitPrice : Decimal)
    (makerFeeRate : Decimal) (futures : Option FuturesTerms) :
    Result (OrSkip (Decimal × Bool)) := do
  match futures with
  | some terms =>
    let riskQuantity ← divide (cash * strategy.sizing.riskFraction) stopDistance
    sizeContractsFor terms strategy cash strategy.entry.side limitPrice
      (riskQuantity * limitPrice) makerFeeRate
  | none =>
    match ← boundedNotional strategy cash stopDistance limitPrice makerFeeRate with
    | .error reason => return .error reason
    | .ok sized =>
      let quantity ← divide sized.notional limitPrice
      return .ok (quantity, sized.capped)

/-- `_size_entry`: size a resting entry at the signal close by ATR risk. -/
def sizeEntry (signal : SignalTraceRecord) (strategy : StrategyDefinition)
    (cash limitPrice makerFeeRate : Decimal) (futures : Option FuturesTerms) :
    Result (OrSkip PendingEntry) := do
  let atr ← indicatorValue signal strategy.exits.initialStop.atrIndicator
  let stopDistance := atr * strategy.exits.initialStop.multiple
  let side := strategy.entry.side
  match ← entryLevels side limitPrice stopDistance (rewardRiskMultiple strategy.exits) with
  | .error reason => return .error reason
  | .ok levels =>
    let allowed ← targetGuardAllows strategy.entry.economicGuard side limitPrice
      levels.targetPrice makerFeeRate
    if allowed = false then return .error .netTargetBelowMinimum
    match ← entryQuantity strategy cash stopDistance limitPrice makerFeeRate futures with
    | .error reason => return .error reason
    | .ok (quantity, capped) =>
      return .ok
        { signal := signal
          limitPrice := limitPrice
          quantity := quantity
          stopPrice := levels.stopPrice
          targetPrice := levels.targetPrice
          waitedBars := 0
          side := side
          sizeCapped := capped }

def addStopDistance (position : Position) (limitPrice : Decimal) : Decimal :=
  match position.side with
  | .long => limitPrice - position.stopPrice
  | .short => position.stopPrice - limitPrice

/-- `_size_pyramid_add`: size a same-side add against the existing stop. -/
def sizePyramidAdd (signal : SignalTraceRecord) (strategy : StrategyDefinition)
    (cash limitPrice makerFeeRate : Decimal) (position : Position) :
    Result (OrSkip PendingEntry) := do
  let allowed ← targetGuardAllows strategy.entry.economicGuard position.side limitPrice
    position.targetPrice makerFeeRate
  if allowed = false then return .error .netTargetBelowMinimum
  let stopDistance := addStopDistance position limitPrice
  if limitPrice ≤ 0 then return .error .entryPriceNotPositive
  if stopDistance ≤ 0 then return .error .stopDistanceNotPositive
  if cash ≤ 0 then return .error .insufficientCash
  match ← boundedNotional strategy cash stopDistance limitPrice makerFeeRate with
  | .error reason => return .error reason
  | .ok sized =>
    let quantity ← divide sized.notional limitPrice
    return .ok
      { signal := signal
        limitPrice := limitPrice
        quantity := quantity
        stopPrice := position.stopPrice
        targetPrice := position.targetPrice
        waitedBars := 0
        side := position.side
        isPyramidAdd := true
        sizeCapped := sized.capped }

/-- `_entry_gate`: the book state that prevents resting an entry, if any. -/
def entryGate (book : Book) (strategy : StrategyDefinition) (limitPrice : Decimal)
    (mayOpenBook expiryWindow : Bool) : Option GateReason :=
  if expiryWindow then some .expiryWindow
  else if book.pending.isSome then some .pendingEntry
  else if 0 < book.cooldownBars then some .cooldown
  else
    match book.position with
    | none => if mayOpenBook then none else some .maxPositions
    | some position =>
      if canPyramidAdd strategy position.side position.entry.price limitPrice position.addCount
      then none
      else some .inPosition

/-- The size of a signal's entry: a fresh one for a flat book, else a same-side add. -/
def sizeSignal (held : Option Position) (record : SignalTraceRecord)
    (strategy : StrategyDefinition) (costs : Costs) (cash limitPrice : Decimal) :
    Result (OrSkip PendingEntry) :=
  match held with
  | none => sizeEntry record strategy cash limitPrice costs.makerFeeRate costs.futures
  | some position => sizePyramidAdd record strategy cash limitPrice costs.makerFeeRate position

/-- `_maybe_rest_entry`: a matched signal rests an entry or counts one skip reason. -/
def maybeRestEntry (desk : Desk) (record : SignalTraceRecord) (strategy : StrategyDefinition)
    (costs : Costs) (limitPrice : Decimal) (mayOpenBook expiryWindow : Bool) : Result Desk := do
  match record.entryCondition with
  | .undefined =>
    return { desk with tally := { desk.tally with warmupBars := desk.tally.warmupBars + 1 } }
  | .notMatched => return desk
  | .matched =>
    let tally := { desk.tally with signalsMatched := desk.tally.signalsMatched + 1 }
    match entryGate desk.book strategy limitPrice mayOpenBook expiryWindow with
    | some gate => return { desk with tally := tally.skip (.gate gate) }
    | none =>
      match ← sizeSignal desk.book.position record strategy costs desk.cash limitPrice with
      | .error reason => return { desk with tally := tally.skip (.entry reason) }
      | .ok pending =>
        return { desk with
          book := { desk.book with pending := some pending }
          tally := tally.rested pending }

def expireEntry (desk : Desk) (strategy : StrategyDefinition) : Desk :=
  { desk with
    book := { desk.book with
      pending := none
      cooldownBars := max strategy.entry.cooldownBars 1 }
    tally := { desk.tally with entriesExpired := desk.tally.entriesExpired + 1 } }

/-- `_match_entry`: fill a resting limit the bar trades through, else wait, cancel or
reprice. -/
def matchEntry (desk : Desk) (candle : Candle) (offset : Nat) (strategy : StrategyDefinition)
    (costs : Costs) : Result Desk := do
  match desk.book.pending with
  | none => return desk
  | some pending =>
    if desk.book.position.isSome ∧ pending.isPyramidAdd = false then return desk
    let latency := costs.executionStress.elim 0 (·.entryLatencyBars)
    if pending.waitedBars < latency then
      return { desk with book := { desk.book with
        pending := some { pending with waitedBars := pending.waitedBars + 1 } } }
    if makerTouched candle.high candle.low pending.limitPrice (pending.side = .long)
        costs.executionStress then
      let filled := match costs.executionStress with
        | none => pending
        | some stress => { pending with quantity := pending.quantity * stress.entryFillFraction }
      fillRestingEntry { desk with book := { desk.book with pending := none } } filled candle
        offset costs
    else
      let waited := pending.waitedBars + 1
      if (waited : Int) - latency < strategy.execution.maxEntryWaitBars.value then
        return { desk with book := { desk.book with
          pending := some { pending with waitedBars := waited } } }
      match strategy.execution.onUnfilledEntry with
      | .cancel => return expireEntry desk strategy
      | .reprice =>
        let allowed ← targetGuardAllows strategy.entry.economicGuard pending.side candle.close
          pending.targetPrice costs.makerFeeRate
        if allowed = false then return expireEntry desk strategy
        return { desk with
          book := { desk.book with
            pending := some { pending with limitPrice := candle.close, waitedBars := latency } }
          tally := { desk.tally with entriesRepriced := desk.tally.entriesRepriced + 1 } }

end Thytrader.Backtest
