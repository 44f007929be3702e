import Thytrader.Execution.AutomaticPause
import Thytrader.Execution.BarLoop
import Thytrader.Execution.DueBars

/-!
# One cycle of a single-product strategy book

`_advance_strategy_ready` and `_evaluate_strategy_due_bars` of
`execution_worker/strategy_step.py` with `_maintain_between_bars` of
`execution_worker/between_bars.py`.

Mirroring notes: the decision window, whether the higher-timeframe and the indicator-timeframe
windows are whole, and the entry gates are what the market data answered in that cycle. The book
is paper and covers one product, so the user-feed gate and the lockstep branches are left out.
Decision journals go to another store.
-/

namespace Thytrader.Execution

open Trading Lib StoreView
open MarketData (Candle CandleInterval)

structure StrategyBook where
  id : Uuid
  productId : String
  interval : CandleInterval

/-- What one cycle is given: the market data's answers and its stages. `entryGate` is the reference
or the short-history gate of one bar. -/
structure CycleInput where
  bar : BarInput
  candles : List Candle
  htfWhole : Bool
  extraWhole : Bool
  entryGate : Candle → Bool
  maintainVerifiedBooks : DeploymentSnapshot → Bars Unit

def stoppedProductIds (snapshot : DeploymentSnapshot) (covered : List String) : List String :=
  let deployment := snapshot.deployment
  let products := deployment.productId :: covered ++
    (snapshotPositions snapshot).map (fun position =>
      resolvedProductId position.productId deployment) ++
    snapshot.orders.map (fun order => resolvedProductId order.productId deployment) ++
    snapshot.instrumentRuntimes.map (·.productId)
  (products.dedup.filter (· ≠ "")).insertionSort (· ≤ ·)

variable (book : StrategyBook) (input : CycleInput)

def CycleInput.expectedLast : Time :=
  book.interval.alignClosedEnd input.bar.now - book.interval.duration

def rewriteRow (write : Deployment → Time → Option Deployment) : Bars Unit := do
  let current ← shared.read book.id
  match write current.deployment input.bar.now with
  | none => return ()
  | some row =>
    let _ ← shared.save row
    return ()

def maintainBetweenBars : Bars Unit := do
  let snapshot ← shared.read book.id
  if 1 < (stoppedProductIds snapshot [book.productId]).length then
    input.maintainVerifiedBooks snapshot
  else if input.candles = [] then return ()
  else
    let view := product book.productId
    let focused ← view.read book.id
    let _ ← maintainOpenInventory input.bar view book.productId focused input.candles
    return ()

def superviseWithoutDecisionCandles : Bars Unit := do
  rewriteRow book input (pauseRunningForMissingCandles false)
  let current ← shared.read book.id
  input.maintainVerifiedBooks current

/-- The loop over the due bars: only the newest one may enter, while its signal is valid. -/
def evaluateDueBars : List Candle → Bars Unit
  | [] => return ()
  | candle :: rest => do
    let current ← shared.read book.id
    if current.deployment.status = .stopped then return ()
    else
      let window := input.candles.filter (fun item => item.startsAt ≤ candle.startsAt)
      let allowNewEntries := rest.isEmpty &&
        signalStillValid candle book.interval input.bar.now candle.close && !input.entryGate candle
      let _ ← processClosedBar input.bar .shared book.productId current window allowNewEntries
      evaluateDueBars rest

def indicatorTimeframeGap : String :=
  "Indicator-timeframe market-data window is gapped or missing the latest completed bar."

def evaluateStrategyDueBars (snapshot : DeploymentSnapshot) (due : List Candle) : Bars Unit :=
  if input.extraWhole = false then do
    let _ ← shared.save
      (pausedWith indicatorTimeframeGap snapshot.deployment input.bar.now)
    maintainBetweenBars book input
  else evaluateDueBars book input due

def advanceDueBars (snapshot : DeploymentSnapshot) (due : List Candle) : Bars Unit :=
  match due.getLast? with
  | none => maintainBetweenBars book input
  | some newest =>
    if input.htfWhole = false then do
      rewriteRow book input (pauseRunningForDataGap .htf)
      maintainBetweenBars book input
    else do
      evaluateStrategyDueBars book input snapshot due
      rewriteRow book input (clearDataGapOnlyPause newest.startsAt)

/-- `_advance_strategy_ready`, on the snapshot its caller read. -/
def advanceStrategyReady : Bars Unit := do
  let snapshot ← shared.read book.id
  if input.candles = [] then superviseWithoutDecisionCandles book input
  else
    match newClosedBars input.candles snapshot.deployment.lastEvaluatedBar
        (input.expectedLast book) book.interval.duration input.bar.now with
    | none =>
      rewriteRow book input (pauseRunningForDataGap .decision)
      maintainBetweenBars book input
    | some due => advanceDueBars book input snapshot due

end Thytrader.Execution
