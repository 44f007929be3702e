import Thytrader.MarketData.Candles
import Thytrader.Trading.FuturesRepair
import Thytrader.Trading.Overlay

/-!
# Fill economics

`trading/fill_ledger.py`: the pure projection of one fill onto its own product
book. `project_fill_economics` selects the product, tries the futures repair,
and otherwise routes the fill to an entry, a scale-in or an exit of the focused
book; every route books the same cash delta.

Mirroring notes: the two clock reads, for the stamp and for the flat-confirmation bound, are
arguments (`now`, `after`). `Decimal` division by zero raises, so a scale-in to quantity zero is a
failure. Snapshots the projection builds take the dataclass defaults for the fields it does not pass
(`accounting_complete`, `funding`).
-/

namespace Thytrader.Trading

open MarketData (parseCandleInterval)

/-! ## Cash -/

def cashDelta (fill : Fill) (side : OrderSide) : Decimal :=
  match side with
  | .buy => -(fill.price * fill.quantity) - fill.fee
  | .sell => fill.price * fill.quantity - fill.fee

def cashAfterFill (cash : Decimal) (fill : Fill) (orderSide : OrderSide) : Decimal :=
  let notional := fill.price * fill.quantity
  if orderSide = .buy then cash - notional - fill.fee else cash + notional - fill.fee

theorem cashAfterFill_eq (cash : Decimal) (fill : Fill) (side : OrderSide) :
    cashAfterFill cash fill side = cash + cashDelta fill side := by
  cases side with
  | buy =>
    simp only [cashAfterFill, cashDelta, if_true]
    ring
  | sell =>
    simp only [cashAfterFill, cashDelta, reduceCtorEq, if_false]
    ring

/-! ## Fill and position rows -/

/-- `applied_fill_quantity`: quantity of the order's economically applied fills. -/
def appliedFillQuantity (snapshot : DeploymentSnapshot) (orderId : Uuid) : Decimal :=
  ((snapshot.fills.filter
    (fun fill => fill.orderId = orderId ∧ fill.economicsAppliedAt ≠ none)).map (·.quantity)).sum

/-- `prior_fills_for_order`: how many fills of the order were already applied. -/
def priorFillsForOrder (snapshot : DeploymentSnapshot) (orderId : Uuid) : Nat :=
  (snapshot.fills.filter
    (fun fill => fill.orderId = orderId ∧ fill.economicsAppliedAt ≠ none)).length

/-- `_replace_position`: replace one product book inside a multi-book tuple. -/
def replacePosition (positions : List Position) (position : Position) (productId : String) :
    List Position :=
  positions.filter (fun item => orBlank item.productId productId ≠ productId) ++ [position]

/-- `_upsert_fill`: the row of the same venue fill replaced, else appended. -/
def upsertFill (fills : List Fill) (fill : Fill) : List Fill :=
  match fills with
  | [] => [fill]
  | item :: rest =>
    if item.venueFillId = fill.venueFillId ∧ item.deploymentId = fill.deploymentId then
      fill :: rest
    else
      item :: upsertFill rest fill

/-- `entry_bar_bucket`: the start of the bar that contains `fillTime`. -/
def entryBarBucket (fillTime : Time) (timeframe : String) : Result Time := do
  let interval ← parseCandleInterval timeframe
  let instant := fillTime / MarketData.minuteLength * MarketData.minuteLength
  return interval.alignClosedEnd (instant + interval.duration) - interval.duration

/-! ## Entry, scale-in, exit -/

/-- The status of a book whose fill could not be projected: a stopped book stays
stopped, any other pauses. -/
def faultStatus (deployment : Deployment) : DeploymentStatus :=
  if deployment.status = .stopped then .stopped else .paused

def entryFault (snapshot : DeploymentSnapshot) (fill : Fill) (cash : Decimal) (detail : String)
    (now : Time) : DeploymentSnapshot :=
  { deployment := withRuntime snapshot.deployment now
      { cash := some cash
        status := some (faultStatus snapshot.deployment)
        mismatchDetail := some detail
        phase := some .flat
        clearPendingLevels := true }
    position := none
    orders := snapshot.orders
    fills := upsertFill snapshot.fills fill
    intents := snapshot.intents
    positions := []
    instrumentRuntimes := snapshot.instrumentRuntimes }

/-- `_project_entry`: open a long from a buy fill or a short from a sell fill. -/
def projectEntry (snapshot : DeploymentSnapshot) (fill : Fill) (order : Order) (now : Time)
    (timeframe : Option String) : Result DeploymentSnapshot :=
  let deployment := snapshot.deployment
  let side : PositionSide := if order.side = .buy then .long else .short
  let cash := cashAfterFill deployment.cash fill order.side
  let productId := resolvedProductId order.productId deployment
  match deployment.pendingStopPrice with
  | none => .ok (entryFault snapshot fill cash "Entry fill is missing its stored stop price." now)
  | some stop =>
    match orText deployment.timeframe timeframe with
    | none =>
      .ok (entryFault snapshot fill cash
        "Entry fill is missing a deployment timeframe for bar bucketing." now)
    | some barTimeframe => do
      let enteredBar ← entryBarBucket fill.filledAt barTimeframe
      let position : Position :=
        { deploymentId := deployment.id
          quantity := fill.quantity
          entryPrice := fill.price
          stopPrice := stop
          targetPrice := deployment.pendingTargetPrice
          enteredBar
          updatedAt := now
          side
          productId
          addCount := 1 }
      return {
        deployment := withRuntime deployment now
          { cash := some cash
            phase := some .open
            barsHeld := some 0
            pendingEntryBars := some 0
            clearPendingLevels := true }
        position := some position
        orders := snapshot.orders
        fills := upsertFill snapshot.fills fill
        intents := snapshot.intents
        positions := replacePosition snapshot.positions position productId
        instrumentRuntimes := snapshot.instrumentRuntimes }

/-- `_project_scale_in`: add to an existing position on the same side. -/
def projectScaleIn (snapshot : DeploymentSnapshot) (fill : Fill) (order : Order)
    (position : Position) (now : Time) : Result DeploymentSnapshot :=
  let deployment := snapshot.deployment
  let cash := cashAfterFill deployment.cash fill order.side
  let quantity := position.quantity + fill.quantity
  if quantity = 0 then .error .divisionByZero
  else
    let entryPrice :=
      (position.entryPrice * position.quantity + fill.price * fill.quantity) / quantity
    let prior := priorFillsForOrder snapshot order.id
    let addCount :=
      if prior = 0 ∧ order.pyramidAdd then position.addCount + 1 else position.addCount
    let updatedPosition := { position with quantity, entryPrice, updatedAt := now, addCount }
    let productId := resolvedProductId updatedPosition.productId deployment
    .ok {
      deployment := withRuntime deployment now
        { cash := some cash
          phase := some (if deployment.phase = .flat then .open else deployment.phase) }
      position := some updatedPosition
      orders := snapshot.orders
      fills := upsertFill snapshot.fills fill
      intents := snapshot.intents
      positions := replacePosition snapshot.positions updatedPosition productId
      instrumentRuntimes := snapshot.instrumentRuntimes }

def overClosingFillDetail : String :=
  "Exit fill exceeds the open position; the residual inventory is unmanaged."

/-- `_project_exit`: reduce or flatten the open position after a covering fill. -/
def projectExit (snapshot : DeploymentSnapshot) (fill : Fill) (order : Order)
    (position : Position) (cooldownBars : Int) (now : Time) : DeploymentSnapshot :=
  let deployment := snapshot.deployment
  let cash := cashAfterFill deployment.cash fill order.side
  let productId := resolvedProductId position.productId deployment
  if fill.quantity < position.quantity then
    let remaining :=
      { position with quantity := position.quantity - fill.quantity, updatedAt := now }
    { deployment := withRuntime deployment now { cash := some cash }
      position := some remaining
      orders := snapshot.orders
      fills := upsertFill snapshot.fills fill
      intents := snapshot.intents
      positions := replacePosition snapshot.positions remaining productId
      instrumentRuntimes := snapshot.instrumentRuntimes }
  else
    let flattened := withRuntime deployment now
      { cash := some cash
        phase := some .flat
        barsHeld := some 0
        pendingEntryBars := some 0
        cooldownBarsRemaining := some (max cooldownBars 0)
        clearPendingLevels := true }
    let updated :=
      if position.quantity < fill.quantity then
        withRuntime flattened now
          { status := some (faultStatus deployment), mismatchDetail := some overClosingFillDetail }
      else flattened
    { deployment := updated
      position := none
      orders := snapshot.orders
      fills := upsertFill snapshot.fills fill
      intents := snapshot.intents
      positions := snapshot.positions.filter
        (fun item => resolvedProductId item.productId deployment ≠ productId)
      instrumentRuntimes := snapshot.instrumentRuntimes }

/-! ## The projection -/

/-- A fill that adds to the position's own side. -/
def scalingIn (position : Position) (side : OrderSide) : Bool :=
  (position.side = .long && side = .buy) || (position.side = .short && side = .sell)

def stampFill (fill : Fill) (now : Time) : Fill :=
  { fill with economicsAppliedAt := fill.economicsAppliedAt.or (some now) }

/-- `_project_inventory`: project one already-focused inventory change. -/
def projectInventory (snapshot : DeploymentSnapshot) (fill : Fill) (order : Order)
    (cooldownBars : Int) (timeframe : Option String) (now : Time) :
    Result (DeploymentSnapshot × Fill) :=
  let stamped := stampFill fill now
  match snapshot.position with
  | none => do
    let projected ← projectEntry snapshot stamped order now timeframe
    return (projected, stamped)
  | some position =>
    if scalingIn position order.side then do
      let projected ← projectScaleIn snapshot stamped order position now
      return (projected, stamped)
    else
      .ok (projectExit snapshot stamped order position cooldownBars now, stamped)

/-- The runtimes of a projected snapshot: none for a single book, else the
siblings with the filled product's row last. -/
def projectedRuntimes (snapshot : DeploymentSnapshot) (deployment : Deployment)
    (productId : String) : List InstrumentRuntime :=
  if snapshot.instrumentRuntimes = [] then []
  else
    snapshot.instrumentRuntimes.filter (fun item => item.productId ≠ productId) ++
      [runtimeFromDeployment deployment productId]

/-- The repair when it applies, else the focused projection of the product's book. -/
def routeFill (snapshot : DeploymentSnapshot) (fill : Fill) (order : Order) (cooldownBars : Int)
    (timeframe : Option String) (now : Time) : Result (DeploymentSnapshot × Fill) := do
  let repaired ← projectExcessReduction snapshot fill order now
  match repaired with
  | some pair => .ok pair
  | none =>
    let productId := resolvedProductId order.productId snapshot.deployment
    projectInventory (overlaySnapshot snapshot productId) fill order cooldownBars timeframe now

/-- The tail of `project_fill_economics`: arm the flat confirmation and refresh
the filled product's runtime row. -/
def finishProjection (snapshot routed : DeploymentSnapshot) (productId : String) (after : Time) :
    DeploymentSnapshot :=
  let deployment := requireFuturesFlatConfirmation routed.deployment after routed.position.isNone
  { routed with
    deployment
    instrumentRuntimes := projectedRuntimes snapshot deployment productId }

/-- `project_fill_economics`: apply one fill to its own product book. -/
def projectFillEconomics (snapshot : DeploymentSnapshot) (fill : Fill) (order : Order)
    (cooldownBars : Int) (timeframe : Option String) (now after : Time) :
    Result (DeploymentSnapshot × Fill) := do
  let routed ← routeFill snapshot fill order cooldownBars timeframe now
  let productId := resolvedProductId order.productId snapshot.deployment
  return (finishProjection snapshot routed.1 productId after, routed.2)

/-- `fill_projection_deployment`: the parent row after a projection. -/
def fillProjectionDeployment (before projected : DeploymentSnapshot) : Deployment :=
  if projected.instrumentRuntimes = [] then projected.deployment
  else
    { before.deployment with
      cash := projected.deployment.cash
      status := projected.deployment.status
      mismatchDetail := projected.deployment.mismatchDetail
      futuresDeriskPending := projected.deployment.futuresDeriskPending
      futuresFlatConfirmationAfter := projected.deployment.futuresFlatConfirmationAfter
      phase := aggregatePhase projected.instrumentRuntimes
      updatedAt := projected.deployment.updatedAt }

end Thytrader.Trading
