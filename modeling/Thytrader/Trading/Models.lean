import Thytrader.Basic

/-!
# Execution records

`trading/models.py`: the typed rows shared by paper and live runtimes, and the
small functions over them that every other module builds on. Field names and
defaults are the source's. The records are frozen in the source and immutable
here; `dataclasses.replace` is record update.

Mirroring notes: `venue_observed_at` is the one timestamp whose time zone the
code inspects (a naive value is not evidence), so it is a `Stamp`; every other
`datetime` is a UTC instant.
-/

namespace Thytrader.Trading

/-! ## Enumerations -/

inductive DeploymentMode where
  | paper
  | live
  deriving DecidableEq, Repr

inductive DeploymentKind where
  | strategy
  | discretionary
  deriving DecidableEq, Repr

inductive IntentOrigin where
  | human
  | agent
  | runtime
  deriving DecidableEq, Repr

/-- `DeploymentStatus`: the operator-visible lifecycle of one deployment. -/
inductive DeploymentStatus where
  | running
  | paused
  | stopped
  deriving DecidableEq, Repr

/-- `RuntimePhase`: the single-position runtime state machine. -/
inductive RuntimePhase where
  | flat
  | pendingEntry
  | open
  | pendingExit
  deriving DecidableEq, Repr

inductive OrderSide where
  | buy
  | sell
  deriving DecidableEq, Repr

inductive PositionSide where
  | long
  | short
  deriving DecidableEq, Repr

inductive OrderKind where
  | postOnlyLimit
  | marketable
  | triggerBracket
  | stopLimit
  | adoption
  deriving DecidableEq, Repr

/-- `is_venue_protection`: a TP/SL bracket or a stop-only stop-limit. -/
def OrderKind.isVenueProtection : OrderKind → Bool
  | .triggerBracket => true
  | .stopLimit => true
  | _ => false

inductive OrderStatus where
  | pending
  | open
  | filled
  | canceled
  | rejected
  | unknown
  deriving DecidableEq, Repr

def terminalReadUnconfirmedReason : String := "terminal_read_unconfirmed"

inductive IntentPurpose where
  | entry
  | takeProfit
  | stop
  | timeExit
  | bracket
  | signalExit
  | adoption
  | liquidation
  deriving DecidableEq, Repr

/-- The `StrEnum` value of a purpose, as it appears in client order ids. -/
def IntentPurpose.value : IntentPurpose → String
  | .entry => "entry"
  | .takeProfit => "take_profit"
  | .stop => "stop"
  | .timeExit => "time_exit"
  | .bracket => "bracket"
  | .signalExit => "signal_exit"
  | .adoption => "adoption"
  | .liquidation => "liquidation"

/-- `INVENTORY_OPENING_PURPOSES`. -/
def IntentPurpose.opensInventory : IntentPurpose → Bool
  | .entry => true
  | .adoption => true
  | _ => false

inductive LifecycleCommand where
  | none
  | stopNewEntries
  | flatten
  | managedShutdown
  deriving DecidableEq, Repr

/-- A timestamp whose time zone may be missing. -/
inductive Stamp where
  | aware (at_ : Time)
  | naive (at_ : Time)
  deriving DecidableEq, Repr

/-! ## Rows -/

/-- `OrderIntent`: one persisted intent recorded before any venue submission. -/
structure OrderIntent where
  id : Uuid
  deploymentId : Uuid
  clientOrderId : String
  purpose : IntentPurpose
  side : OrderSide
  kind : OrderKind
  quantity : Decimal
  createdAt : Time
  candleStartsAt : Time
  price : Option Decimal := none
  stopTriggerPrice : Option Decimal := none
  takeProfitPrice : Option Decimal := none
  status : OrderStatus := .pending
  origin : IntentOrigin := .runtime
  idempotencyKey : Option String := none
  productId : String := ""
  deriving DecidableEq

/-- `Order`: one venue-visible order derived from a persisted intent. -/
structure Order where
  id : Uuid
  deploymentId : Uuid
  intentId : Uuid
  clientOrderId : String
  side : OrderSide
  kind : OrderKind
  quantity : Decimal
  status : OrderStatus
  createdAt : Time
  updatedAt : Time
  price : Option Decimal := none
  filledQuantity : Decimal := 0
  venueOrderId : Option String := none
  rejectReason : Option String := none
  stopTriggerPrice : Option Decimal := none
  takeProfitPrice : Option Decimal := none
  productId : String := ""
  parentOrderId : Option Uuid := none
  attachedChildVenueOrderId : Option String := none
  pyramidAdd : Bool := false
  venueObservedAt : Option Stamp := none
  canceledAt : Option Time := none
  settledAt : Option Time := none
  deriving DecidableEq

/-- `Fill`: one exact fill against a known order. -/
structure Fill where
  id : Uuid
  deploymentId : Uuid
  orderId : Uuid
  venueFillId : String
  price : Decimal
  quantity : Decimal
  fee : Decimal
  filledAt : Time
  venueOrderId : Option String := none
  economicsAppliedAt : Option Time := none
  deriving DecidableEq

/-- `FundingCashFlow`: one funding hour applied to a paper futures book. -/
structure FundingCashFlow where
  deploymentId : Uuid
  productId : String
  fundingTime : Time
  signedQuantity : Decimal
  markPrice : Decimal
  rate : Decimal
  amount : Decimal
  appliedAt : Time
  deriving DecidableEq

/-- `Position`: one long or short product book held by a deployment. -/
structure Position where
  deploymentId : Uuid
  quantity : Decimal
  entryPrice : Decimal
  stopPrice : Decimal
  targetPrice : Option Decimal
  enteredBar : Time
  updatedAt : Time
  trailExtreme : Option Decimal := none
  side : PositionSide := .long
  productId : String := ""
  addCount : Int := 1
  signalExitBar : Option Time := none
  deriving DecidableEq

/-- `MidnightMark`: a closed candle price at UTC midnight for one product. -/
structure MidnightMark where
  productId : String
  closesAt : Time
  price : Decimal
  deriving DecidableEq

/-- `DailyOpeningEvidence.source`. -/
inductive OpeningSource where
  | perProductAppliedFills
  | perProductAppliedFillsAndFunding
  deriving DecidableEq, Repr

/-- `DailyOpeningEvidence`: reconstructed day equity. -/
structure DailyOpeningEvidence where
  source : OpeningSource := .perProductAppliedFills
  dayStart : Time
  equity : Decimal
  fillsFingerprint : String
  marks : List MidnightMark := []
  deriving DecidableEq

/-- `Deployment`: one paper or live runtime. -/
structure Deployment where
  id : Uuid
  strategyFingerprint : Option String
  strategyId : Option Uuid
  productId : String
  mode : DeploymentMode
  status : DeploymentStatus
  cash : Decimal
  phase : RuntimePhase
  createdAt : Time
  updatedAt : Time
  paperStartingCash : Option Decimal := none
  paperMakerFeeRate : Option Decimal := none
  paperTakerFeeRate : Option Decimal := none
  lastEvaluatedBar : Option Time := none
  lastSignal : Option String := none
  mismatchDetail : Option String := none
  futuresDeriskPending : Bool := false
  futuresFlatConfirmationAfter : Option Time := none
  pendingEntryBars : Int := 0
  barsHeld : Int := 0
  cooldownBarsRemaining : Int := 0
  pendingStopPrice : Option Decimal := none
  pendingTargetPrice : Option Decimal := none
  kind : DeploymentKind := .strategy
  timeframe : Option String := none
  revision : Int := 0
  workerLeaseHolder : Option String := none
  workerLeaseExpiresAt : Option Time := none
  lifecycleCommand : LifecycleCommand := .none
  allocatedCapital : Option Decimal := none
  venueAvailableQuote : Option Decimal := none
  reservedBuyingPower : Option Decimal := none
  inventoryCost : Option Decimal := none
  performanceEquity : Option Decimal := none
  performanceCapitalQuote : Option Decimal := none
  performanceMaximumDrawdownFraction : Option Decimal := none
  initialEquity : Option Decimal := none
  baselineEquity : Option Decimal := none
  utcDayOpenEquity : Option Decimal := none
  utcDayOpenAt : Option Time := none
  riskDayOpenEvidence : Option DailyOpeningEvidence := none
  highWaterMarkEquity : Option Decimal := none
  dailyLossLatched : Bool := false
  drawdownLatched : Bool := false
  lastSignalEventAt : Option Time := none
  lastSignalProcessedAt : Option Time := none
  strategyName : Option String := none
  portfolioId : Option Uuid := none
  deriving DecidableEq

/-- `InstrumentRuntime`: the per-product overlay of the runtime machine. -/
structure InstrumentRuntime where
  productId : String
  phase : RuntimePhase
  lastEvaluatedBar : Option Time := none
  lastSignal : Option String := none
  pendingEntryBars : Int := 0
  barsHeld : Int := 0
  cooldownBarsRemaining : Int := 0
  pendingStopPrice : Option Decimal := none
  pendingTargetPrice : Option Decimal := none
  deriving DecidableEq

/-- `DeploymentSnapshot`: one deployment with its related rows. -/
structure DeploymentSnapshot where
  deployment : Deployment
  position : Option Position := none
  orders : List Order := []
  fills : List Fill := []
  intents : List OrderIntent := []
  positions : List Position := []
  instrumentRuntimes : List InstrumentRuntime := []
  accountingComplete : Bool := true
  funding : List FundingCashFlow := []
  deriving DecidableEq

/-! ## Row functions -/

/-- `with_cancel_time`: keep the first cancel time and settlement; stamp the
cancel when it is first seen. -/
def withCancelTime (order : Order) (previous : Option Order := none) : Order :=
  let storedCancel := previous.bind (·.canceledAt)
  let canceledAt := storedCancel.or order.canceledAt
  let canceledAt :=
    if canceledAt = none ∧ order.status = .canceled then some order.updatedAt else canceledAt
  let settledAt := (previous.bind (·.settledAt)).or order.settledAt
  { order with canceledAt, settledAt }

/-- `snapshot_positions`: every product book, falling back to the focused one. -/
def snapshotPositions (snapshot : DeploymentSnapshot) : List Position :=
  if snapshot.positions = [] then snapshot.position.toList else snapshot.positions

/-- `resolved_product_id`: a blank product id means the deployment's primary product. -/
def resolvedProductId (productId : String) (deployment : Deployment) : String :=
  orBlank productId deployment.productId

def runtimeFromDeployment (deployment : Deployment) (productId : String) : InstrumentRuntime :=
  { productId
    phase := deployment.phase
    lastEvaluatedBar := deployment.lastEvaluatedBar
    lastSignal := deployment.lastSignal
    pendingEntryBars := deployment.pendingEntryBars
    barsHeld := deployment.barsHeld
    cooldownBarsRemaining := deployment.cooldownBarsRemaining
    pendingStopPrice := deployment.pendingStopPrice
    pendingTargetPrice := deployment.pendingTargetPrice }

/-- `mirrors_primary_runtime`: every overlay row is the deployment's own product. -/
def mirrorsPrimaryRuntime (deployment : Deployment) (runtimes : List InstrumentRuntime) : Bool :=
  runtimes.all (fun item => item.productId = deployment.productId)

/-- `aggregate_phase`: collapse per-product phases. -/
def aggregatePhase (runtimes : List InstrumentRuntime) : RuntimePhase :=
  if runtimes.any (fun item => item.phase = .open) then .open
  else if runtimes.any (fun item => item.phase = .pendingExit) then .pendingExit
  else if runtimes.any (fun item => item.phase = .pendingEntry) then .pendingEntry
  else .flat

/-- The keyword arguments of `with_runtime`; `none` leaves the field unchanged. -/
structure RuntimeChange where
  cash : Option Decimal := none
  phase : Option RuntimePhase := none
  lastEvaluatedBar : Option Time := none
  lastSignal : Option String := none
  mismatchDetail : Option String := none
  clearMismatch : Bool := false
  pendingEntryBars : Option Int := none
  barsHeld : Option Int := none
  cooldownBarsRemaining : Option Int := none
  pendingStopPrice : Option Decimal := none
  pendingTargetPrice : Option Decimal := none
  clearPendingLevels : Bool := false
  status : Option DeploymentStatus := none
  lifecycleCommand : Option LifecycleCommand := none
  dailyLossLatched : Option Bool := none
  drawdownLatched : Option Bool := none
  lastSignalEventAt : Option Time := none
  lastSignalProcessedAt : Option Time := none

/-- `with_runtime`: a copy with updated runtime fields. -/
def withRuntime (deployment : Deployment) (updatedAt : Time) (change : RuntimeChange) :
    Deployment :=
  { deployment with
    cash := change.cash.getD deployment.cash
    phase := change.phase.getD deployment.phase
    lastEvaluatedBar := change.lastEvaluatedBar.or deployment.lastEvaluatedBar
    lastSignal := change.lastSignal.or deployment.lastSignal
    mismatchDetail :=
      if change.clearMismatch then none else change.mismatchDetail.or deployment.mismatchDetail
    pendingEntryBars := change.pendingEntryBars.getD deployment.pendingEntryBars
    barsHeld := change.barsHeld.getD deployment.barsHeld
    cooldownBarsRemaining := change.cooldownBarsRemaining.getD deployment.cooldownBarsRemaining
    pendingStopPrice :=
      if change.clearPendingLevels then none
      else change.pendingStopPrice.or deployment.pendingStopPrice
    pendingTargetPrice :=
      if change.clearPendingLevels then none
      else change.pendingTargetPrice.or deployment.pendingTargetPrice
    status := change.status.getD deployment.status
    lifecycleCommand := change.lifecycleCommand.getD deployment.lifecycleCommand
    dailyLossLatched := change.dailyLossLatched.getD deployment.dailyLossLatched
    drawdownLatched := change.drawdownLatched.getD deployment.drawdownLatched
    lastSignalEventAt := change.lastSignalEventAt.or deployment.lastSignalEventAt
    lastSignalProcessedAt := change.lastSignalProcessedAt.or deployment.lastSignalProcessedAt
    updatedAt }

@[simp] theorem withRuntime_productId (deployment : Deployment) (updatedAt : Time)
    (change : RuntimeChange) :
    (withRuntime deployment updatedAt change).productId = deployment.productId := rfl

/-- The row under another revision number. -/
def Deployment.withRevision (deployment : Deployment) (revision : Int) : Deployment :=
  { deployment with revision }

/-! ## Signed quantities -/

/-- A fill's effect on signed inventory: `+q` for a buy, `-q` for a sell. -/
def OrderSide.signed (side : OrderSide) (quantity : Decimal) : Decimal :=
  match side with
  | .buy => quantity
  | .sell => -quantity

def Position.signed (position : Position) : Decimal :=
  match position.side with
  | .long => position.quantity
  | .short => -position.quantity

end Thytrader.Trading
