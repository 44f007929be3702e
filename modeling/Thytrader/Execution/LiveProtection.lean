import Thytrader.Execution.ExitGuards
import Thytrader.Execution.Reconcile
import Thytrader.Execution.Submit
import Thytrader.Trading.Geometry

/-!
# Resting live protection

`_submit_live_bracket` of `execution/live_protection.py`, with what it runs: `submit_intent`
against a live venue, `_pause_rejected` of `execution/runtime_ops.py`, and the operator's
resume of `execution/service.py`.

Mirroring notes: a cycle holds the store between its awaits, so it is one function of the
store. Its `utc_now` readings, its `uuid7` draws and the venue's answer are arguments. An audit
event is not stored here, but `_pause_rejected` renders the retry time for it, so its
`OverflowError` comes after the pause was written.
-/

namespace Thytrader.Execution

open Trading Lib
open MarketData (isFuturesProductId)

/-! ## Submitting against a live venue -/

/-- What a create call answers: a result, or the name of the error it raised. -/
abbrev VenueAnswer := Except String SubmitResult

/-- What the host draws for one cycle: the clock readings in their order, and the identities. -/
structure CycleDraws where
  checkedAt : Time
  createdAt : Time
  settledAt : Time
  pausedAt : Time
  intentId : Uuid
  orderId : Uuid
  childId : Uuid
  clientOrderId : String
  deriving DecidableEq

def settledOrder (order : Order) (settledAt : Time) : VenueAnswer → Order
  | .error name =>
    { order with status := .unknown, rejectReason := some name, updatedAt := settledAt }
  | .ok result =>
    { order with
      venueOrderId := some result.venueOrderId
      status := result.status
      filledQuantity := result.filledQuantity
      rejectReason := result.rejectReason
      attachedChildVenueOrderId := result.attachedChildVenueOrderId
      updatedAt := settledAt }

def submittedChild (intent : OrderIntent) (draws : CycleDraws) (childVenueId : String) : Order :=
  { id := draws.childId
    deploymentId := intent.deploymentId
    intentId := intent.id
    clientOrderId := String.ofList ((intent.clientOrderId ++ ":child").toList.take 128)
    side := if intent.side = .buy then .sell else .buy
    kind := .triggerBracket
    quantity := intent.quantity
    price := intent.takeProfitPrice
    stopTriggerPrice := intent.stopTriggerPrice
    takeProfitPrice := intent.takeProfitPrice
    status := .open
    createdAt := intent.createdAt
    updatedAt := draws.settledAt
    venueOrderId := some childVenueId
    productId := intent.productId
    parentOrderId := some draws.orderId }

def answeredChild : VenueAnswer → Option String
  | .error _ => none
  | .ok result => result.attachedChildVenueOrderId.filter (· ≠ "")

/-- `submit_intent` with a candle, on a live venue: the intent row, the PENDING order, the venue
call, the settled order, and an attached child. -/
def submitIntent (store : MemoryStore) (fence : Option (Uuid × String)) (intent : OrderIntent)
    (draws : CycleDraws) (answer : VenueAnswer) : Result Order × MemoryStore :=
  match store.insertLeasedIntent fence intent with
  | (.error failure, next) => (.error failure, next)
  | (.ok (), next) =>
    let order := Submission.order { intent, orderId := draws.orderId }
    let placed := (next.saveOrder order).2
    let settled := settledOrder order draws.settledAt answer
    let written := (placed.saveOrder settled).2
    match answeredChild answer with
    | none => (.ok settled, written)
    | some childVenueId => (.ok settled, (written.saveOrder (submittedChild intent draws childVenueId)).2)

/-! ## Pausing -/

/-- Why a cycle raised: a store failure, or the back-off's `OverflowError`. -/
inductive CycleFailure where
  | raised (failure : Failure)
  | overflow
  deriving DecidableEq

/-- What a cycle returns. -/
abbrev CycleResult := Except CycleFailure DeploymentSnapshot

def toCycle (called : Result DeploymentSnapshot × MemoryStore) : CycleResult × MemoryStore :=
  (called.1.mapError .raised, called.2)

def markPendingExit (store : MemoryStore) (snapshot : DeploymentSnapshot) (now : Time) :
    Result DeploymentSnapshot × MemoryStore :=
  saveAndRead store (withRuntime snapshot.deployment now { phase := some .pendingExit })

/-- `_pause_rejected`: pause once per rejection; the audit text needs the retry time. -/
def pauseRejected (store : MemoryStore) (snapshot : DeploymentSnapshot)
    (rejection : SubmitRejection) (now : Time) : CycleResult × MemoryStore :=
  if snapshot.deployment.mismatchDetail = some rejection.detail ∧
      snapshot.deployment.status ≠ .running then (.ok snapshot, store)
  else
    let (paused, next) := toCycle (pause store snapshot rejection.detail now)
    match paused, rejection.retryAt with
    | .ok _, none => (.error .overflow, next)
    | paused, _ => (paused, next)

def bracketNotRestedDetail : String := "Live bracket could not be rested on an open position."

def bracketUnconfirmedDetail : String := "Live bracket submit is unconfirmed."

def stopLimitPriceDetail : String :=
  "Stop-only protection limit price is not positive at the venue price increment."

def pauseBracketRejected (store : MemoryStore) (snapshot : DeploymentSnapshot)
    (position : Position) (now : Time) : CycleResult × MemoryStore :=
  match bracketRejection snapshot position with
  | none => toCycle (pause store snapshot bracketNotRestedDetail now)
  | some rejection => pauseRejected store snapshot rejection now

/-! ## The cycle -/

def exitOrderSide : PositionSide → OrderSide
  | .long => .sell
  | .short => .buy

def protectiveStopLimitBuffer : Decimal := 5 / 100

def protectiveStopLimitPrice (coverSide : OrderSide) (stopPrice priceIncrement : Decimal) :
    Result Decimal :=
  match coverSide with
  | .sell => snap (stopPrice * (1 - protectiveStopLimitBuffer)) (some priceIncrement) .down
  | .buy => snap (stopPrice * (1 + protectiveStopLimitBuffer)) (some priceIncrement) .up

/-- `MarketProduct`, as far as a protective submit reads it. -/
structure ProtectedProduct where
  productId : String
  priceIncrement : Decimal
  deriving DecidableEq

def protectivePrice (position : Position) (product : ProtectedProduct) : Result Decimal :=
  match position.targetPrice with
  | some target => .ok target
  | none =>
    protectiveStopLimitPrice (exitOrderSide position.side) position.stopPrice product.priceIncrement

def protectiveIntent (deploymentId : Uuid) (position : Position) (product : ProtectedProduct)
    (price : Decimal) (candleStartsAt : Time) (draws : CycleDraws) : OrderIntent :=
  { id := draws.intentId
    deploymentId
    clientOrderId := draws.clientOrderId
    purpose :=
      if position.targetPrice = none ∧ isFuturesProductId product.productId then .stop else .bracket
    side := exitOrderSide position.side
    kind := if position.targetPrice = none then .stopLimit else .triggerBracket
    quantity := position.quantity
    price := some price
    stopTriggerPrice := some position.stopPrice
    createdAt := draws.createdAt
    candleStartsAt
    productId := product.productId }

/-- The rest of the cycle once the venue's answer is stored. -/
def settleBracket (store : MemoryStore) (deploymentId : Uuid) (position : Position)
    (status : OrderStatus) (now : Time) : CycleResult × MemoryStore :=
  match store.getDeployment deploymentId with
  | .error failure => (.error (.raised failure), store)
  | .ok current =>
    match status with
    | .open => toCycle (markPendingExit store current now)
    | .unknown => toCycle (pause store current bracketUnconfirmedDetail now)
    | .pending => toCycle (pause store current bracketUnconfirmedDetail now)
    | .rejected => pauseBracketRejected store current position now
    | _ => toCycle (pause store current bracketNotRestedDetail now)

/-- What a cycle did: its result, the store after it, and the submit it sent to the venue. -/
structure CycleOutcome where
  result : CycleResult
  store : MemoryStore
  sent : Option OrderIntent

/-- The submit of `_submit_live_bracket`, past the latch. -/
def sendBracket (store : MemoryStore) (snapshot : DeploymentSnapshot) (position : Position)
    (product : ProtectedProduct) (candleStartsAt : Time) (fence : Option (Uuid × String))
    (draws : CycleDraws) (answer : VenueAnswer) : CycleOutcome :=
  match protectivePrice position product with
  | .error failure => ⟨.error (.raised failure), store, none⟩
  | .ok price =>
    if position.targetPrice = none ∧ price ≤ 0 then
      let (result, next) := toCycle (pause store snapshot stopLimitPriceDetail draws.pausedAt)
      ⟨result, next, none⟩
    else
      let intent :=
        protectiveIntent snapshot.deployment.id position product price candleStartsAt draws
      match submitIntent store fence intent draws answer with
      | (.error failure, next) => ⟨.error (.raised failure), next, none⟩
      | (.ok order, next) =>
        let (result, settled) :=
          settleBracket next snapshot.deployment.id position order.status draws.pausedAt
        ⟨result, settled, some intent⟩

/-- `rejection is not None and rejection_latched(...)`; `none` is the `OverflowError`. -/
def heldBack (snapshot : DeploymentSnapshot) (position : Position) (now : Time) : Option Bool :=
  match bracketRejection snapshot position with
  | none => some false
  | some rejection => rejectionLatched snapshot rejection now

def submitLiveBracket (store : MemoryStore) (snapshot : DeploymentSnapshot) (position : Position)
    (product : ProtectedProduct) (candleStartsAt : Time) (fence : Option (Uuid × String))
    (draws : CycleDraws) (answer : VenueAnswer) : CycleOutcome :=
  match heldBack snapshot position draws.checkedAt with
  | none => ⟨.error .overflow, store, none⟩
  | some true =>
    let (result, next) := pauseBracketRejected store snapshot position draws.pausedAt
    ⟨result, next, none⟩
  | some false => sendBracket store snapshot position product candleStartsAt fence draws answer

/-! ## The operator's resume -/

/-- `set_deployment_status(status=RUNNING)`, whether it wrote the row: `refusal` is what the
publication and the convergence policy object, if they do. -/
def resumeDeployment (store : MemoryStore) (deploymentId : Uuid) (refusal : Option Failure)
    (now : Time) : Result Bool × MemoryStore :=
  match store.getDeployment deploymentId with
  | .error failure => (.error failure, store)
  | .ok snapshot =>
    let deployment := snapshot.deployment
    if deployment.status = .stopped then
      (.error (.conflict "A stopped deployment cannot be resumed."), store)
    else if deployment.status = .running then (.ok false, store)
    else
      match refusal with
      | some failure => (.error failure, store)
      | none =>
        let resumed := withRuntime deployment now
          { status := some .running, lifecycleCommand := some .none, clearMismatch := true }
        match store.saveDeployment resumed (some deployment.revision) with
        | (.error failure, next) => (.error failure, next)
        | (.ok _, next) => (.ok true, next)

end Thytrader.Execution
