import Thytrader.Execution.Stores
import Thytrader.Lib.Program
import Thytrader.Trading.Inventory

/-!
# Reconciling open orders

`execution/reconcile.py` and `execution/reconcile_fill_order.py`: read every
watched order from the venue, apply its unseen fills, record faults, and keep a
pause or stop that was there before. The run is a `Program` whose operations are
its awaits: one per call of the execution store, one per venue read, one per
clock or id it draws.

Mirroring notes: a venue read answers `none` when it raises `BrokerError`. The
wrapper `_ListedFills` is the plan it carries, threaded with the broker. Audit
records go to another store and are left out. Both store kinds the run uses have
`apply_fill_transaction`, so `ingest_fill` has no other path here. A deployment
save carries the place it is made from, which the store ignores.
-/

namespace Thytrader.Execution

open Trading Lib

/-! ## Operations -/

/-- Where a deployment row is saved. -/
inductive SaveSite where
  | fault
  | retain (startedStatus : DeploymentStatus)
  | clear
  deriving DecidableEq

/-- `SubmitResult`: what a venue read of one order returns. -/
structure SubmitResult where
  status : OrderStatus
  venueOrderId : String
  filledQuantity : Decimal := 0
  rejectReason : Option String := none
  attachedChildVenueOrderId : Option String := none
  deriving DecidableEq

/-- One await of the run. -/
inductive Op where
  | getDeployment (id : Uuid)
  | saveDeployment (site : SaveSite) (row : Deployment) (expectedRevision : Option Int)
      (instrumentRuntime : Option InstrumentRuntime)
  | saveOrder (order : Order)
  | applyFill (deploymentId : Uuid) (fill : Fill) (order : Order) (cooldownBars : Int)
      (timeframe : Option String)
  | getOrder (venueOrderId clientOrderId : String)
  | listFills (productId orderId : String)
  | findOrder (clientOrderId productId : String) (submittedAt : Time)
  | clock
  | freshId

/-- What each await answers. -/
def Op.Answer : Op → Type
  | .getDeployment _ => Result DeploymentSnapshot
  | .saveDeployment _ _ _ _ => Result Deployment
  | .saveOrder _ => Order
  | .applyFill _ _ _ _ _ => Result (Bool × DeploymentSnapshot)
  | .getOrder _ _ => Option SubmitResult
  | .listFills _ _ => Option (List Fill)
  | .findOrder _ _ _ => Option (Option SubmitResult)
  | .clock => Time
  | .freshId => Uuid

/-- A run over these awaits. -/
abbrev Reconcile := Program Failure Op Op.Answer

/-- The store runs a call; the venue, the clock and the id source answer anything. -/
def exec (op : Op) (store : MemoryStore) (answer : op.Answer) (next : MemoryStore) : Prop :=
  match op, answer with
  | .getDeployment id, result => result = store.getDeployment id ∧ next = store
  | .saveDeployment _ row expectedRevision instrumentRuntime, result =>
    (result, next) = store.saveDeployment row expectedRevision instrumentRuntime
  | .saveOrder order, saved => (saved, next) = store.saveOrder order
  | .applyFill deploymentId fill order cooldownBars timeframe, result =>
    ∃ now after, (result, next) =
      store.applyFillTransaction deploymentId fill order cooldownBars timeframe now after
  | .getOrder _ _, _ => next = store
  | .listFills _ _, _ => next = store
  | .findOrder _ _ _, _ => next = store
  | .clock, _ => next = store
  | .freshId, _ => next = store

def utcNow : Reconcile Time := .perform .clock .done

def uuid7 : Reconcile Uuid := .perform .freshId .done

/-! ## The store the run writes through -/

/-- The shared store, or an `InstrumentScopedStore` for one product over it. -/
inductive StoreView where
  | shared
  | product (productId : String)

namespace StoreView

def readDeployment (id : Uuid) : Reconcile DeploymentSnapshot :=
  .perform (.getDeployment id) Program.ofExcept

def getDeployment (view : StoreView) (id : Uuid) : Reconcile DeploymentSnapshot := do
  let snapshot ← readDeployment id
  match view with
  | .shared => return snapshot
  | .product productId => return overlaySnapshot snapshot productId

/-- `save_deployment`: plain on the shared store; a scoped save reads the parent
and fences the merged row by the caller's revision. -/
def saveDeployment (view : StoreView) (site : SaveSite) (row : Deployment) :
    Reconcile Deployment :=
  match view with
  | .shared => .perform (.saveDeployment site row none none) Program.ofExcept
  | .product productId => do
    let current ← readDeployment row.id
    let saved ← .perform (.saveDeployment site (scopedParent current row productId)
      (some (scopedExpected row none)) (some (runtimeFromDeployment row productId)))
      Program.ofExcept
    return row.withRevision saved.revision

def stampOrder (view : StoreView) (order : Order) : Order :=
  match view with
  | .shared => order
  | .product productId => { order with productId := orBlank order.productId productId }

def saveOrder (view : StoreView) (order : Order) : Reconcile Order :=
  .perform (.saveOrder (view.stampOrder order)) .done

/-- `ingest_fill`: apply one fill through the view's transaction. -/
def ingestFill (view : StoreView) (snapshot : DeploymentSnapshot) (fill : Fill) (order : Order)
    (cooldownBars : Int) : Reconcile DeploymentSnapshot := do
  let (_, updated) ← .perform (.applyFill snapshot.deployment.id fill (view.stampOrder order)
    cooldownBars (orText snapshot.deployment.timeframe none)) Program.ofExcept
  match view with
  | .shared => return updated
  | .product productId => return overlaySnapshot updated productId

end StoreView

/-! ## Sort keys -/

/-- `(created_at, parent_order_id is not None, id)`, compared in that order. -/
def keyBefore (left right : Time × Bool × Nat) : Prop :=
  left.1 < right.1 ∨ (left.1 = right.1 ∧
    ((left.2.1 = false ∧ right.2.1 = true) ∨ (left.2.1 = right.2.1 ∧ left.2.2 ≤ right.2.2)))

instance : DecidableRel keyBefore := fun _ _ => inferInstanceAs (Decidable (_ ∨ _))

def creationOrder (order : Order) : Time × Bool × Nat :=
  (order.createdAt, order.parentOrderId.isSome, order.id.toNat)

/-- `sorted(orders, key=creation_order)`. -/
def byCreation (orders : List Order) : List Order :=
  orders.insertionSort (fun left right => keyBefore (creationOrder left) (creationOrder right))

/-- `_execution_order`: fill time, a parent's fill first, then the venue fill id. -/
def executesBefore (left right : Fill × Order) : Prop :=
  left.1.filledAt < right.1.filledAt ∨ (left.1.filledAt = right.1.filledAt ∧
    ((left.2.parentOrderId = none ∧ right.2.parentOrderId ≠ none) ∨
      (left.2.parentOrderId.isSome = right.2.parentOrderId.isSome ∧
        left.1.venueFillId ≤ right.1.venueFillId)))

instance : DecidableRel executesBefore := fun _ _ => inferInstanceAs (Decidable (_ ∨ _))

/-! ## Replaying stored fills -/

def pendingFills (snapshot : DeploymentSnapshot) : List Fill :=
  let children := (snapshot.orders.filter (fun order => order.parentOrderId.isSome)).map (·.id)
  let key := fun fill : Fill => (fill.filledAt, decide (fill.orderId ∈ children), fill.id.toNat)
  (snapshot.fills.filter (fun fill => fill.economicsAppliedAt = none)).insertionSort
    (fun left right => keyBefore (key left) (key right))

/-- The loop of `replay_unapplied_fills`. -/
def replayFills (cooldownBars : Int) (current : DeploymentSnapshot) :
    List Fill → Reconcile DeploymentSnapshot
  | [] => return current
  | fill :: rest =>
    match current.orders.find? (fun order => order.id = fill.orderId) with
    | none => replayFills cooldownBars current rest
    | some order =>
      if order.kind = .adoption then replayFills cooldownBars current rest
      else do
        let updated ← StoreView.shared.ingestFill current fill order cooldownBars
        replayFills cooldownBars updated rest

def replayUnappliedFills (snapshot : DeploymentSnapshot) (cooldownBars : Int) :
    Reconcile DeploymentSnapshot :=
  replayFills cooldownBars snapshot (pendingFills snapshot)

/-! ## Faults -/

def recordReconcileFault (view : StoreView) (snapshot : DeploymentSnapshot) (detail : String) :
    Reconcile DeploymentSnapshot := do
  let now ← utcNow
  let faulted := withRuntime snapshot.deployment now
    { status := some (faultStatus snapshot.deployment), mismatchDetail := some detail }
  let _ ← view.saveDeployment .fault faulted
  view.getDeployment snapshot.deployment.id

/-- `_first_new_fault`: the first fault detail introduced this cycle. -/
def firstNewFault (current : Option String) (before after : Deployment) : Option String :=
  match current with
  | some detail => some detail
  | none =>
    match after.mismatchDetail with
    | none => none
    | some detail =>
      if some detail = before.mismatchDetail then none
      else if after.status = .running then none
      else some detail

def retainedStatus (started current : DeploymentStatus) (firstFault : Option String) :
    DeploymentStatus :=
  match started with
  | .stopped => .stopped
  | .paused => .paused
  | .running => if firstFault.isSome then .paused else current

/-- `_retain_reconcile_supervision`: restore a preexisting pause or stop. -/
def retainReconcileSupervision (snapshot : DeploymentSnapshot) (startedStatus : DeploymentStatus)
    (startedDetail firstFault : Option String) : Reconcile DeploymentSnapshot :=
  let deployment := snapshot.deployment
  let status := retainedStatus startedStatus deployment.status firstFault
  let detail := if firstFault.isSome then firstFault else startedDetail
  if status = deployment.status ∧ detail = deployment.mismatchDetail then return snapshot
  else if startedStatus = .running ∧ firstFault = none then return snapshot
  else do
    let now ← utcNow
    let retained := withRuntime deployment now
      { status := some status, mismatchDetail := detail, clearMismatch := detail = none }
    let _ ← StoreView.shared.saveDeployment (.retain startedStatus) retained
    StoreView.shared.getDeployment deployment.id

/-- `RECONCILE_UNCONFIRMED_PREFIX` with `: order read failed.` -/
def orderReadFailed : String := "Order reconciliation is unconfirmed: order read failed."

/-- `RECONCILE_UNCONFIRMED_PREFIX` with `: fill read failed.` -/
def fillReadFailed : String := "Order reconciliation is unconfirmed: fill read failed."

/-- `RECONCILE_UNCONFIRMED_PREFIX` with `: venue status is unknown.` -/
def venueStatusUnknown : String :=
  "Order reconciliation is unconfirmed: venue status is unknown."

/-- `FILLED_WITHOUT_REST_FILLS_DETAIL`. -/
def filledWithoutRestFills : String := "Filled order has no REST fills."

/-- `ADOPTION_EVIDENCE_INCOMPLETE_DETAIL`. -/
def adoptionEvidenceIncomplete : String :=
  "ADOPTION_EVIDENCE_INCOMPLETE: an inventory adoption lacks one applied fill " ++
    "covering its full quantity."

/-! ## The watch set -/

def fillEconomicsComplete (snapshot : DeploymentSnapshot) (order : Order) : Bool :=
  let fills := snapshot.fills.filter (fun fill => fill.orderId = order.id)
  let covered := if 0 < order.filledQuantity then order.filledQuantity else order.quantity
  fills ≠ [] ∧ (∀ fill ∈ fills, fill.economicsAppliedAt ≠ none) ∧
    covered ≤ appliedFillQuantity snapshot order.id

/-- `_needs_reconcile`: local fill coverage is still incomplete for this order. -/
def needsReconcile (order : Order) (snapshot : DeploymentSnapshot) : Bool :=
  if order.kind = .adoption ∨ order.status = .rejected then false
  else if order.status = .open ∨ order.status = .pending ∨ order.status = .unknown then true
  else if order.status = .filled ∧ appliedFillQuantity snapshot order.id < order.quantity then true
  else if order.status = .canceled then order.settledAt = none
  else if fillEconomicsComplete snapshot order then false
  else if order.status ≠ .filled then true
  else
    appliedFillQuantity snapshot order.id <
      (if 0 < order.filledQuantity then order.filledQuantity else order.quantity)

def unreadOrders (snapshot : DeploymentSnapshot) (walked : List Uuid) : Bool :=
  let known := snapshot.orders.filterMap (fun order =>
    order.venueOrderId.filter (· ≠ ""))
  snapshot.orders.any (fun order =>
    order.status = .unknown ∨ (order.id ∉ walked ∧ needsReconcile order snapshot) ∨
      order.attachedChildVenueOrderId.any (· ∉ known))

/-- `_read_fault_confirmed`: a latched read fault is contradicted by the evidence. -/
def readFaultConfirmed (snapshot : DeploymentSnapshot) (walked : Option (List Uuid)) : Bool :=
  match walked with
  | none => false
  | some ids =>
    if snapshot.deployment.mismatchDetail ≠ some orderReadFailed ∧
        snapshot.deployment.mismatchDetail ≠ some fillReadFailed then false
    else if unreadOrders snapshot ids ∨ unsettledFillEvidence snapshot then false
    else unprojectedInventoryProducts snapshot = []

/-- `_clear_confirmed_read_fault`: drop a disproved read fault, keeping the status. -/
def clearConfirmedReadFault (snapshot : DeploymentSnapshot) : Reconcile DeploymentSnapshot := do
  let now ← utcNow
  let _ ← StoreView.shared.saveDeployment .clear
    (withRuntime snapshot.deployment now { clearMismatch := true })
  StoreView.shared.getDeployment snapshot.deployment.id

/-! ## The plan of one pass -/

/-- `_Plan`: listings, parent links, and the parents whose fills are short. -/
structure Plan where
  listed : Dict String (List Fill) := Dict.empty
  products : Dict String String := Dict.empty
  parentOf : Dict String String := Dict.empty
  reported : Dict String Decimal := Dict.empty
  required : Dict String Decimal := Dict.empty
  short : Finset String := ∅

/-- `_total`. -/
def totalQuantity (fills : List Fill) : Decimal := (fills.map (·.quantity)).sum

namespace Plan

/-- `record`: a parent stays short until its listing covers its reads and its children. -/
def record (plan : Plan) (venueOrderId : String) (fills : List Fill) : Plan :=
  let listed := { plan with listed := plan.listed.set venueOrderId fills }
  let total := totalQuantity fills
  if (plan.reported.get? venueOrderId).getD 0 ≤ total ∧
      (plan.required.get? venueOrderId).getD 0 ≤ total then
    { listed with short := plan.short.erase venueOrderId }
  else if plan.required.contains venueOrderId then
    { listed with short := insert venueOrderId plan.short }
  else listed

def parentShort (plan : Plan) (venueOrderId : String) : Bool :=
  (plan.parentOf.get? venueOrderId).any (· ∈ plan.short)

def link (snapshot : DeploymentSnapshot) : Plan :=
  let byId := ordersById snapshot
  snapshot.orders.foldl (fun plan order =>
    match order.venueOrderId.filter (· ≠ "") with
    | none => plan
    | some venueOrderId =>
      let parent := (order.parentOrderId.bind byId.get?).bind
        (fun parent => parent.venueOrderId.filter (· ≠ ""))
      { plan with
        parentOf :=
          match parent with
          | none => plan.parentOf
          | some parentVenue => plan.parentOf.set venueOrderId parentVenue
        reported := plan.reported.set venueOrderId order.filledQuantity }) {}

def markShortParents (plan : Plan) (snapshot : DeploymentSnapshot) : Plan :=
  plan.parentOf.entries.foldl (fun plan entry =>
    let parentTotal :=
      match plan.listed.get? entry.2 with
      | some fills => totalQuantity fills
      | none =>
        match snapshot.orders.find? (fun order => order.venueOrderId = some entry.2) with
        | some parent => appliedFillQuantity snapshot parent.id
        | none => 0
    let childTotal := totalQuantity ((plan.listed.get? entry.1).getD [])
    let raised :=
      { plan with
        required :=
          plan.required.set entry.2 (max ((plan.required.get? entry.2).getD 0) childTotal) }
    if parentTotal < childTotal then { raised with short := insert entry.2 plan.short }
    else raised) plan

/-- `_new_fills`: unseen listed fills, without those of a short parent's children. -/
def newFills (plan : Plan) (snapshot : DeploymentSnapshot) : List (Fill × Order) :=
  let start : List String × List (Fill × Order) := (snapshot.fills.map (·.venueFillId), [])
  (snapshot.orders.foldl (fun found order =>
    let venueOrderId := order.venueOrderId.getD ""
    if plan.parentShort venueOrderId then found
    else
      ((plan.listed.get? venueOrderId).getD []).foldl (fun found fill =>
        if fill.venueFillId ∈ found.1 then found
        else (fill.venueFillId :: found.1, found.2 ++ [(fill, order)])) found) start).2

end Plan

/-- A run's broker: whether it is on paper, whether it looks up client order ids, and the plan when
its listings are reused. -/
structure ReadBroker where
  paper : Bool
  lookup : Bool
  plan : Option Plan := none

namespace ReadBroker

/-- `get_order`: a read reporting more executed than the listing shows re-lists it. -/
def getOrder (broker : ReadBroker) (venueOrderId clientOrderId : String) :
    Reconcile (Option SubmitResult × ReadBroker) := do
  let answer ← .perform (.getOrder venueOrderId clientOrderId) .done
  match answer, broker.plan with
  | none, _ => return (none, broker)
  | some result, none => return (some result, broker)
  | some result, some plan =>
    let linked :=
      match result.attachedChildVenueOrderId.filter (· ≠ "") with
      | none => plan
      | some child => { plan with parentOf := plan.parentOf.set child venueOrderId }
    let reported :=
      { linked with
        reported := linked.reported.set venueOrderId
          (max ((linked.reported.get? venueOrderId).getD 0) result.filledQuantity) }
    match reported.listed.get? venueOrderId, reported.products.get? venueOrderId with
    | some listing, some product =>
      if totalQuantity listing < result.filledQuantity then do
        let fills ← .perform (.listFills product venueOrderId) .done
        match fills with
        | some fills =>
          return (some result, { broker with plan := some (reported.record venueOrderId fills) })
        | none =>
          let dropped :=
            { reported with
              listed := reported.listed.erase venueOrderId
              short := insert venueOrderId reported.short }
          return (some result, { broker with plan := some dropped })
      else return (some result, { broker with plan := some reported })
    | _, _ => return (some result, { broker with plan := some reported })

/-- `list_fills`: reuse this pass's listing; a short parent's child reads as failed. -/
def listFills (broker : ReadBroker) (productId orderId : String) :
    Reconcile (Option (List Fill) × ReadBroker) :=
  match broker.plan with
  | none => do
    let fills ← .perform (.listFills productId orderId) .done
    return (fills, broker)
  | some plan =>
    if plan.parentShort orderId then return (none, broker)
    else
      match plan.listed.get? orderId with
      | some fills => return (some fills, broker)
      | none => do
        let fills ← .perform (.listFills productId orderId) .done
        match fills with
        | none => return (none, broker)
        | some fills =>
          let recorded := { plan with products := plan.products.set orderId productId }
          return (some fills, { broker with plan := some (recorded.record orderId fills) })

end ReadBroker

/-- `order.product_id or product_id or snapshot.deployment.product_id`. -/
def orderProduct (order : Order) (productId : Option String) (deployment : Deployment) : String :=
  orBlank order.productId (orBlank (productId.getD "") deployment.productId)

/-- The listing loop of `_list_watched`. -/
def listWatchedFrom (snapshot : DeploymentSnapshot) (productId : Option String) (plan : Plan) :
    List Order → Reconcile Plan
  | [] => return plan
  | order :: rest =>
    match order.venueOrderId.filter (· ≠ "") with
    | none => listWatchedFrom snapshot productId plan rest
    | some venueOrderId =>
      if order.kind = .adoption ∨ needsReconcile order snapshot = false ∨
          plan.parentShort venueOrderId then
        listWatchedFrom snapshot productId plan rest
      else do
        let product := orderProduct order productId snapshot.deployment
        let listing := { plan with products := plan.products.set venueOrderId product }
        let fills ← .perform (.listFills product venueOrderId) .done
        match fills with
        | none =>
          listWatchedFrom snapshot productId
            { listing with short := insert venueOrderId listing.short } rest
        | some fills =>
          listWatchedFrom snapshot productId (listing.record venueOrderId fills) rest

def listWatched (snapshot : DeploymentSnapshot) (productId : Option String) : Reconcile Plan :=
  listWatchedFrom snapshot productId (Plan.link snapshot) (byCreation snapshot.orders)

def localFill (id : Uuid) (order : Order) (remote : Fill) : Fill :=
  { id
    deploymentId := order.deploymentId
    orderId := order.id
    venueFillId := remote.venueFillId
    price := remote.price
    quantity := remote.quantity
    fee := remote.fee
    filledAt := remote.filledAt
    venueOrderId := remote.venueOrderId }

/-- The apply loop of `apply_new_fills_in_execution_order`. -/
def applyNewFills (deploymentId : Uuid) (productId : Option String) (cooldownBars : Int)
    (current : DeploymentSnapshot) : List (Fill × Order) → Reconcile DeploymentSnapshot
  | [] => return current
  | (remote, order) :: rest => do
    let latest := (current.orders.find? (fun item => item.id = order.id)).getD order
    let product := orderProduct latest productId current.deployment
    let _ ← utcNow
    let id ← uuid7
    let _ ← (StoreView.product product).ingestFill (overlaySnapshot current product)
      (localFill id latest remote) latest cooldownBars
    let refreshed ← StoreView.shared.getDeployment deploymentId
    applyNewFills deploymentId productId cooldownBars refreshed rest

/-- `apply_new_fills_in_execution_order`: the refreshed book, the broker the walk
reads through, and the orders whose fills were applied. -/
def applyNewFillsInExecutionOrder (snapshot : DeploymentSnapshot) (broker : ReadBroker)
    (productId : Option String) (cooldownBars : Int) :
    Reconcile (DeploymentSnapshot × ReadBroker × List Uuid) :=
  if broker.paper then return (snapshot, broker, [])
  else do
    let listed ← listWatched snapshot productId
    let plan := listed.markShortParents snapshot
    let new := plan.newFills snapshot
    let applied := (new.map (fun item => item.2.id)).dedup
    -- one order's fills already apply in its own order
    let (new, applied) := if applied.length < 2 then ([], []) else (new, applied)
    let current ← applyNewFills snapshot.deployment.id productId cooldownBars snapshot
      (new.insertionSort executesBefore)
    return (current, { broker with plan := some plan }, applied)

/-! ## One order -/

/-- What a walk carries from order to order. -/
structure Walk where
  snapshot : DeploymentSnapshot
  broker : ReadBroker
  known : List String

def adoptionEvidenceComplete (snapshot : DeploymentSnapshot) (order : Order) : Bool :=
  let fills := snapshot.fills.filter (fun fill => fill.orderId = order.id)
  order.kind = .adoption ∧ order.status = .filled ∧ order.venueOrderId = none ∧ fills ≠ [] ∧
    (∀ fill ∈ fills, fill.economicsAppliedAt ≠ none) ∧ totalQuantity fills = order.quantity ∧
    order.quantity = order.filledQuantity

/-- `_terminal`: canceled at the venue, or filled for its full quantity. -/
def terminal (order : Order) : Bool :=
  order.status = .canceled ∨ (order.status = .filled ∧ order.quantity ≤ order.filledQuantity)

def markReadFailed (view : StoreView) (order : Order) : Reconcile Order := do
  let now ← utcNow
  view.saveOrder
    { order with
      status := .unknown
      rejectReason :=
        if terminal order ∨ order.rejectReason = some terminalReadUnconfirmedReason then
          some terminalReadUnconfirmedReason
        else order.rejectReason
      venueObservedAt := none
      updatedAt := now }

def pauseUnconfirmedSubmit (view : StoreView) (snapshot : DeploymentSnapshot) (order : Order) :
    Reconcile DeploymentSnapshot := do
  let detail := "Order submit is unconfirmed: no Coinbase order with client_order_id " ++
    order.clientOrderId ++ " was found; verify on Coinbase before resuming."
  let now ← utcNow
  let paused := withRuntime snapshot.deployment now
    { status := some (faultStatus snapshot.deployment), mismatchDetail := some detail }
  let _ ← view.saveDeployment .fault paused
  view.getDeployment order.deploymentId

/-- The loop of `_ingest_fills`: apply the venue fills not yet known. -/
def ingestFills (view : StoreView) (order : Order) (cooldownBars : Int)
    (current : DeploymentSnapshot) (known : List String) :
    List Fill → Reconcile (DeploymentSnapshot × List String)
  | [] => return (current, known)
  | remote :: rest =>
    if remote.venueFillId ∈ known then ingestFills view order cooldownBars current known rest
    else do
      let _ ← utcNow
      let id ← uuid7
      let updated ← view.ingestFill current (localFill id order remote) order cooldownBars
      ingestFills view order cooldownBars updated (remote.venueFillId :: known) rest

/-- `CANCELED_SETTLE_DELAY`: 15 minutes. -/
def canceledSettleDelay : Duration := 15 * 60 * 1000000

def settleCanceled (view : StoreView) (current : DeploymentSnapshot) (order : Order) :
    Reconcile DeploymentSnapshot :=
  let now := order.updatedAt
  if order.status ≠ .canceled ∨ order.settledAt ≠ none then return current
  else
    match order.canceledAt with
    | none => return current
    | some canceledAt =>
      if now - canceledAt < canceledSettleDelay then return current
      else do
        let fresh ← view.getDeployment current.deployment.id
        match fresh.orders.find? (fun item => item.id = order.id) with
        | none => return fresh
        | some stored =>
          match stored.canceledAt with
          | none => return fresh
          | some storedCancel =>
            if stored.status ≠ .canceled ∨ now - storedCancel < canceledSettleDelay ∨
                appliedFillQuantity fresh order.id <
                  max stored.filledQuantity order.filledQuantity then return fresh
            else do
              let _ ← view.saveOrder { stored with settledAt := some now }
              view.getDeployment current.deployment.id

/-- The venue read of one order, by id, else by client id. The outer `none` is a `BrokerError`, the
inner one an order not found. -/
def readVenueOrder (walk : Walk) (order : Order) (productId : String) :
    Reconcile (Option (Option SubmitResult) × ReadBroker) :=
  if order.venueOrderId.filter (· ≠ "") = none ∧ walk.broker.lookup then do
    let found ← .perform (.findOrder order.clientOrderId productId order.createdAt) .done
    match found with
    | none => return (none, walk.broker)
    | some recovered =>
      return (some (recovered.filter (fun result => result.venueOrderId ≠ "")), walk.broker)
  else do
    let (result, broker) ← walk.broker.getOrder (order.venueOrderId.getD "") order.clientOrderId
    return (result.map some, broker)

def cancelPendingReason : String := "cancel_pending"

def receiptTime (mode : DeploymentMode) (status : OrderStatus) : Reconcile (Option Time) :=
  if mode = .live ∧ status ≠ .unknown then do
    let now ← utcNow
    return some now
  else return none

/-- The order row a successful venue read writes. -/
def updatedOrder (order : Order) (result : SubmitResult) (venueOrderId : String)
    (observedAt : Option Time) (now : Time) : Order :=
  { order with
    venueOrderId := some venueOrderId
    status := result.status
    filledQuantity := max order.filledQuantity result.filledQuantity
    rejectReason :=
      if order.rejectReason = some cancelPendingReason ∧
          (result.status = .open ∨ result.status = .pending ∨ result.status = .unknown) then
        some cancelPendingReason
      else result.rejectReason
    venueObservedAt := observedAt.map Stamp.aware
    attachedChildVenueOrderId :=
      orText order.attachedChildVenueOrderId result.attachedChildVenueOrderId
    updatedAt := now }

/-- `_reconcile_venue_order` past its read: save the row, list the fills, apply
the unseen ones and check them against the reported quantity. -/
def applyVenueRead (view : StoreView) (walk : Walk) (order : Order) (result : SubmitResult)
    (productId : String) (cooldownBars : Int) : Reconcile Walk :=
  let venueOrderId := orBlank result.venueOrderId (order.venueOrderId.getD "")
  if venueOrderId = "" then do
    let faulted ← recordReconcileFault view walk.snapshot
      "Order submit is unconfirmed and has no venue id."
    return { walk with snapshot := faulted }
  else do
    let observedAt ← receiptTime walk.snapshot.deployment.mode result.status
    let now ← utcNow
    let updated := updatedOrder order result venueOrderId observedAt now
    let _ ← view.saveOrder updated
    let (listed, broker) ← walk.broker.listFills productId venueOrderId
    match listed with
    | none => do
      let _ ← markReadFailed view updated
      let faulted ← recordReconcileFault view walk.snapshot fillReadFailed
      return { walk with snapshot := faulted, broker }
    | some remoteFills =>
      if result.status = .filled ∧ remoteFills = [] then do
        let faulted ← recordReconcileFault view walk.snapshot filledWithoutRestFills
        return { walk with snapshot := faulted, broker }
      else do
        let (current, known) ← ingestFills view updated cooldownBars walk.snapshot walk.known
          remoteFills
        if appliedFillQuantity current updated.id < updated.filledQuantity then do
          let faulted ← recordReconcileFault view current filledWithoutRestFills
          return { snapshot := faulted, broker, known }
        else if result.status = .unknown then do
          let faulted ← recordReconcileFault view current venueStatusUnknown
          return { snapshot := faulted, broker, known }
        else do
          let settled ← settleCanceled view current updated
          return { snapshot := settled, broker, known }

def reconcileVenueOrder (view : StoreView) (walk : Walk) (order : Order) (productId : String)
    (cooldownBars : Int) (read : Bool) : Reconcile Walk :=
  if read = false ∧ needsReconcile order walk.snapshot = false then return walk
  else do
    let (answer, broker) ← readVenueOrder walk order productId
    match answer with
    | none => do
      let _ ← markReadFailed view order
      let faulted ← recordReconcileFault view walk.snapshot orderReadFailed
      return { walk with snapshot := faulted, broker }
    | some none => do
      let paused ← pauseUnconfirmedSubmit view walk.snapshot order
      return { walk with snapshot := paused, broker }
    | some (some result) =>
      applyVenueRead view { walk with broker } order result productId cooldownBars

def reconcileOneOrder (view : StoreView) (walk : Walk) (order : Order) (productId : String)
    (cooldownBars : Int) (read : Bool) : Reconcile Walk :=
  if order.kind = .adoption then
    if adoptionEvidenceComplete walk.snapshot order then return walk
    else do
      let faulted ← recordReconcileFault view walk.snapshot adoptionEvidenceIncomplete
      return { walk with snapshot := faulted }
  else if walk.broker.paper ∧ order.venueOrderId.filter (· ≠ "") ≠ none then
    if walk.snapshot.deployment.mode ≠ .paper then return walk
    else if appliedFillQuantity walk.snapshot order.id < order.filledQuantity then do
      let faulted ← recordReconcileFault view walk.snapshot filledWithoutRestFills
      return { walk with snapshot := faulted }
    else return walk
  else reconcileVenueOrder view walk order productId cooldownBars read

/-! ## The walk -/

/-- What the run remembers of the row it started from. -/
structure Started where
  status : DeploymentStatus
  detail : Option String

/-- The walk over the orders that were watched before the new fills. -/
def walkOrders (started : Started) (productId : Option String) (cooldownBars : Int)
    (applied : List Uuid) (walk : Walk) (firstFault : Option String) :
    List Order → Reconcile (Walk × Option String)
  | [] => return (walk, firstFault)
  | listed :: rest => do
    let order := (walk.snapshot.orders.find? (fun item =>
      item.id = listed.id ∧ item.id ∈ applied)).getD listed
    let before := walk.snapshot.deployment
    let product := orderProduct order productId before
    let scope ← reconcileOneOrder (.product product)
      { walk with snapshot := overlaySnapshot walk.snapshot product } order product cooldownBars
      (order.id ∈ applied)
    let refreshed ← StoreView.shared.getDeployment before.id
    let firstFault := firstNewFault firstFault before refreshed.deployment
    let retained ← retainReconcileSupervision refreshed started.status started.detail firstFault
    walkOrders started productId cooldownBars applied { scope with snapshot := retained } firstFault
      rest

def attachedChild (parent : Order) (id : Uuid) (childId : String) (productId : String)
    (createdAt updatedAt : Time) : Order :=
  { id
    deploymentId := parent.deploymentId
    intentId := parent.intentId
    clientOrderId := (parent.clientOrderId ++ ":child").take 128 |>.toString
    side := if parent.side = .buy then .sell else .buy
    kind := .triggerBracket
    quantity := parent.quantity
    price := parent.takeProfitPrice
    stopTriggerPrice := parent.stopTriggerPrice
    takeProfitPrice := parent.takeProfitPrice
    status := .unknown
    createdAt
    updatedAt
    venueOrderId := some childId
    productId
    parentOrderId := some parent.id }

/-- The loop of `_import_attached_children`. -/
def importChildren (primary : Deployment) (productId : Option String) (cooldownBars : Int)
    (current : DeploymentSnapshot) (broker : ReadBroker) (knownVenues : List String)
    (firstFault : Option String) :
    List Order → Reconcile (DeploymentSnapshot × ReadBroker × Option String)
  | [] => return (current, broker, firstFault)
  | order :: rest =>
    match order.attachedChildVenueOrderId.filter (fun childId =>
      childId ≠ "" ∧ childId ∉ knownVenues) with
    | none =>
      importChildren primary productId cooldownBars current broker knownVenues firstFault rest
    | some childId => do
      let before := current.deployment
      let _ ← utcNow
      let id ← uuid7
      let createdAt ← utcNow
      let updatedAt ← utcNow
      let child := attachedChild order id childId (orderProduct order productId primary) createdAt
        updatedAt
      let _ ← StoreView.shared.saveOrder child
      let imported ← StoreView.shared.getDeployment order.deploymentId
      let product := orderProduct child productId primary
      let scope ← reconcileOneOrder (.product product)
        { snapshot := overlaySnapshot imported product
          broker
          known := imported.fills.map (·.venueFillId) }
        child product cooldownBars false
      let refreshed ← StoreView.shared.getDeployment order.deploymentId
      importChildren primary productId cooldownBars refreshed scope.broker (childId :: knownVenues)
        (firstNewFault firstFault before refreshed.deployment) rest

def importAttachedChildren (snapshot : DeploymentSnapshot) (broker : ReadBroker)
    (productId : Option String) (cooldownBars : Int) :
    Reconcile (DeploymentSnapshot × ReadBroker) := do
  let knownVenues := snapshot.orders.filterMap (fun order => order.venueOrderId.filter (· ≠ ""))
  let (current, broker, firstFault) ← importChildren snapshot.deployment productId cooldownBars
    snapshot broker knownVenues none snapshot.orders
  let retained ← retainReconcileSupervision current snapshot.deployment.status
    snapshot.deployment.mismatchDetail firstFault
  return (retained, broker)

/-- The opening of `reconcile_open_orders`: replay stored fills and record what
they leave unsettled. -/
def replayAndFault (snapshot : DeploymentSnapshot) (cooldownBars : Int) :
    Reconcile DeploymentSnapshot := do
  let replayed ← replayUnappliedFills snapshot cooldownBars
  let settled ←
    if replayed.fills.any (fun fill => fill.economicsAppliedAt = none) then
      recordReconcileFault .shared replayed "Stored fills have unapplied economics."
    else pure replayed
  if settled.deployment.status = .running ∧ unprojectedInventoryProducts settled ≠ [] then
    recordReconcileFault .shared settled "Applied fills contain unprojected inventory."
  else return settled

def reconcileOpenOrders (snapshot : DeploymentSnapshot) (broker : ReadBroker)
    (productId : Option String) (cooldownBars : Int) : Reconcile DeploymentSnapshot := do
  let started : Started := ⟨snapshot.deployment.status, snapshot.deployment.mismatchDetail⟩
  let unread ← replayAndFault snapshot cooldownBars
  let (current, broker, applied) ←
    applyNewFillsInExecutionOrder unread broker productId cooldownBars
  let known := current.fills.map (·.venueFillId)
  let firstFault := firstNewFault none snapshot.deployment current.deployment
  let retained ← retainReconcileSupervision current started.status started.detail firstFault
  -- a paper broker cannot answer for a live order: such a walk reads nothing
  let walked :=
    if broker.paper ∧ retained.deployment.mode ≠ .paper then none
    else some (unread.orders.map (·.id))
  let (walk, firstFault) ← walkOrders started productId cooldownBars applied
    { snapshot := retained, broker, known } firstFault (byCreation unread.orders)
  let children ← StoreView.shared.getDeployment walk.snapshot.deployment.id
  let (imported, _) ← importAttachedChildren children walk.broker productId cooldownBars
  let refreshed ← StoreView.shared.getDeployment imported.deployment.id
  let firstFault := firstNewFault firstFault children.deployment refreshed.deployment
  let final ← retainReconcileSupervision refreshed started.status started.detail firstFault
  if firstFault = none then do
    let accounting ← StoreView.readDeployment final.deployment.id
    if readFaultConfirmed accounting walked then clearConfirmedReadFault final
    else return final
  else return final

end Thytrader.Execution
