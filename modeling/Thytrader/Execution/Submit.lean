import Thytrader.Execution.Stores

/-!
# Submitting an intent

`execution/submit.py` over `InMemoryExecutionStore.save_intent`. A submission is a task that can be
suspended at each of its awaits: the per-base inventory lock, the key check, the entry gate, the
store writes, the venue call. A `World` is the shared store, the bound entry gate, every task at the
await it stands at, and the orders sent to the venue; `World.apply` runs a task to its next await or
lets another client act.

Mirroring notes: holding a lock is a property of a task's stage, and a task whose lock is taken does
not move. Inside `async with gate.hold()` there is no await, so both checks and the insert are one
step. On a conflict `submit_intent` submits nothing, whether it answers with the earlier order or
raises: the task has failed.
-/

namespace Thytrader.Execution

open Trading Lib MarketData

/-- An inventory lock: `(mode, base)`. -/
abbrev BaseLock := DeploymentMode × String

/-- The await a submission stands at. -/
inductive Stage where
  | called
  | awaitingBase (lock : BaseLock)
  | checking (held : Option BaseLock)
  | awaitingGate (held : Option BaseLock) (mode : DeploymentMode)
  | inserting (held : Option BaseLock)
  | saved
  | recorded
  | submitted
  | failed (failure : Failure)
  deriving DecidableEq

namespace Stage

/-- The inventory lock the task holds while it stands here. -/
def held : Stage → Option BaseLock
  | .checking held => held
  | .awaitingGate held _ => held
  | .inserting held => held
  | _ => none

def passedCheck : Stage → Bool
  | .awaitingGate _ _ => true
  | .inserting _ => true
  | _ => false

/-- `save_intent` has returned normally. -/
def hasSaved : Stage → Bool
  | .saved => true
  | .recorded => true
  | .submitted => true
  | _ => false

end Stage

/-- One `submit_intent` call: the intent it built, the lease fence around its
`save_intent`, and the fields of its order row. -/
structure Submission where
  intent : OrderIntent
  fence : Option (Uuid × String) := none
  orderId : Uuid
  pyramidAdd : Bool := false
  stage : Stage := .called

/-- The PENDING order row recorded before the venue call. -/
def Submission.order (task : Submission) : Order :=
  { id := task.orderId
    deploymentId := task.intent.deploymentId
    intentId := task.intent.id
    clientOrderId := task.intent.clientOrderId
    side := task.intent.side
    kind := task.intent.kind
    quantity := task.intent.quantity
    status := .pending
    createdAt := task.intent.createdAt
    updatedAt := task.intent.createdAt
    price := task.intent.price
    stopTriggerPrice := task.intent.stopTriggerPrice
    takeProfitPrice := task.intent.takeProfitPrice
    productId := task.intent.productId
    pyramidAdd := task.pyramidAdd }

/-- The shared store, the entry gate (`none` when no gate is bound), the tasks,
and the orders the venue received. -/
structure World where
  store : MemoryStore
  gate : Option (DeploymentMode → Bool)
  tasks : List Submission
  venue : List OrderIntent

/-- `ExecutionConflictError("idempotency_key already used")`. -/
def keyConflict : Failure := .conflict "idempotency_key already used"

/-- `entry_inhibited_detail(mode, action="entry")`. -/
def entryInhibited (mode : DeploymentMode) : Failure :=
  let name := match mode with
    | .paper => "paper"
    | .live => "live"
  .conflict ("ENTRY_INHIBITED: New " ++ name ++ " entries are refused until an explicit " ++
    "fleet rearm. Disarm does not flatten, cancel, or pause residual positions.")

def baseLockFor (store : MemoryStore) (intent : OrderIntent) : Option BaseLock :=
  match store.deployments.get? intent.deploymentId with
  | none => none
  | some deployment =>
    let productId := resolvedProductId intent.productId deployment
    if intent.purpose = .entry ∧ deployment.mode = .live ∧ isSpotProductId productId then
      match baseCurrency productId with
      | .ok base => some (deployment.mode, base)
      | .error _ => none
    else none

/-- The key check of `_insert_intent`. -/
def keyUsed (store : MemoryStore) (intent : OrderIntent) : Bool :=
  match intent.idempotencyKey with
  | none => false
  | some key => (store.getIntentByIdempotencyKey key).isSome

/-- `_insert_leased_intent` as the last step of `save_intent`. -/
def insertStep (store : MemoryStore) (task : Submission) : Stage × MemoryStore :=
  match store.insertLeasedIntent task.fence task.intent with
  | (.ok (), next) => (.saved, next)
  | (.error failure, next) => (.failed failure, next)

/-- Run one task to its next await: its new stage, the next store, and whether
an order went to the venue. -/
def advance (world : World) (task : Submission) : Stage × MemoryStore × Bool :=
  match task.stage with
  | .called =>
    match baseLockFor world.store task.intent with
    | some lock => (.awaitingBase lock, world.store, false)
    | none => (.checking none, world.store, false)
  | .awaitingBase lock =>
    if world.tasks.any (fun other => other.stage.held = some lock) then
      (.awaitingBase lock, world.store, false)
    else (.checking (some lock), world.store, false)
  | .checking held =>
    if keyUsed world.store task.intent then (.failed keyConflict, world.store, false)
    else if task.intent.purpose = .entry ∧ world.gate.isSome then
      match world.store.deployments.get? task.intent.deploymentId with
      | none => (.failed (.storeError "Entry deployment was not found."), world.store, false)
      | some deployment => (.awaitingGate held deployment.mode, world.store, false)
    else (.inserting held, world.store, false)
  | .awaitingGate _ mode =>
    if world.gate.any (fun inhibited => inhibited mode) then
      (.failed (entryInhibited mode), world.store, false)
    else
      let (stage, next) := insertStep world.store task
      (stage, next, false)
  | .inserting _ =>
    let (stage, next) := insertStep world.store task
    (stage, next, false)
  | .saved => (.recorded, (world.store.saveOrder task.order).2, false)
  | .recorded => (.submitted, world.store, true)
  | .submitted => (.submitted, world.store, false)
  | .failed failure => (.failed failure, world.store, false)

/-- The row of a running lease of `holder` is freed; every other row stays. -/
def releasedRow (row : Deployment) (holder : String) (now : Time) : Deployment :=
  if row.workerLeaseHolder = some holder ∧ row.workerLeaseExpiresAt.any (now < ·) then
    { row with workerLeaseHolder := none, workerLeaseExpiresAt := some now }
  else row

/-- `release_worker_leases`: free every running lease of one holder. -/
def releaseWorkerLeases (store : MemoryStore) (holder : String) (now : Time) : MemoryStore :=
  { store with deployments := store.deployments.mapValues (releasedRow · holder now) }

/-- One atomic action of some client. -/
inductive Action where
  | call (intent : OrderIntent) (fence : Option (Uuid × String)) (orderId : Uuid)
      (pyramidAdd : Bool)
  | advance (index : Nat)
  | gate (inhibited : Option (DeploymentMode → Bool))
  | release (holder : String) (now : Time)
  | store (call : StoreCall)

def World.apply (world : World) : Action → World
  | .call intent fence orderId pyramidAdd =>
    { world with tasks := world.tasks ++ [{ intent, fence, orderId, pyramidAdd }] }
  | .advance index =>
    match world.tasks[index]? with
    | none => world
    | some task =>
      let (stage, store, placed) := advance world task
      { world with
        store
        tasks := world.tasks.set index { task with stage }
        venue := if placed then world.venue ++ [task.intent] else world.venue }
  | .gate inhibited => { world with gate := inhibited }
  | .release holder now => { world with store := releaseWorkerLeases world.store holder now }
  | .store call => { world with store := call.run world.store }

/-- What the clients promise: an intent carries a fresh `uuid7`, and intents
reach the store only through submissions. -/
def Action.Promised (world : World) : Action → Prop
  | .call intent _ _ _ =>
    (∀ task ∈ world.tasks, task.intent.id ≠ intent.id) ∧
      world.store.intents.get? intent.id = none
  | .store (.insertLeasedIntent _ _) => False
  | _ => True

/-- One step of an interleaving of submissions. -/
def submitStep (world : World) (action : Action) (next : World) : Prop :=
  action.Promised world ∧ next = world.apply action

/-- Submissions start over a store with at most one row per idempotency key. -/
structure World.Initial (world : World) : Prop where
  tasks : world.tasks = []
  venue : world.venue = []
  rows : ∀ i row, world.store.intents.get? i = some row → row.id = i
  keys : ∀ i j row row' key, world.store.intents.get? i = some row →
    world.store.intents.get? j = some row' → row.idempotencyKey = some key →
    row'.idempotencyKey = some key → i = j

end Thytrader.Execution
