import Thytrader.Execution.Reconcile
import Thytrader.Execution.RuntimeOps
import Thytrader.Trading.Exposure

/-!
# One closed bar

`process_closed_bar` and `maintain_open_inventory` of `execution/loop.py`, with `_persist_runtime`
of `execution/runtime_ops.py`, as programs over the execution store.

Mirroring notes: a cycle holds its book between its awaits, so the store answers a program in order.
`look` is any read; what the stages learn elsewhere is in the stages themselves, which may differ
from cycle to cycle. The save of `_persist_runtime` is an operation of its own: where it is
accepted, the bar is evaluated to its end, and the log keeps it. Journals and audit records go to
other stores. The book is paper, so live branches are left out. `utc_now()` is read once.
-/

namespace Thytrader.Execution

open Trading Lib
open MarketData (Candle)

/-! ## Operations -/

/-- A bar that `process_closed_bar` went through to its end. -/
structure EvaluatedBar where
  productId : String
  bar : Time
  newEntries : Bool
  deriving DecidableEq

/-- The store and the bars evaluated so far, the newest first. -/
structure BarLog where
  store : MemoryStore
  evaluated : List EvaluatedBar

/-- One await of a cycle on the execution store. -/
inductive BarOp where
  | look
  | write (call : StoreCall)
  | completeBar (bar : EvaluatedBar) (row : Deployment) (expectedRevision : Option Int)
      (instrumentRuntime : Option InstrumentRuntime)

/-- What each await answers. A raise of a write is read off the store it was made on. -/
def BarOp.Answer : BarOp → Type
  | .look => MemoryStore
  | .write _ => Unit
  | .completeBar _ _ _ _ => Result Deployment

/-- A part of a cycle. -/
abbrev Bars := Program Failure BarOp BarOp.Answer

def execBar : (op : BarOp) → BarLog → op.Answer × BarLog
  | .look, log => (log.store, log)
  | .write call, log => ((), { log with store := call.run log.store })
  | .completeBar bar row expectedRevision instrumentRuntime, log =>
    match log.store.saveDeployment row expectedRevision instrumentRuntime with
    | (.ok saved, next) => (.ok saved, ⟨next, bar :: log.evaluated⟩)
    | (.error failure, next) => (.error failure, { log with store := next })

def look : Bars MemoryStore := .perform .look .done

/-! ## Reading and saving through a view -/

namespace StoreView

/-- `get_deployment`. -/
def read (view : StoreView) (id : Uuid) : Bars DeploymentSnapshot := do
  let store ← look
  let snapshot ← Program.ofExcept (store.getDeployment id)
  match view with
  | .shared => return snapshot
  | .product productId => return overlaySnapshot snapshot productId

/-- The row, the fence and the runtime that a view's `save_deployment` hands to the store. -/
def merged (view : StoreView) (store : MemoryStore) (row : Deployment) :
    Result (Deployment × Option Int × Option InstrumentRuntime) :=
  match view with
  | .shared => .ok (row, none, none)
  | .product productId => do
    let current ← store.getDeployment row.id
    return (scopedParent current row productId, some (scopedExpected row none),
      some (runtimeFromDeployment row productId))

/-- `save_deployment`. -/
def save (view : StoreView) (row : Deployment) : Bars Deployment := do
  let store ← look
  let (parent, expectedRevision, instrumentRuntime) ← Program.ofExcept (view.merged store row)
  .perform (.write (.saveDeployment parent expectedRevision instrumentRuntime)) (fun _ =>
    Program.ofExcept (store.saveDeployment parent expectedRevision instrumentRuntime).1)

/-- The `save_deployment` that ends a bar. -/
def saveEvaluated (view : StoreView) (bar : EvaluatedBar) (row : Deployment) :
    Bars Deployment := do
  let store ← look
  let (parent, expectedRevision, instrumentRuntime) ← Program.ofExcept (view.merged store row)
  .perform (.completeBar bar parent expectedRevision instrumentRuntime) Program.ofExcept

/-- `save_deployment`, then `get_deployment`. -/
def saveAndRead (view : StoreView) (row : Deployment) : Bars DeploymentSnapshot := do
  let _ ← view.save row
  view.read row.id

end StoreView

/-! ## Stages -/

/-- Stages in modules of their own: `_match_resting_orders`, `_manage_working_entry`,
`_exit_trail_and_protect`, `_apply_circuit_breakers`, `_maybe_enter`, `_persist_performance`,
`_settle_flat_book`, `_ensure_exit_protection`. -/
structure BarStages where
  matchRestingOrders : StoreView → DeploymentSnapshot → Candle → Bars DeploymentSnapshot
  manageWorkingEntry :
    StoreView → DeploymentSnapshot → List Candle → Candle → Bars DeploymentSnapshot
  exitTrailAndProtect :
    StoreView → DeploymentSnapshot → List Candle → Candle → Bars DeploymentSnapshot
  applyCircuitBreakers : StoreView → DeploymentSnapshot → Candle → Bars DeploymentSnapshot
  maybeEnter : StoreView → DeploymentSnapshot → List Candle → Candle → Bars DeploymentSnapshot
  persistPerformance : StoreView → DeploymentSnapshot → Decimal → Bars DeploymentSnapshot
  settleFlatBook : StoreView → DeploymentSnapshot → Bars DeploymentSnapshot
  ensureExitProtection : StoreView → DeploymentSnapshot → Candle → Bars DeploymentSnapshot

/-- What one call of the bar processor is given beside the book. -/
structure BarInput where
  stages : BarStages
  inhibited : DeploymentMode → Bool
  now : Time

/-! ## Managing the position -/

/-- `split_pending_entry`: a pending entry with neither a working entry nor a position. -/
def splitPendingEntry (snapshot : DeploymentSnapshot) : Bool :=
  let deployment := snapshot.deployment
  if deployment.phase ≠ .pendingEntry then false
  else if deployment.status ≠ .running ∧ deployment.status ≠ .paused then false
  else if orText deployment.mismatchDetail none ≠ none then false
  else snapshot.position.isNone && (activeEntry snapshot).isNone

def splitStateDetail (snapshot : DeploymentSnapshot) : String :=
  if snapshot.orders.any
      (fun order => order.status = .filled && !order.kind.isVenueProtection) then
    "Filled entry order has no applied fill and no position; fill economics did not commit."
  else
    "Book is pending entry with no working entry order and no position; " ++
      "entry lifecycle did not advance."

def failClosedOnSplitState (view : StoreView) (snapshot : DeploymentSnapshot) (now : Time) :
    Bars (Option DeploymentSnapshot) :=
  if splitPendingEntry snapshot = false then return none
  else do
    let paused ← view.saveAndRead
      (pausedRow snapshot.deployment (splitStateDetail snapshot) now)
    return some paused

/-- `_IN_MARKET` of the loop. -/
def holdsInventory (phase : RuntimePhase) : Bool := phase = .open || phase = .pendingExit

section

variable (input : BarInput) (view : StoreView)

/-- The held counter of `_manage_open_position`: one more bar, but not on the fill's own. -/
def countHeldBar (snapshot : DeploymentSnapshot) (position : Position) (candle : Candle) :
    Bars DeploymentSnapshot :=
  if position.enteredBar ≠ candle.startsAt then
    view.saveAndRead (withRuntime snapshot.deployment input.now
      { barsHeld := some (snapshot.deployment.barsHeld + 1) })
  else return snapshot

def manageOpenPosition (snapshot : DeploymentSnapshot) (candles : List Candle) (candle : Candle) :
    Bars DeploymentSnapshot :=
  match snapshot.position with
  | none => return snapshot
  | some position =>
    if holdsInventory snapshot.deployment.phase = false then return snapshot
    else do
      let snapshot ← countHeldBar input view snapshot position candle
      if snapshot.position.isNone then return snapshot
      else input.stages.exitTrailAndProtect view snapshot candles candle

/-- `_manage_position` past the working entry. -/
def manageWithoutEntry (snapshot : DeploymentSnapshot) (candles : List Candle) (candle : Candle) :
    Bars DeploymentSnapshot := do
  let checked ← failClosedOnSplitState view snapshot input.now
  match checked with
  | some paused => return paused
  | none => manageOpenPosition input view snapshot candles candle

def managePosition (snapshot : DeploymentSnapshot) (candles : List Candle) (candle : Candle) :
    Bars DeploymentSnapshot :=
  if (activeEntry snapshot).isNone then manageWithoutEntry input view snapshot candles candle
  else do
    let snapshot ← input.stages.manageWorkingEntry view snapshot candles candle
    if snapshot.deployment.status = .stopped then return snapshot
    else if snapshot.position.isNone ∧ snapshot.deployment.phase = .flat then return snapshot
    else manageWithoutEntry input view snapshot candles candle

end

/-! ## The bar -/

variable (input : BarInput) (view : StoreView)

def protectHeld (snapshot : DeploymentSnapshot) (candle : Candle) : Bars DeploymentSnapshot :=
  if holdsInventory snapshot.deployment.phase ∨ snapshot.position.isSome then
    input.stages.ensureExitProtection view snapshot candle
  else return snapshot

def maintainEvaluatedBar (snapshot : DeploymentSnapshot) (candle : Candle) :
    Bars DeploymentSnapshot := do
  let snapshot ← protectHeld input view snapshot candle
  let snapshot ← input.stages.persistPerformance view snapshot candle.close
  input.stages.settleFlatBook view snapshot

def coolDown (snapshot : DeploymentSnapshot) : Bars DeploymentSnapshot :=
  if 0 < snapshot.deployment.cooldownBarsRemaining ∧ snapshot.deployment.status ≠ .stopped then
    view.saveAndRead (withRuntime snapshot.deployment input.now
      { cooldownBarsRemaining := some (snapshot.deployment.cooldownBarsRemaining - 1) })
  else return snapshot

def checkBreakers (snapshot : DeploymentSnapshot) (candle : Candle) : Bars DeploymentSnapshot :=
  if snapshot.deployment.status = .running then
    input.stages.applyCircuitBreakers view snapshot candle
  else return snapshot

def enterIfAllowed (snapshot : DeploymentSnapshot) (candles : List Candle) (candle : Candle)
    (allowNewEntries : Bool) : Bars DeploymentSnapshot :=
  if allowNewEntries ∧ entriesAllowed input.inhibited snapshot.deployment ∧
      snapshot.deployment.status = .running then
    input.stages.maybeEnter view snapshot candles candle
  else return snapshot

/-- The status `_persist_runtime` writes: the operator's, but a pause of the cycle is kept. -/
def persistedStatus (cycle operator : DeploymentStatus) : DeploymentStatus :=
  if cycle = .paused ∧ operator ≠ .stopped then .paused else operator

/-- `_persist_runtime`: the bar is evaluated. -/
def persistRuntime (snapshot : DeploymentSnapshot) (bar : EvaluatedBar) :
    Bars DeploymentSnapshot := do
  let latest ← view.read snapshot.deployment.id
  let updated := withRuntime snapshot.deployment input.now
    { lastEvaluatedBar := some bar.bar
      status := some (persistedStatus snapshot.deployment.status latest.deployment.status) }
  let _ ← view.saveEvaluated bar updated
  view.read updated.id

/-- `process_closed_bar` on a bar that is not evaluated yet. -/
def evaluateBar (productId : String) (snapshot : DeploymentSnapshot) (candles : List Candle)
    (candle : Candle) (allowNewEntries : Bool) : Bars DeploymentSnapshot := do
  let snapshot ← coolDown input view snapshot
  let snapshot ← input.stages.matchRestingOrders view snapshot candle
  let snapshot ← managePosition input view snapshot candles candle
  let snapshot ← checkBreakers input view snapshot candle
  let snapshot ← enterIfAllowed input view snapshot candles candle allowNewEntries
  let snapshot ← input.stages.persistPerformance view snapshot candle.close
  let snapshot ← persistRuntime input view snapshot
    { productId, bar := candle.startsAt, newEntries := allowNewEntries }
  input.stages.settleFlatBook view snapshot

def processClosedBar (productId : String) (snapshot : DeploymentSnapshot) (candles : List Candle)
    (allowNewEntries : Bool) : Bars DeploymentSnapshot :=
  match candles.getLast? with
  | none => return snapshot
  | some candle =>
    if snapshot.deployment.status = .stopped ∧ snapshotHasResidualExposure snapshot = false then
      return snapshot
    else if snapshot.deployment.lastEvaluatedBar = some candle.startsAt then
      maintainEvaluatedBar input view snapshot candle
    else evaluateBar input view productId snapshot candles candle allowNewEntries

def maintainOpenInventory (productId : String) (snapshot : DeploymentSnapshot)
    (candles : List Candle) : Bars DeploymentSnapshot :=
  processClosedBar input view productId snapshot candles false

end Thytrader.Execution
