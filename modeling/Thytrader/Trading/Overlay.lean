import Thytrader.Trading.Models

/-!
# Product overlays

`trading/overlay.py`: `overlay_snapshot` focuses one product's runtime,
position and orders onto the shared deployment row, so the single-book
projection can run on a multi-product book. The scoped store built on it is
modelled with the other stores.
-/

namespace Thytrader.Trading

/-- `_runtime_for`: the deployment row for a single-product book, else the overlay. -/
def runtimeFor (snapshot : DeploymentSnapshot) (productId : String) : InstrumentRuntime :=
  let deployment := snapshot.deployment
  if productId = deployment.productId ∧
      mirrorsPrimaryRuntime deployment snapshot.instrumentRuntimes then
    runtimeFromDeployment deployment productId
  else
    match snapshot.instrumentRuntimes.find? (fun item => item.productId = productId) with
    | some item => item
    | none => { productId, phase := .flat }

/-- `_ensure_runtime`: keep the focused runtime in the overlay list. -/
def ensureRuntime (snapshot : DeploymentSnapshot) (runtime : InstrumentRuntime) :
    List InstrumentRuntime :=
  snapshot.instrumentRuntimes.filter (fun item => item.productId ≠ runtime.productId) ++ [runtime]

/-- `_position_for`: the open book for one product, if any. -/
def positionFor (snapshot : DeploymentSnapshot) (productId : String) : Option Position :=
  (snapshotPositions snapshot).find?
    (fun position => resolvedProductId position.productId snapshot.deployment = productId)

def ordersFor (snapshot : DeploymentSnapshot) (productId : String) : List Order :=
  snapshot.orders.filter
    (fun order => resolvedProductId order.productId snapshot.deployment = productId)

def intentsFor (snapshot : DeploymentSnapshot) (productId : String) : List OrderIntent :=
  snapshot.intents.filter
    (fun intent => resolvedProductId intent.productId snapshot.deployment = productId)

/-- `_fills_for`: fills whose order belongs to the focused product. -/
def fillsFor (snapshot : DeploymentSnapshot) (productId : String) : List Fill :=
  let orderIds := (ordersFor snapshot productId).map (·.id)
  snapshot.fills.filter (fun fill => fill.orderId ∈ orderIds)

/-- The deployment row seen through one product's runtime. -/
def overlayDeployment (deployment : Deployment) (runtime : InstrumentRuntime) : Deployment :=
  { deployment with
    phase := runtime.phase
    lastEvaluatedBar := runtime.lastEvaluatedBar
    lastSignal := runtime.lastSignal
    pendingEntryBars := runtime.pendingEntryBars
    barsHeld := runtime.barsHeld
    cooldownBarsRemaining := runtime.cooldownBarsRemaining
    pendingStopPrice := runtime.pendingStopPrice
    pendingTargetPrice := runtime.pendingTargetPrice }

def overlaySnapshot (snapshot : DeploymentSnapshot) (productId : String) : DeploymentSnapshot :=
  let runtime := runtimeFor snapshot productId
  { deployment := overlayDeployment snapshot.deployment runtime
    position := positionFor snapshot productId
    orders := ordersFor snapshot productId
    fills := fillsFor snapshot productId
    intents := intentsFor snapshot productId
    positions := snapshotPositions snapshot
    instrumentRuntimes := ensureRuntime snapshot runtime
    accountingComplete := false }

/-! ## What an overlay keeps -/

section

variable (snapshot : DeploymentSnapshot) (productId : String)

@[simp] theorem overlaySnapshot_position :
    (overlaySnapshot snapshot productId).position = positionFor snapshot productId := rfl

@[simp] theorem overlaySnapshot_positions :
    (overlaySnapshot snapshot productId).positions = snapshotPositions snapshot := rfl

end

theorem positionFor_resolved {snapshot : DeploymentSnapshot} {productId : String}
    {position : Position} (h : positionFor snapshot productId = some position) :
    resolvedProductId position.productId snapshot.deployment = productId := by
  simpa using List.find?_some h

end Thytrader.Trading
