import Thytrader.Trading.FillCash

/-!
# Store wrappers

`execution/leases.py` and the store half of `trading/overlay.py`. A
`RevisionFencedStore` stamps its own book's last known revision on every
deployment write and refreshes it after its own writes. An
`InstrumentScopedStore` reads the shared parent row, merges one product's
runtime into it and saves the result fenced by the caller's revision.

Mirroring notes: a wrapper is the record of its bindings; a wrapped call returns
the result, the refreshed wrapper and the next store. The scoped save awaits
twice — a read, then a save — so its two halves are separate functions.
-/

namespace Thytrader.Execution

open Trading

/-! ## `RevisionFencedStore` -/

/-- The bindings of a `RevisionFencedStore`. -/
structure RevisionFence where
  deploymentId : Uuid
  expectedRevision : Int
  holder : String
  deriving DecidableEq

namespace RevisionFence

/-- `save_deployment`: the fence applies to the wrapper's own book only. -/
def saveDeployment (fence : RevisionFence) (store : MemoryStore) (deployment : Deployment)
    (expectedRevision : Option Int) (instrumentRuntime : Option InstrumentRuntime) :
    Result Deployment × RevisionFence × MemoryStore :=
  if deployment.id ≠ fence.deploymentId then
    let (result, next) := store.saveDeployment deployment expectedRevision instrumentRuntime
    (result, fence, next)
  else
    let expected := expectedRevision.getD fence.expectedRevision
    -- a fill may have advanced the fence; that does not authorize an older caller's row
    if deployment.revision ≠ expected then (.error revisionConflict, fence, store)
    else
      match store.saveDeployment deployment (some expected) instrumentRuntime with
      | (.ok saved, next) => (.ok saved, { fence with expectedRevision := saved.revision }, next)
      | (.error failure, next) => (.error failure, fence, next)

/-- `save_breaker_pause`: the peer's explicit fence, refreshing only the own book's. -/
def saveBreakerPause (fence : RevisionFence) (store : MemoryStore) (deploymentId : Uuid)
    (expectedRevision : Int) (detail : String) (dailyLossLatched : Bool) (now : Time) :
    Result Deployment × RevisionFence × MemoryStore :=
  match store.saveBreakerPause deploymentId expectedRevision detail dailyLossLatched now with
  | (.ok saved, next) =>
    if deploymentId = fence.deploymentId then
      (.ok saved, { fence with expectedRevision := saved.revision }, next)
    else (.ok saved, fence, next)
  | (.error failure, next) => (.error failure, fence, next)

/-- `apply_fill_transaction`: apply, then refresh the fence from the snapshot. -/
def applyFill (fence : RevisionFence) (store : MemoryStore) (call : FillCall) :
    Result (Bool × DeploymentSnapshot) × RevisionFence × MemoryStore :=
  match call.run store with
  | (.ok (applied, snapshot), next) =>
    if call.deploymentId = fence.deploymentId then
      (.ok (applied, snapshot),
        { fence with expectedRevision := snapshot.deployment.revision }, next)
    else (.ok (applied, snapshot), fence, next)
  | (.error failure, next) => (.error failure, fence, next)

/-- `apply_funding_transaction`: fenced by the own book's revision when none is given. -/
def applyFunding (fence : RevisionFence) (store : MemoryStore) (deploymentId : Uuid)
    (flows : List FundingCashFlow) (expectedRevision : Option Int) :
    Result (Nat × DeploymentSnapshot) × RevisionFence × MemoryStore :=
  let expected :=
    if deploymentId = fence.deploymentId ∧ expectedRevision = none then some fence.expectedRevision
    else expectedRevision
  match store.applyFundingTransaction deploymentId flows expected with
  | (.ok (applied, snapshot), next) =>
    if deploymentId = fence.deploymentId then
      (.ok (applied, snapshot),
        { fence with expectedRevision := snapshot.deployment.revision }, next)
    else (.ok (applied, snapshot), fence, next)
  | (.error failure, next) => (.error failure, fence, next)

/-- The lease fence `save_intent` binds around the inner insert: own book only. -/
def intentFence (fence : RevisionFence) (intent : OrderIntent) : Option (Uuid × String) :=
  if intent.deploymentId ≠ fence.deploymentId then none
  else some (fence.deploymentId, fence.holder)

theorem saveDeployment_own {fence : RevisionFence} {store : MemoryStore} {deployment : Deployment}
    {expectedRevision : Option Int} {instrumentRuntime : Option InstrumentRuntime}
    (hown : deployment.id = fence.deploymentId) :
    (fence.saveDeployment store deployment expectedRevision instrumentRuntime).2.2 = store ∨
    (fence.saveDeployment store deployment expectedRevision instrumentRuntime).2.2 =
      (store.saveDeployment deployment (some deployment.revision) instrumentRuntime).2 := by
  unfold saveDeployment
  rw [if_neg (not_not.mpr hown)]
  dsimp only
  split
  · exact Or.inl rfl
  next hrevision =>
    rw [← not_not.mp hrevision]
    split
    next saved next hrun =>
      right
      rw [hrun]
    next failure next hrun =>
      right
      rw [hrun]

variable (fence : RevisionFence) (store : MemoryStore) (deploymentId : Uuid)

theorem saveBreakerPause_store (expectedRevision : Int) (detail : String) (dailyLossLatched : Bool)
    (now : Time) :
    (fence.saveBreakerPause store deploymentId expectedRevision detail dailyLossLatched now).2.2 =
      (store.saveBreakerPause deploymentId expectedRevision detail dailyLossLatched now).2 := by
  unfold saveBreakerPause
  split
  next saved next hrun =>
    rw [hrun]
    split <;> rfl
  next failure next hrun => rw [hrun]

theorem applyFill_store (call : FillCall) :
    (fence.applyFill store call).2.2 = (call.run store).2 ∧
      (fence.applyFill store call).1 = (call.run store).1 := by
  unfold applyFill
  split
  next applied snapshot next hrun =>
    rw [hrun]
    split <;> exact ⟨rfl, rfl⟩
  next failure next hrun =>
    rw [hrun]
    exact ⟨rfl, rfl⟩

/-- A funding call is the inner call under some expected revision. -/
theorem applyFunding_store (flows : List FundingCashFlow) (expectedRevision : Option Int) :
    ∃ expected, (fence.applyFunding store deploymentId flows expectedRevision).2.2 =
      (store.applyFundingTransaction deploymentId flows expected).2 := by
  unfold applyFunding
  dsimp only
  refine ⟨if deploymentId = fence.deploymentId ∧ expectedRevision = none then
    some fence.expectedRevision else expectedRevision, ?_⟩
  split
  next applied snapshot next hrun =>
    rw [hrun]
    split <;> rfl
  next failure next hrun => rw [hrun]

end RevisionFence

/-! ## `InstrumentScopedStore` -/

def mergedRuntimes (rows : List InstrumentRuntime) (runtime : InstrumentRuntime) :
    List InstrumentRuntime :=
  let replaced := rows.map (fun item => if item.productId = runtime.productId then runtime else item)
  if rows.any (fun item => item.productId = runtime.productId) then replaced
  else replaced ++ [runtime]

/-- The shared fields a scoped save copies from the caller's row onto the parent. -/
def sharedParent (current deployment : Deployment) (phase : RuntimePhase) : Deployment :=
  { current with
    cash := deployment.cash
    status := deployment.status
    mismatchDetail := deployment.mismatchDetail
    futuresDeriskPending := deployment.futuresDeriskPending
    futuresFlatConfirmationAfter := deployment.futuresFlatConfirmationAfter
    lastSignal := deployment.lastSignal
    phase
    lifecycleCommand := deployment.lifecycleCommand
    allocatedCapital := deployment.allocatedCapital
    venueAvailableQuote := deployment.venueAvailableQuote
    reservedBuyingPower := deployment.reservedBuyingPower
    inventoryCost := deployment.inventoryCost
    performanceEquity := deployment.performanceEquity
    performanceCapitalQuote := deployment.performanceCapitalQuote
    performanceMaximumDrawdownFraction := deployment.performanceMaximumDrawdownFraction
    riskDayOpenEvidence := deployment.riskDayOpenEvidence
    initialEquity := deployment.initialEquity
    baselineEquity := deployment.baselineEquity
    utcDayOpenEquity := deployment.utcDayOpenEquity
    utcDayOpenAt := deployment.utcDayOpenAt
    highWaterMarkEquity := deployment.highWaterMarkEquity
    dailyLossLatched := deployment.dailyLossLatched
    drawdownLatched := deployment.drawdownLatched
    lastSignalEventAt := deployment.lastSignalEventAt
    lastSignalProcessedAt := deployment.lastSignalProcessedAt
    workerLeaseHolder := deployment.workerLeaseHolder
    workerLeaseExpiresAt := deployment.workerLeaseExpiresAt
    revision := deployment.revision
    updatedAt := deployment.updatedAt }

/-- The parent row `InstrumentScopedStore.save_deployment` builds from the read
snapshot and the caller's row. -/
def scopedParent (current : DeploymentSnapshot) (deployment : Deployment) (productId : String) :
    Deployment :=
  let runtime := runtimeFromDeployment deployment productId
  let parent := sharedParent current.deployment deployment
    (aggregatePhase (mergedRuntimes current.instrumentRuntimes runtime))
  -- a single-product book's row is its runtime; keep it and the mirror equal
  if productId = current.deployment.productId ∧
      mirrorsPrimaryRuntime current.deployment current.instrumentRuntimes then
    { parent with
      lastEvaluatedBar := runtime.lastEvaluatedBar
      pendingEntryBars := runtime.pendingEntryBars
      barsHeld := runtime.barsHeld
      cooldownBarsRemaining := runtime.cooldownBarsRemaining
      pendingStopPrice := runtime.pendingStopPrice
      pendingTargetPrice := runtime.pendingTargetPrice }
  else parent

theorem scopedParent_fields (current : DeploymentSnapshot) (deployment : Deployment)
    (productId : String) :
    (scopedParent current deployment productId).id = current.deployment.id ∧
    (scopedParent current deployment productId).cash = deployment.cash ∧
    (scopedParent current deployment productId).revision = deployment.revision ∧
    (scopedParent current deployment productId).status = deployment.status := by
  unfold scopedParent
  split
  · exact ⟨rfl, rfl, rfl, rfl⟩
  · exact ⟨rfl, rfl, rfl, rfl⟩

/-- The revision a scoped save is fenced by: the caller's row unless one is given. -/
def scopedExpected (deployment : Deployment) (expectedRevision : Option Int) : Int :=
  expectedRevision.getD deployment.revision

/-- The store a scoped wrapper writes to: the raw store, or a revision-fenced one. -/
inductive Inner where
  | raw
  | fenced (index : Nat)
  deriving DecidableEq

end Thytrader.Execution
