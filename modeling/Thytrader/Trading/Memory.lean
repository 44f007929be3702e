import Thytrader.Lib.Dict
import Thytrader.Trading.FillLedger
import Mathlib.Data.List.Sort

/-!
# The in-memory execution store

`trading/memory.py`: `InMemoryExecutionStore` keeps every execution record in process memory. A
method without an `await` on a lock runs in one step: a function from the store to its result and
the next store. A method that raises may have written before raising, so the next store is returned
beside the failure: `apply_fill_transaction` inserts the evidence row before it projects, and a
refused projection leaves that row behind.

Mirroring notes: the wall clock reads of a method are its arguments. The entry gate and the per-base
locks hold no records; they are modelled with the tasks that wait on them. The lease fence is a
context variable in the source (`trading/lease_fence.py`) and an argument here.
-/

namespace Thytrader.Trading

open Lib

/-- The records of `InMemoryExecutionStore`. -/
structure MemoryStore where
  deployments : Dict Uuid Deployment
  intents : Dict Uuid OrderIntent
  orders : Dict Uuid Order
  fills : Dict Uuid Fill
  positions : Dict (Uuid × String) Position
  instrumentRuntimes : Dict (Uuid × String) InstrumentRuntime
  funding : Dict (Uuid × String × Time) FundingCashFlow
  fillKeys : Finset (Uuid × String)
  appliedFillKeys : Finset (Uuid × String)

def MemoryStore.empty : MemoryStore :=
  { deployments := Dict.empty
    intents := Dict.empty
    orders := Dict.empty
    fills := Dict.empty
    positions := Dict.empty
    instrumentRuntimes := Dict.empty
    funding := Dict.empty
    fillKeys := ∅
    appliedFillKeys := ∅ }

/-- The identity of a venue fill: `(deployment_id, venue_fill_id)`. -/
def Fill.key (fill : Fill) : Uuid × String := (fill.deploymentId, fill.venueFillId)

/-- `ExecutionStoreError("Deployment was not found.")`. -/
def deploymentNotFound : Failure := .storeError "Deployment was not found."

/-- `ExecutionConflictError("Deployment revision conflict.")`. -/
def revisionConflict : Failure := .conflict "Deployment revision conflict."

namespace MemoryStore

/-! ## Reads -/

/-- `_focused_position`: the primary book, or the sole book. -/
def focusedPosition (positions : List Position) (primaryProductId : String) : Option Position :=
  match positions with
  | [] => none
  | [position] => some position
  | _ =>
    positions.find?
      (fun position => position.productId = "" ∨ position.productId = primaryProductId)

/-- The sort key of a funding hour inside one book. -/
def fundingBefore (first second : FundingCashFlow) : Prop :=
  first.productId < second.productId ∨
    (first.productId = second.productId ∧ first.fundingTime ≤ second.fundingTime)

instance : DecidableRel fundingBefore := fun _ _ => inferInstanceAs (Decidable (_ ∨ _))

def getDeployment (store : MemoryStore) (deploymentId : Uuid) : Result DeploymentSnapshot :=
  match store.deployments.get? deploymentId with
  | none => .error deploymentNotFound
  | some deployment =>
    let positions :=
      (store.positions.entries.filter (fun entry => entry.1.1 = deploymentId)).map Prod.snd
    let runtimes :=
      (store.instrumentRuntimes.entries.filter (fun entry => entry.1.1 = deploymentId)).map Prod.snd
    .ok {
      deployment
      position := focusedPosition positions deployment.productId
      orders := store.orders.values.filter (fun order => order.deploymentId = deploymentId)
      fills := store.fills.values.filter (fun fill => fill.deploymentId = deploymentId)
      intents := store.intents.values.filter (fun intent => intent.deploymentId = deploymentId)
      positions
      instrumentRuntimes := runtimes
      funding :=
        (store.funding.values.filter (fun flow => flow.deploymentId = deploymentId)).insertionSort
          fundingBefore }

def getIntentByIdempotencyKey (store : MemoryStore) (key : String) : Option OrderIntent :=
  store.intents.values.find? (fun intent => intent.idempotencyKey = some key)

/-! ## Deployment rows -/

/-- The stored row is replaced; nothing else moves. -/
def putDeployment (store : MemoryStore) (deployment : Deployment) : MemoryStore :=
  { store with deployments := store.deployments.set deployment.id deployment }

/-- `create_deployment`, past the entry gate. -/
def createDeployment (store : MemoryStore) (deployment : Deployment) : MemoryStore :=
  store.putDeployment deployment

def mirrorRuntime (store : MemoryStore) (saved : Deployment) : MemoryStore :=
  let own := (saved.id, saved.productId)
  let rows :=
    (store.instrumentRuntimes.entries.filter (fun entry => entry.1.1 = saved.id)).map Prod.snd
  if store.instrumentRuntimes.contains own && mirrorsPrimaryRuntime saved rows then
    { store with
      instrumentRuntimes :=
        store.instrumentRuntimes.set own (runtimeFromDeployment saved saved.productId) }
  else store

/-- `save_deployment`: check the revision, then write the row and its runtime. -/
def saveDeployment (store : MemoryStore) (deployment : Deployment)
    (expectedRevision : Option Int := none) (instrumentRuntime : Option InstrumentRuntime := none) :
    Result Deployment × MemoryStore :=
  if instrumentRuntime.isSome ∧ expectedRevision = none then
    (.error (.storeError "Atomic runtime saves require an expected revision."), store)
  else
    match store.deployments.get? deployment.id with
    | none => (.error deploymentNotFound, store)
    | some current =>
      if expectedRevision.isSome ∧ expectedRevision ≠ some current.revision then
        (.error revisionConflict, store)
      else
        let saved := deployment.withRevision (current.revision + 1)
        let written := store.putDeployment saved
        match instrumentRuntime with
        | some runtime =>
          (.ok saved,
            { written with
              instrumentRuntimes :=
                written.instrumentRuntimes.set (deployment.id, runtime.productId) runtime })
        | none => (.ok saved, written.mirrorRuntime saved)

def breakerPaused (current : Deployment) (detail : String) (dailyLossLatched : Bool) (now : Time) :
    Deployment :=
  { current with
    status := if current.status = .running then .paused else current.status
    mismatchDetail := if current.status = .running then some detail else current.mismatchDetail
    dailyLossLatched := current.dailyLossLatched || dailyLossLatched
    updatedAt := now
    revision := current.revision + 1 }

/-- `save_breaker_pause`: change only breaker status, detail and latch. -/
def saveBreakerPause (store : MemoryStore) (deploymentId : Uuid) (expectedRevision : Int)
    (detail : String) (dailyLossLatched : Bool) (now : Time) : Result Deployment × MemoryStore :=
  match store.deployments.get? deploymentId with
  | none => (.error deploymentNotFound, store)
  | some current =>
    if current.revision ≠ expectedRevision then (.error revisionConflict, store)
    else
      let saved := breakerPaused current detail dailyLossLatched now
      (.ok saved, { store with deployments := store.deployments.set deploymentId saved })

def leaseAvailable (current : Deployment) (holder : String) (now : Time) : Bool :=
  current.workerLeaseHolder = none || current.workerLeaseExpiresAt = none ||
    current.workerLeaseExpiresAt.any (· ≤ now) || current.workerLeaseHolder = some holder

/-- The row under a lease claimed at `now`. -/
def leasedRow (current : Deployment) (holder : String) (now : Time) (ttl : Duration) : Deployment :=
  { current with
    workerLeaseHolder := some holder
    workerLeaseExpiresAt := some (now + ttl)
    revision := current.revision + 1 }

/-- `acquire_worker_lease`: acquire or renew; `none` when another holder's lease runs. -/
def acquireWorkerLease (store : MemoryStore) (deploymentId : Uuid) (holder : String) (now : Time)
    (ttl : Duration) : Result (Option Deployment) × MemoryStore :=
  match store.deployments.get? deploymentId with
  | none => (.error deploymentNotFound, store)
  | some current =>
    if leaseAvailable current holder now then
      let saved := leasedRow current holder now ttl
      (.ok (some saved), { store with deployments := store.deployments.set deploymentId saved })
    else (.ok none, store)

/-! ## Intents, orders, positions, runtimes -/

def leaseTakenDetail : String := "Another worker holds this deployment's lease."

/-- `require_lease_holder` under the task's fence: refuse a fenced intent whose
book is now leased by a different worker. -/
def requireLeaseHolder (fence : Option (Uuid × String)) (deploymentId : Uuid)
    (currentHolder : Option String) : Result Unit :=
  match fence with
  | none => .ok ()
  | some (fencedId, expected) =>
    if fencedId = deploymentId ∧ currentHolder ≠ none ∧ currentHolder ≠ some expected then
      .error (.leaseTaken leaseTakenDetail)
    else .ok ()

/-- `_insert_leased_intent`: check the fenced lease holder and insert. -/
def insertLeasedIntent (store : MemoryStore) (fence : Option (Uuid × String))
    (intent : OrderIntent) : Result Unit × MemoryStore :=
  let currentHolder := (store.deployments.get? intent.deploymentId).bind (·.workerLeaseHolder)
  match requireLeaseHolder fence intent.deploymentId currentHolder with
  | .error failure => (.error failure, store)
  | .ok () => (.ok (), { store with intents := store.intents.set intent.id intent })

def replaceOrder (store : MemoryStore) (order : Order) : MemoryStore :=
  match store.orders.values.find? (fun item => item.clientOrderId = order.clientOrderId) with
  | none => { store with orders := store.orders.set order.id order }
  | some existing => { store with orders := (store.orders.erase existing.id).set order.id order }

/-- `restore_order`: write one captured order exactly as observed. -/
def restoreOrder (store : MemoryStore) (order : Order) : MemoryStore := store.replaceOrder order

/-- `save_order`: insert or replace, keeping the first cancel time. -/
def saveOrder (store : MemoryStore) (order : Order) : Order × MemoryStore :=
  let existing := store.orders.values.find? (fun item => item.clientOrderId = order.clientOrderId)
  let stamped := withCancelTime order existing
  (stamped, store.replaceOrder stamped)

/-- `save_fill`: insert one fill, ignoring exact venue-fill duplicates. -/
def saveFill (store : MemoryStore) (fill : Fill) : Fill × MemoryStore :=
  if fill.key ∈ store.fillKeys then
    ((store.fills.values.find? (fun item => item.key = fill.key)).getD fill, store)
  else
    (fill,
      { store with
        fills := store.fills.set fill.id fill
        fillKeys := insert fill.key store.fillKeys
        appliedFillKeys :=
          if fill.economicsAppliedAt ≠ none then insert fill.key store.appliedFillKeys
          else store.appliedFillKeys })

/-- `save_position`: replace or clear one product book, or every book when the
product is omitted. -/
def savePosition (store : MemoryStore) (position : Option Position) (deploymentId : Uuid)
    (productId : Option String := none) : MemoryStore :=
  match position, productId with
  | none, none =>
    let keys := (store.positions.entries.map Prod.fst).filter (fun key => key.1 = deploymentId)
    { store with positions := keys.foldl Dict.erase store.positions }
  | none, some product =>
    { store with positions := store.positions.erase (deploymentId, product) }
  | some book, product =>
    let keyProduct := orBlank (product.getD "") book.productId
    let stamped := if book.productId = "" then { book with productId := keyProduct } else book
    { store with positions := store.positions.set (deploymentId, stamped.productId) stamped }

def saveInstrumentRuntime (store : MemoryStore) (runtime : InstrumentRuntime)
    (deploymentId : Uuid) : MemoryStore :=
  { store with
    instrumentRuntimes := store.instrumentRuntimes.set (deploymentId, runtime.productId) runtime }

/-! ## Transactions -/

def appliedOrder (snapshot : DeploymentSnapshot) (fill stamped : Fill) (order : Order) : Order :=
  let applied := appliedFillQuantity snapshot order.id + fill.quantity
  { order with
    status := if order.quantity ≤ applied then .filled else order.status
    filledQuantity := max order.filledQuantity applied
    updatedAt := stamped.economicsAppliedAt.getD order.updatedAt }

/-- The first half of `apply_fill_transaction`: the evidence row, unless the
venue fill is already recorded. -/
def recordEvidence (store : MemoryStore) (fill : Fill) : MemoryStore :=
  if fill.key ∈ store.fillKeys then store
  else
    { store with
      fills := store.fills.set fill.id fill
      fillKeys := insert fill.key store.fillKeys }

/-- The second half of `apply_fill_transaction`: every row of one projection. -/
def writeProjection (store : MemoryStore) (deploymentId : Uuid)
    (snapshot projected : DeploymentSnapshot) (fill stamped : Fill) (order : Order) :
    MemoryStore :=
  let saved :=
    (fillProjectionDeployment snapshot projected).withRevision (snapshot.deployment.revision + 1)
  let productId := orBlank order.productId projected.deployment.productId
  let stored :=
    { store with
      fills := store.fills.set stamped.id stamped
      appliedFillKeys := insert fill.key store.appliedFillKeys }
  let ordered := (stored.saveOrder (appliedOrder snapshot fill stamped order)).2
  let written := ordered.putDeployment saved
  let runtimes := projected.instrumentRuntimes.foldl
    (fun rows runtime => rows.set (deploymentId, runtime.productId) runtime)
    written.instrumentRuntimes
  { written with
    instrumentRuntimes := runtimes
    positions :=
      match projected.position with
      | some position => written.positions.set (deploymentId, productId) position
      | none =>
        if projected.deployment.phase = .flat then
          written.positions.erase (deploymentId, productId)
        else written.positions }

/-- `apply_fill_transaction`: insert fill evidence and apply economics once. -/
def applyFillTransaction (store : MemoryStore) (deploymentId : Uuid) (fill : Fill) (order : Order)
    (cooldownBars : Int) (timeframe : Option String) (now after : Time) :
    Result (Bool × DeploymentSnapshot) × MemoryStore :=
  match store.getDeployment deploymentId with
  | .error failure => (.error failure, store)
  | .ok snapshot =>
    let existing := snapshot.fills.find? (fun item => item.key = fill.key)
    if existing.any (fun item => item.economicsAppliedAt.isSome) then (.ok (false, snapshot), store)
    else
      let recorded := store.recordEvidence fill
      match projectFillEconomics snapshot (existing.getD fill) order cooldownBars timeframe now
          after with
      | .error failure => (.error failure, recorded)
      | .ok (projected, stamped) =>
        let written := recorded.writeProjection deploymentId snapshot projected fill stamped order
        ((written.getDeployment deploymentId).map (fun snapshot => (true, snapshot)), written)

/-- The funding hours of a call that the store has not recorded. -/
def freshFunding (store : MemoryStore) (flows : List FundingCashFlow) : List FundingCashFlow :=
  flows.filter (fun flow =>
    store.funding.contains (flow.deploymentId, flow.productId, flow.fundingTime) = false)

/-- The latest `applied_at` of the fresh hours. -/
def latestAppliedAt (fresh : List FundingCashFlow) (start : Time) : Time :=
  match fresh with
  | [] => start
  | flow :: rest => rest.foldl (fun latest item => max latest item.appliedAt) flow.appliedAt

def fundedRow (current : Deployment) (fresh : List FundingCashFlow) : Deployment :=
  { current with
    cash := current.cash + (fresh.map (·.amount)).sum
    revision := current.revision + 1
    updatedAt := latestAppliedAt fresh current.updatedAt }

/-- `apply_funding_transaction`: record unseen funding hours and move their
amounts into cash in one step. -/
def applyFundingTransaction (store : MemoryStore) (deploymentId : Uuid)
    (flows : List FundingCashFlow) (expectedRevision : Option Int := none) :
    Result (Nat × DeploymentSnapshot) × MemoryStore :=
  match store.deployments.get? deploymentId with
  | none => (.error deploymentNotFound, store)
  | some current =>
    if expectedRevision.isSome ∧ expectedRevision ≠ some current.revision then
      (.error revisionConflict, store)
    else
      let fresh := store.freshFunding flows
      if fresh.any (fun flow => flow.deploymentId ≠ deploymentId) then
        (.error (.storeError "Funding belongs to a different deployment."), store)
      else
        let written :=
          if fresh = [] then store
          else
            { store with
              funding := fresh.foldl (fun rows flow =>
                rows.set (flow.deploymentId, flow.productId, flow.fundingTime) flow) store.funding
              deployments := store.deployments.set deploymentId (fundedRow current fresh) }
        ((written.getDeployment deploymentId).map (fun snapshot => (fresh.length, snapshot)),
          written)

/-! ## What each call can do

One inversion lemma per deployment write: refused with the store unchanged, or
the row replaced with its revision advanced. `SameEvidence` is the frame of a
call that records neither fills nor intents. -/

/-- The two stores hold the same fills, intents and funding. -/
structure SameEvidence (before after : MemoryStore) : Prop where
  fills : after.fills = before.fills
  fillKeys : after.fillKeys = before.fillKeys
  intents : after.intents = before.intents
  funding : after.funding = before.funding

/-- A revision check that did not refuse: no fence, or the stored revision. -/
theorem expected_of_not_conflict {expected : Option Int} {revision : Int}
    (h : ¬ (expected.isSome = true ∧ expected ≠ some revision)) :
    expected = none ∨ expected = some revision := by
  cases expected with
  | none => exact .inl rfl
  | some =>
    refine .inr ?_
    by_contra hne
    exact h ⟨rfl, hne⟩

section

variable (store : MemoryStore)

theorem replaceOrder_frame (order : Order) :
    SameEvidence store (store.replaceOrder order) ∧
      (store.replaceOrder order).deployments = store.deployments := by
  unfold replaceOrder
  split
  · exact ⟨⟨rfl, rfl, rfl, rfl⟩, rfl⟩
  · exact ⟨⟨rfl, rfl, rfl, rfl⟩, rfl⟩

theorem mirrorRuntime_frame (saved : Deployment) :
    SameEvidence store (store.mirrorRuntime saved) ∧
      (store.mirrorRuntime saved).deployments = store.deployments := by
  unfold mirrorRuntime
  dsimp only
  split
  · exact ⟨⟨rfl, rfl, rfl, rfl⟩, rfl⟩
  · exact ⟨⟨rfl, rfl, rfl, rfl⟩, rfl⟩

theorem saveDeployment_cases (deployment : Deployment) (expectedRevision : Option Int)
    (instrumentRuntime : Option InstrumentRuntime) :
    (∃ failure, store.saveDeployment deployment expectedRevision instrumentRuntime =
      (.error failure, store)) ∨
    ∃ current next, store.deployments.get? deployment.id = some current ∧
      (expectedRevision = none ∨ expectedRevision = some current.revision) ∧
      store.saveDeployment deployment expectedRevision instrumentRuntime =
        (.ok (deployment.withRevision (current.revision + 1)), next) ∧
      next.deployments = store.deployments.set deployment.id
        (deployment.withRevision (current.revision + 1)) ∧
      SameEvidence store next := by
  unfold saveDeployment
  split
  · exact .inl ⟨_, rfl⟩
  · split
    · exact .inl ⟨_, rfl⟩
    next current hcurrent =>
      split
      · exact .inl ⟨_, rfl⟩
      next hrevision =>
        have hexpected := expected_of_not_conflict hrevision
        cases instrumentRuntime with
        | some =>
          exact .inr ⟨current, _, hcurrent, hexpected, rfl, rfl, ⟨rfl, rfl, rfl, rfl⟩⟩
        | none =>
          obtain ⟨hsame, hrows⟩ := mirrorRuntime_frame
            (store.putDeployment (deployment.withRevision (current.revision + 1)))
            (deployment.withRevision (current.revision + 1))
          exact .inr ⟨current, _, hcurrent, hexpected, rfl, hrows,
            ⟨hsame.fills, hsame.fillKeys, hsame.intents, hsame.funding⟩⟩

variable (deploymentId : Uuid)

theorem saveBreakerPause_cases (expectedRevision : Int) (detail : String) (dailyLossLatched : Bool)
    (now : Time) :
    (∃ failure, store.saveBreakerPause deploymentId expectedRevision detail dailyLossLatched now =
      (.error failure, store)) ∨
    ∃ current, store.deployments.get? deploymentId = some current ∧
      current.revision = expectedRevision ∧
      store.saveBreakerPause deploymentId expectedRevision detail dailyLossLatched now =
        (.ok (breakerPaused current detail dailyLossLatched now),
          { store with
            deployments := store.deployments.set deploymentId
              (breakerPaused current detail dailyLossLatched now) }) := by
  unfold saveBreakerPause
  split
  · exact .inl ⟨_, rfl⟩
  next current hcurrent =>
    split
    · exact .inl ⟨_, rfl⟩
    next hrevision => exact .inr ⟨current, hcurrent, not_not.mp hrevision, rfl⟩

theorem acquireWorkerLease_cases (holder : String) (now : Time) (ttl : Duration) :
    (store.deployments.get? deploymentId = none ∧
      store.acquireWorkerLease deploymentId holder now ttl = (.error deploymentNotFound, store)) ∨
    ∃ current, store.deployments.get? deploymentId = some current ∧
      ((leaseAvailable current holder now = false ∧
          store.acquireWorkerLease deploymentId holder now ttl = (.ok none, store)) ∨
        (leaseAvailable current holder now = true ∧
          store.acquireWorkerLease deploymentId holder now ttl =
            (.ok (some (leasedRow current holder now ttl)),
              { store with
                deployments := store.deployments.set deploymentId
                  (leasedRow current holder now ttl) }))) := by
  unfold acquireWorkerLease
  split
  next hnone => exact .inl ⟨hnone, rfl⟩
  next current hcurrent =>
    refine .inr ⟨current, hcurrent, ?_⟩
    split
    next havailable => exact .inr ⟨havailable, rfl⟩
    next hheld => exact .inl ⟨by simpa using hheld, rfl⟩

theorem insertLeasedIntent_cases (fence : Option (Uuid × String)) (intent : OrderIntent) :
    (∃ failure, store.insertLeasedIntent fence intent = (.error failure, store)) ∨
    (requireLeaseHolder fence intent.deploymentId
        ((store.deployments.get? intent.deploymentId).bind (·.workerLeaseHolder)) = .ok () ∧
      store.insertLeasedIntent fence intent =
        (.ok (), { store with intents := store.intents.set intent.id intent })) := by
  unfold insertLeasedIntent
  dsimp only
  split
  · exact .inl ⟨_, rfl⟩
  next hok => exact .inr ⟨hok, rfl⟩

theorem applyFundingTransaction_cases (deploymentId : Uuid) (flows : List FundingCashFlow)
    (expectedRevision : Option Int) :
    (store.applyFundingTransaction deploymentId flows expectedRevision).2 = store ∨
    ∃ current, store.deployments.get? deploymentId = some current ∧
      ((expectedRevision = none ∨ expectedRevision = some current.revision) ∧
        ∀ flow ∈ store.freshFunding flows, flow.deploymentId = deploymentId) ∧
      (store.applyFundingTransaction deploymentId flows expectedRevision).2 =
        { store with
          funding := (store.freshFunding flows).foldl (fun rows flow =>
            rows.set (flow.deploymentId, flow.productId, flow.fundingTime) flow) store.funding
          deployments := store.deployments.set deploymentId
            (fundedRow current (store.freshFunding flows)) } := by
  unfold applyFundingTransaction
  split
  · exact .inl rfl
  next current hcurrent =>
    split
    · exact .inl rfl
    next hrevision =>
      dsimp only
      split
      · exact .inl rfl
      next hforeign =>
        split
        · exact .inl rfl
        · refine .inr ⟨current, hcurrent, ⟨expected_of_not_conflict hrevision, ?_⟩, rfl⟩
          intro flow hflow
          by_contra hother
          exact hforeign (List.any_eq_true.mpr ⟨flow, hflow, decide_eq_true hother⟩)

end

/-! ### Fill transactions -/

variable {deploymentId : Uuid} {store : MemoryStore}

theorem getDeployment_ok {snapshot : DeploymentSnapshot}
    (h : store.getDeployment deploymentId = .ok snapshot) :
    store.deployments.get? deploymentId = some snapshot.deployment ∧
    snapshot.fills = store.fills.values.filter (fun fill => fill.deploymentId = deploymentId) := by
  unfold getDeployment at h
  split at h
  · cases h
  next deployment hrow =>
    rw [← Except.ok.inj h]
    exact ⟨hrow, rfl⟩

theorem getDeployment_error {failure : Failure}
    (h : store.getDeployment deploymentId = .error failure) :
    store.deployments.get? deploymentId = none := by
  unfold getDeployment at h
  split at h
  next hnone => exact hnone
  · cases h

theorem getDeployment_of_row {row : Deployment}
    (h : store.deployments.get? deploymentId = some row) :
    ∃ snapshot, store.getDeployment deploymentId = .ok snapshot ∧ snapshot.deployment = row := by
  unfold getDeployment
  rw [h]
  exact ⟨_, rfl, rfl⟩

variable (store : MemoryStore)

theorem recordEvidence_rows (fill : Fill) :
    (store.recordEvidence fill).deployments = store.deployments := by
  unfold recordEvidence
  split <;> rfl

theorem recordEvidence_books (fill : Fill) :
    (store.recordEvidence fill).orders = store.orders ∧
      (store.recordEvidence fill).instrumentRuntimes = store.instrumentRuntimes ∧
      (store.recordEvidence fill).positions = store.positions ∧
      (store.recordEvidence fill).intents = store.intents ∧
      (store.recordEvidence fill).funding = store.funding := by
  unfold recordEvidence
  split <;> exact ⟨rfl, rfl, rfl, rfl, rfl⟩

theorem writeProjection_fields (deploymentId : Uuid) (snapshot projected : DeploymentSnapshot)
    (fill stamped : Fill) (order : Order) :
    let written := store.writeProjection deploymentId snapshot projected fill stamped order
    written.deployments = store.deployments.set (fillProjectionDeployment snapshot projected).id
        ((fillProjectionDeployment snapshot projected).withRevision
          (snapshot.deployment.revision + 1)) ∧
      written.fills = store.fills.set stamped.id stamped ∧
      written.fillKeys = store.fillKeys ∧ written.intents = store.intents ∧
      written.funding = store.funding := by
  obtain ⟨hsame, hrows⟩ := replaceOrder_frame
    { store with
      fills := store.fills.set stamped.id stamped
      appliedFillKeys := insert fill.key store.appliedFillKeys }
    (withCancelTime (appliedOrder snapshot fill stamped order)
      (store.orders.values.find? (fun item =>
        item.clientOrderId = (appliedOrder snapshot fill stamped order).clientOrderId)))
  refine ⟨?_, hsame.fills, hsame.fillKeys, hsame.intents, hsame.funding⟩
  show Dict.set _ _ _ = _
  rw [show (MemoryStore.saveOrder
      { store with
        fills := store.fills.set stamped.id stamped
        appliedFillKeys := insert fill.key store.appliedFillKeys }
      (appliedOrder snapshot fill stamped order)).2.deployments = store.deployments from hrows]
  rfl

end MemoryStore

end Thytrader.Trading
