import Thytrader.Trading.FillCash

/-!
# Deployment row writes

Every store call writes at most one deployment row. A caller's row enters by `create_deployment`
and `save_deployment` only; fills, funding, leases and breaker pauses rewrite the stored row and
keep the fields its book is found by (`SameBook`).
-/

namespace Thytrader.Trading

open Lib MemoryStore

/-! ## Rewrites of a stored row -/

/-- A rewrite of a row that keeps the book's mode and product and never clears its latch. -/
structure SameBook (before after : Deployment) : Prop where
  mode : after.mode = before.mode
  productId : after.productId = before.productId
  latch : before.dailyLossLatched = true → after.dailyLossLatched = true

/-! ## What a fill keeps of a row -/

/-- The status of a book and the reason it shows. -/
structure Shown where
  status : DeploymentStatus
  detail : Option String
  deriving DecidableEq

def Deployment.shown (row : Deployment) : Shown := ⟨row.status, row.mismatchDetail⟩

/-- What holds entries back whatever the status: the operator's command and the breaker latches. -/
structure Holds where
  command : LifecycleCommand
  dailyLoss : Bool
  drawdown : Bool
  deriving DecidableEq

def Deployment.holds (row : Deployment) : Holds :=
  ⟨row.lifecycleCommand, row.dailyLossLatched, row.drawdownLatched⟩

/-- The reasons a fill projection faults a book for. -/
def fillFaultDetails : List String :=
  ["Entry fill is missing its stored stop price.",
    "Entry fill is missing a deployment timeframe for bar bucketing.",
    overClosingFillDetail]

/-- A fault of the fill projection. -/
def FillFault (before after : Deployment) : Prop :=
  after.status = faultStatus before ∧
    ∃ detail ∈ fillFaultDetails, after.mismatchDetail = some detail

/-- What a fill keeps of its row: the book, its holder, the bar it was evaluated through, and what
it shows unless the fill faults it. -/
structure KeptByFill (before after : Deployment) : Prop where
  mode : after.mode = before.mode
  productId : after.productId = before.productId
  holds : after.holds = before.holds
  cursor : after.lastEvaluatedBar = before.lastEvaluatedBar
  shown : after.shown = before.shown ∨ FillFault before after

section

variable {snapshot projected : DeploymentSnapshot} {fill stamped : Fill} {order : Order}
  {cooldownBars : Int} {timeframe : Option String} {now after : Time}

theorem projectEntry_row (h : projectEntry snapshot fill order now timeframe = .ok projected) :
    KeptByFill snapshot.deployment projected.deployment := by
  unfold projectEntry at h
  dsimp only at h
  split at h
  · cases h
    exact ⟨rfl, rfl, rfl, rfl, .inr ⟨rfl, _, by simp [fillFaultDetails], rfl⟩⟩
  · split at h
    · cases h
      exact ⟨rfl, rfl, rfl, rfl, .inr ⟨rfl, _, by simp [fillFaultDetails], rfl⟩⟩
    · obtain ⟨bar, -, rfl⟩ := bind_pure_ok h
      exact ⟨rfl, rfl, rfl, rfl, .inl rfl⟩

theorem projectScaleIn_row {position : Position}
    (h : projectScaleIn snapshot fill order position now = .ok projected) :
    KeptByFill snapshot.deployment projected.deployment := by
  obtain ⟨-, h⟩ := of_ite_ne h nofun
  cases h
  exact ⟨rfl, rfl, rfl, rfl, .inl rfl⟩

theorem projectExit_row (position : Position) :
    KeptByFill snapshot.deployment
      (projectExit snapshot fill order position cooldownBars now).deployment := by
  unfold projectExit
  split
  · exact ⟨rfl, rfl, rfl, rfl, .inl rfl⟩
  · split
    · exact ⟨rfl, rfl, rfl, rfl, .inr ⟨rfl, _, by simp [fillFaultDetails], rfl⟩⟩
    · exact ⟨rfl, rfl, rfl, rfl, .inl rfl⟩

theorem projectInventory_row
    (h : projectInventory snapshot fill order cooldownBars timeframe now =
      .ok (projected, stamped)) :
    KeptByFill snapshot.deployment projected.deployment := by
  unfold projectInventory at h
  split at h
  · obtain ⟨entered, hentered, h⟩ := bind_eq_ok h
    cases h
    exact projectEntry_row hentered
  next position _ =>
    split at h
    · obtain ⟨scaled, hscaled, h⟩ := bind_eq_ok h
      cases h
      exact projectScaleIn_row hscaled
    · cases h
      exact projectExit_row position

variable (h : projectFillEconomics snapshot fill order cooldownBars timeframe now after =
  .ok (projected, stamped))
include h

/-- A fill keeps the row it read, or the row with its product's runtime in focus. -/
theorem projectFillEconomics_row :
    KeptByFill snapshot.deployment projected.deployment ∨
      KeptByFill (overlaySnapshot snapshot
        (resolvedProductId order.productId snapshot.deployment)).deployment
        projected.deployment := by
  obtain ⟨⟨routed, routedFill⟩, hrouted, h⟩ := bind_eq_ok h
  obtain ⟨repaired, hrepaired, hroute⟩ := bind_eq_ok hrouted
  obtain ⟨rfl, -⟩ := Prod.mk.inj (Except.ok.inj h)
  obtain ⟨bound, hconfirm⟩ := requireFuturesFlatConfirmation_eq routed.deployment after
    routed.position.isNone
  simp only [finishProjection, hconfirm]
  cases repaired with
  | some pair =>
    obtain rfl : pair = (routed, routedFill) := Except.ok.inj hroute
    obtain ⟨-, rfl⟩ := projectExcessReduction_some hrepaired
    exact .inl ⟨rfl, rfl, rfl, rfl, .inl rfl⟩
  | none =>
    obtain ⟨hmode, hproduct, hholds, hcursor, hshown⟩ := projectInventory_row hroute
    exact .inr ⟨hmode, hproduct, hholds, hcursor, hshown⟩

/-- A projection keeps the row's mode, its product, its holds and, faults aside, what it shows. -/
theorem projectFillEconomics_kept :
    projected.deployment.mode = snapshot.deployment.mode ∧
      projected.deployment.productId = snapshot.deployment.productId ∧
      projected.deployment.holds = snapshot.deployment.holds ∧
      (projected.deployment.shown = snapshot.deployment.shown ∨
        FillFault snapshot.deployment projected.deployment) := by
  obtain hkept | hkept := projectFillEconomics_row h
  · exact ⟨hkept.mode, hkept.productId, hkept.holds, hkept.shown⟩
  · exact ⟨hkept.mode, hkept.productId, hkept.holds, hkept.shown⟩

theorem fillProjectionDeployment_sameBook :
    SameBook snapshot.deployment (fillProjectionDeployment snapshot projected) := by
  obtain ⟨hmode, hproduct, hholds, -⟩ := projectFillEconomics_kept h
  unfold fillProjectionDeployment
  split
  · exact ⟨hmode, hproduct, fun hlatched => (congrArg Holds.dailyLoss hholds).trans hlatched⟩
  · exact ⟨rfl, rfl, id⟩

/-- No fill of the primary product moves the bar its book was evaluated through: a row with product
runtimes keeps its cursor, and one without is projected through its own product. -/
theorem fillProjectionDeployment_lastEvaluatedBar
    (hproduct : resolvedProductId order.productId snapshot.deployment =
      snapshot.deployment.productId) :
    (fillProjectionDeployment snapshot projected).lastEvaluatedBar =
      snapshot.deployment.lastEvaluatedBar := by
  unfold fillProjectionDeployment
  split
  next hnone =>
    have hrows : snapshot.instrumentRuntimes = [] := by
      have hruntimes := (projectFillEconomics_spec h).runtimes
      rw [hnone] at hruntimes
      unfold projectedRuntimes at hruntimes
      split at hruntimes
      next hempty => exact hempty
      · exact absurd hruntimes.symm (by simp)
    obtain hkept | hkept := projectFillEconomics_row h
    · exact hkept.cursor
    · rw [hkept.cursor, hproduct]
      show (runtimeFor snapshot snapshot.deployment.productId).lastEvaluatedBar = _
      unfold runtimeFor
      rw [if_pos ⟨rfl, by rw [hrows]; rfl⟩]
      rfl
  · rfl

end

/-! ## Calls -/

/-- Where the row of a call comes from. -/
inductive RowSource (store : MemoryStore) (row : Deployment) : StoreCall → Prop where
  | created : RowSource store row (.createDeployment row)
  | saved {deployment current : Deployment} {expectedRevision : Option Int}
      {instrumentRuntime : Option InstrumentRuntime}
      (hcurrent : store.deployments.get? deployment.id = some current)
      (hexpected : expectedRevision = none ∨ expectedRevision = some current.revision)
      (hrow : row = deployment.withRevision (current.revision + 1)) :
      RowSource store row (.saveDeployment deployment expectedRevision instrumentRuntime)
  | rewritten {call : StoreCall} {current : Deployment}
      (hcurrent : store.deployments.get? row.id = some current) (hsame : SameBook current row) :
      RowSource store row call

/-- What a read collects of the other records. -/
theorem MemoryStore.getDeployment_records {store : MemoryStore} {deploymentId : Uuid}
    {snapshot : DeploymentSnapshot} (h : store.getDeployment deploymentId = .ok snapshot) :
    snapshot.orders = store.orders.values.filter (fun order => order.deploymentId = deploymentId) ∧
      snapshot.funding = (store.funding.values.filter
        (fun flow => flow.deploymentId = deploymentId)).insertionSort fundingBefore := by
  unfold getDeployment at h
  split at h
  · cases h
  · rw [← Except.ok.inj h]
    exact ⟨rfl, rfl⟩

theorem MemoryStore.saveDeployment_orders (store : MemoryStore) (deployment : Deployment)
    (expectedRevision : Option Int) (instrumentRuntime : Option InstrumentRuntime) :
    (store.saveDeployment deployment expectedRevision instrumentRuntime).2.orders =
      store.orders := by
  unfold saveDeployment
  split
  · rfl
  · split
    · rfl
    next current hcurrent =>
      split
      · rfl
      · cases instrumentRuntime with
        | none =>
          dsimp only [mirrorRuntime]
          split
          · rfl
          · rfl
        | some => rfl

variable {store : MemoryStore}

/-- Every stored row is under its own id. -/
def DeploymentsKeyed (store : MemoryStore) : Prop :=
  ∀ id row, store.deployments.get? id = some row → row.id = id

section

variable (hkeyed : DeploymentsKeyed store)
include hkeyed

theorem FillCall.run_row (call : FillCall) :
    (call.run store).2.deployments = store.deployments ∨
      ∃ snapshot projected source stamped, store.getDeployment call.deploymentId = .ok snapshot ∧
        projectFillEconomics snapshot source call.order call.cooldownBars call.timeframe call.now
          call.after = .ok (projected, stamped) ∧
        snapshot.deployment.id = call.deploymentId ∧
        (fillProjectionDeployment snapshot projected).id = call.deploymentId ∧
        (call.run store).2.deployments = store.deployments.set call.deploymentId
          ((fillProjectionDeployment snapshot projected).withRevision
            (snapshot.deployment.revision + 1)) := by
  have hleft := call.run_leaves store
  generalize (call.run store).2 = next at hleft ⊢
  cases hleft with
  | untouched => exact .inl rfl
  | recorded => exact .inl (recordEvidence_rows store call.fill)
  | @projected snapshot projected stamped hsnapshot hpending hprojected =>
    have hid := hkeyed _ _ (getDeployment_ok hsnapshot).1
    have hown := (fillProjectionDeployment_fields (projectFillEconomics_spec hprojected)).1.trans hid
    obtain ⟨hdeployments, -⟩ := writeProjection_fields
      (store.recordEvidence call.fill) call.deploymentId snapshot projected call.fill stamped
      call.order
    refine .inr ⟨snapshot, projected, _, stamped, hsnapshot, hprojected, hid, hown, ?_⟩
    rw [hdeployments, recordEvidence_rows, hown]

theorem FillCall.run_rows (call : FillCall) :
    (call.run store).2.deployments = store.deployments ∨
      ∃ row, (call.run store).2.deployments = store.deployments.set row.id row ∧
        RowSource store row (.applyFill call) := by
  obtain hsame | ⟨snapshot, projected, source, stamped, hsnapshot, hprojected, -, hown, hrows⟩ :=
    call.run_row hkeyed
  · exact .inl hsame
  · have hsame := fillProjectionDeployment_sameBook hprojected
    refine .inr ⟨(fillProjectionDeployment snapshot projected).withRevision
      (snapshot.deployment.revision + 1), hrows.trans (by rw [← hown]; rfl), .rewritten ?_
      ⟨hsame.mode, hsame.productId, hsame.latch⟩⟩
    exact (congrArg store.deployments.get? hown).trans (getDeployment_ok hsnapshot).1

/-- Every call writes at most one row: the caller's, or a rewrite of the stored one. -/
theorem StoreCall.run_rows (call : StoreCall) :
    (call.run store).deployments = store.deployments ∨
      ∃ row, (call.run store).deployments = store.deployments.set row.id row ∧
        RowSource store row call := by
  have hleft := call.run_leaves store
  generalize call.run store = next at hleft ⊢
  cases hleft with
  | created deployment => exact .inr ⟨deployment, rfl, .created⟩
  | saved hcurrent hexpected _ hrows =>
    exact .inr ⟨_, hrows, .saved hcurrent hexpected rfl⟩
  | @paused _ _ detail dailyLossLatched now current hcurrent =>
    obtain rfl := hkeyed _ _ hcurrent
    have hsame : SameBook current
        (breakerPaused current detail dailyLossLatched now) := by
      refine ⟨rfl, rfl, ?_⟩
      intro hlatched
      simp [breakerPaused, hlatched]
    exact .inr ⟨breakerPaused current detail dailyLossLatched now, rfl, .rewritten hcurrent hsame⟩
  | @leased _ holder now ttl current hcurrent =>
    obtain rfl := hkeyed _ _ hcurrent
    have hsame : SameBook current (leasedRow current holder now ttl) :=
      ⟨rfl, rfl, id⟩
    exact .inr ⟨leasedRow current holder now ttl, rfl, .rewritten hcurrent hsame⟩
  | restored order => exact .inl (replaceOrder_frame store order).2
  | ordered => exact .inl (replaceOrder_frame store _).2
  | applied call => exact call.run_rows hkeyed
  | @funded _ flows _ current hcurrent =>
    obtain rfl := hkeyed _ _ hcurrent
    have hsame : SameBook current (fundedRow current (store.freshFunding flows)) :=
      ⟨rfl, rfl, id⟩
    exact .inr ⟨fundedRow current (store.freshFunding flows), rfl, .rewritten hcurrent hsame⟩
  | _ => exact .inl rfl

theorem StoreCall.run_deploymentsKeyed (call : StoreCall) :
    DeploymentsKeyed (call.run store) := by
  rcases call.run_rows hkeyed with hsame | ⟨row, hset, -⟩
  · unfold DeploymentsKeyed
    rw [hsame]
    exact hkeyed
  · exact Dict.forall_set hset rfl hkeyed

end

end Thytrader.Trading
