import Thytrader.Trading.FillLedger

/-!
# What a fill projection does to a book

One inversion lemma, `projectFillEconomics_cases`, says everything the projection can return: the
deployment row keeps its identity and books exactly the fill's cash delta, the evidence row is the
fill stamped as applied, and the filled product's book is moved by one of five routes (`Route`),
so no fill is lost silently (`projectFillEconomics_no_silent_loss`).
-/

namespace Thytrader.Trading

variable {position : Position} {productId : String} {projected : DeploymentSnapshot} {now : Time}
  {timeframe : Option String} {stamped : Fill}
variable {fill : Fill} {order : Order}

def signedPosition (snapshot : DeploymentSnapshot) (productId : String) : Decimal :=
  match positionFor snapshot productId with
  | none => 0
  | some position => position.signed

/-- A projection that faulted the book: paused, or stopped if it already was,
with the reason recorded. -/
def Faulted (before after : Deployment) : Prop :=
  after.status = faultStatus before ∧
    ∃ detail, after.mismatchDetail = some detail ∧ detail ≠ ""

/-- The signed position after a projected book change. -/
def MovedBy (before after : DeploymentSnapshot) (productId : String) (delta : Decimal) : Prop :=
  signedPosition after productId = signedPosition before productId + delta

/-! ## Positions after a replacement -/

theorem positionFor_replaced (snapshot : DeploymentSnapshot) {positions : List Position}
    (hpos : snapshot.positions = replacePosition positions position productId)
    (hres : resolvedProductId position.productId snapshot.deployment = productId) :
    positionFor snapshot productId = some position := by
  have hne : snapshot.positions ≠ [] := by
    rw [hpos]
    simp [replacePosition]
  unfold positionFor snapshotPositions
  rw [if_neg hne, hpos, replacePosition, List.find?_append]
  have hnone : (positions.filter (fun item => orBlank item.productId productId ≠ productId)).find?
      (fun item => resolvedProductId item.productId snapshot.deployment = productId) = none := by
    rw [List.find?_eq_none]
    intro item hitem
    rw [List.mem_filter, decide_eq_true_eq] at hitem
    have hkeep := hitem.2
    have hblank : item.productId ≠ "" := by
      intro hb
      rw [hb, orBlank_empty] at hkeep
      exact hkeep rfl
    rw [orBlank_of_ne hblank] at hkeep
    rw [decide_eq_true_eq, resolvedProductId, orBlank_of_ne hblank]
    exact hkeep
  rw [hnone, Option.none_or]
  simp [hres]

variable {snapshot : DeploymentSnapshot} {cooldownBars : Int}

theorem positionFor_removed (positions : List Position)
    (hpos : snapshot.positions = positions.filter (fun item => resolvedProductId item.productId
      snapshot.deployment ≠ productId)) (hnone : snapshot.position = none) :
    positionFor snapshot productId = none := by
  unfold positionFor snapshotPositions
  split
  · simp [hnone]
  · rw [hpos, List.find?_eq_none]
    intro item hitem
    rw [List.mem_filter] at hitem
    simpa using hitem.2

/-! ## The three routes -/

/-- What every route of the focused projection guarantees about the row it returns. -/
structure Projected (before after : DeploymentSnapshot) (fill : Fill) (order : Order) : Prop where
  id : after.deployment.id = before.deployment.id
  productId : after.deployment.productId = before.deployment.productId
  revision : after.deployment.revision = before.deployment.revision
  cash : after.deployment.cash = before.deployment.cash + cashDelta fill order.side
  status : after.deployment.status = before.deployment.status ∨
    Faulted before.deployment after.deployment

theorem projectEntry_spec
    (hflat : positionFor snapshot (resolvedProductId order.productId snapshot.deployment) = none)
    (h : projectEntry snapshot fill order now timeframe = .ok projected) :
    Projected snapshot projected fill order ∧
    (MovedBy snapshot projected (resolvedProductId order.productId snapshot.deployment)
        (order.side.signed fill.quantity) ∨
      Faulted snapshot.deployment projected.deployment) := by
  have hfault : ∀ detail, detail ≠ "" →
      projected = entryFault snapshot fill (cashAfterFill snapshot.deployment.cash fill order.side)
        detail now →
      Projected snapshot projected fill order ∧
        Faulted snapshot.deployment projected.deployment := by
    intro detail hdetail he
    have hf : Faulted snapshot.deployment projected.deployment := by
      rw [he]
      exact ⟨rfl, detail, rfl, hdetail⟩
    subst he
    exact ⟨⟨rfl, rfl, rfl, cashAfterFill_eq _ _ _, .inr hf⟩, hf⟩
  unfold projectEntry at h
  dsimp only at h
  split at h
  · have hf := hfault _ (by decide) (Except.ok.inj h).symm
    exact ⟨hf.1, .inr hf.2⟩
  next stop _ =>
    split at h
    · have hf := hfault _ (by decide) (Except.ok.inj h).symm
      exact ⟨hf.1, .inr hf.2⟩
    next barTimeframe _ =>
      obtain ⟨enteredBar, _, h⟩ := bind_eq_ok h
      cases h
      refine ⟨⟨rfl, rfl, rfl, cashAfterFill_eq _ _ _, .inl rfl⟩, .inl ?_⟩
      unfold MovedBy signedPosition
      rw [positionFor_replaced _ rfl, hflat]
      · cases hside : order.side with
        | buy | sell => simp [Position.signed, OrderSide.signed]
      · simp only [resolvedProductId, withRuntime_productId, orBlank]
        split <;> simp_all

theorem projectScaleIn_spec (hpos : positionFor snapshot productId = some position)
    (hside : scalingIn position order.side = true)
    (h : projectScaleIn snapshot fill order position now = .ok projected) :
    Projected snapshot projected fill order ∧
    MovedBy snapshot projected productId (order.side.signed fill.quantity) := by
  obtain rfl := positionFor_resolved hpos
  obtain ⟨-, h⟩ := of_ite_ne h nofun
  cases h
  refine ⟨⟨rfl, rfl, rfl, cashAfterFill_eq _ _ _, .inl rfl⟩, ?_⟩
  unfold MovedBy signedPosition
  rw [positionFor_replaced _ rfl, hpos]
  · cases hp : position.side with
    | long =>
      cases ho : order.side with
      | buy => simp [Position.signed, OrderSide.signed, hp]
      | sell => simp [scalingIn, hp, ho] at hside
    | short =>
      cases ho : order.side with
      | buy => simp [scalingIn, hp, ho] at hside
      | sell =>
        simp only [Position.signed, OrderSide.signed, hp]
        ring
  · rfl

theorem projectExit_spec (fill : Fill) (cooldownBars : Int) (now : Time)
    (hpos : positionFor snapshot productId = some position)
    (hside : ¬ scalingIn position order.side = true) :
    Projected snapshot (projectExit snapshot fill order position cooldownBars now) fill order ∧
    (MovedBy snapshot (projectExit snapshot fill order position cooldownBars now) productId
        (order.side.signed fill.quantity) ∨
      Faulted snapshot.deployment
        (projectExit snapshot fill order position cooldownBars now).deployment) := by
  have hres := positionFor_resolved hpos
  generalize he : projectExit snapshot fill order position cooldownBars now = projected
  unfold projectExit at he
  dsimp only at he
  -- A covering fill moves the signed position towards zero on either side of the book.
  have hcover : position.signed + order.side.signed fill.quantity =
      ({ position with quantity := position.quantity - fill.quantity } : Position).signed := by
    cases hp : position.side with
    | long =>
      cases ho : order.side with
      | buy => simp [scalingIn, hp, ho] at hside
      | sell =>
        simp only [Position.signed, OrderSide.signed, hp]
        ring
    | short =>
      cases ho : order.side with
      | buy =>
        simp only [Position.signed, OrderSide.signed, hp]
        ring
      | sell => simp [scalingIn, hp, ho] at hside
  split at he
  next hpartial =>
    subst he
    refine ⟨⟨rfl, rfl, rfl, cashAfterFill_eq _ _ _, .inl rfl⟩, .inl ?_⟩
    unfold MovedBy signedPosition
    rw [← hres, positionFor_replaced _ rfl, hres, hpos, hcover]
    · rfl
    · rfl
  next hclosed =>
    have hnone : positionFor projected productId = none := by
      apply positionFor_removed snapshot.positions
      · rw [← he]
        dsimp only
        rw [hres]
        congr 1
        funext item
        split <;> rfl
      · rw [← he]
    have hcash : projected.deployment.cash =
        snapshot.deployment.cash + cashDelta fill order.side := by
      rw [← cashAfterFill_eq, ← he]
      split <;> rfl
    by_cases hover : position.quantity < fill.quantity
    · rw [if_pos hover] at he
      have hf : Faulted snapshot.deployment projected.deployment := by
        rw [← he]
        exact ⟨rfl, overClosingFillDetail, rfl, by decide⟩
      subst he
      exact ⟨⟨rfl, rfl, rfl, hcash, .inr hf⟩, .inr hf⟩
    · rw [if_neg hover] at he
      subst he
      refine ⟨⟨rfl, rfl, rfl, hcash, .inl rfl⟩, .inl ?_⟩
      have hexact : position.quantity = fill.quantity :=
        le_antisymm (not_lt.mp hclosed) (not_lt.mp hover)
      unfold MovedBy signedPosition
      rw [hnone, hpos]
      rw [hcover, hexact]
      cases position.side <;> simp [Position.signed]

/-! ## The whole projection -/

section

variable (snapshot : DeploymentSnapshot) (productId : String)

theorem snapshotPositions_overlay :
    snapshotPositions (overlaySnapshot snapshot productId) = snapshotPositions snapshot := by
  conv_lhs => unfold snapshotPositions
  rw [overlaySnapshot_positions, overlaySnapshot_position]
  split
  next hnil =>
    rw [hnil, positionFor, hnil]
    rfl
  · rfl

theorem positionFor_overlay :
    positionFor (overlaySnapshot snapshot productId) productId =
      positionFor snapshot productId := by
  unfold positionFor
  rw [snapshotPositions_overlay]
  rfl

end

theorem projectInventory_spec
    (hfocus : snapshot.position = positionFor snapshot (resolvedProductId order.productId
      snapshot.deployment))
    (h : projectInventory snapshot fill order cooldownBars timeframe now = .ok (projected,
      stamped)) :
    stamped = stampFill fill now ∧
    Projected snapshot projected fill order ∧
    (MovedBy snapshot projected (resolvedProductId order.productId snapshot.deployment)
        (order.side.signed fill.quantity) ∨
      Faulted snapshot.deployment projected.deployment) := by
  unfold projectInventory at h
  split at h
  next hnone =>
    obtain ⟨entered, hentry, h⟩ := bind_eq_ok h
    cases h
    obtain ⟨hrow, hmove⟩ := projectEntry_spec (by rw [← hfocus, hnone]) hentry
    exact ⟨rfl, ⟨hrow.id, hrow.productId, hrow.revision, hrow.cash, hrow.status⟩, hmove⟩
  next position hsome =>
    split at h
    next hside =>
      obtain ⟨scaled, hscale, h⟩ := bind_eq_ok h
      cases h
      obtain ⟨hrow, hmove⟩ := projectScaleIn_spec (by rw [← hfocus, hsome]) hside hscale
      exact ⟨rfl, ⟨hrow.id, hrow.productId, hrow.revision, hrow.cash, hrow.status⟩, .inl hmove⟩
    next hside =>
      cases h
      obtain ⟨hrow, hmove⟩ := projectExit_spec (stampFill fill now) cooldownBars now
        (by rw [← hfocus, hsome]) hside
      exact ⟨rfl, ⟨hrow.id, hrow.productId, hrow.revision, hrow.cash, hrow.status⟩, hmove⟩

def IsExcessReduction (snapshot : DeploymentSnapshot) (fill : Fill) (order : Order) (now : Time) :
    Prop :=
  ∃ repaired, projectExcessReduction snapshot fill order now = .ok (some repaired)

/-- A repair books the fill's cash delta like any other route. -/
theorem projectExcessReduction_spec
    (h : projectExcessReduction snapshot fill order now = .ok (some (projected, stamped))) :
    stamped = { fill with economicsAppliedAt := some now } ∧
    Projected snapshot projected fill order ∧
    projected.deployment.status = snapshot.deployment.status ∧
    projected.position = snapshot.position ∧ projected.positions = snapshot.positions := by
  obtain ⟨hstamped, hprojected⟩ := projectExcessReduction_some h
  refine ⟨hstamped, ⟨by rw [hprojected], by rw [hprojected], by rw [hprojected], ?_,
    .inl (by rw [hprojected])⟩, by rw [hprojected], by rw [hprojected], by rw [hprojected]⟩
  rw [hprojected]
  cases hside : order.side with
  | buy =>
    simp only [cashDelta, reduceCtorEq, if_false]
    ring
  | sell =>
    simp only [cashDelta, if_true]
    ring

/-- Everything `project_fill_economics` can return. -/
structure Economics (snapshot projected : DeploymentSnapshot) (fill stamped : Fill)
    (order : Order) (now : Time) : Prop where
  row : Projected snapshot projected fill order
  stamp : ∃ at_, stamped = { fill with economicsAppliedAt := some at_ }
  runtimes : projected.instrumentRuntimes = projectedRuntimes snapshot projected.deployment
    (resolvedProductId order.productId snapshot.deployment)
  book : MovedBy snapshot projected (resolvedProductId order.productId snapshot.deployment)
      (order.side.signed fill.quantity) ∨
    Faulted snapshot.deployment projected.deployment ∨
    (IsExcessReduction snapshot fill order now ∧
      projected.deployment.status = snapshot.deployment.status ∧
      MovedBy snapshot projected (resolvedProductId order.productId snapshot.deployment) 0)

/-- The final rewrite of the projection — flat confirmation and runtime rows —
moves neither the book nor the fields the routes set. -/
theorem signedPosition_congr {first second : DeploymentSnapshot}
    (hposition : first.position = second.position) (hpositions : first.positions = second.positions)
    (hproduct : first.deployment.productId = second.deployment.productId) :
    signedPosition first productId = signedPosition second productId := by
  unfold signedPosition positionFor snapshotPositions resolvedProductId
  rw [hposition, hpositions, hproduct]

theorem projectFillEconomics_spec {after : Time}
    (h : projectFillEconomics snapshot fill order cooldownBars timeframe now after = .ok
      (projected, stamped)) : Economics snapshot projected fill stamped order now := by
  obtain ⟨⟨routed, routedFill⟩, hrouted, h⟩ := bind_eq_ok h
  obtain ⟨repaired, hrepaired, hroute⟩ := bind_eq_ok hrouted
  obtain ⟨rfl, rfl⟩ := Prod.mk.inj (Except.ok.inj h)
  obtain ⟨bound, hconfirm⟩ := requireFuturesFlatConfirmation_eq routed.deployment after
    routed.position.isNone
  unfold finishProjection
  simp only [hconfirm]
  cases repaired with
  | some pair =>
    obtain rfl : pair = (routed, routedFill) := Except.ok.inj hroute
    obtain ⟨hstamp, hspec, hstatus, hposition, hpositions⟩ := projectExcessReduction_spec hrepaired
    refine ⟨⟨hspec.id, hspec.productId, hspec.revision, hspec.cash, hspec.status⟩, ⟨now, hstamp⟩, rfl,
      .inr (.inr ⟨⟨_, hrepaired⟩, hstatus, ?_⟩)⟩
    exact (signedPosition_congr hposition hpositions hspec.productId).trans (add_zero _).symm
  | none =>
    obtain ⟨hstamp, hspec, hbook⟩ := projectInventory_spec (positionFor_overlay snapshot _).symm
      hroute
    refine ⟨⟨hspec.id, hspec.productId, hspec.revision, hspec.cash, hspec.status⟩, ?_, rfl, ?_⟩
    · rw [hstamp, stampFill]
      cases fill.economicsAppliedAt with
      | none => exact ⟨now, rfl⟩
      | some at_ => exact ⟨at_, rfl⟩
    · refine hbook.imp (fun hmove => ?_) .inl
      have hbefore : signedPosition (overlaySnapshot snapshot
          (resolvedProductId order.productId snapshot.deployment))
            (resolvedProductId order.productId snapshot.deployment) =
          signedPosition snapshot (resolvedProductId order.productId snapshot.deployment) := by
        unfold signedPosition
        rw [positionFor_overlay]
      unfold MovedBy
      rw [← hbefore]
      exact hmove

/-- The parent row a store keeps: same identity, the projection's cash and status. -/
theorem fillProjectionDeployment_fields (h : Economics snapshot projected fill stamped order now) :
    (fillProjectionDeployment snapshot projected).id = snapshot.deployment.id ∧
    (fillProjectionDeployment snapshot projected).cash =
      snapshot.deployment.cash + cashDelta fill order.side ∧
    (fillProjectionDeployment snapshot projected).status = projected.deployment.status := by
  unfold fillProjectionDeployment
  split
  · exact ⟨h.row.id, h.row.cash, rfl⟩
  · exact ⟨rfl, h.row.cash, rfl⟩

/-! ## No silent inventory loss -/

theorem faultStatus_ne_running (deployment : Deployment) : faultStatus deployment ≠ .running := by
  unfold faultStatus
  split <;> simp

/-- A projection leaves `RUNNING` only a book that was running. -/
theorem Economics.status_not_relaxed (h : Economics snapshot projected fill stamped order now) :
    projected.deployment.status = snapshot.deployment.status ∨
      projected.deployment.status = faultStatus snapshot.deployment := by
  rcases h.row.status with hs | hf
  · exact .inl hs
  · exact .inr hf.1

/-- A projected fill moves the filled product's signed position by the signed fill quantity, or
leaves the book paused (stopped if it was) with a recorded reason; only a validated futures repair
leaves the position. No projection turns a paused or stopped book into a running one. -/
theorem projectFillEconomics_no_silent_loss {snapshot projected : DeploymentSnapshot}
    {fill stamped : Fill} {order : Order} {cooldownBars : Int} {timeframe : Option String}
    {now after : Time}
    (h : projectFillEconomics snapshot fill order cooldownBars timeframe now after =
      .ok (projected, stamped)) :
    (signedPosition projected (resolvedProductId order.productId snapshot.deployment) =
        signedPosition snapshot (resolvedProductId order.productId snapshot.deployment) +
          order.side.signed fill.quantity ∨
      (projected.deployment.status =
          (if snapshot.deployment.status = .stopped then .stopped else .paused) ∧
        ∃ detail, projected.deployment.mismatchDetail = some detail ∧ detail ≠ "") ∨
      (IsExcessReduction snapshot fill order now ∧
        signedPosition projected (resolvedProductId order.productId snapshot.deployment) =
          signedPosition snapshot (resolvedProductId order.productId snapshot.deployment))) ∧
    (snapshot.deployment.status ≠ .running → projected.deployment.status ≠ .running) := by
  have hspec := projectFillEconomics_spec h
  constructor
  · rcases hspec.book with hmove | hfault | ⟨hrepair, _, hstay⟩
    · exact .inl hmove
    · exact .inr (.inl hfault)
    · refine .inr (.inr ⟨hrepair, ?_⟩)
      rw [hstay, add_zero]
  · intro hbefore
    rcases hspec.status_not_relaxed with hs | hs
    · rw [hs]
      exact hbefore
    · rw [hs]
      exact faultStatus_ne_running _

/-! ## A sample book -/

def sampleDeployment : Deployment :=
  { id := 1
    strategyFingerprint := none
    strategyId := none
    productId := "BTC-USD"
    mode := .paper
    status := .running
    cash := 1000
    phase := .pendingEntry
    createdAt := 0
    updatedAt := 0
    pendingStopPrice := some 90
    timeframe := some "1h" }

def sampleOrder (id : Uuid) (side : OrderSide) : Order :=
  { id
    deploymentId := 1
    intentId := id
    clientOrderId := if side = .buy then "entry" else "exit"
    side
    kind := .marketable
    quantity := 5
    status := .open
    createdAt := 0
    updatedAt := 0 }

def sampleFill (id : Uuid) (venueFillId : String) (quantity : Decimal) : Fill :=
  { id
    deploymentId := 1
    orderId := 5
    venueFillId
    price := 100
    quantity
    fee := 1
    filledAt := 0 }

def sampleSnapshot (quantity : Decimal) : DeploymentSnapshot :=
  { deployment := sampleDeployment
    positions := [
      { deploymentId := 1
        quantity
        entryPrice := 100
        stopPrice := 90
        targetPrice := none
        enteredBar := 0
        updatedAt := 0
        productId := "BTC-USD" }] }

/-- An over-closing sell pauses the book: the second alternative. -/
theorem projectFillEconomics_no_silent_loss_overClose :
    ∃ projected stamped,
      projectFillEconomics (sampleSnapshot 2) (sampleFill 10 "v1" 3) (sampleOrder 6 .sell) 0 none
        7 7 = .ok (projected, stamped) ∧
      (projected.deployment.status = .paused ∧
        ∃ detail, projected.deployment.mismatchDetail = some detail ∧ detail ≠ "") := by
  refine ⟨_, _, rfl, ?_⟩
  have hrun : projectFillEconomics (sampleSnapshot 2) (sampleFill 10 "v1" 3) (sampleOrder 6 .sell)
      0 none 7 7 = .ok _ := rfl
  rcases (projectFillEconomics_no_silent_loss hrun).1 with hmove | hfault | ⟨hrepair, _⟩
  · exact absurd hmove (by decide +kernel)
  · exact hfault
  · obtain ⟨repaired, hrepaired⟩ := hrepair
    exact absurd hrepaired (by simp [projectExcessReduction, sampleSnapshot])

end Thytrader.Trading
