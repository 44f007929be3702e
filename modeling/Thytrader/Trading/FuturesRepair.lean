import Thytrader.MarketData.Instruments
import Thytrader.Trading.Models

/-!
# Futures excess reduction and flat confirmation

`trading/futures_repair.py` and `trading/futures_safety.py`. An explicit
reduction of inventory outside the projected book applies its cash and fee
without shrinking that book a second time; a fill that leaves a live futures
book locally flat arms the venue-flat confirmation duty.

Mirroring notes: the source's dictionaries `{order.id: order}` keep the last
row of a repeated id, so the lookups search from the end. `is_signed` sees the
sign of zero: a stored quantity of zero is positive, and `copy_negate` of it is
negative.
-/

namespace Thytrader.Trading

open MarketData (isFuturesProductId)

def excessReductionPrefix : String := "futures-flip:"

/-- `{order.id: order for order in orders}.get(id)`. -/
def lastOrder? (orders : List Order) (id : Uuid) : Option Order :=
  orders.reverse.find? (fun order => order.id = id)

/-- `{intent.id: intent for intent in intents}.get(id)`. -/
def lastIntent? (intents : List OrderIntent) (id : Uuid) : Option OrderIntent :=
  intents.reverse.find? (fun intent => intent.id = id)

def managedFillSide (snapshot : DeploymentSnapshot) (seen : List String) (fill : Fill) :
    Option OrderSide := do
  let order ← lastOrder? snapshot.orders fill.orderId
  let intent ← lastIntent? snapshot.intents order.intentId
  if fill.economicsAppliedAt = none ∨ fill.venueFillId ∈ seen ∨ fill.quantity ≤ 0 ∨
      order.clientOrderId ≠ intent.clientOrderId ∨
      ¬ startsWith order.clientOrderId.toList
        (uuidText snapshot.deployment.id ++ ':' :: intent.purpose.value.toList ++ [':']) ∨
      order.productId ≠ snapshot.deployment.productId ∨
      fill.deploymentId ≠ snapshot.deployment.id then
    none
  else
    some order.side

/-- The loop of `managed_signed_base`: `seen` and `total` are its accumulators. -/
def managedSignedLoop (snapshot : DeploymentSnapshot) :
    List Fill → List String → Decimal → Option Decimal
  | [], _, total => some total
  | fill :: rest, seen, total =>
    match managedFillSide snapshot seen fill with
    | none => none
    | some side =>
      managedSignedLoop snapshot rest (fill.venueFillId :: seen) (total + side.signed fill.quantity)

/-- `managed_signed_base`: exact signed inventory from applied managed fills. -/
def managedSignedBase (snapshot : DeploymentSnapshot) : Option Decimal :=
  managedSignedLoop snapshot snapshot.fills [] 0

/-- `excess_quantity`: the amount outside the intended book. -/
def excessQuantity (snapshot : DeploymentSnapshot) (managed : Decimal) : Decimal :=
  match snapshot.position with
  | none => |managed|
  | some position =>
    let book := position.signed
    let bookSigned : Bool :=
      match position.side with
      | .short => decide (0 ≤ position.quantity)
      | .long => decide (position.quantity < 0)
    if managed = 0 then 0
    else if bookSigned ≠ decide (managed < 0) then |managed|
    else max 0 (|managed| - |book|)

/-- `project_excess_reduction`: `none` when the intent is not a repair; raises
when a repair is not proven. -/
def projectExcessReduction (snapshot : DeploymentSnapshot) (fill : Fill) (order : Order)
    (now : Time) : Result (Option (DeploymentSnapshot × Fill)) :=
  match snapshot.intents.find? (fun item => item.id = order.intentId) with
  | none => .ok none
  | some intent =>
    if ¬ startsWith (intent.idempotencyKey.getD "").toList excessReductionPrefix.toList then
      .ok none
    else if snapshot.deployment.mode ≠ .live ∨
        isFuturesProductId snapshot.deployment.productId = false ∨
        intent.purpose ≠ .liquidation ∨ order.kind ≠ .marketable then
      .error (.valueError "Invalid futures excess-reduction identity.")
    else
      let others := snapshot.fills.filter (fun item => item.id ≠ fill.id)
      let prior := { snapshot with fills := others }
      match managedSignedBase prior with
      | none =>
        .error (.valueError "Futures excess reduction lacks applied managed-fill ownership proof.")
      | some managed =>
        if managed = 0 ∨ (decide (order.side = .buy) = decide (0 < managed)) then
          .error (.valueError
            "Futures excess reduction lacks applied managed-fill ownership proof.")
        else if fill.quantity ≤ 0 ∨ excessQuantity prior managed < fill.quantity then
          .error (.valueError "Futures repair fill exceeds proven managed excess.")
        else
          let value := fill.quantity * fill.price
          let cash :=
            snapshot.deployment.cash + (if order.side = .sell then value else -value) - fill.fee
          let stamped := { fill with economicsAppliedAt := some now }
          .ok (some
            ({ snapshot with
                deployment := { snapshot.deployment with cash, updatedAt := now }
                fills := others ++ [stamped] }, stamped))

theorem projectExcessReduction_some {snapshot : DeploymentSnapshot} {fill : Fill} {order : Order}
    {now : Time} {projected : DeploymentSnapshot} {stamped : Fill}
    (h : projectExcessReduction snapshot fill order now = .ok (some (projected, stamped))) :
    stamped = { fill with economicsAppliedAt := some now } ∧
    projected = { snapshot with
      deployment := { snapshot.deployment with
        cash := snapshot.deployment.cash +
          (if order.side = .sell then fill.quantity * fill.price
            else -(fill.quantity * fill.price)) - fill.fee
        updatedAt := now }
      fills := snapshot.fills.filter (fun item => item.id ≠ fill.id) ++ [stamped] } := by
  unfold projectExcessReduction at h
  dsimp only at h
  split at h
  · cases h
  next intent _ =>
    obtain ⟨-, h⟩ := of_ite_ne h nofun
    obtain ⟨-, h⟩ := of_ite_ne h nofun
    split at h
    · cases h
    next managed _ =>
      obtain ⟨-, h⟩ := of_ite_ne h nofun
      obtain ⟨-, h⟩ := of_ite_ne h nofun
      simp only [Except.ok.injEq, Option.some.injEq, Prod.mk.injEq] at h
      obtain ⟨hp, hs⟩ := h
      subst hs
      exact ⟨rfl, hp.symm⟩

def Deployment.withFlatConfirmation (deployment : Deployment) (bound : Option Time) : Deployment :=
  { deployment with futuresFlatConfirmationAfter := bound }

/-- `require_futures_flat_confirmation`: retain a monotone lower bound. -/
def requireFuturesFlatConfirmation (deployment : Deployment) (after : Time)
    (fillProjectedFlat : Bool := false) : Deployment :=
  if deployment.mode ≠ .live ∨ isFuturesProductId deployment.productId = false ∨
      (deployment.lifecycleCommand ≠ .flatten ∧ deployment.futuresDeriskPending = false ∧
        deployment.futuresFlatConfirmationAfter = none ∧ fillProjectedFlat = false) then
    deployment
  else
    match deployment.futuresFlatConfirmationAfter with
    | some previous => deployment.withFlatConfirmation (some (max previous after))
    | none => deployment.withFlatConfirmation (some after)

/-- The duty touches one field. -/
theorem requireFuturesFlatConfirmation_eq (deployment : Deployment) (after : Time) (flat : Bool) :
    ∃ bound, requireFuturesFlatConfirmation deployment after flat =
      deployment.withFlatConfirmation bound := by
  unfold requireFuturesFlatConfirmation
  split
  · exact ⟨deployment.futuresFlatConfirmationAfter, rfl⟩
  · split
    · exact ⟨_, rfl⟩
    · exact ⟨_, rfl⟩

end Thytrader.Trading
