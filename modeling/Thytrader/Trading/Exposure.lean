import Thytrader.Lib.Checks
import Thytrader.Trading.Protection

/-!
# Exposure

`trading/exposure.py` and the slot test of `trading/lifecycle.py`: what a book
has at risk, product by product, and which books still bear risk.

The source measures one product of one book at a time (`productExposure`), and an order that names
no product at all counts under every product asked about. `exposureOf` states the measure once for a
whole book. On a book whose deployment names its product the two agree (`productExposure_eq`), and a
total taken over distinct products is the exposure in those products (`sum_productExposure`).
-/

namespace Thytrader.Trading

open Lib List

def RuntimePhase.inMarket : RuntimePhase → Bool
  | .open => true
  | .pendingEntry => true
  | .pendingExit => true
  | .flat => false

/-- `_OCCUPIED`, `_RUNNING_SLOT`. -/
def DeploymentStatus.occupied : DeploymentStatus → Bool
  | .running => true
  | .paused => true
  | .stopped => false

def occupiesRunningSlot (deployment : Deployment) : Bool := deployment.status.occupied

/-- The orders `working_entry_notional` adds up for one product. -/
def reservesQuote (snapshot : DeploymentSnapshot) (productId : String) (order : Order) : Bool :=
  let purposes := intentPurposes snapshot
  order.status.active ∧ order.price.isSome ∧
    resolvedProductId order.productId snapshot.deployment ∈ ["", productId] ∧
    0 < order.quantity - order.filledQuantity ∧ order.kind.isVenueProtection = false ∧
    -- Missing intent evidence reserves quote rather than hiding an entry.
    (purposes.get? order.intentId).getD .entry = .entry

def remainderValue (order : Order) : Decimal :=
  (order.quantity - order.filledQuantity) * order.price.getD 0

/-- `working_entry_notional`: active entry remainders, without exits and protection. -/
def workingEntryNotional (snapshot : DeploymentSnapshot) (productId : String) : Decimal :=
  ((snapshot.orders.filter (reservesQuote snapshot productId)).map remainderValue).sum

def Position.cost (position : Position) : Decimal := position.quantity * position.entryPrice

/-- `product_exposure`: position cost plus the working entry remainder of one product. -/
def productExposure (snapshot : DeploymentSnapshot) (productId : String) : Decimal :=
  (((snapshotPositions snapshot).filter (fun position =>
    resolvedProductId position.productId snapshot.deployment = productId)).map
      Position.cost).sum + workingEntryNotional snapshot productId

def snapshotHasResidualExposure (snapshot : DeploymentSnapshot) : Bool :=
  if snapshotPositions snapshot ≠ [] then true
  else if snapshot.instrumentRuntimes ≠ [] then
    snapshot.instrumentRuntimes.any (fun runtime => runtime.phase.inMarket) ||
      snapshot.instrumentRuntimes.any
        (fun runtime => 0 < workingEntryNotional snapshot runtime.productId)
  else
    snapshot.deployment.phase.inMarket || snapshot.position.isSome ||
      decide (0 < workingEntryNotional snapshot snapshot.deployment.productId)

def bearsRisk (mode : DeploymentMode) (snapshot : DeploymentSnapshot) : Bool :=
  snapshot.deployment.mode = mode ∧
    (snapshot.deployment.status.occupied ∨
      (snapshot.deployment.status = .stopped ∧ snapshotHasResidualExposure snapshot))

def riskBearingSnapshots (snapshots : List DeploymentSnapshot) (mode : DeploymentMode) :
    List DeploymentSnapshot :=
  snapshots.filter (bearsRisk mode)

/-- `counts_for_daily_loss`: every status keeps its evidence of the day's loss. -/
def countsForDailyLoss : DeploymentStatus → Bool
  | .running => true
  | .paused => true
  | .stopped => true

def dailyLossSnapshots (snapshots : List DeploymentSnapshot) (mode : DeploymentMode) :
    List DeploymentSnapshot :=
  snapshots.filter (fun item =>
    item.deployment.mode = mode ∧ countsForDailyLoss item.deployment.status)

/-! ## Each row once -/

def workingEntry (snapshot : DeploymentSnapshot) (order : Order) : Bool :=
  order.status.active ∧ 0 < order.quantity - order.filledQuantity ∧
    order.kind.isVenueProtection = false ∧
    ((intentPurposes snapshot).get? order.intentId).getD .entry = .entry

def workingEntries (snapshot : DeploymentSnapshot) : List Order :=
  snapshot.orders.filter (workingEntry snapshot)

/-- A book's exposure in the products `counts` selects: the cost of its positions plus the remainder
of every working entry. Only reducing orders are sent unpriced, and these have no quote value. -/
def exposureOf (counts : String → Bool) (snapshot : DeploymentSnapshot) : Decimal :=
  (((snapshotPositions snapshot).filter (fun position =>
    counts (resolvedProductId position.productId snapshot.deployment))).map Position.cost).sum +
  (((workingEntries snapshot).filter (fun order =>
    counts (resolvedProductId order.productId snapshot.deployment))).map remainderValue).sum

/-- A deployment that names its product leaves no row without one. -/
theorem resolvedProductId_ne_blank {deployment : Deployment} (hnamed : deployment.productId ≠ "")
    (productId : String) : resolvedProductId productId deployment ≠ "" := by
  unfold resolvedProductId
  by_cases h : productId = ""
  · rw [h, orBlank_empty]
    exact hnamed
  · rw [orBlank_of_ne h]
    exact h

section

variable {snapshot : DeploymentSnapshot} (hnamed : snapshot.deployment.productId ≠ "")

include hnamed

theorem workingEntryNotional_eq (productId : String) :
    workingEntryNotional snapshot productId =
      (((workingEntries snapshot).filter (fun order =>
        resolvedProductId order.productId snapshot.deployment = productId)).map
          remainderValue).sum := by
  have hreserves : ∀ order : Order, reservesQuote snapshot productId order =
      (order.price.isSome && (decide (resolvedProductId order.productId snapshot.deployment =
        productId) && workingEntry snapshot order)) := by
    intro order
    have hne := resolvedProductId_ne_blank hnamed order.productId
    simp only [reservesQuote, workingEntry, mem_cons, not_mem_nil, or_false, hne,
      false_or, Bool.decide_and, Bool.decide_eq_true]
    ac_rfl
  unfold workingEntryNotional workingEntries
  rw [filter_filter, funext hreserves, ← filter_filter]
  -- An unpriced order has no value, so leaving it out changes nothing.
  refine sum_map_filter_of_zero ?_
  intro order _ hprice
  have hnone : order.price = none := by simpa using hprice
  simp [remainderValue, hnone]

theorem productExposure_eq (productId : String) :
    productExposure snapshot productId = exposureOf (fun product => product = productId) snapshot := by
  unfold productExposure exposureOf
  rw [workingEntryNotional_eq hnamed]

variable {products : List String}

theorem sum_productExposure (hnodup : products.Nodup) :
    (products.map (productExposure snapshot)).sum =
      exposureOf (fun product => product ∈ products) snapshot := by
  have hsplit : ∀ productId, productExposure snapshot productId =
      (((snapshotPositions snapshot).filter (fun position =>
        resolvedProductId position.productId snapshot.deployment = productId)).map
          Position.cost).sum +
      (((workingEntries snapshot).filter (fun order =>
        resolvedProductId order.productId snapshot.deployment = productId)).map
          remainderValue).sum := productExposure_eq hnamed
  rw [funext hsplit, sum_map_add, sum_map_sum_filter _ _ _ hnodup, sum_map_sum_filter _ _ _ hnodup]
  rfl

theorem sum_workingEntryNotional (hnodup : products.Nodup) :
    (products.map (workingEntryNotional snapshot)).sum =
      (((workingEntries snapshot).filter (fun order =>
        resolvedProductId order.productId snapshot.deployment ∈ products)).map
          remainderValue).sum := by
  rw [funext (workingEntryNotional_eq hnamed), sum_map_sum_filter _ _ _ hnodup]

end

/-- Two selections that agree on the products of the book's rows measure the same. -/
theorem exposureOf_congr {snapshot : DeploymentSnapshot} {counts counts' : String → Bool}
    (hpositions : ∀ position ∈ snapshotPositions snapshot,
      counts (resolvedProductId position.productId snapshot.deployment) =
        counts' (resolvedProductId position.productId snapshot.deployment))
    (horders : ∀ order ∈ snapshot.orders,
      counts (resolvedProductId order.productId snapshot.deployment) =
        counts' (resolvedProductId order.productId snapshot.deployment)) :
    exposureOf counts snapshot = exposureOf counts' snapshot := by
  have hentries : ∀ order ∈ workingEntries snapshot,
      counts (resolvedProductId order.productId snapshot.deployment) =
        counts' (resolvedProductId order.productId snapshot.deployment) :=
    fun order hmem => horders order (mem_of_mem_filter hmem)
  unfold exposureOf
  rw [filter_congr hpositions, filter_congr hentries]

end Thytrader.Trading
