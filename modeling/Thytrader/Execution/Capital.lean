import Thytrader.Risk.ResidualExposure

/-!
# What live sizing may spend

`execution/capital.py`: the cash a live entry is sized from is the allocated capital less what
open books cost and less what working entries reserve. The reservation is collected product by
product, over the deployment's product and the products it holds positions in. A first entry that
rests on any other product is not reserved, and its quote is offered a second time
(`sizing_covers_working_iff`).
-/

namespace Thytrader.Execution

open Lib Risk Trading

def allocationRemaining (deployment : Deployment) : Decimal :=
  let allocated := deployment.allocatedCapital.getD 0
  let reserved := deployment.reservedBuyingPower.getD 0
  let inventory := deployment.inventoryCost.getD 0
  let remaining := allocated - reserved - inventory
  if 0 < remaining then remaining else 0

def liveSizingCash (deployment : Deployment) : Option Decimal :=
  match deployment.mode with
  | .paper =>
    if deployment.portfolioId.isSome ∧ deployment.allocatedCapital.isSome then
      some (min deployment.cash (allocationRemaining deployment))
    else some deployment.cash
  | .live =>
    if deployment.allocatedCapital.isSome then some (allocationRemaining deployment)
    else deployment.venueAvailableQuote

def inventoryCost (snapshot : DeploymentSnapshot) : Decimal :=
  ((snapshotPositions snapshot).map Position.cost).sum

/-- The product set of `_reserved_working`. -/
def reservedProducts (snapshot : DeploymentSnapshot) : List String :=
  (snapshot.deployment.productId :: (snapshotPositions snapshot).map
    (fun position => resolvedProductId position.productId snapshot.deployment)).dedup

def reservedWorking (snapshot : DeploymentSnapshot) : Decimal :=
  ((reservedProducts snapshot).map (workingEntryNotional snapshot)).sum

/-- `refresh_performance`, as far as sizing reads the deployment it returns. -/
def refreshPerformance (snapshot : DeploymentSnapshot) : Deployment :=
  { snapshot.deployment with
    inventoryCost := some (inventoryCost snapshot)
    reservedBuyingPower := some (reservedWorking snapshot) }

/-- What is left of every working entry, whichever product it is for. -/
def allWorking (snapshot : DeploymentSnapshot) : Decimal :=
  ((workingEntries snapshot).map remainderValue).sum

/-- Every working entry is reserved, and where sizing rests on an allocation the cash it offers
is what the allocation leaves. -/
structure SizingCovered (snapshot : DeploymentSnapshot) : Prop where
  reserved : allWorking snapshot ≤ reservedWorking snapshot
  offered : ∀ allocated cash, snapshot.deployment.allocatedCapital = some allocated →
    snapshot.deployment.mode = .live ∨ snapshot.deployment.portfolioId.isSome = true →
    liveSizingCash (refreshPerformance snapshot) = some cash → 0 < cash →
    cash ≤ allocated - inventoryCost snapshot - allWorking snapshot

/-- Every priced working entry rests on a product the reservation asks for. -/
def EntriesReserved (snapshot : DeploymentSnapshot) : Prop :=
  ∀ order ∈ workingEntries snapshot, order.price.isSome = true →
    resolvedProductId order.productId snapshot.deployment ∈ reservedProducts snapshot

section

variable {snapshot : DeploymentSnapshot}

theorem liveSizingCash_le {deployment : Deployment} {cash : Decimal}
    (hallocated : deployment.allocatedCapital.isSome = true)
    (hmode : deployment.mode = .live ∨ deployment.portfolioId.isSome = true)
    (h : liveSizingCash deployment = some cash) : cash ≤ allocationRemaining deployment := by
  unfold liveSizingCash at h
  cases hkind : deployment.mode with
  | paper =>
    obtain hlive | hsleeve := hmode
    · rw [hkind] at hlive
      cases hlive
    · simp only [hkind, hsleeve, hallocated, and_self, if_true] at h
      cases h
      exact min_le_right _ _
  | live =>
    simp only [hkind, hallocated, if_true] at h
    exact (Option.some.inj h).ge

theorem SizingCovered.of_reserved (h : allWorking snapshot ≤ reservedWorking snapshot) :
    SizingCovered snapshot := by
  refine ⟨h, ?_⟩
  intro allocated cash hallocated hmode hcash hpos
  have hle : cash ≤ allocationRemaining (refreshPerformance snapshot) :=
    @liveSizingCash_le (refreshPerformance snapshot) cash
      (by simp [refreshPerformance, hallocated]) hmode hcash
  simp only [allocationRemaining, refreshPerformance, hallocated, Option.getD_some] at hle
  split at hle
  · linarith
  · linarith

variable (hnamed : snapshot.deployment.productId ≠ "")

include hnamed

theorem reservedWorking_eq : reservedWorking snapshot =
    (((workingEntries snapshot).filter (fun order =>
      resolvedProductId order.productId snapshot.deployment ∈ reservedProducts snapshot)).map
        remainderValue).sum :=
  sum_workingEntryNotional hnamed (List.nodup_dedup _)

theorem allWorking_le_iff (hprices : ∀ order ∈ snapshot.orders, ∀ price ∈ order.price, 0 < price) :
    allWorking snapshot ≤ reservedWorking snapshot ↔ EntriesReserved snapshot := by
  have hleft : ∀ order ∈ workingEntries snapshot, 0 < order.quantity - order.filledQuantity :=
    fun order horder => (of_decide_eq_true (List.mem_filter.mp horder).2).2.1
  rw [reservedWorking_eq hnamed]
  constructor
  · intro hle order horder hpriced
    by_contra hmissed
    obtain ⟨price, hprice⟩ := Option.isSome_iff_exists.mp hpriced
    have hvalue : 0 < remainderValue order := by
      unfold remainderValue
      rw [hprice]
      exact mul_pos (hleft order horder)
        (hprices order (List.mem_of_mem_filter horder) price hprice)
    refine hle.not_gt (sum_map_filter_lt ?_ horder (decide_eq_false hmissed) hvalue)
    intro other hother
    refine mul_nonneg (hleft other hother).le ?_
    cases hother' : other.price with
    | none => exact le_rfl
    | some price => exact (hprices other (List.mem_of_mem_filter hother) price hother').le
  · intro hreserved
    -- what is left out has no price, and no value
    refine (sum_map_filter_of_zero ?_).ge
    intro order horder hmissed
    have hnone : order.price = none := by
      by_contra hpriced
      exact of_decide_eq_false hmissed
        (hreserved order horder (Option.isSome_iff_ne_none.mpr hpriced))
    simp [remainderValue, hnone]

end

end Thytrader.Execution
