import Thytrader.Lib.Dict
import Thytrader.Trading.FillLedger
import Mathlib.Data.List.Sort

/-!
# Recorded inventory

The predicates of `trading/fill_ledger.py` that compare recorded executions with
the projected books: fills whose economics are not settled, and products whose
applied inventory no position represents. Reporting and risk code refuse to
trust a book while one of them holds.

Mirroring notes: the dictionaries built by key keep the last value under a key,
as a comprehension does; `sorted` over product names is insertion sort by code
points. A set is the duplicate-free list of its elements.
-/

namespace Thytrader.Trading

open Lib

/-- `unsettled_fill_evidence`: recorded executions exceed applied economics. -/
def unsettledFillEvidence (snapshot : DeploymentSnapshot) : Bool :=
  if snapshot.fills.any (fun fill => fill.economicsAppliedAt = none) then true
  else
    snapshot.orders.any (fun order =>
      let applied :=
        ((snapshot.fills.filter (fun fill => fill.orderId = order.id)).map (·.quantity)).sum
      let executed :=
        if order.status = .filled then max order.quantity order.filledQuantity
        else order.filledQuantity
      applied < executed)

/-- `{order.id: order for order in snapshot.orders}`. -/
def ordersById (snapshot : DeploymentSnapshot) : Dict Uuid Order :=
  snapshot.orders.foldl (fun orders order => orders.set order.id order) Dict.empty

/-- The anchors of `unprojected_inventory_products`: per product, the first
creation time of an order that opened inventory. -/
def inventoryAnchors (snapshot : DeploymentSnapshot) : Dict String Time :=
  let entries := (snapshot.intents.filter (·.purpose.opensInventory)).map (·.id)
  let orders := ordersById snapshot
  snapshot.fills.foldl (fun anchors fill =>
    match orders.get? fill.orderId with
    | none => anchors
    | some order =>
      if fill.economicsAppliedAt = none ∨ order.intentId ∉ entries ∨
          order.kind.isVenueProtection then anchors
      else
        let productId := resolvedProductId order.productId snapshot.deployment
        anchors.set productId (min ((anchors.get? productId).getD order.createdAt) order.createdAt))
    Dict.empty

/-- `_anchored_inventory_balances`: net applied fills from the first owned entry
order of each anchored product. -/
def anchoredInventoryBalances (snapshot : DeploymentSnapshot) (orders : Dict Uuid Order)
    (anchors : Dict String Time) : Dict String Decimal :=
  snapshot.fills.foldl (fun balances fill =>
    match orders.get? fill.orderId with
    | none => balances
    | some order =>
      if fill.economicsAppliedAt = none then balances
      else
        let productId := resolvedProductId order.productId snapshot.deployment
        match anchors.get? productId with
        | none => balances
        | some anchor =>
          if order.createdAt < anchor then balances
          else
            balances.set productId
              ((balances.get? productId).getD 0 + order.side.signed fill.quantity))
    Dict.empty

/-- The signed quantity of every projected book, by product. -/
def signedPositions (snapshot : DeploymentSnapshot) : Dict String Decimal :=
  (snapshotPositions snapshot).foldl (fun positions position =>
    positions.set (resolvedProductId position.productId snapshot.deployment) position.signed)
    Dict.empty

/-- `unprojected_inventory_products`: owned applied inventory that the position
projection does not represent. -/
def unprojectedInventoryProducts (snapshot : DeploymentSnapshot) : List String :=
  let anchors := inventoryAnchors snapshot
  let balances := anchoredInventoryBalances snapshot (ordersById snapshot) anchors
  let positions := signedPositions snapshot
  ((anchors.entries.map Prod.fst).filter (fun productId =>
    let balance := (balances.get? productId).getD 0
    let position := (positions.get? productId).getD 0
    balance ≠ 0 ∧ (balance * position ≤ 0 ∨ |position| < |balance|))).insertionSort (· ≤ ·)

/-- The phases of a runtime that holds inventory. -/
def RuntimePhase.occupied : RuntimePhase → Bool
  | .open => true
  | .pendingExit => true
  | _ => false

/-- `missing_occupied_inventory_products`: occupied runtimes without a positive
projected book. -/
def missingOccupiedInventoryProducts (snapshot : DeploymentSnapshot) : List String :=
  let projected :=
    ((snapshotPositions snapshot).filter (fun position => 0 < position.quantity)).map
      (fun position => resolvedProductId position.productId snapshot.deployment)
  let missing :=
    ((snapshot.instrumentRuntimes.filter (fun runtime => runtime.phase.occupied)).map
      (fun runtime => resolvedProductId runtime.productId snapshot.deployment)).filter
        (fun productId => productId ∉ projected)
  let missing :=
    if projected = [] ∧ snapshot.deployment.phase.occupied then
      missing ++ [snapshot.deployment.productId]
    else missing
  missing.dedup.insertionSort (· ≤ ·)

end Thytrader.Trading
