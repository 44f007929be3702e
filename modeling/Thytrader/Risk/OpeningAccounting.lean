import Thytrader.Trading.Ledger

/-!
# The UTC day's opening

`risk/opening_accounting.py`: midnight cash and inventory rebuilt from exact
applied fills and funding, valued at recorded midnight marks. Anything that does
not add up — an orphan or future fill, an order whose fills are incomplete, a
cash or position projection that disagrees — leaves the opening unknown.

Mirroring notes: `Decimal` is exact and every instant is aware, so the finiteness and time-zone
tests hold. The replay's SHA-256 fingerprint decides nothing and is left out. Dictionaries of
quantities are compared without their zero entries, as functions.
-/

namespace Thytrader.Risk

open Lib Trading

/-- `utc_day_start`: the UTC midnight that begins the day of an instant. -/
def utcDayStart (moment : Time) : Time :=
  let day : Duration := 24 * 3600 * 1000000
  moment / day * day

structure OpeningReplay where
  dayCashChange : Decimal
  midnightQuantities : Dict String Decimal
  includesFunding : Bool := false

def fillEconomicsQualified (fill : Fill) (order : Order) (asOf : Time) : Bool :=
  fill.deploymentId = order.deploymentId ∧ 0 < fill.quantity ∧ 0 < fill.price ∧ 0 ≤ fill.fee ∧
    fill.economicsAppliedAt.isSome ∧ fill.filledAt ≤ asOf

/-- `_orders_covered`: filled order quantities have matching complete fill records. -/
def ordersCovered (snapshot : DeploymentSnapshot) (asOf : Time) : Bool :=
  let orders := ordersById snapshot
  (snapshot.fills.map (·.venueFillId)).Nodup ∧
    snapshot.fills.all (fun fill =>
      (orders.get? fill.orderId).any (fun order => fillEconomicsQualified fill order asOf)) ∧
    snapshot.orders.all (fun order =>
      order.deploymentId = snapshot.deployment.id ∧
        ((snapshot.fills.filter (fun fill => fill.orderId = order.id)).map (·.quantity)).sum =
          order.filledQuantity)

def fundingQualified (flow : FundingCashFlow) (snapshot : DeploymentSnapshot) (asOf : Time) :
    Bool :=
  flow.deploymentId = snapshot.deployment.id ∧ flow.fundingTime ≤ asOf

/-- What the loops of `opening_replay` accumulate. -/
structure ReplayTotals where
  current : Dict String Decimal := Dict.empty
  midnight : Dict String Decimal := Dict.empty
  cashChange : Decimal := 0
  dayCashChange : Decimal := 0

/-- `quantities[product] = quantities.get(product, 0) + quantity`. -/
def addQuantity (quantities : Dict String Decimal) (product : String) (quantity : Decimal) :
    Dict String Decimal :=
  quantities.set product ((quantities.get? product).getD 0 + quantity)

/-- One fill of `opening_replay`. -/
def replayFill (snapshot : DeploymentSnapshot) (asOf : Time) (totals : ReplayTotals)
    (fill : Fill) : Option ReplayTotals :=
  match (ordersById snapshot).get? fill.orderId with
  | none => none
  | some order =>
    if fillEconomicsQualified fill order asOf = false then none
    else
      let product := resolvedProductId order.productId snapshot.deployment
      let quantity := order.side.signed fill.quantity
      let delta := -quantity * fill.price - fill.fee
      let counted :=
        { totals with
          current := addQuantity totals.current product quantity
          cashChange := totals.cashChange + delta }
      if fill.filledAt < utcDayStart asOf then
        some { counted with midnight := addQuantity totals.midnight product quantity }
      else some { counted with dayCashChange := totals.dayCashChange + delta }

/-- One funding hour of `opening_replay`. -/
def replayFunding (snapshot : DeploymentSnapshot) (asOf : Time) (totals : ReplayTotals)
    (flow : FundingCashFlow) : Option ReplayTotals :=
  if fundingQualified flow snapshot asOf = false then none
  else
    let counted := { totals with cashChange := totals.cashChange + flow.amount }
    if utcDayStart asOf ≤ flow.fundingTime then
      some { counted with dayCashChange := totals.dayCashChange + flow.amount }
    else some counted

/-- `_projection_matches`: recorded cash and positions agree with applied economics. -/
def projectionMatches (snapshot : DeploymentSnapshot) (quantities : Dict String Decimal)
    (cashChange : Decimal) : Bool :=
  let projected := (snapshotPositions snapshot).foldl (fun projected position =>
    addQuantity projected (resolvedProductId position.productId snapshot.deployment)
      position.signed) Dict.empty
  let initial := snapshot.deployment.initialEquity.or snapshot.deployment.paperStartingCash
  ((quantities.entries ++ projected.entries).map Prod.fst).all (fun product =>
    (quantities.get? product).getD 0 = (projected.get? product).getD 0) ∧
    initial.all (fun amount => snapshot.deployment.cash = amount + cashChange)

def openingReplay (snapshot : DeploymentSnapshot) (asOf : Time) : Option OpeningReplay :=
  if accountingResolved snapshot = false ∨ ordersCovered snapshot asOf = false then none
  else do
    let filled ← snapshot.fills.foldlM (replayFill snapshot asOf) {}
    let totals ← snapshot.funding.foldlM (replayFunding snapshot asOf) filled
    if projectionMatches snapshot totals.current totals.cashChange then
      return {
        dayCashChange := totals.dayCashChange
        midnightQuantities := totals.midnight
        includesFunding := snapshot.funding ≠ [] }
    else none

/-- `DailyOpeningEvidence`, without the fingerprint of its rows. -/
structure DayOpen where
  source : OpeningSource
  dayStart : Time
  equity : Decimal
  marks : List MidnightMark

/-- The valuation loop of `reconstruct_day_open`. -/
def valueMidnight (available : Dict String MidnightMark) (equity : Decimal)
    (marks : List MidnightMark) : List (String × Decimal) → Option (Decimal × List MidnightMark)
  | [] => some (equity, marks)
  | (product, quantity) :: rest =>
    if quantity = 0 then valueMidnight available equity marks rest
    else
      match available.get? product with
      | none => none
      | some mark =>
        valueMidnight available (equity + quantity * mark.price) (marks ++ [mark]) rest

/-- `reconstruct_day_open`: genuine midnight equity, from recorded midnight marks only. -/
def reconstructDayOpen (snapshot : DeploymentSnapshot) (asOf : Time)
    (marks : List MidnightMark := []) : Option DayOpen := do
  let replay ← openingReplay snapshot asOf
  let dayStart := utcDayStart asOf
  let stored := (snapshot.deployment.riskDayOpenEvidence.map (·.marks)).getD []
  let available := ((stored ++ marks).filter (fun mark => mark.closesAt = dayStart)).foldl
    (fun available mark => available.set mark.productId mark) Dict.empty
  let quantities := replay.midnightQuantities.entries.insertionSort (fun a b => a.1 ≤ b.1)
  let (equity, midnightMarks) ← valueMidnight available
    (snapshot.deployment.cash - replay.dayCashChange) [] quantities
  return {
    source := if replay.includesFunding then .perProductAppliedFillsAndFunding
      else .perProductAppliedFills
    dayStart
    equity
    marks := midnightMarks }

end Thytrader.Risk
