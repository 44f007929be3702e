import Thytrader.Trading.Protection

/-!
# The deployment ledger

`trading/ledger.py` and `trading/performance.py`: mark-to-market statistics of
one deployment from its recorded fills. Fills are joined to their orders, folded
into an average-cost lot, and compared with the stored cash and positions.

Mirroring notes: the fold raises when it divides by zero, so it returns a
`Result`; every other division is guarded. `Decimal` is exact, so `is_finite` is
always true. The text renderings of the ledger's numbers are left out.
-/

namespace Thytrader.Trading

open Lib

/-! ## Records -/

/-- `LedgerFill`: one fill with its order's side. -/
structure LedgerFill where
  side : OrderSide
  price : Decimal
  quantity : Decimal
  fee : Decimal
  filledAt : Time
  deriving DecidableEq

structure ProductBookLedger where
  productId : String
  baseQuantity : Option Decimal
  markPrice : Option Decimal
  realizedNetPnl : Decimal
  unrealizedNetPnl : Option Decimal
  totalNetPnl : Option Decimal
  tradeCount : Nat
  markComplete : Bool
  deriving DecidableEq

structure DeploymentLedger where
  startingCash : Decimal
  cash : Decimal
  baseQuantity : Option Decimal
  markPrice : Option Decimal
  equity : Option Decimal
  realizedNetPnl : Decimal
  unrealizedNetPnl : Option Decimal
  totalNetPnl : Option Decimal
  totalReturnFraction : Option Decimal
  totalFees : Decimal
  maximumDrawdown : Option Decimal
  maximumDrawdownFraction : Option Decimal
  tradeCount : Nat
  markComplete : Bool
  books : List ProductBookLedger := []
  markedExposure : Option Decimal := none
  accountingComplete : Bool := true
  deriving DecidableEq

/-- `_LotState`: the open lot while fills are folded. -/
structure LotState where
  quantity : Decimal
  entryPrice : Option Decimal
  entryFees : Decimal
  realized : Decimal
  tradeCount : Nat
  deriving DecidableEq

def LotState.empty : LotState := ⟨0, none, 0, 0, 0⟩

/-! ## Paper fees -/

def paperMakerFeeRate : Decimal := 1 / 1000

def paperTakerFeeRate : Decimal := 2 / 1000

/-- `effective_paper_fee_rates`: stored rates, or the documented defaults. -/
def effectivePaperFeeRates (makerFeeRate takerFeeRate : Option Decimal) : Decimal × Decimal :=
  match makerFeeRate, takerFeeRate with
  | some maker, some taker => (maker, taker)
  | _, _ => (paperMakerFeeRate, paperTakerFeeRate)

/-! ## Folding fills -/

def LotState.flatten (state : LotState) : LotState :=
  ⟨0, none, 0, state.realized, state.tradeCount + 1⟩

def LotState.opened (state : LotState) (fill : LedgerFill) (quantity : Decimal) : LotState :=
  { state with quantity, entryPrice := some fill.price, entryFees := fill.fee }

/-- `_fold_buy`: open or add to a long, or cover a short without flipping. -/
def foldBuy (state : LotState) (fill : LedgerFill) : Result LotState :=
  if state.quantity = 0 then .ok (state.opened fill fill.quantity)
  else if 0 < state.quantity then do
    let combined := state.quantity + fill.quantity
    let basis := state.entryPrice.getD fill.price
    let entryPrice ← divide (basis * state.quantity + fill.price * fill.quantity) combined
    return { state with
      quantity := combined
      entryPrice := some entryPrice
      entryFees := state.entryFees + fill.fee }
  else do
    let covered := min fill.quantity (-state.quantity)
    let (realized, entryFees) ←
      match state.entryPrice with
      | none => pure (state.realized, state.entryFees)
      | some entryPrice => do
        let allocated ← divide (state.entryFees * covered) (-state.quantity)
        let feeShare ← divide (fill.fee * covered) fill.quantity
        pure (state.realized +
          (entryPrice * covered - fill.price * covered - feeShare - allocated),
          state.entryFees - allocated)
    let quantity := state.quantity + fill.quantity
    let updated := { state with quantity, entryFees, realized }
    return if 0 ≤ quantity then updated.flatten else updated

/-- `_fold_sell`: open or add to a short, or reduce a long without flipping. -/
def foldSell (state : LotState) (fill : LedgerFill) : Result LotState :=
  let exitNotional := fill.price * fill.quantity
  if state.quantity = 0 then .ok (state.opened fill (-fill.quantity))
  else if state.quantity < 0 then do
    let combined := -state.quantity + fill.quantity
    let basis := state.entryPrice.getD fill.price
    let entryPrice ← divide (basis * -state.quantity + fill.price * fill.quantity) combined
    return { state with
      quantity := state.quantity - fill.quantity
      entryPrice := some entryPrice
      entryFees := state.entryFees + fill.fee }
  else do
    let (realized, entryFees) ←
      match state.entryPrice with
      | none => pure (state.realized, state.entryFees)
      | some entryPrice => do
        let allocated ← divide (state.entryFees * fill.quantity) state.quantity
        pure (state.realized + (exitNotional - fill.fee - entryPrice * fill.quantity) - allocated,
          state.entryFees - allocated)
    let quantity := state.quantity - fill.quantity
    let updated := { state with quantity, entryFees, realized }
    return if quantity ≤ 0 then updated.flatten else updated

def foldFill (state : LotState) (fill : LedgerFill) : Result LotState :=
  match fill.side with
  | .buy => foldBuy state fill
  | .sell => foldSell state fill

/-- The loop of `_fold_fills`: the lot, the replayed cash and the equities so far. -/
def foldFillsFrom (state : LotState) (cash : Decimal) (equities : List Decimal) :
    List LedgerFill → Result (LotState × List Decimal)
  | [] => .ok (state, equities)
  | fill :: rest => do
    let notional := fill.price * fill.quantity
    let cash := match fill.side with
      | .buy => cash - (notional + fill.fee)
      | .sell => cash + (notional - fill.fee)
    let next ← foldFill state fill
    foldFillsFrom next cash (equities ++ [cash + next.quantity * fill.price]) rest

def foldFills (startingCash : Decimal) (fills : List LedgerFill) :
    Result (LotState × List Decimal) :=
  foldFillsFrom .empty startingCash [startingCash] fills

/-! ## Joining fills to orders -/

/-- `_fill_sort_key`: time, then venue fill id. -/
def filledBefore (left right : Fill) : Prop :=
  left.filledAt < right.filledAt ∨
    (left.filledAt = right.filledAt ∧ left.venueFillId ≤ right.venueFillId)

instance : DecidableRel filledBefore := fun _ _ => inferInstanceAs (Decidable (_ ∨ _))

/-- `sorted(snapshot.fills, key=_fill_sort_key)`. -/
def sortedFills (snapshot : DeploymentSnapshot) : List Fill :=
  snapshot.fills.insertionSort filledBefore

def ledgerFill (order : Order) (fill : Fill) : LedgerFill :=
  { side := order.side
    price := fill.price
    quantity := fill.quantity
    fee := fill.fee
    filledAt := fill.filledAt }

def ledgerFillsFromSnapshot (snapshot : DeploymentSnapshot) : List LedgerFill :=
  (sortedFills snapshot).filterMap (fun fill =>
    ((ordersById snapshot).get? fill.orderId).map (fun order => ledgerFill order fill))

def ledgerFillsForProduct (snapshot : DeploymentSnapshot) (productId : String) :
    List LedgerFill :=
  let orderIds := (snapshot.orders.filter (fun order =>
    resolvedProductId order.productId snapshot.deployment = productId)).map (·.id)
  let orders := (snapshot.orders.filter (fun order => order.id ∈ orderIds)).foldl
    (fun orders order => orders.set order.id order) (Dict.empty : Dict Uuid Order)
  (sortedFills snapshot).filterMap (fun fill =>
    if fill.orderId ∈ orderIds then
      (orders.get? fill.orderId).map (fun order => ledgerFill order fill)
    else none)

/-! ## Performance -/

def ledgerStartingEquity (deployment : Deployment) : Decimal :=
  match deployment.initialEquity with
  | some equity => equity
  | none => deployment.paperStartingCash.getD 0

/-- `performance_capital`: a fixed positive budget. -/
def performanceCapital (deployment : Deployment) : Option Decimal :=
  match deployment.performanceCapitalQuote with
  | some pinned => if 0 < pinned then some pinned else none
  | none =>
    [deployment.initialEquity, deployment.paperStartingCash, deployment.allocatedCapital,
      if deployment.mode = .live then deployment.venueAvailableQuote else none].findSome?
        (fun value => value.filter (fun amount => 0 < amount))

def currentDrawdown (deployment : Deployment) (ledgerEquity : Decimal) : Option Decimal :=
  match performanceCapital deployment with
  | none => none
  | some capital =>
    let starting := ledgerStartingEquity deployment
    let peak := max (deployment.highWaterMarkEquity.getD starting) ledgerEquity
    let fundedPeak := capital + peak - starting
    if fundedPeak ≤ 0 then none else some ((peak - ledgerEquity) / fundedPeak)

/-- The running peak, drawdown and drawdown fraction of `_drawdown`. -/
def drawdownStep (state : Decimal × Decimal × Decimal) (equity : Decimal) :
    Decimal × Decimal × Decimal :=
  let peak := max state.1 equity
  if peak ≤ 0 then (peak, state.2)
  else (peak, max state.2.1 (peak - equity), max state.2.2 ((peak - equity) / peak))

/-- `_drawdown`: exact absolute and fractional maximum drawdown. -/
def drawdown (equities : List Decimal) : Option Decimal × Option Decimal :=
  match equities with
  | [] => (none, none)
  | first :: _ =>
    let state := equities.foldl drawdownStep (first, 0, 0)
    (some state.2.1, some state.2.2)

/-! ## Marked ledgers -/

def markDeploymentLedger (startingCash cash : Decimal) (fills : List LedgerFill)
    (positionQuantity : Decimal) (positionEntryPrice markPrice : Option Decimal) :
    Result DeploymentLedger := do
  let (lot, fillEquities) ← foldFills startingCash fills
  let baseQuantity := if positionQuantity = 0 then lot.quantity else positionQuantity
  let entryPrice := if positionQuantity ≠ 0 then positionEntryPrice else lot.entryPrice
  let (unrealized, equity) : Option Decimal × Option Decimal :=
    if baseQuantity = 0 then (some 0, some cash)
    else
      match markPrice, entryPrice with
      | some mark, some entry =>
        (some (baseQuantity * (mark - entry)), some (cash + baseQuantity * mark))
      | _, _ => (none, none)
  let totalNetPnl := equity.map (· - startingCash)
  let (maximumDrawdown, maximumDrawdownFraction) := drawdown (fillEquities ++ equity.toList)
  return {
    startingCash
    cash
    baseQuantity := some baseQuantity
    markPrice
    equity
    realizedNetPnl := lot.realized
    unrealizedNetPnl := unrealized
    totalNetPnl
    totalReturnFraction := if 0 < startingCash then totalNetPnl.map (· / startingCash) else none
    totalFees := (fills.map (·.fee)).sum
    maximumDrawdown
    maximumDrawdownFraction
    tradeCount := lot.tradeCount
    markComplete := baseQuantity = 0 ∨ markPrice.isSome }

def productBookLedger (productId : String) (ledger : DeploymentLedger) : ProductBookLedger :=
  { productId
    baseQuantity := ledger.baseQuantity
    markPrice := ledger.markPrice
    realizedNetPnl := ledger.realizedNetPnl
    unrealizedNetPnl := ledger.unrealizedNetPnl
    totalNetPnl := ledger.totalNetPnl
    tradeCount := ledger.tradeCount
    markComplete := ledger.markComplete }

def setDefault (marks : Dict String Decimal) (productId : String) (mark : Decimal) :
    Dict String Decimal :=
  if marks.contains productId then marks else marks.set productId mark

def resolveMarks (deployment : Deployment) (marks : Option (Dict String Decimal))
    (markPrice : Option Decimal) (positions : List Position) : Dict String Decimal :=
  let resolved := marks.getD Dict.empty
  match markPrice with
  | none => resolved
  | some mark =>
    positions.foldl (fun resolved position =>
      setDefault resolved (resolvedProductId position.productId deployment) mark)
      (setDefault resolved deployment.productId mark)

/-- `_single_book_ledger`: the one position's own fills, or every fill when there is none. -/
def singleBookLedger (snapshot : DeploymentSnapshot) (startingCash cash : Decimal)
    (positions : List Position) (marksMap : Dict String Decimal) (markPrice : Option Decimal) :
    Result DeploymentLedger :=
  let deployment := snapshot.deployment
  match positions.head?.or snapshot.position with
  | none =>
    let mark := (marksMap.get? deployment.productId).or markPrice
    markDeploymentLedger startingCash cash (ledgerFillsFromSnapshot snapshot) 0 none mark
  | some position => do
    let productId := resolvedProductId position.productId deployment
    let quantity := position.signed
    let mark := (marksMap.get? productId).or
      (if productId = deployment.productId then markPrice else none)
    let ledger ← markDeploymentLedger startingCash cash (ledgerFillsForProduct snapshot productId)
      quantity (some position.entryPrice) mark
    return { ledger with
      books := if quantity ≠ 0 then [productBookLedger productId ledger] else []
      markedExposure := if quantity ≠ 0 then mark.map (quantity * ·) else none }

/-- What `_multi_book_ledger` accumulates over the positions. -/
structure BookTotals where
  books : List ProductBookLedger := []
  markedExposure : Decimal := 0
  unrealized : Decimal := 0
  markComplete : Bool := true
  needsMark : Bool := false
  primaryQuantity : Decimal := 0
  primaryMark : Option Decimal := none

/-- One position of the loop of `_multi_book_ledger`. -/
def addBook (snapshot : DeploymentSnapshot) (startingCash cash : Decimal)
    (marksMap : Dict String Decimal) (totals : BookTotals) (position : Position) :
    Result BookTotals := do
  let productId := resolvedProductId position.productId snapshot.deployment
  let quantity := position.signed
  let book ← markDeploymentLedger startingCash cash (ledgerFillsForProduct snapshot productId)
    quantity (some position.entryPrice) (marksMap.get? productId)
  let listed := { totals with books := totals.books ++ [productBookLedger productId book] }
  if quantity = 0 then return listed
  else
    match marksMap.get? productId with
    | none => return { listed with needsMark := true, markComplete := false }
    | some mark =>
      let marked :=
        { listed with
          needsMark := true
          markedExposure := totals.markedExposure + quantity * mark
          unrealized := totals.unrealized + book.unrealizedNetPnl.getD 0 }
      if productId = snapshot.deployment.productId then
        return { marked with primaryQuantity := quantity, primaryMark := some mark }
      else return marked

/-- The loop of `_multi_book_ledger`. -/
def addBooks (snapshot : DeploymentSnapshot) (startingCash cash : Decimal)
    (marksMap : Dict String Decimal) (totals : BookTotals) :
    List Position → Result BookTotals
  | [] => .ok totals
  | position :: rest => do
    let next ← addBook snapshot startingCash cash marksMap totals position
    addBooks snapshot startingCash cash marksMap next rest

/-- `_multi_book_ledger`: per-product books that share one cash balance. -/
def multiBookLedger (snapshot : DeploymentSnapshot) (startingCash cash : Decimal)
    (positions : List Position) (marksMap : Dict String Decimal) : Result DeploymentLedger := do
  let allFills := ledgerFillsFromSnapshot snapshot
  let (lot, fillEquities) ← foldFills startingCash allFills
  let totals ← addBooks snapshot startingCash cash marksMap {} positions
  let equity : Option Decimal :=
    if totals.needsMark = false then some cash
    else if totals.markComplete then some (cash + totals.markedExposure)
    else none
  let totalNetPnl := equity.map (· - startingCash)
  let (maximumDrawdown, maximumDrawdownFraction) := drawdown (fillEquities ++ equity.toList)
  let (primaryQuantity, primaryMark) : Option Decimal × Option Decimal :=
    if totals.primaryQuantity ≠ 0 then (some totals.primaryQuantity, totals.primaryMark)
    else
      match totals.books with
      | [] => (some totals.primaryQuantity, totals.primaryMark)
      | book :: _ => (book.baseQuantity, book.markPrice)
  return {
    startingCash
    cash
    baseQuantity := primaryQuantity
    markPrice := primaryMark
    equity
    realizedNetPnl := lot.realized
    unrealizedNetPnl := if totals.markComplete then some totals.unrealized else none
    totalNetPnl
    totalReturnFraction := if 0 < startingCash then totalNetPnl.map (· / startingCash) else none
    totalFees := (allFills.map (·.fee)).sum
    maximumDrawdown
    maximumDrawdownFraction
    tradeCount := lot.tradeCount
    markComplete := totals.markComplete
    books := totals.books
    markedExposure := if totals.markComplete then some totals.markedExposure else none }

/-! ## The ledger of a snapshot -/

/-- The evidence checks of `_inventory_checked_ledger`. -/
def accountingResolved (snapshot : DeploymentSnapshot) : Bool :=
  snapshot.accountingComplete ∧ unprojectedInventoryProducts snapshot = [] ∧
    missingOccupiedInventoryProducts snapshot = [] ∧ unsettledFillEvidence snapshot = false

/-- `_inventory_checked_ledger`: never certify unresolved account totals. -/
def inventoryCheckedLedger (snapshot : DeploymentSnapshot) (ledger : DeploymentLedger) :
    DeploymentLedger :=
  if accountingResolved snapshot then ledger
  else
    { ledger with
      baseQuantity := none
      equity := none
      unrealizedNetPnl := none
      totalNetPnl := none
      totalReturnFraction := none
      maximumDrawdown := none
      maximumDrawdownFraction := none
      markComplete := false
      markedExposure := none
      books := ledger.books.map (fun book =>
        if bookInventoryReasons snapshot book.productId ≠ [] then
          { book with
            baseQuantity := none
            unrealizedNetPnl := none
            totalNetPnl := none
            markComplete := false }
        else book)
      accountingComplete := false }

/-- The replay of `_capital_fill_equities`: cash, quantities, last prices, equities. -/
structure EquityReplay where
  cash : Decimal
  quantities : Dict String Decimal := Dict.empty
  prices : Dict String Decimal := Dict.empty
  equities : List Decimal

/-- One fill of `_capital_fill_equities`. -/
def replayEquity (snapshot : DeploymentSnapshot) (replay : EquityReplay) (fill : Fill) :
    EquityReplay :=
  match (ordersById snapshot).get? fill.orderId with
  | none => replay
  | some order =>
    let productId := resolvedProductId order.productId snapshot.deployment
    let signed := order.side.signed fill.quantity
    let cash := replay.cash - (signed * fill.price + fill.fee)
    let quantities :=
      replay.quantities.set productId ((replay.quantities.get? productId).getD 0 + signed)
    let prices := replay.prices.set productId fill.price
    let inventory :=
      (quantities.entries.map (fun entry => entry.2 * (prices.get? entry.1).getD 0)).sum
    { cash, quantities, prices, equities := replay.equities ++ [cash + inventory] }

/-- `_capital_fill_equities`: each product marked at its own last fill price. -/
def capitalFillEquities (snapshot : DeploymentSnapshot) (capital : Decimal) : List Decimal :=
  ((sortedFills snapshot).foldl (replayEquity snapshot)
    { cash := capital, equities := [capital] }).equities

/-- `_capital_normalized_ledger`: percentages on the capital budget. -/
def capitalNormalizedLedger (snapshot : DeploymentSnapshot) (ledger : DeploymentLedger) :
    DeploymentLedger :=
  let unknown := { ledger with totalReturnFraction := none, maximumDrawdownFraction := none }
  match performanceCapital snapshot.deployment, ledger.markComplete, ledger.equity with
  | some capital, true, some equity =>
    let curve := capitalFillEquities snapshot capital ++ [capital + equity - ledger.startingCash]
    let (absolute, fraction) := drawdown curve
    let observed := currentDrawdown snapshot.deployment equity
    { ledger with
      totalReturnFraction := ledger.totalNetPnl.map (· / capital)
      maximumDrawdown := absolute
      maximumDrawdownFraction := some (max (max (fraction.getD 0) (observed.getD 0))
        (snapshot.deployment.performanceMaximumDrawdownFraction.getD 0)) }
  | _, _, _ => unknown

def ledgerFromSnapshot (snapshot : DeploymentSnapshot) (marks : Option (Dict String Decimal))
    (markPrice : Option Decimal) : Result DeploymentLedger := do
  let deployment := snapshot.deployment
  let starting := ledgerStartingEquity deployment
  let positions := snapshotPositions snapshot
  let marksMap := resolveMarks deployment marks markPrice positions
  let ledger ←
    if positions.length ≤ 1 then
      singleBookLedger snapshot starting deployment.cash positions marksMap markPrice
    else multiBookLedger snapshot starting deployment.cash positions marksMap
  return capitalNormalizedLedger snapshot (inventoryCheckedLedger snapshot ledger)

end Thytrader.Trading
