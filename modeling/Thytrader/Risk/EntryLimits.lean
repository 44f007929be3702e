import Thytrader.Risk.Models
import Thytrader.Trading.Exposure

/-!
# Membership, exposure and capital

`risk/entry_limits.py`, the book helpers of `risk/gate_common.py` and the quote
scoping of `risk/breakers.py`: which books an entry is measured against, what
they hold, and the account, product and allocation caps over the capital base.

Mirroring notes: a set of products is the duplicate-free list of its elements.
`_snapshot_products` and `_book_products` build the same set, so they are one
definition. The keyword arguments of a check are its arguments in source order.
-/

namespace Thytrader.Risk

open Lib MarketData Trading Check

/-! ## Books -/

/-- `_book_products`, `_snapshot_products`: every product a book holds, works, or runs. -/
def bookProducts (snapshot : DeploymentSnapshot) : List String :=
  let deployment := snapshot.deployment
  (([deployment.productId] ++
    (snapshotPositions snapshot).map
      (fun position => resolvedProductId position.productId deployment) ++
    snapshot.instrumentRuntimes.map (·.productId) ++
    snapshot.orders.map (fun order => resolvedProductId order.productId deployment)).filter
      (fun product => product ≠ "")).dedup

/-- `_marked_exposure`: position cost plus every working entry remainder. -/
def markedExposure (snapshot : DeploymentSnapshot) : Decimal :=
  ((bookProducts snapshot).map (productExposure snapshot)).sum

/-- The scope one quote bucket sums over: a spot quote, or `FUTURES_SCOPE`. -/
inductive QuoteScope where
  | spot (quote : SpotQuoteCurrency)
  | futures
  deriving DecidableEq, Repr

def productQuote (productId : String) : Option QuoteScope :=
  if isFuturesProductId productId then some .futures
  else (quoteCurrency productId).toOption.map .spot

/-- `_snapshot_quote`: the single quote of a book, none when quotes cannot be summed. -/
def snapshotQuote (snapshot : DeploymentSnapshot) : Option QuoteScope :=
  match (bookProducts snapshot).mapM productQuote with
  | none => none
  | some quotes =>
    match quotes.dedup with
    | [quote] => some quote
    | _ => none

/-- `_same_quote_books`: keep one quote; a mixed or unreadable book fails closed. -/
def sameQuoteBooks (quote : QuoteScope) (purpose : String) :
    List DeploymentSnapshot → Except Denial (List DeploymentSnapshot)
  | [] => .ok []
  | item :: rest =>
    match snapshotQuote item with
    | none =>
      .error
        { reasonCode := .breakerMarkMissing
          detail := [.text purpose, .text " unavailable for deployment ",
            .uuid item.deployment.id, .text ": unsupported or mixed quote currency."] }
    | some bookQuote =>
      (sameQuoteBooks quote purpose rest).map
        (fun books => if bookQuote = quote then item :: books else books)

def quoteScopedSnapshots (snapshots : List DeploymentSnapshot) (productId : String) :
    Except Denial (List DeploymentSnapshot) :=
  match productQuote productId with
  | none =>
    .error
      { reasonCode := .breakerMarkMissing
        detail := [.text ("Account risk unavailable: proposed product quote is not a supported " ++
          "spot quote.")] }
  | some quote => sameQuoteBooks quote "Account risk" snapshots

/-! ## Membership and slots -/

/-- `_allowlist_verdict`: deny products absent from a nonempty allowlist of their kind. -/
def allowlistVerdict (policy : RiskPolicyDefinition) (productId : String) : Objection :=
  if isFuturesProductId productId then
    let listed := (policy.futures.bind (·.productAllowlist)).getD []
    if listed = [] ∨ productId ∈ listed then .pass
    else
      denyText .productNotAllowlisted
        "Futures product is not on the risk policy's futures.product_allowlist."
  else if policy.productAllowlist = [] ∨ productId ∈ policy.productAllowlist then .pass
  else denyText .productNotAllowlisted "Product is not on the risk-policy allowlist."

/-- `_allocation_membership`: on live, allocations admit listed strategies and desks only. -/
def allocationMembership (policy : RiskPolicyDefinition) (strategyId : Option Uuid)
    (mode : DeploymentMode) (portfolioMember futures : Bool) (deskId : Option String) :
    Objection :=
  if mode ≠ .live ∨ futures then .pass
  else
    match strategyId with
    | none =>
      if policy.allocations = [] ∧ policy.deskAllocations = [] then .pass
      else if deskId.any (fun desk => policy.deskAllocations.any (fun item => item.deskId = desk))
      then .pass
      else
        deny .discretionaryNotAllocated
          (.text "Discretionary orders are denied when risk-policy allocations are in force" ::
            match deskId with
            | some desk =>
              [.text "; list desk ", .text desk, .text " in desk_allocations to let it trade live."]
            | none => [.text "."])
    | some strategy =>
      if policy.allocations = [] ∨ portfolioMember then .pass
      else if policy.allocations.any (fun item => item.strategyId = strategy) then .pass
      else denyText .strategyNotAllocated "Strategy is not listed in risk-policy allocations."

/-- `open_position_slot_count`: distinct in-market product books of one deployment. -/
def openPositionSlotCount (snapshot : DeploymentSnapshot) : Nat :=
  let held := (snapshotPositions snapshot).map
    (fun position => resolvedProductId position.productId snapshot.deployment)
  if snapshot.instrumentRuntimes ≠ [] then
    (held ++ (snapshot.instrumentRuntimes.filter (·.phase.inMarket)).map (·.productId)).dedup.length
  else if snapshot.position.isSome ∨ snapshot.deployment.phase.inMarket then
    (held ++ [snapshot.deployment.productId]).dedup.length
  else held.dedup.length

/-- `_entry_membership`: allowlist, allocation membership, and open-position slots. -/
def entryMembership (policy : RiskPolicyDefinition) (mode : DeploymentMode)
    (proposed : ProposedEntry) (occupied : List DeploymentSnapshot) (portfolioMember : Bool) :
    Objection :=
  (allowlistVerdict policy proposed.productId).andThen <|
  (allocationMembership policy proposed.strategyId mode portfolioMember
    (isFuturesProductId proposed.productId) proposed.deskId).andThen <|
  if proposed.isPyramidAdd then
    if policy.allowIntraStrategyPyramiding then .pass
    else
      denyText .pyramidingNotAllowed
        "Intra-strategy pyramiding is disabled on the active risk policy."
  else if policy.maxConcurrentOpenPositions ≤ (occupied.map openPositionSlotCount).sum then
    denyText .maxOpenPositions
      "Open and pending positions already use every concurrent slot for this mode."
  else .pass

/-! ## Capital and exposure -/

def buysOnly (snapshot : DeploymentSnapshot) : DeploymentSnapshot :=
  { snapshot with orders := snapshot.orders.filter (fun order => order.side = .buy) }

/-- `_held_quote_capital`: quote held in long books and buy entries. -/
def heldQuoteCapital (snapshot : DeploymentSnapshot) : Decimal :=
  let inventory := (((snapshotPositions snapshot).filter
    (fun position => position.side = .long)).map Position.cost).sum
  let buys := buysOnly snapshot
  let reserved := ((bookProducts buys).map (workingEntryNotional buys)).sum
  inventory + reserved

/-- `_capital_base`: mode capital, never a bot allocation or duplicated ledger cash. -/
def capitalBase (policy : RiskPolicyDefinition) (mode : DeploymentMode)
    (liveQuoteCash : Option Decimal) (occupied : List DeploymentSnapshot)
    (inKindNotional : Decimal := 0) : Decimal :=
  match mode with
  | .paper => policy.paperCapitalQuote
  | .live =>
    match liveQuoteCash with
    | none => 0
    | some cash =>
      if cash < 0 then 0 else cash + (occupied.map heldQuoteCapital).sum + inKindNotional

/-- `_allocation_for`: the reserved quote of one strategy, if allocations are in force. -/
def allocationFor (policy : RiskPolicyDefinition) (strategyId : Option Uuid) : Option Decimal :=
  match strategyId with
  | none => none
  | some strategy =>
    (policy.allocations.find? (fun item => item.strategyId = strategy)).map (·.allocatedQuote)

/-- `_desk_reservation_verdict`: a live desk order within its reservation and quote. -/
def deskReservationVerdict (policy : RiskPolicyDefinition) (proposed : ProposedEntry)
    (mode : DeploymentMode) : Objection :=
  match proposed.deskId, mode with
  | some desk, .live =>
    match policy.deskAllocations.find? (fun item => item.deskId = desk) with
    | none => .pass
    | some item =>
      match quoteCurrency proposed.productId with
      | .error failure => .error failure
      | .ok quote =>
        if quote ≠ policy.quoteCurrency then
          deny .allocationExceeded
            [.text "Desk allocations are in ", .text policy.quoteCurrency.text, .text "; ",
              .text proposed.productId, .text " is quoted in ", .text quote.text, .text "."]
        else
          .require (proposed.deskCommitted + proposed.notional ≤ item.allocatedQuote)
            { reasonCode := .allocationExceeded
              detail := [.text "Desk allocation exceeded: committed=",
                .decimal proposed.deskCommitted, .text ", proposed=",
                .decimal proposed.notional, .text ", allocation=",
                .decimal item.allocatedQuote, .text "."] }
  | _, _ => .pass

def portfolioCap (policy : RiskPolicyDefinition) (mode : DeploymentMode) (capital : Decimal) :
    Decimal :=
  let cap := capital * policy.maxPortfolioExposureFraction
  match policy.maxPortfolioExposureQuote, mode with
  | some ceiling, .live => min cap ceiling
  | _, _ => cap

/-- The allocation check that ends `_exposure_verdict`. -/
def allocationVerdict (policy : RiskPolicyDefinition) (proposed : ProposedEntry)
    (occupied : List DeploymentSnapshot) : Objection :=
  match allocationFor policy proposed.strategyId with
  | none => .pass
  | some reserved =>
    let strategyExposure := ((occupied.filter (fun item =>
      item.deployment.strategyId = proposed.strategyId)).map markedExposure).sum
    .require (strategyExposure + proposed.notional ≤ reserved)
      { reasonCode := .allocationExceeded
        detail := [.text "Strategy allocation exceeded: existing=", .decimal strategyExposure,
          .text ", proposed=", .decimal proposed.notional, .text ", allocation=",
          .decimal reserved, .text "."] }

/-- `_exposure_verdict`: existing plus proposed exposure against every cap. -/
def exposureVerdict (policy : RiskPolicyDefinition) (mode : DeploymentMode)
    (proposed : ProposedEntry) (occupied : List DeploymentSnapshot)
    (liveQuoteCash : Option Decimal) : Objection :=
  let existingTotal := (occupied.map markedExposure).sum
  let existingProduct :=
    (occupied.map (fun item => productExposure item proposed.productId)).sum
  let capital := capitalBase policy mode liveQuoteCash occupied proposed.inKindCapital
  let portfolioCap := portfolioCap policy mode capital
  let productCap := capital * policy.perProductMaxExposureFraction
  (require (0 < capital)
    { reasonCode := .portfolioExposureExceeded
      detail := [.text "Capital base is missing or non-positive; new entries are blocked."] }
    ).andThen <|
  (require (existingTotal + proposed.notional ≤ portfolioCap)
    { reasonCode := .portfolioExposureExceeded
      detail := [.text "Account exposure exceeded: existing=", .decimal existingTotal,
        .text ", proposed=", .decimal proposed.notional, .text ", cap=", .decimal portfolioCap,
        .text ", capital=", .decimal capital, .text ", fraction=",
        .decimal policy.maxPortfolioExposureFraction, .text ", absolute=",
        .setting policy.maxPortfolioExposureQuote, .text "."] }).andThen <|
  (require (existingProduct + proposed.notional ≤ productCap)
    { reasonCode := .productExposureExceeded
      detail := [.text "Product exposure exceeded for ", .text proposed.productId,
        .text ": existing=", .decimal existingProduct, .text ", proposed=",
        .decimal proposed.notional, .text ", cap=", .decimal productCap, .text ", capital=",
        .decimal capital, .text "."] }).andThen <|
  (deskReservationVerdict policy proposed mode).andThen <|
  allocationVerdict policy proposed occupied

/-! ## What a passing check compared -/

variable {policy : RiskPolicyDefinition} {mode : DeploymentMode} {proposed : ProposedEntry}
  {occupied : List DeploymentSnapshot} {liveQuoteCash : Option Decimal}

theorem allocationVerdict_pass_iff :
    allocationVerdict policy proposed occupied = .pass ↔
      ∀ reserved, allocationFor policy proposed.strategyId = some reserved →
        ((occupied.filter (fun item =>
          item.deployment.strategyId = proposed.strategyId)).map markedExposure).sum +
            proposed.notional ≤ reserved := by
  unfold allocationVerdict
  split
  next hnone => simp [hnone]
  next reserved hreserved => simp [hreserved, require_pass_iff]

theorem deskReservationVerdict_pass_iff :
    deskReservationVerdict policy proposed mode = .pass ↔
      ∀ desk, proposed.deskId = some desk → mode = .live → ∀ item,
        policy.deskAllocations.find? (fun item => item.deskId = desk) = some item →
        quoteCurrency proposed.productId = .ok policy.quoteCurrency ∧
          proposed.deskCommitted + proposed.notional ≤ item.allocatedQuote := by
  unfold deskReservationVerdict
  split
  next desk hdesk =>
    split
    next hnone => simp [hdesk, hnone]
    next item hitem =>
      split
      next failure hquote => simp [hdesk, hitem, hquote, Check.pass]
      next quote hquote =>
        split
        next hother => simp [hdesk, hitem, hquote, hother, deny_ne_pass]
        next hsame =>
          have hsame : quote = policy.quoteCurrency := by simpa using hsame
          simp [hdesk, hitem, hquote, hsame, require_pass_iff]
  next hother =>
    refine iff_of_true rfl ?_
    intro desk hdesk hlive
    exact absurd hlive (hother desk hdesk)

theorem exposureVerdict_pass_iff :
    exposureVerdict policy mode proposed occupied liveQuoteCash = .pass ↔
      let capital := capitalBase policy mode liveQuoteCash occupied proposed.inKindCapital
      0 < capital ∧
      (occupied.map markedExposure).sum + proposed.notional ≤ portfolioCap policy mode capital ∧
      (occupied.map (fun item => productExposure item proposed.productId)).sum +
        proposed.notional ≤ capital * policy.perProductMaxExposureFraction ∧
      deskReservationVerdict policy proposed mode = .pass ∧
      allocationVerdict policy proposed occupied = .pass := by
  simp only [exposureVerdict, andThen_pass_iff, require_pass_iff]

end Thytrader.Risk
