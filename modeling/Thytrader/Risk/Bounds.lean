import Thytrader.Risk.EntryLimits
import Thytrader.Trading.Ledger

/-!
# Sleeve limits, shared collateral and order bounds

`risk/portfolio_limits.py`, the verdict of `risk/futures_collateral.py` and
`risk/order_bounds.py`: the caps a deployed portfolio puts on its sleeves, the
live gate beside manual futures, and the optional bounds on one order.

Mirroring notes: `base_currency` is asked about spot ids only, so `asset_of`
never raises. The returned pair of `collateral_verdict` is the denial, if any,
and the venue quote the later checks use.
-/

namespace Thytrader.Risk

open Lib MarketData Trading

/-! ## A sleeve's portfolio -/

/-- `asset_of`: the base asset of a spot product, else the whole id. -/
def assetOf (productId : String) : String :=
  match baseCurrency productId with
  | .ok base => base
  | .error _ => productId

/-- `_asset_exposure`: position cost plus working entries on every product of one asset. -/
def assetExposure (snapshot : DeploymentSnapshot) (asset : String) : Decimal :=
  ((((bookProducts snapshot).insertionSort (· ≤ ·)).filter
    (fun product => assetOf product = asset)).map (productExposure snapshot)).sum

structure PortfolioExposure where
  total : Decimal
  assets : Dict String Decimal

/-- The books tagged with one portfolio. -/
def portfolioMembers (portfolioId : Uuid) (snapshots : List DeploymentSnapshot) :
    List DeploymentSnapshot :=
  snapshots.filter (fun item => item.deployment.portfolioId = some portfolioId)

def bookAssets (snapshot : DeploymentSnapshot) : List String :=
  ((bookProducts snapshot).map assetOf).dedup.insertionSort (· ≤ ·)

/-- One member of the per-asset loop of `portfolio_exposure`. -/
def addAssets (assets : Dict String Decimal) (item : DeploymentSnapshot) : Dict String Decimal :=
  (bookAssets item).foldl (fun assets asset =>
    assets.set asset ((assets.get? asset).getD 0 + assetExposure item asset)) assets

/-- `portfolio_exposure`: position cost plus working entries of every tagged book. -/
def portfolioExposure (portfolioId : Uuid) (snapshots : List DeploymentSnapshot) :
    PortfolioExposure :=
  let members := portfolioMembers portfolioId snapshots
  { total := (members.map markedExposure).sum
    assets := members.foldl addAssets Dict.empty }

/-- `evaluate_portfolio_entry`: the latched breaker and the exposure caps. -/
def evaluatePortfolioEntry (book : PortfolioRiskBook) (proposed : ProposedEntry)
    (snapshots : List DeploymentSnapshot) : Objection :=
  let exposure := portfolioExposure book.portfolioId snapshots
  let totalCap := book.capital * book.maxTotalExposureFraction
  let asset := assetOf proposed.productId
  let held := (exposure.assets.get? asset).getD 0
  let assetCap := book.capital * book.maxPerAssetFraction
  if book.available = false then
    denyText .portfolioLimitsUnavailable
      "Portfolio limits could not be loaded; new entries for its sleeves are blocked."
  else
    match book.breakerReason with
    | some reason =>
      deny .portfolioBreakerLatched
        [.text "Portfolio breaker ", .reason reason,
          .text " is latched until an operator resets it."]
    | none =>
      (Check.require (exposure.total + proposed.notional ≤ totalCap)
        { reasonCode := .portfolioTotalExposureLimit
          detail := [.text "Entry of ", .cents proposed.notional,
            .text " would take the portfolio's exposure from ", .cents exposure.total,
            .text " above its cap of ", .cents totalCap,
            .text " (max_total_exposure_fraction times capital)."] }).andThen <|
      Check.require (held + proposed.notional ≤ assetCap)
        { reasonCode := .portfolioAssetExposureLimit
          detail := [.text "Entry of ", .cents proposed.notional,
            .text " would take the portfolio's ", .text asset, .text " exposure from ",
            .cents held, .text " above its cap of ", .cents assetCap,
            .text " (max_per_asset_fraction times capital)."] }

/-- `_portfolio_verdict`: a sleeve's limits; portfolios that mix quotes are refused. -/
def portfolioVerdict (portfolio : Option PortfolioRiskBook) (proposed : ProposedEntry)
    (riskBearing quoteBooks : List DeploymentSnapshot) : Objection :=
  match portfolio with
  | none => .pass
  | some book =>
    if riskBearing.any (fun item =>
        item ∉ quoteBooks ∧ item.deployment.portfolioId = some book.portfolioId) then
      denyText .portfolioLimitsUnavailable
        "Portfolio exposure cannot combine different quote currencies."
    else evaluatePortfolioEntry book proposed quoteBooks

/-! ## Shared collateral -/

/-- `COLLATERAL_LINKED_QUOTES`. -/
def collateralLinked (productId : String) : Bool :=
  productQuote productId = some (.spot .usd) ∨ productQuote productId = some (.spot .usdc)

/-- `_reserve_verdict`: the declared reserve covers margin times haircut and is withheld. -/
def reserveVerdict (reserve haircut : Decimal) (evidence : FuturesCollateralEvidence)
    (liveQuoteCash : Option Decimal) (policy : RiskPolicyDefinition) :
    Option Denial × Option Decimal :=
  let quote := policy.quoteCurrency.text
  match evidence.initialMarginUsd with
  | none =>
    (some
      { reasonCode := .futuresCollateralUnknown
        detail := [.text ("CFM futures are in use but their initial margin is unknown; the " ++
          "reserve cannot be checked.")] }, liveQuoteCash)
  | some margin =>
    let requiredUsd := margin * haircut
    if reserve < requiredUsd then
      (some
        { reasonCode := .futuresCollateralReserveShort
          detail := [.text "Declared reserve ", .decimal reserve, .text " ", .text quote,
            .text " is below CFM initial margin ", .decimal margin, .text " USD x haircut ",
            .decimal haircut, .text " = ", .decimal requiredUsd,
            .text " USD (threshold under a declared peg; the currencies are not added)."] },
        liveQuoteCash)
    else
      match liveQuoteCash with
      | none => (none, none)
      | some cash =>
        if cash - reserve < 0 then
          (some
            { reasonCode := .futuresCollateralReserveShort
              detail := [.text "Available ", .decimal cash, .text " ", .text quote,
                .text " is below the declared futures reserve ", .decimal reserve, .text " ",
                .text quote, .text "; spot capital would be negative."] }, liveQuoteCash)
        else (none, some (cash - reserve))

/-- `collateral_verdict`: a denial, if any, and the venue quote the rest of the gate uses. -/
def collateralVerdict (policy : RiskPolicyDefinition) (mode : DeploymentMode)
    (proposed : ProposedEntry) (evidence : Option FuturesCollateralEvidence)
    (liveQuoteCash : Option Decimal) : Option Denial × Option Decimal :=
  match evidence with
  | none => (none, liveQuoteCash)
  | some evidence =>
    if mode ≠ .live ∨ proposed.inKind ∨ collateralLinked proposed.productId = false then
      (none, liveQuoteCash)
    else
      match evidence.state with
      | .unknown =>
        (some
          { reasonCode := .futuresCollateralUnknown
            detail := [.text evidence.cause, .text (" USDC and USD are CFM collateral, so their " ++
              "use by futures is unknown; live spot entries are paused.")] }, liveQuoteCash)
      | .absent => (none, liveQuoteCash)
      | .idle => (none, liveQuoteCash)
      | .inUse =>
        match policy.futures.bind (fun futures =>
          futures.liveSpotCollateralReserveQuote.map (fun reserve => (futures, reserve))) with
        | none =>
          (some
            { reasonCode := .futuresCollateralInUse
              detail := [.text evidence.cause, .text (" They draw on the USDC collateral spot " ++
                "books use; set futures.live_spot_collateral_reserve_quote to trade spot beside " ++
                "them.")] }, liveQuoteCash)
        | some (futures, reserve) =>
          reserveVerdict reserve futures.pegHaircut evidence liveQuoteCash policy

/-! ## One order -/

def quantityBound (policy : RiskPolicyDefinition) (proposed : ProposedEntry) : Objection :=
  match policy.maxOrderQuantity with
  | none => .pass
  | some cap =>
    match proposed.quantity with
    | none =>
      denyText .maxOrderQuantity "Order quantity cap is set but the proposed quantity is missing."
    | some quantity =>
      .require (quantity ≤ cap)
        { reasonCode := .maxOrderQuantity
          detail := [.text "Proposed quantity ", .decimal quantity,
            .text " exceeds max_order_quantity ", .decimal cap, .text "."] }

def notionalBound (policy : RiskPolicyDefinition) (proposed : ProposedEntry) : Objection :=
  match policy.maxOrderNotionalQuote with
  | none => .pass
  | some cap =>
    .require (proposed.notional ≤ cap)
      { reasonCode := .maxOrderNotional
        detail := [.text "Proposed notional ", .decimal proposed.notional,
          .text " exceeds max_order_notional_quote ", .decimal cap, .text "."] }

/-- Quote reserved by a book's buy entries. -/
def pendingBuys (snapshot : DeploymentSnapshot) : Decimal :=
  ((bookProducts snapshot).map (workingEntryNotional snapshot)).sum

/-- `_local_unheld_buy_quote`: buy remainders without venue holds; none when ambiguous. -/
def localUnheldBuyQuote : List DeploymentSnapshot → Option Decimal
  | [] => some 0
  | item :: rest =>
    let buys := buysOnly item
    if buys.orders.any (fun order => order.status = .pending ∨ order.status = .unknown) then none
    else
      let unheld := { buys with orders := buys.orders.filter (·.venueOrderId.isNone) }
      (localUnheldBuyQuote rest).map (pendingBuys unheld + ·)

/-- What the paper loop of `_available_after_entry` accumulates. -/
structure PaperHeadroom where
  cashChange : Decimal := 0
  pending : Decimal := 0
  feeRate : Decimal := 0

/-- The paper loop of `_available_after_entry`; none when a book has no opening cash. -/
def paperHeadroom (totals : PaperHeadroom) : List DeploymentSnapshot → Option PaperHeadroom
  | [] => some totals
  | item :: rest =>
    match item.deployment.initialEquity.or item.deployment.paperStartingCash with
    | none => none
    | some opening =>
      let taker := (effectivePaperFeeRates item.deployment.paperMakerFeeRate
        item.deployment.paperTakerFeeRate).2
      paperHeadroom
        { cashChange := totals.cashChange + (item.deployment.cash - opening)
          pending := totals.pending + pendingBuys (buysOnly item)
          feeRate := max totals.feeRate taker } rest

/-- `_available_after_entry`: quote headroom once the entry is placed. -/
def availableAfterEntry (policy : RiskPolicyDefinition) (mode : DeploymentMode)
    (proposed : ProposedEntry) (occupied : List DeploymentSnapshot)
    (liveQuoteCash : Option Decimal) : Option Decimal :=
  match mode with
  | .live =>
    match liveQuoteCash with
    | none => none
    | some cash =>
      if cash < 0 then none
      else (localUnheldBuyQuote occupied).map (fun reserved => cash - reserved - proposed.notional)
  | .paper =>
    (paperHeadroom {} occupied).map (fun totals =>
      let feeRate := if occupied = [] then (effectivePaperFeeRates none none).2 else totals.feeRate
      policy.paperCapitalQuote + totals.cashChange - totals.pending * (1 + feeRate) -
        proposed.notional * (1 + feeRate))

/-- `_reserve_bound`: keep optional notional headroom. -/
def reserveBound (policy : RiskPolicyDefinition) (mode : DeploymentMode)
    (proposed : ProposedEntry) (occupied : List DeploymentSnapshot)
    (liveQuoteCash : Option Decimal) : Objection :=
  match policy.minAvailableQuoteReserve with
  | none => .pass
  | some required =>
    match availableAfterEntry policy mode proposed occupied liveQuoteCash with
    | none =>
      denyText .balanceReserve "Available quote is unknown; the balance reserve cannot be verified."
    | some available =>
      .require (required ≤ available)
        { reasonCode := .balanceReserve
          detail := [.text "Entry notional headroom ", .decimal available,
            .text " is below the reserve of ", .decimal required,
            .text "; live fees and slippage are not included."] }

def quoteBoundScope (policy : RiskPolicyDefinition) (proposed : ProposedEntry) : Objection :=
  if policy.maxOrderNotionalQuote.isNone ∧ policy.minAvailableQuoteReserve.isNone then .pass
  else
    match quoteCurrency proposed.productId with
    | .error failure => .error failure
    | .ok quote =>
      .require (quote = policy.quoteCurrency)
        { reasonCode := .breakerMarkMissing
          detail := [.text ("Optional quote bounds cannot be applied to a different quote " ++
            "currency: policy="), .text policy.quoteCurrency.text, .text ", product=",
            .text proposed.productId, .text "."] }

/-- `_order_bound_verdict`: quantity, notional and balance-reserve caps when published. -/
def orderBoundVerdict (policy : RiskPolicyDefinition) (mode : DeploymentMode)
    (proposed : ProposedEntry) (occupied : List DeploymentSnapshot)
    (liveQuoteCash : Option Decimal) : Objection :=
  (quantityBound policy proposed).andThen <|
  (quoteBoundScope policy proposed).andThen <|
  (notionalBound policy proposed).andThen <|
  reserveBound policy mode proposed occupied liveQuoteCash

/-! ## What a passing bound compared -/

variable {policy : RiskPolicyDefinition} {mode : DeploymentMode} {proposed : ProposedEntry}
  {occupied : List DeploymentSnapshot} {liveQuoteCash : Option Decimal}

theorem quantityBound_pass_iff :
    quantityBound policy proposed = .pass ↔
      ∀ cap, policy.maxOrderQuantity = some cap →
        ∃ quantity, proposed.quantity = some quantity ∧ quantity ≤ cap := by
  unfold quantityBound
  split
  next hnone => simp [hnone]
  next cap hcap =>
    split
    next hmissing => simp [hcap, hmissing, denyText_ne_pass]
    next quantity hquantity => simp [hcap, hquantity, Check.require_pass_iff]

theorem notionalBound_pass_iff :
    notionalBound policy proposed = .pass ↔
      ∀ cap, policy.maxOrderNotionalQuote = some cap → proposed.notional ≤ cap := by
  unfold notionalBound
  split
  next hnone => simp [hnone]
  next cap hcap => simp [hcap, Check.require_pass_iff]

theorem reserveBound_pass_iff :
    reserveBound policy mode proposed occupied liveQuoteCash = .pass ↔
      ∀ required, policy.minAvailableQuoteReserve = some required →
        ∃ available, availableAfterEntry policy mode proposed occupied liveQuoteCash =
          some available ∧ required ≤ available := by
  unfold reserveBound
  split
  next hnone => simp [hnone]
  next required hrequired =>
    split
    next hunknown => simp [hrequired, hunknown, denyText_ne_pass]
    next available havailable => simp [hrequired, havailable, Check.require_pass_iff]

end Thytrader.Risk
