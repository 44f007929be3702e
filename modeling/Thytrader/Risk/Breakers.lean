import Thytrader.Risk.EntryLimits
import Thytrader.Risk.OpeningAccounting

/-!
# Circuit breakers, rates, collar and clustering

`risk/breakers.py`, `risk/entry_clustering.py` and the collateral-linked latch
of `risk/futures_entry.py`: the daily-loss and drawdown breakers, the rolling
order and cancel budgets, the reference-price collar, and the cap on entries
across the fleet in one trailing window.

Mirroring notes: the ledger of a book may raise, so the loss and drawdown checks
return a `Result` inside; the loss check and the drawdown check both run before
one of their verdicts is selected. `Decimal` division in the collar is by a
reference price tested to be positive.
-/

namespace Thytrader.Risk

open Lib MarketData Trading

/-- A scoping failure as the gate's objection. -/
def withBooks (found : Except Denial (List DeploymentSnapshot))
    (next : List DeploymentSnapshot → Objection) : Objection :=
  match found with
  | .error denial => .ok (some denial)
  | .ok books => next books

/-! ## Unresolved accounting -/

/-- `unresolved_accounting_verdict`: refuse new risk on same-quote unresolved economics. -/
def unresolvedAccountingVerdict (mode : DeploymentMode) (productId : String)
    (snapshots : List DeploymentSnapshot) : Objection :=
  match productQuote productId with
  | none => denyText .breakerMarkMissing "Accounting quote is unavailable."
  | some quote =>
    withBooks (sameQuoteBooks quote "Accounting" (dailyLossSnapshots snapshots mode)) fun books =>
      match books.find? (fun snapshot => accountingResolved snapshot = false) with
      | none => .pass
      | some snapshot =>
        deny .breakerMarkMissing
          [.text "Accounting incomplete for deployment ", .uuid snapshot.deployment.id,
            .text (": unsettled executed fills, unresolved inventory/runtime, or omitted " ++
              "economics.")]

/-! ## Daily loss -/

def openInventoryMissingMark (snapshot : DeploymentSnapshot) (marks : Dict String Decimal) :
    Bool :=
  (snapshotPositions snapshot).any (fun position =>
    (marks.get? (resolvedProductId position.productId snapshot.deployment)).isNone)

def pnlFromOpeningEquity (snapshot : DeploymentSnapshot) (equity : Decimal) : Option Decimal :=
  (snapshot.deployment.initialEquity.or snapshot.deployment.paperStartingCash).map (equity - ·)

/-- `_daily_pnl`: this UTC day's equity change, none while the evidence is incomplete. -/
def dailyPnl (snapshot : DeploymentSnapshot) (marks : Dict String Decimal) (asOf : Time) :
    Result (Option Decimal) :=
  if accountingResolved snapshot = false then .ok none
  else do
    let ledger ← ledgerFromSnapshot snapshot (some marks) none
    match ledger.markComplete, ledger.equity with
    | true, some equity =>
      if utcDayStart snapshot.deployment.createdAt = utcDayStart asOf then
        return pnlFromOpeningEquity snapshot equity
      else return (reconstructDayOpen snapshot asOf).map (fun evidence => equity - evidence.equity)
    | _, _ => return none

/-- The loop of `_mode_daily_loss`. -/
def totalDailyPnl (observation : EntryObservation) :
    List DeploymentSnapshot → Result (Option Decimal)
  | [] => .ok (some 0)
  | snapshot :: rest =>
    if openInventoryMissingMark snapshot observation.marks then .ok none
    else do
      match ← dailyPnl snapshot observation.marks observation.asOf with
      | none => return none
      | some pnl =>
        let total ← totalDailyPnl observation rest
        return total.map (pnl + ·)

/-- `_mode_daily_loss`: none when a required mark or baseline is missing. -/
def modeDailyLoss (occupied : List DeploymentSnapshot) (observation : EntryObservation) :
    Result (Option Decimal) := do
  let total ← totalDailyPnl observation occupied
  return total.map (fun total => if 0 ≤ total then 0 else -total)

def unappliedLiveFills (snapshot : DeploymentSnapshot) : Bool :=
  snapshot.deployment.mode = .live ∧
    snapshot.fills.any (fun fill => fill.economicsAppliedAt.isNone)

def dailyLossMissingDetail (observation : EntryObservation) :
    List DeploymentSnapshot → Result (List DetailPart)
  | [] => .ok [.text "Daily-loss unavailable: incomplete equity evidence."]
  | snapshot :: rest =>
    let unavailable := fun cause : String =>
      [DetailPart.text "Daily-loss unavailable for deployment ", .uuid snapshot.deployment.id,
        .text cause]
    if unappliedLiveFills snapshot then
      .ok (unavailable ": unapplied live fill economics.")
    else if openInventoryMissingMark snapshot observation.marks then
      .ok (unavailable ": missing last-close inventory marks.")
    else do
      match ← dailyPnl snapshot observation.marks observation.asOf with
      | some _ => dailyLossMissingDetail observation rest
      | none =>
        if snapshotPositions snapshot ≠ [] then
          return unavailable (": missing verified same-UTC-day equity baseline or complete " ++
            "applied fill projections.")
        else
          return unavailable (": incomplete fill economics or missing same-UTC-day equity " ++
            "baseline (overnight inventory needs opening marks).")

/-- Whether a futures book is among the books. -/
def holdsFutures (occupied : List DeploymentSnapshot) : Bool :=
  occupied.any (fun item => isFuturesProductId item.deployment.productId)

/-- `_daily_loss_fraction`: the futures scope may set its own. -/
def dailyLossFraction (policy : RiskPolicyDefinition) (occupied : List DeploymentSnapshot) :
    Decimal :=
  match policy.futures.bind (·.dailyLossLimitFraction) with
  | some fraction =>
    if holdsFutures occupied then fraction else policy.dailyLossLimitFraction
  | none => policy.dailyLossLimitFraction

def futuresDailyLossCeiling (policy : RiskPolicyDefinition) (occupied : List DeploymentSnapshot) :
    Option Decimal :=
  if holdsFutures occupied then policy.futures.bind (·.maxDailyLossUsd) else none

/-- The limit `_daily_loss_verdict` compares with. -/
def dailyLossLimit (policy : RiskPolicyDefinition) (mode : DeploymentMode)
    (occupied : List DeploymentSnapshot) (capital : Decimal) : Decimal :=
  let limit := capital * dailyLossFraction policy occupied
  match futuresDailyLossCeiling policy occupied with
  | some ceiling => min limit ceiling
  | none =>
    match policy.maxDailyLossQuote with
    | some ceiling =>
      if mode = .live ∧ holdsFutures occupied = false then min limit ceiling else limit
    | none => limit

def dailyLossVerdict (policy : RiskPolicyDefinition) (mode : DeploymentMode)
    (occupied : List DeploymentSnapshot) (observation : EntryObservation) (capital : Decimal) :
    Objection :=
  match modeDailyLoss occupied observation with
  | .error failure => .error failure
  | .ok none =>
    match dailyLossMissingDetail observation occupied with
    | .error failure => .error failure
    | .ok detail => deny .breakerMarkMissing detail
  | .ok (some loss) =>
    if capital ≤ 0 then
      denyText .breakerMarkMissing
        "Daily-loss unavailable: missing positive same-quote account capital."
    else if loss < dailyLossLimit policy mode occupied capital then .pass
    else
      denyText .dailyLossLimit "Daily realized plus unrealized loss reached the risk-policy limit."

/-! ## Drawdown -/

/-- `_matches_drawdown_scope`: a strategy's books, or a discretionary book on the product. -/
def matchesDrawdownScope (snapshot : DeploymentSnapshot) (strategyId : Option Uuid)
    (productId : String) : Bool :=
  let deployment := snapshot.deployment
  match strategyId with
  | some strategy => deployment.strategyId = some strategy
  | none =>
    deployment.kind = .discretionary ∧
      (deployment.productId = productId ∨ (snapshotPositions snapshot).any (fun position =>
        resolvedProductId position.productId deployment = productId))

def drawdownBooks (snapshots : List DeploymentSnapshot) (mode : DeploymentMode)
    (quote : QuoteScope) (strategyId : Option Uuid) (productId : String) :
    Except Denial (List DeploymentSnapshot) :=
  sameQuoteBooks quote "Drawdown" ((dailyLossSnapshots snapshots mode).filter
    (fun item => matchesDrawdownScope item strategyId productId))

def oneDrawdownVerdict (target : DeploymentSnapshot) (observation : EntryObservation)
    (limit : Decimal) : Objection :=
  let unmarked := denyText .breakerMarkMissing
    "Drawdown cannot be computed without a last-close mark on open inventory."
  if openInventoryMissingMark target observation.marks then unmarked
  else
    match ledgerFromSnapshot target (some observation.marks) none with
    | .error failure => .error failure
    | .ok ledger =>
      match ledger.markComplete, ledger.equity with
      | true, some equity =>
        match currentDrawdown target.deployment equity with
        | none =>
          deny .breakerMarkMissing
            [.text "Drawdown unavailable for deployment ", .uuid target.deployment.id,
              .text ": missing positive performance-capital basis."]
        | some fraction =>
          if fraction < limit then .pass
          else
            denyText .strategyDrawdownLimit
              "Per-strategy fill-ledger drawdown reached the risk-policy limit."
      | _, _ => unmarked

/-- The loop of `_drawdown_verdict`. -/
def firstDrawdown (observation : EntryObservation) (limit : Decimal) :
    List DeploymentSnapshot → Objection
  | [] => .pass
  | target :: rest =>
    (oneDrawdownVerdict target observation limit).andThen (firstDrawdown observation limit rest)

def drawdownVerdict (policy : RiskPolicyDefinition) (snapshots : List DeploymentSnapshot)
    (mode : DeploymentMode) (quote : QuoteScope) (strategyId : Option Uuid) (productId : String)
    (observation : EntryObservation) : Objection :=
  withBooks (drawdownBooks snapshots mode quote strategyId productId) fun books =>
    firstDrawdown observation policy.maxStrategyDrawdownFraction books

/-! ## The circuit breakers -/

def dailyLatchVerdict (books : List DeploymentSnapshot) : Objection :=
  .require (books.all (fun item => item.deployment.dailyLossLatched = false))
    { reasonCode := .dailyLossLimit
      detail := [.text "Daily-loss breaker is latched until an explicit operator reset."] }

def drawdownLatchVerdict (snapshots : List DeploymentSnapshot) (mode : DeploymentMode)
    (quote : QuoteScope) (strategyId : Option Uuid) (productId : String) : Objection :=
  withBooks (drawdownBooks snapshots mode quote strategyId productId) fun books =>
    .require (books.all (fun item => item.deployment.drawdownLatched = false))
      { reasonCode := .strategyDrawdownLimit
        detail := [.text ("Drawdown breaker is latched for this strategy until an explicit " ++
          "operator reset.")] }

/-- `_select_loss_verdict`: unknown daily evidence does not hide a proven drawdown. -/
def selectLossVerdict (daily drawdown : Objection) : Objection :=
  match daily, drawdown with
  | .error failure, _ => .error failure
  | .ok _, .error failure => .error failure
  | .ok none, .ok drawdown => .ok drawdown
  | .ok (some daily), .ok none => .ok (some daily)
  | .ok (some daily), .ok (some drawdown) =>
    if daily.reasonCode = .breakerMarkMissing ∧ drawdown.reasonCode = .strategyDrawdownLimit then
      .ok (some drawdown)
    else .ok (some daily)

def evaluateCircuitBreakers (policy : RiskPolicyDefinition) (mode : DeploymentMode)
    (productId : String) (strategyId : Option Uuid) (snapshots : List DeploymentSnapshot)
    (observation : EntryObservation) (capital : Decimal) : Objection :=
  match productQuote productId with
  | none =>
    denyText .breakerMarkMissing
      "Daily-loss unavailable: proposed product quote is not a supported spot quote."
  | some quote =>
    withBooks (sameQuoteBooks quote "Daily-loss" (dailyLossSnapshots snapshots mode)) fun books =>
      (dailyLatchVerdict books).andThen <|
      (drawdownLatchVerdict snapshots mode quote strategyId productId).andThen <|
      selectLossVerdict (dailyLossVerdict policy mode books observation capital)
        (drawdownVerdict policy snapshots mode quote strategyId productId observation)

/-! ## Rates and collar -/

/-- `_RATE_WINDOW`: 60 seconds. -/
def rateWindow : Duration := 60 * 1000000

/-- What `_rate_verdict` counts. -/
structure RateCounts where
  entryOrders : Nat := 0
  cancels : Nat := 0
  venueActions : Nat := 0

/-- `_is_entry_purpose`: without any intent record every order is a candidate entry. -/
def isEntryPurpose (snapshot : DeploymentSnapshot) (intentId : Uuid) : Bool :=
  snapshot.intents = [] ∨
    intentId ∈ (snapshot.intents.filter (fun intent => intent.purpose = .entry)).map (·.id)

/-- One order of `_rate_verdict`. -/
def countOrder (snapshot : DeploymentSnapshot) (since : Time) (counts : RateCounts)
    (order : Order) : RateCounts :=
  if order.kind = .adoption then counts
  else
    let placed :=
      if since ≤ order.createdAt then
        { counts with
          venueActions := counts.venueActions + 1
          entryOrders := counts.entryOrders +
            (if isEntryPurpose snapshot order.intentId then 1 else 0) }
      else counts
    if order.canceledAt.any (fun canceledAt => since ≤ canceledAt) then
      { placed with cancels := placed.cancels + 1, venueActions := placed.venueActions + 1 }
    else placed

def rateVerdict (policy : RiskPolicyDefinition) (occupied : List DeploymentSnapshot)
    (asOf : Time) : Objection :=
  let since := asOf - rateWindow
  let counts := occupied.foldl (fun counts snapshot =>
    snapshot.orders.foldl (countOrder snapshot since) counts) {}
  if policy.maxEntryOrdersPerMinute ≤ counts.entryOrders then
    denyText .orderRateLimit "Entry orders in the last minute reached the risk-policy rate limit."
  else if policy.maxCancellationsPerMinute ≤ counts.cancels then
    denyText .cancelRateLimit "Cancellations in the last minute reached the risk-policy rate limit."
  else if policy.maxVenueOrderActionsPerMinute.any (fun limit => limit ≤ counts.venueActions) then
    denyText .venueRequestBudgetExceeded
      ("Combined entry, cancel, and replacement requests in the last minute reached the " ++
        "risk-policy venue budget.")
  else .pass

def collarVerdict (policy : RiskPolicyDefinition) (observation : EntryObservation) : Objection :=
  match observation.referencePrice.filter (fun reference => 0 < reference) with
  | none =>
    denyText .referencePriceUnavailable
      "A positive last-close reference price is required before a risk-increasing order."
  | some reference =>
    match observation.proposedPrice with
    | none => .pass
    | some proposed =>
      if proposed ≤ 0 then
        denyText .referencePriceCollar
          "Proposed entry price must be positive under the reference-price collar."
      else if |proposed - reference| / reference ≤ policy.referencePriceCollarFraction then .pass
      else
        denyText .referencePriceCollar
          "Proposed entry price exceeds the reference-price collar versus last close."

/-- `evaluate_rate_and_collar`. `_occupied_mode` keeps the books that bear risk. -/
def evaluateRateAndCollar (policy : RiskPolicyDefinition) (mode : DeploymentMode)
    (snapshots : List DeploymentSnapshot) (observation : EntryObservation) : Objection :=
  (rateVerdict policy (riskBearingSnapshots snapshots mode) observation.asOf).andThen
    (collarVerdict policy observation)

/-! ## Clustering -/

/-- `_latest_entry_per_book_product`: the newest in-window entry of each book and product. -/
def latestEntryPerBookProduct (snapshots : List DeploymentSnapshot) (mode : DeploymentMode)
    (since : Time) : Dict (Uuid × String) Time :=
  (snapshots.filter (fun snapshot => snapshot.deployment.mode = mode)).foldl
    (fun latest snapshot =>
      (snapshot.intents.filter (fun intent =>
        intent.purpose = .entry ∧ since ≤ intent.createdAt)).foldl
        (fun latest intent =>
          let key := (snapshot.deployment.id,
            resolvedProductId intent.productId snapshot.deployment)
          match latest.get? key with
          | none => latest.set key intent.createdAt
          | some prior =>
            if prior < intent.createdAt then latest.set key intent.createdAt else latest)
        latest)
    Dict.empty

/-- `cluster_verdict`: the cap on distinct entries across the fleet in the trailing window. -/
def clusterVerdict (policy : RiskPolicyDefinition) (mode : DeploymentMode)
    (proposed : ProposedEntry) (snapshots : List DeploymentSnapshot)
    (observation : Option EntryObservation) : Objection :=
  match policy.maxFleetEntriesPerWindow, policy.fleetEntryWindowMinutes with
  | some limit, some minutes =>
    if proposed.inKind ∨ proposed.readmitsWorkingEntry then .pass
    else
      match observation with
      | none =>
        denyText .fleetEntryClusterLimit
          ("Fleet entry cluster limit cannot be evaluated without an observation time; new " ++
            "entries are blocked.")
      | some observation =>
        let window : Duration := minutes * 60 * 1000000
        let latest := latestEntryPerBookProduct snapshots mode (observation.asOf - window)
        if latest.entries.length < limit then .pass
        else
          let ordered := latest.values.insertionSort (· ≤ ·)
          deny .fleetEntryClusterLimit
            [.text "Fleet entry cluster limit: ", .count ordered.length,
              .text " new entries in the last ", .count minutes, .text " minutes, cap=",
              .count limit, .text "; oldest at ", .instant (ordered.getD 0 0),
              .text ", a slot frees at ",
              .instant (ordered.getD (ordered.length - limit) 0 + window), .text "."]
  | _, _ => .pass

/-! ## The collateral-linked latch -/

/-- `_scope`: `futures` for futures books, the quote for linked spot books, else none. -/
def linkedScope (productId : String) : Option QuoteScope :=
  match productQuote productId with
  | some (.spot .usdt) => none
  | scope => scope

def QuoteScope.text : QuoteScope → String
  | .futures => "futures"
  | .spot quote => "spot " ++ quote.text

/-- `linked_breaker_verdict`: deny under a latched breaker in a collateral-linked scope. -/
def linkedBreakerVerdict (mode : DeploymentMode) (productId : String)
    (snapshots : List DeploymentSnapshot) : Objection :=
  if mode = .live ∧ isFuturesProductId productId ∧
      snapshots.all (fun item =>
        item.deployment.mode ≠ mode ∨ item.deployment.productId ≠ productId) then .pass
  else
    match linkedScope productId with
    | none => .pass
    | some entryScope =>
      let latched := (dailyLossSnapshots snapshots mode).find? (fun item =>
        item.deployment.dailyLossLatched ∧
          (linkedScope item.deployment.productId).any (fun bookScope =>
            bookScope ≠ entryScope ∧ (bookScope = .futures ∨ entryScope = .futures)))
      match latched with
      | none => .pass
      | some item =>
        deny .sharedCollateralBreaker
          [.text "The ",
            .text ((linkedScope item.deployment.productId).getD .futures).text,
            .text " daily-loss breaker is latched (deployment ", .uuid item.deployment.id,
            .text "); it shares collateral with ", .text entryScope.text, .text " entries."]

end Thytrader.Risk
