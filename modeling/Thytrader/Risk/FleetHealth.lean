import Thytrader.Risk.Gate
import Mathlib.Data.List.MinMax

/-!
# Fleet entry readiness

`risk/fleet_entry_health.py`, `risk/fleet_entry_capital.py` and `risk/fleet_entry_models.py`:
for one mode and spot quote, would the gate admit any new entry? The report runs the gate's own
checks with a neutral probe — no notional, no side, the quote's BTC product, a strategy no book
has — and names each one that denies.

Mirroring notes: a spot scope is its quote; a futures scope asks the futures gate and is left out.
The books a check names and the texts of `risk/opening_diagnosis.py` are left out too. The ledger of
a book may raise inside a check, so the report is a `Result`.
-/

namespace Thytrader.Risk

open Lib MarketData Trading

/-! ## Vocabulary -/

/-- `FleetCheckName`, for the checks of a spot scope. -/
inductive FleetCheckName where
  | fleetDisarm
  | accountingInventory
  | quoteScope
  | venueQuoteBalance
  | futuresCollateral
  | openPositionSlots
  | exposureCap
  | btcBeta
  | unresolvedAccounting
  | dailyLoss
  | drawdownLatch
  | linkedFuturesBreaker
  | entryCluster
  deriving DecidableEq, Repr

inductive FleetCheckStatus where
  | pass
  | blocked
  | unknown
  | notApplicable
  deriving DecidableEq, Repr

inductive FleetBlockerClass where
  | evidence
  | latch
  | policy
  | capacity
  | transient
  | operator
  deriving DecidableEq, Repr

inductive FleetAdmissibility where
  | yes
  | blocked
  | unknown
  deriving DecidableEq, Repr

/-- `FleetEntryCheck`, without the books it names. -/
structure FleetEntryCheck where
  name : FleetCheckName
  status : FleetCheckStatus
  detail : List DetailPart := []
  reasonCode : Option RiskReasonCode := none
  blockerClass : Option FleetBlockerClass := none
  fleetWide : Bool := false
  deriving DecidableEq

/-- `FleetScopeEvidence` of a spot scope. -/
structure FleetScopeEvidence where
  mode : DeploymentMode
  scope : SpotQuoteCurrency
  entriesInhibited : Option Bool := some false
  beta : Option BetaEvidence := none
  betaLoaded : Bool := true
  futuresCollateral : Option FuturesCollateralEvidence := none
  collateralLoaded : Bool := true
  futuresLegs : Option FuturesLegs := none

structure FleetScopeHealth where
  mode : DeploymentMode
  scope : SpotQuoteCurrency
  entriesAdmissible : FleetAdmissibility
  runningDeployments : Nat
  occupiedDeployments : Nat
  checks : List FleetEntryCheck

/-- `blocked_check`: a fleet-wide block with the gate's own reason and detail. -/
def blockedCheck (name : FleetCheckName) (denial : Denial) (blockerClass : FleetBlockerClass) :
    FleetEntryCheck :=
  { name
    status := .blocked
    detail := denial.detail
    reasonCode := some denial.reasonCode
    blockerClass := some blockerClass
    fleetWide := true }

def gateCheck (name : FleetCheckName) (blockerClass : Denial → FleetBlockerClass)
    (objection : Objection) : Result FleetEntryCheck :=
  objection.map (fun found =>
    match found with
    | none => { name, status := .pass }
    | some denial => blockedCheck name denial (blockerClass denial))

/-! ## The probe -/

def noStrategy : Uuid := 0

/-- `_probe_product` of a spot scope: the BTC reference of the quote. -/
def probeProduct (scope : SpotQuoteCurrency) : String := "BTC-" ++ scope.text

/-- The neutral entry of `evaluate_scope`. -/
def probeEntry (scope : SpotQuoteCurrency) : ProposedEntry :=
  { productId := probeProduct scope, strategyId := some noStrategy, notional := 0 }

variable (policy : RiskPolicyDefinition) (snapshots : List DeploymentSnapshot)
  (evidence : FleetScopeEvidence) (observation : EntryObservation)

/-- `_Scope.books`. -/
def scopeDailyBooks : List DeploymentSnapshot :=
  (dailyLossSnapshots snapshots evidence.mode).filter
    (fun item => snapshotQuote item = some (.spot evidence.scope))

/-- `_Scope.occupied`. -/
def scopeOccupied : List DeploymentSnapshot :=
  (scopeDailyBooks snapshots evidence).filter (fun item => occupiesRunningSlot item.deployment)

/-! ## Operator controls and inventory -/

def disarmCheck : FleetEntryCheck :=
  match evidence.entriesInhibited with
  | some false => { name := .fleetDisarm, status := .pass }
  | some true =>
    { name := .fleetDisarm
      status := .blocked
      detail := [.text "New ", .text (match evidence.mode with | .live => "live" | .paper => "paper"),
        .text " entries are disarmed until an explicit fleet rearm."]
      reasonCode := some .entriesDisabled
      blockerClass := some .operator
      fleetWide := true }
  | none =>
    { name := .fleetDisarm
      status := .blocked
      detail := [.text "The fleet entry-inhibition latch could not be read; entries fail closed."]
      reasonCode := some .entriesDisabled
      blockerClass := some .evidence
      fleetWide := true }

/-- `_inventory_check`: one unreadable book denies every entry. -/
def inventoryCheck (unreadable : List Uuid) : FleetEntryCheck :=
  if unreadable = [] then { name := .accountingInventory, status := .pass }
  else
    { name := .accountingInventory
      status := .blocked
      detail := [.text
        "Fresh complete risk accounting evidence is unavailable; entries are disabled."]
      reasonCode := some .breakerMarkMissing
      blockerClass := some .evidence
      fleetWide := true }

/-- `_quote_scope_check`: the check and the books the gate would measure against. -/
def quoteScopeCheck : FleetEntryCheck × List DeploymentSnapshot :=
  match quoteScopedSnapshots (riskBearingSnapshots snapshots evidence.mode)
      (probeProduct evidence.scope) with
  | .ok books => ({ name := .quoteScope, status := .pass }, books)
  | .error denial => (blockedCheck .quoteScope denial .evidence, [])

/-! ## Capital and capacity -/

/-- `scope_live_quote_cash`: the newest observed venue quote of the scope's occupied books. -/
def scopeLiveQuoteCash : Option Decimal :=
  let observed := (snapshots.filter (fun item =>
    item.deployment.mode = evidence.mode ∧ occupiesRunningSlot item.deployment ∧
      snapshotQuote item = some (.spot evidence.scope) ∧
      item.deployment.venueAvailableQuote.isSome)).map (·.deployment)
  -- `Time` is `Int`, compared by its computable order
  let newest := @List.argmax _ _ Int.instLinearOrder.toPartialOrder.toPreorder _ (·.updatedAt) observed
  newest.bind (·.venueAvailableQuote)

/-- The venue quote a spot scope is measured with: none on paper. -/
def scopeCash : Option Decimal :=
  if evidence.mode = .live then scopeLiveQuoteCash snapshots evidence else none

/-- `venue_check`: fleet-wide only when no occupied book has an observed balance. -/
def venueCheck : FleetEntryCheck :=
  if evidence.mode ≠ .live then { name := .venueQuoteBalance, status := .notApplicable }
  else
    let blind := (scopeOccupied snapshots evidence).filter (fun item =>
      item.deployment.status = .running ∧ item.deployment.venueAvailableQuote.isNone)
    if blind = [] then { name := .venueQuoteBalance, status := .pass }
    else
      let every := (scopeLiveQuoteCash snapshots evidence).isNone
      { name := .venueQuoteBalance
        status := .blocked
        detail :=
          if every then
            [.text
              "No occupied book has an observed venue quote balance; every live entry is denied."]
          else
            [.count blind.length, .text " running book(s) have no observed venue quote balance."]
        reasonCode := some .venueBalanceUnknown
        blockerClass := some .evidence
        fleetWide := every }

/-- `collateral_check`: the check and the quote left for spot. -/
def collateralCheck (cash : Option Decimal) : FleetEntryCheck × Option Decimal :=
  if evidence.mode ≠ .live ∨ collateralLinked (probeProduct evidence.scope) = false then
    ({ name := .futuresCollateral, status := .notApplicable }, cash)
  else if evidence.collateralLoaded = false then
    ({ name := .futuresCollateral
       status := .unknown
       detail := [.text "The futures account mirror could not be classified for this report."] },
      cash)
  else
    match collateralVerdict policy evidence.mode (probeEntry evidence.scope)
        evidence.futuresCollateral cash with
    | (none, remaining) => ({ name := .futuresCollateral, status := .pass }, remaining)
    | (some denial, _) =>
      let unknown := evidence.futuresCollateral.any (fun account => account.state = .unknown) ∨
        denial.reasonCode = .futuresCollateralUnknown
      (blockedCheck .futuresCollateral denial (if unknown then .evidence else .policy), cash)

def openSlotsCheck : FleetEntryCheck :=
  let occupied := snapshots.filter (fun item =>
    item.deployment.mode = evidence.mode ∧ occupiesRunningSlot item.deployment)
  let used := (occupied.map openPositionSlotCount).sum
  let cap := policy.maxConcurrentOpenPositions
  if used < cap then { name := .openPositionSlots, status := .pass }
  else
    { name := .openPositionSlots
      status := .blocked
      detail := [.count used, .text " open or pending positions use every one of the ",
        .count cap, .text " concurrent slots for ",
        .text (match evidence.mode with | .live => "live" | .paper => "paper"),
        .text "; new entries wait for an exit."]
      reasonCode := some .maxOpenPositions
      blockerClass := some .capacity
      fleetWide := true }

/-- `exposure_cap_check`: only the account-wide cap is fleet-wide. -/
def exposureCapCheck (quoteBooks : List DeploymentSnapshot) (cash : Option Decimal) :
    Result FleetEntryCheck :=
  (exposureVerdict policy evidence.mode (probeEntry evidence.scope) quoteBooks cash).map
    (fun found =>
      match found with
      | none => { name := .exposureCap, status := .pass }
      | some denial =>
        if denial.reasonCode ≠ .portfolioExposureExceeded then
          { name := .exposureCap, status := .pass }
        else
          blockedCheck .exposureCap denial
            (if capitalBase policy evidence.mode cash quoteBooks ≤ 0 then .evidence
              else .capacity))

/-! ## Evidence and breakers -/

def betaCheck (quoteBooks : List DeploymentSnapshot) (cash : Option Decimal) :
    Result FleetEntryCheck :=
  if betaCapApplies policy evidence.mode = false then
    .ok { name := .btcBeta, status := .notApplicable }
  else if evidence.betaLoaded = false then
    .ok
      { name := .btcBeta
        status := .unknown
        detail := [.text "BTC-beta evidence could not be loaded for this report."] }
  else
    gateCheck .btcBeta
      (fun denial => if denial.reasonCode = .btcBetaUnavailable then .evidence else .capacity)
      (betaVerdict policy evidence.mode (probeEntry evidence.scope) quoteBooks cash evidence.beta
        (some observation.asOf) snapshots evidence.futuresLegs observation.marks)

def unresolvedCheck : Result FleetEntryCheck :=
  gateCheck .unresolvedAccounting (fun _ => .evidence)
    (unresolvedAccountingVerdict evidence.mode (probeProduct evidence.scope) snapshots)

def dailyLossCheck (quoteBooks : List DeploymentSnapshot) (cash : Option Decimal) :
    Result FleetEntryCheck :=
  gateCheck .dailyLoss
    (fun denial => if denial.reasonCode = .dailyLossLimit then .latch else .evidence)
    (evaluateCircuitBreakers policy evidence.mode (probeProduct evidence.scope) (some noStrategy)
      snapshots observation (capitalBase policy evidence.mode cash quoteBooks))

/-- `_drawdown_latch_check`: a latched drawdown blocks only its own strategy's entries. -/
def drawdownLatchCheck : FleetEntryCheck :=
  let latched := (scopeDailyBooks snapshots evidence).filter (·.deployment.drawdownLatched)
  if latched = [] then { name := .drawdownLatch, status := .pass }
  else
    { name := .drawdownLatch
      status := .blocked
      detail := [.text "Drawdown breaker latched for ",
        .count (latched.map (·.deployment.strategyId)).dedup.length,
        .text " strategy(ies); only their entries are blocked until an operator reset."]
      reasonCode := some .strategyDrawdownLimit
      blockerClass := some .latch
      fleetWide := false }

def linkedBreakerCheck : Result FleetEntryCheck :=
  gateCheck .linkedFuturesBreaker (fun _ => .latch)
    (linkedBreakerVerdict evidence.mode (probeProduct evidence.scope) snapshots)

def clusterCheck : Result FleetEntryCheck :=
  gateCheck .entryCluster (fun _ => .transient)
    (clusterVerdict policy evidence.mode (probeEntry evidence.scope) snapshots (some observation))

/-! ## The report -/

def admissibility (checks : List FleetEntryCheck) : FleetAdmissibility :=
  if checks.any (fun check => check.status = .blocked ∧ check.fleetWide) then .blocked
  else if checks.any (fun check => check.status = .unknown) then .unknown
  else .yes

/-- The checks of `evaluate_scope`, in the gate's order. -/
def scopeChecks (unreadable : List Uuid) : Result (List FleetEntryCheck) := do
  let (quoteCheck, quoteBooks) := quoteScopeCheck snapshots evidence
  let (collateral, cash) := collateralCheck policy evidence (scopeCash snapshots evidence)
  let exposure ← exposureCapCheck policy evidence quoteBooks cash
  let beta ← betaCheck policy snapshots evidence observation quoteBooks cash
  let unresolved ← unresolvedCheck snapshots evidence
  let daily ← dailyLossCheck policy snapshots evidence observation quoteBooks cash
  let linked ← linkedBreakerCheck snapshots evidence
  let cluster ← clusterCheck policy snapshots evidence observation
  return [disarmCheck evidence, inventoryCheck unreadable, quoteCheck,
    venueCheck snapshots evidence, collateral, openSlotsCheck policy snapshots evidence, exposure,
    beta, unresolved, daily, drawdownLatchCheck snapshots evidence, linked, cluster]

/-- `evaluate_scope` of a spot scope. -/
def evaluateScope (unreadable : List Uuid) : Result FleetScopeHealth :=
  (scopeChecks policy snapshots evidence observation unreadable).map (fun checks =>
    let occupied := scopeOccupied snapshots evidence
    { mode := evidence.mode
      scope := evidence.scope
      entriesAdmissible := admissibility checks
      runningDeployments :=
        (occupied.filter (fun item => item.deployment.status = .running)).length
      occupiedDeployments := occupied.length
      checks })

end Thytrader.Risk
