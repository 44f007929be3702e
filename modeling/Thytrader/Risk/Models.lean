import Thytrader.Lib.Checks
import Thytrader.MarketData.Instruments
import Thytrader.Trading.Models
import Thytrader.Lib.Dict

/-!
# Risk policies, proposals and verdicts

`risk/models.py`, `risk/futures_policy.py` and the records of
`risk/gate_common.py`, `risk/breakers.py`, `risk/portfolio_limits.py`,
`risk/futures_collateral.py`, `risk/beta.py` and `risk/futures_beta.py`: what
the entry gate reads and what it answers.

Mirroring notes: a policy document is validated when it is built, so
`RiskPolicyDefinition` carries the validators' verdict as a field. `DecimalText`
is the decimal it denotes. A verdict is an allow, or a denial with its reason
and detail; a detail is the list of its literal texts and interpolated values,
because the printed form of a `Decimal` depends on an exponent that the exact
value does not keep. Policy fields that no modelled check reads are left out.
-/

namespace Thytrader.Risk

open Lib MarketData Trading

/-! ## Verdicts -/

inductive RiskReasonCode where
  | allowed
  | productNotAllowlisted
  | maxRunningDeployments
  | maxOpenPositions
  | paperCapitalExceeded
  | strategyNotAllocated
  | allocationExceeded
  | portfolioExposureExceeded
  | productExposureExceeded
  | discretionaryNotAllocated
  | dailyLossLimit
  | strategyDrawdownLimit
  | orderRateLimit
  | cancelRateLimit
  | referencePriceCollar
  | referencePriceUnavailable
  | breakerMarkMissing
  | pyramidingNotAllowed
  | liveRequiresPublishedPolicy
  | venueRequestBudgetExceeded
  | maxOrderQuantity
  | maxOrderNotional
  | balanceReserve
  | staleMark
  | productDisabled
  | connectionUnhealthy
  | venueBalanceUnknown
  | signalStale
  | entriesDisabled
  | portfolioTotalExposureLimit
  | portfolioAssetExposureLimit
  | portfolioBreakerLatched
  | portfolioDailyLossStop
  | portfolioDrawdownStop
  | portfolioLimitsUnavailable
  | fleetEntryClusterLimit
  | btcBetaExposureExceeded
  | btcBetaUnavailable
  | futuresCollateralUnknown
  | futuresCollateralInUse
  | futuresCollateralReserveShort
  | futuresLiveUnsupported
  | futuresPaperUnsupported
  | futuresPolicyUnset
  | futuresPaperCapitalExceeded
  | futuresContractUnbound
  | futuresMarginUnknown
  | futuresLeverageExceeded
  | futuresLiquidationBuffer
  | fundingHistoryMissing
  | sharedCollateralBreaker
  | futuresExposureExceeded
  | futuresOrderContractsExceeded
  | futuresFundingRateExceeded
  | futuresLiveDisabled
  | futuresLiveCapitalUnset
  | futuresLiveCapitalExceeded
  | futuresProductOccupied
  | futuresExternalPositionOnProduct
  | futuresLiveDatedUnsupported
  | futuresBuyingPowerShort
  | futuresVenueKillswitch
  | futuresVenueMaintenance
  | futuresContractDrift
  deriving DecidableEq, Repr

/-- One piece of a verdict's detail: literal text, or an interpolated value. -/
inductive DetailPart where
  | text (literal : String)
  | decimal (value : Decimal)
  | cents (value : Decimal)
  | setting (value : Option Decimal)
  | count (value : Int)
  | uuid (value : Uuid)
  | instant (value : Time)
  | reason (value : RiskReasonCode)
  deriving DecidableEq

structure Denial where
  reasonCode : RiskReasonCode
  detail : List DetailPart
  deriving DecidableEq

inductive RiskVerdict where
  | allow
  | deny (denial : Denial)
  deriving DecidableEq

/-- A check of the gate: a denial, or no objection. The source writes the latter
as `None` or as `_allow()`. -/
abbrev Objection := Check Failure Denial

def deny (reasonCode : RiskReasonCode) (detail : List DetailPart) : Objection :=
  .ok (some { reasonCode, detail })

/-- `_deny` with a plain text. -/
def denyText (reasonCode : RiskReasonCode) (detail : String) : Objection :=
  deny reasonCode [.text detail]

variable {reasonCode : RiskReasonCode}

theorem deny_ne_pass {detail : List DetailPart} : deny reasonCode detail ≠ .pass := by
  unfold deny Check.pass
  simp

theorem denyText_ne_pass {detail : String} : denyText reasonCode detail ≠ .pass := deny_ne_pass

def verdictOf (objection : Objection) : Result RiskVerdict :=
  match objection with
  | .error failure => .error failure
  | .ok none => .ok .allow
  | .ok (some denial) => .ok (.deny denial)

theorem verdictOf_eq_allow_iff {objection : Objection} :
    verdictOf objection = .ok .allow ↔ objection = .pass := by
  unfold verdictOf Check.pass
  split
  · simp
  · simp
  · simp

/-! ## Policies -/

structure CapitalAllocation where
  strategyId : Uuid
  allocatedQuote : Decimal
  deriving DecidableEq

structure DeskAllocation where
  deskId : String
  allocatedQuote : Decimal
  deriving DecidableEq

inductive BetaNetting where
  | gross
  | netByUnderlying
  deriving DecidableEq, Repr

/-- `FuturesRiskPolicy`: the fields the spot gate reads. -/
structure FuturesRiskPolicy where
  liveSpotCollateralReserveQuote : Option Decimal := none
  pegHaircut : Decimal := 5 / 4
  dailyLossLimitFraction : Option Decimal := none
  maxDailyLossUsd : Option Decimal := none
  betaNetting : Option BetaNetting := none
  productAllowlist : Option (List String) := none
  deriving DecidableEq

def FuturesRiskPolicy.netsByUnderlying (futures : FuturesRiskPolicy) : Bool :=
  futures.betaNetting = some .netByUnderlying

/-- The fields of a policy document, before validation. -/
structure PolicyFields where
  quoteCurrency : SpotQuoteCurrency := .usdc
  productAllowlist : List String := []
  maxConcurrentOpenPositions : Nat
  maxPortfolioExposureFraction : Decimal
  perProductMaxExposureFraction : Decimal
  paperCapitalQuote : Decimal
  allocations : List CapitalAllocation := []
  deskAllocations : List DeskAllocation := []
  dailyLossLimitFraction : Decimal := 1
  maxStrategyDrawdownFraction : Decimal := 1
  maxEntryOrdersPerMinute : Nat := 60
  maxCancellationsPerMinute : Nat := 60
  referencePriceCollarFraction : Decimal := 1 / 2
  allowIntraStrategyPyramiding : Bool := false
  maxDailyLossQuote : Option Decimal := none
  maxPortfolioExposureQuote : Option Decimal := none
  maxVenueOrderActionsPerMinute : Option Nat := none
  maxOrderQuantity : Option Decimal := none
  maxOrderNotionalQuote : Option Decimal := none
  minAvailableQuoteReserve : Option Decimal := none
  maxFleetEntriesPerWindow : Option Nat := none
  fleetEntryWindowMinutes : Option Nat := none
  maxBtcBetaExposureFraction : Option Decimal := none
  maxBtcBetaExposureQuote : Option Decimal := none
  futures : Option FuturesRiskPolicy := none

/-- `_unit_fraction`: in (0, 1]. -/
def unitFraction (value : Decimal) : Bool := 0 < value ∧ value ≤ 1

def positiveWhenSet (value : Option Decimal) : Bool := value.all (fun amount => 0 < amount)

/-- The validators of `FuturesRiskPolicy`. -/
def FuturesRiskPolicy.validated (futures : FuturesRiskPolicy) : Bool :=
  positiveWhenSet futures.liveSpotCollateralReserveQuote ∧ 1 ≤ futures.pegHaircut ∧
    futures.dailyLossLimitFraction.all unitFraction ∧ positiveWhenSet futures.maxDailyLossUsd ∧
    futures.productAllowlist.all (fun listed => listed ≠ [] ∧ listed.Nodup ∧
      listed.length ≤ 32 ∧ listed.all (fun productId =>
        isFuturesProductId productId ∧ normalized productId = productId.toList))

/-- `RiskPolicyDefinition`'s field constraints and validators. -/
def PolicyFields.validated (policy : PolicyFields) : Bool :=
  policy.productAllowlist.Nodup ∧ policy.productAllowlist.length ≤ 256 ∧
    policy.productAllowlist.all (fun productId =>
      isSpotProductId productId ∧ normalized productId = productId.toList) ∧
    1 ≤ policy.maxConcurrentOpenPositions ∧ policy.maxConcurrentOpenPositions ≤ 128 ∧
    [policy.maxPortfolioExposureFraction, policy.perProductMaxExposureFraction,
      policy.dailyLossLimitFraction, policy.maxStrategyDrawdownFraction,
      policy.referencePriceCollarFraction].all unitFraction ∧
    policy.maxBtcBetaExposureFraction.all unitFraction ∧
    [policy.maxDailyLossQuote, policy.maxPortfolioExposureQuote, policy.maxOrderQuantity,
      policy.maxOrderNotionalQuote, policy.minAvailableQuoteReserve,
      policy.maxBtcBetaExposureQuote].all positiveWhenSet ∧
    0 < policy.paperCapitalQuote ∧
    1 ≤ policy.maxEntryOrdersPerMinute ∧ policy.maxEntryOrdersPerMinute ≤ 1000 ∧
    1 ≤ policy.maxCancellationsPerMinute ∧ policy.maxCancellationsPerMinute ≤ 1000 ∧
    policy.maxVenueOrderActionsPerMinute.all (fun n => 1 ≤ n ∧ n ≤ 10000) ∧
    (policy.allocations.map (·.strategyId)).Nodup ∧
    (policy.deskAllocations.map (·.deskId)).Nodup ∧
    policy.allocations.all (fun item => 0 < item.allocatedQuote) ∧
    policy.deskAllocations.all (fun item => 0 < item.allocatedQuote ∧
      1 ≤ item.deskId.length ∧ item.deskId.length ≤ 36) ∧
    (policy.allocations.map (·.allocatedQuote)).sum +
      (policy.deskAllocations.map (·.allocatedQuote)).sum ≤ policy.paperCapitalQuote ∧
    (policy.maxFleetEntriesPerWindow.isNone ↔ policy.fleetEntryWindowMinutes.isNone) ∧
    policy.maxFleetEntriesPerWindow.all (fun n => 1 ≤ n ∧ n ≤ 128) ∧
    policy.fleetEntryWindowMinutes.all (fun n => 1 ≤ n ∧ n ≤ 1440) ∧
    policy.futures.all FuturesRiskPolicy.validated

/-- `RiskPolicyDefinition`: a policy document that passed its validators. -/
structure RiskPolicyDefinition extends PolicyFields where
  valid : toPolicyFields.validated = true

theorem RiskPolicyDefinition.allocations_nodup (policy : RiskPolicyDefinition) :
    (policy.allocations.map (·.strategyId)).Nodup := by
  have h := policy.valid
  simp only [PolicyFields.validated, decide_eq_true_eq] at h
  exact h.2.2.2.2.2.2.2.2.2.2.2.2.2.2.1

/-- Whether base-unit beta netting is on. -/
def PolicyFields.netsByUnderlying (policy : PolicyFields) : Bool :=
  policy.futures.any FuturesRiskPolicy.netsByUnderlying

/-! ## Proposals -/

inductive EntryFunding where
  | quote
  | inKind
  deriving DecidableEq, Repr

/-- `ProposedEntry`: one sized entry the runtime wants to rest. -/
structure ProposedEntry where
  productId : String
  strategyId : Option Uuid
  notional : Decimal
  isPyramidAdd : Bool := false
  quantity : Option Decimal := none
  funding : EntryFunding := .quote
  readmitsWorkingEntry : Bool := false
  side : Option PositionSide := none
  deskId : Option String := none
  deskCommitted : Decimal := 0
  deriving DecidableEq

def ProposedEntry.inKind (proposed : ProposedEntry) : Bool := proposed.funding = .inKind

def ProposedEntry.inKindCapital (proposed : ProposedEntry) : Decimal :=
  if proposed.inKind then proposed.notional else 0

/-! ## Evidence -/

structure EntryObservation where
  asOf : Time
  proposedPrice : Option Decimal
  referencePrice : Option Decimal
  marks : Dict String Decimal

/-- `PortfolioRiskBook`: one deployed portfolio's shared limits. -/
structure PortfolioRiskBook where
  portfolioId : Uuid
  capital : Decimal
  maxTotalExposureFraction : Decimal
  maxPerAssetFraction : Decimal
  live : Bool := false
  breakerReason : Option RiskReasonCode := none
  available : Bool := true

inductive FuturesCollateralState where
  | absent
  | idle
  | inUse
  | unknown
  deriving DecidableEq, Repr

/-- `FuturesCollateralEvidence`: the classified futures account. -/
structure FuturesCollateralEvidence where
  state : FuturesCollateralState
  initialMarginUsd : Option Decimal
  cause : String

inductive BetaUnavailableReason where
  | insufficientHistory
  | invalidHistory
  | stale
  | fetchFailed
  | notLoaded
  deriving DecidableEq, Repr

structure BetaEstimate where
  beta : Decimal
  returns : Nat
  lastClose : Option Time

structure BetaUnavailable where
  reason : BetaUnavailableReason
  returns : Nat := 0
  lastClose : Option Time := none

inductive BetaResult where
  | estimate (value : BetaEstimate)
  | unavailable (cause : BetaUnavailable)

/-- `BetaEvidence`: results by product. -/
structure BetaEvidence where
  results : Dict String BetaResult

/-- `FuturesLegs`: the bound futures books of one mode. -/
structure FuturesLegs where
  underlyings : Dict Uuid String := Dict.empty
  fundingCurrent : List Uuid := []

/-- The keyword evidence of `evaluate_new_entry`. -/
structure EntryEvidence where
  liveQuoteCash : Option Decimal := none
  observation : Option EntryObservation := none
  portfolio : Option PortfolioRiskBook := none
  beta : Option BetaEvidence := none
  futuresCollateral : Option FuturesCollateralEvidence := none
  futuresLegs : Option FuturesLegs := none

end Thytrader.Risk
