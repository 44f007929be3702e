import Thytrader.Risk.Beta
import Thytrader.Risk.Bounds
import Thytrader.Risk.Breakers

/-!
# The entry gate

`risk/gate.py`, `evaluate_new_entry`: every check of a risk-increasing entry in
its fixed order. A sleeve's portfolio limits follow membership, the shared
collateral may withhold quote from every later check, order bounds come before
the exposure caps, and the breakers come last.

Mirroring notes: futures ids are admitted in their own scope
(`evaluate_futures_entry`), which no spot entry reaches; that verdict is the
parameter `futuresEntry`. The keyword evidence is one record.
-/

namespace Thytrader.Risk

open Lib MarketData Trading

/-- `_clustered_or_allow`, `_entry_breaker_verdict`: loss, drawdown, rate, collar, clustering. An
in-kind entry keeps the breakers only; without an observation only clustering is evaluated. -/
def entryBreakerVerdict (policy : RiskPolicyDefinition) (mode : DeploymentMode)
    (proposed : ProposedEntry) (riskBearing quoteBooks snapshots : List DeploymentSnapshot)
    (liveQuoteCash : Option Decimal) (observation : Option EntryObservation) : Objection :=
  let clustered := clusterVerdict policy mode proposed snapshots observation
  match observation with
  | none => clustered
  | some observed =>
    let capital := capitalBase policy mode liveQuoteCash quoteBooks proposed.inKindCapital
    (evaluateCircuitBreakers policy mode proposed.productId proposed.strategyId snapshots observed
      capital).andThen <|
    if proposed.inKind then .pass
    else (evaluateRateAndCollar policy mode riskBearing observed).andThen clustered

/-- The checks of `evaluate_new_entry` once the books of the entry's quote are known and
the shared collateral has left `liveQuoteCash`. -/
def boundedEntry (policy : RiskPolicyDefinition) (mode : DeploymentMode)
    (proposed : ProposedEntry) (riskBearing quoteBooks snapshots : List DeploymentSnapshot)
    (liveQuoteCash : Option Decimal) (evidence : EntryEvidence) : Objection :=
  (if proposed.inKind then Check.pass
    else orderBoundVerdict policy mode proposed quoteBooks liveQuoteCash).andThen <|
  (exposureVerdict policy mode proposed quoteBooks liveQuoteCash).andThen <|
  (betaVerdict policy mode proposed quoteBooks liveQuoteCash evidence.beta
    (evidence.observation.map (·.asOf)) snapshots evidence.futuresLegs
    ((evidence.observation.map (·.marks)).getD Dict.empty)).andThen <|
  (unresolvedAccountingVerdict mode proposed.productId snapshots).andThen <|
  entryBreakerVerdict policy mode proposed riskBearing quoteBooks snapshots liveQuoteCash
    evidence.observation

/-- The checks of `evaluate_new_entry` over the books of the entry's quote. -/
def scopedEntry (policy : RiskPolicyDefinition) (mode : DeploymentMode)
    (proposed : ProposedEntry) (riskBearing quoteBooks snapshots : List DeploymentSnapshot)
    (evidence : EntryEvidence) : Objection :=
  let occupied := snapshots.filter (fun item =>
    item.deployment.mode = mode ∧ occupiesRunningSlot item.deployment)
  let collateral := collateralVerdict policy mode proposed evidence.futuresCollateral
    evidence.liveQuoteCash
  (entryMembership policy mode proposed occupied (evidence.portfolio.any (·.live))).andThen <|
  (portfolioVerdict evidence.portfolio proposed riskBearing quoteBooks).andThen <|
  Check.andThen (.ok collateral.1) <|
  boundedEntry policy mode proposed riskBearing quoteBooks snapshots collateral.2 evidence

/-- The spot checks of `evaluate_new_entry`. -/
def evaluateSpotEntry (policy : RiskPolicyDefinition) (mode : DeploymentMode)
    (proposed : ProposedEntry) (snapshots : List DeploymentSnapshot) (evidence : EntryEvidence) :
    Objection :=
  let riskBearing := riskBearingSnapshots snapshots mode
  (linkedBreakerVerdict mode proposed.productId snapshots).andThen <|
  withBooks (quoteScopedSnapshots riskBearing proposed.productId) fun quoteBooks =>
    scopedEntry policy mode proposed riskBearing quoteBooks snapshots evidence

/-- `evaluate_new_entry`: allow a risk-increasing entry only when slots, exposure, and
breakers permit it. -/
def evaluateNewEntry (futuresEntry : ProposedEntry → Result RiskVerdict)
    (policy : RiskPolicyDefinition) (mode : DeploymentMode) (proposed : ProposedEntry)
    (snapshots : List DeploymentSnapshot) (evidence : EntryEvidence) : Result RiskVerdict :=
  if isFuturesProductId proposed.productId then futuresEntry proposed
  else verdictOf (evaluateSpotEntry policy mode proposed snapshots evidence)

theorem evaluateNewEntry_eq_allow_iff {futuresEntry : ProposedEntry → Result RiskVerdict}
    {policy : RiskPolicyDefinition} {mode : DeploymentMode} {proposed : ProposedEntry}
    {snapshots : List DeploymentSnapshot} {evidence : EntryEvidence}
    (hspot : isSpotProductId proposed.productId = true) :
    evaluateNewEntry futuresEntry policy mode proposed snapshots evidence = .ok .allow ↔
      evaluateSpotEntry policy mode proposed snapshots evidence = .pass := by
  unfold evaluateNewEntry
  rw [if_neg (by simp [isFuturesProductId_of_spot hspot]), verdictOf_eq_allow_iff]

end Thytrader.Risk
