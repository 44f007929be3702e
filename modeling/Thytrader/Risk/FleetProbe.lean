import Thytrader.Risk.FleetHealth
import Thytrader.Risk.GateSoundness

/-!
# The probe of a scope

The report asks the gate's checks about a probe; the gate asks them about a real entry. What the
gate passes for a new quote-funded entry of the scope it passes for the probe: every check but the
BTC-beta cap reads the quote of the product only, or grows with the notional and the capital.
-/

namespace Thytrader.Risk

open Lib MarketData Trading Option Check ProposedEntry FuturesRiskPolicy

/-! ## Entries of a scope -/

structure NewEntry (scope : SpotQuoteCurrency) (proposed : ProposedEntry) : Prop where
  quote : productQuote proposed.productId = some (.spot scope)
  funding : proposed.funding = .quote
  noAdd : proposed.isPyramidAdd = false
  noReprice : proposed.readmitsWorkingEntry = false
  positive : 0 < proposed.notional

def gateEvidence (snapshots : List DeploymentSnapshot) (evidence : FleetScopeEvidence)
    (observation : EntryObservation) (portfolio : Option PortfolioRiskBook) : EntryEvidence :=
  { liveQuoteCash := scopeCash snapshots evidence
    observation := some observation
    portfolio
    beta := evidence.beta
    futuresCollateral := evidence.futuresCollateral
    futuresLegs := evidence.futuresLegs }

def FleetCheckName.derived : FleetCheckName → Bool
  | .quoteScope => true
  | .futuresCollateral => true
  | .openPositionSlots => true
  | .exposureCap => true
  | .btcBeta => true
  | .unresolvedAccounting => true
  | .dailyLoss => true
  | .linkedFuturesBreaker => true
  | .entryCluster => true
  | .fleetDisarm => false
  | .accountingInventory => false
  | .venueQuoteBalance => false
  | .drawdownLatch => false

def FleetEntryCheck.Blocks (check : FleetEntryCheck) : Prop :=
  check.name.derived = true ∧ check.status = .blocked ∧ check.fleetWide = true

instance (check : FleetEntryCheck) : Decidable check.Blocks :=
  inferInstanceAs (Decidable (_ ∧ _ ∧ _))

theorem probeProduct_quote (scope : SpotQuoteCurrency) :
    productQuote (probeProduct scope) = some (.spot scope) := by
  cases scope with
  | usd | usdc | usdt => decide +kernel

theorem isFuturesProductId_of_quote {productId : String} {quote : SpotQuoteCurrency}
    (h : productQuote productId = some (.spot quote)) : isFuturesProductId productId = false := by
  obtain ⟨hfutures, h⟩ := of_ite_ne h nofun
  simpa using hfutures

section

variable (policy : RiskPolicyDefinition) (snapshots : List DeploymentSnapshot)
  (evidence : FleetScopeEvidence) (observation : EntryObservation)
  (portfolio : Option PortfolioRiskBook) (proposed : ProposedEntry)
  (books : List DeploymentSnapshot)

/-- The venue quote the gate measures an entry with. -/
def gateCash : Option Decimal :=
  (collateralVerdict policy evidence.mode proposed evidence.futuresCollateral
    (scopeCash snapshots evidence)).2

/-- Every check of the gate but the BTC-beta cap passes the entry. -/
structure AdmittedButForBeta : Prop where
  linked : linkedBreakerVerdict evidence.mode proposed.productId snapshots = .pass
  sameQuote : quoteScopedSnapshots (riskBearingSnapshots snapshots evidence.mode)
    proposed.productId = .ok books
  membership : entryMembership policy evidence.mode proposed (snapshots.filter (fun item =>
    item.deployment.mode = evidence.mode ∧ occupiesRunningSlot item.deployment))
    (portfolio.any (·.live)) = .pass
  sleeve : portfolioVerdict portfolio proposed (riskBearingSnapshots snapshots evidence.mode)
    books = .pass
  collateral : (collateralVerdict policy evidence.mode proposed evidence.futuresCollateral
    (scopeCash snapshots evidence)).1 = none
  bounds : orderBoundVerdict policy evidence.mode proposed books
    (gateCash policy snapshots evidence proposed) = .pass
  exposure : exposureVerdict policy evidence.mode proposed books
    (gateCash policy snapshots evidence proposed) = .pass
  unresolved : unresolvedAccountingVerdict evidence.mode proposed.productId snapshots = .pass
  breakers : evaluateCircuitBreakers policy evidence.mode proposed.productId proposed.strategyId
    snapshots observation (capitalBase policy evidence.mode
      (gateCash policy snapshots evidence proposed) books) = .pass
  rates : evaluateRateAndCollar policy evidence.mode
    (riskBearingSnapshots snapshots evidence.mode) observation = .pass
  cluster : clusterVerdict policy evidence.mode proposed snapshots (some observation) = .pass

/-- The gate's BTC-beta cap passes the entry. -/
def BetaAdmits : Prop :=
  betaVerdict policy evidence.mode proposed books (gateCash policy snapshots evidence proposed)
    evidence.beta (some observation.asOf) snapshots evidence.futuresLegs observation.marks = .pass

end

variable {policy : RiskPolicyDefinition} {snapshots : List DeploymentSnapshot}
  {evidence : FleetScopeEvidence} {observation : EntryObservation}
  {portfolio : Option PortfolioRiskBook} {proposed : ProposedEntry}
variable {books : List DeploymentSnapshot} {small big : Decimal}

theorem allow_iff (hentry : NewEntry evidence.scope proposed)
    (futuresEntry : ProposedEntry → Result RiskVerdict) :
    evaluateNewEntry futuresEntry policy evidence.mode proposed snapshots
        (gateEvidence snapshots evidence observation portfolio) = .ok .allow ↔
      ∃ books, AdmittedButForBeta policy snapshots evidence observation portfolio proposed books ∧
        BetaAdmits policy snapshots evidence observation proposed books := by
  have hinKind : proposed.inKind = false := by simp [inKind, hentry.funding]
  have hcapital : proposed.inKindCapital = 0 := by simp [inKindCapital, hinKind]
  unfold evaluateNewEntry
  rw [if_neg (by simp [isFuturesProductId_of_quote hentry.quote]), verdictOf_eq_allow_iff]
  unfold evaluateSpotEntry
  rw [andThen_pass_iff]
  constructor
  · intro h
    obtain ⟨hlinked, hrest⟩ := h
    unfold withBooks at hrest
    split at hrest
    · exact absurd hrest (by simp [Check.pass])
    next books hbooks =>
      simp only [scopedEntry, boundedEntry, entryBreakerVerdict, gateEvidence, hinKind, hcapital,
        andThen_pass_iff, map_some, getD_some, Bool.false_eq_true,
        if_false] at hrest
      obtain ⟨hmember, hsleeve, hcollateral, hbounds, hexposure, hbeta, hunresolved, hbreakers,
        hrates, hcluster⟩ := hrest
      exact ⟨books, ⟨hlinked, hbooks, hmember, hsleeve, by simpa [Check.pass] using hcollateral,
        hbounds, hexposure, hunresolved, hbreakers, hrates, hcluster⟩, hbeta⟩
  · intro h
    obtain ⟨books, hrest, hbeta⟩ := h
    refine ⟨hrest.linked, ?_⟩
    rw [hrest.sameQuote]
    simp only [withBooks, scopedEntry, boundedEntry, entryBreakerVerdict, gateEvidence, hinKind,
      hcapital, andThen_pass_iff, map_some, getD_some, Bool.false_eq_true,
      if_false]
    exact ⟨hrest.membership, hrest.sleeve, by rw [hrest.collateral]; rfl, hrest.bounds,
      hrest.exposure, hbeta, hrest.unresolved, hrest.breakers, hrest.rates, hrest.cluster⟩

/-! ## The capital of the report -/

/-- Quote that the shared collateral may have lowered. -/
def CashBelow (small big : Option Decimal) : Prop :=
  small = big ∨ ∃ left whole : Decimal, small = some left ∧ big = some whole ∧ 0 ≤ left ∧
    left ≤ whole

section

variable (policy : RiskPolicyDefinition)

theorem capitalBase_mono {small big : Option Decimal}
    (h : CashBelow small big) (mode : DeploymentMode) (books : List DeploymentSnapshot) :
    capitalBase policy mode small books ≤ capitalBase policy mode big books := by
  obtain rfl | ⟨left, whole, rfl, rfl, hleft, hle⟩ := h
  · exact le_rfl
  · cases mode with
    | paper => exact le_rfl
    | live =>
      simp only [capitalBase]
      rw [if_neg (not_lt.mpr hleft), if_neg (not_lt.mpr (hleft.trans hle))]
      linarith

theorem fractions_pos :
    0 < policy.maxPortfolioExposureFraction ∧ 0 < policy.dailyLossLimitFraction ∧
      ∀ fraction, policy.maxBtcBetaExposureFraction = some fraction → 0 < fraction := by
  have hvalid := policy.valid
  simp only [PolicyFields.validated, decide_eq_true_eq] at hvalid
  obtain ⟨-, -, -, -, -, hunits, hbeta, -⟩ := hvalid
  simp only [List.all_cons, List.all_nil, Bool.and_true, Bool.and_eq_true, unitFraction,
    decide_eq_true_eq] at hunits
  refine ⟨hunits.1.1, hunits.2.2.1.1, ?_⟩
  intro fraction hfraction
  rw [hfraction] at hbeta
  simp only [all_some, unitFraction, decide_eq_true_eq] at hbeta
  exact hbeta.1

theorem paperCapital_pos : 0 < policy.paperCapitalQuote := by
  have hvalid := policy.valid
  simp only [PolicyFields.validated, decide_eq_true_eq] at hvalid
  obtain ⟨-, -, -, -, -, -, -, -, hpositive, -⟩ := hvalid
  exact hpositive

end

variable {reserve : Decimal} {cash : Option Decimal} {mode : DeploymentMode}

/-- A declared reserve is positive. -/
theorem reserve_pos {futures : FuturesRiskPolicy} (hfutures : policy.futures = some futures)
    (hreserve : futures.liveSpotCollateralReserveQuote = some reserve) : 0 < reserve := by
  have hvalid := policy.valid
  simp only [PolicyFields.validated, decide_eq_true_eq] at hvalid
  have hall : policy.futures.all validated = true := by
    obtain ⟨-, -, -, -, -, -, -, -, -, -, -, -, -, -, -, -, -, -, -, -, -, -, hlast⟩ := hvalid
    exact hlast
  rw [hfutures] at hall
  simp only [all_some, validated, decide_eq_true_eq] at hall
  have hpositive := hall.1
  rw [hreserve] at hpositive
  simpa [positiveWhenSet] using hpositive

theorem reserveVerdict_below {haircut : Decimal} {account : FuturesCollateralEvidence}
    (hreserve : 0 < reserve) (h : (reserveVerdict reserve haircut account cash policy).1 = none) :
    CashBelow (reserveVerdict reserve haircut account cash policy).2 cash := by
  unfold reserveVerdict at h ⊢
  dsimp only at h ⊢
  split at h
  · cases h
  next margin hmargin =>
    split at h
    · cases h
    next hcovered =>
      rw [if_neg hcovered]
      split at h
      · exact .inl rfl
      next whole =>
        split at h
        · cases h
        next hleft =>
          rw [if_neg hleft]
          exact .inr ⟨_, _, rfl, rfl, not_lt.mp hleft, by linarith⟩

/-- A passing collateral gate leaves the quote or withholds a reserve from it. -/
theorem collateralVerdict_below {account : Option FuturesCollateralEvidence}
    (h : (collateralVerdict policy mode proposed account cash).1 = none) :
    CashBelow (collateralVerdict policy mode proposed account cash).2 cash := by
  unfold collateralVerdict at h ⊢
  split at h
  · exact .inl rfl
  next found =>
    split at h
    next hskip =>
      rw [if_pos hskip]
      exact .inl rfl
    next happlies =>
      rw [if_neg happlies]
      split at h
      · cases h
      · exact .inl rfl
      · exact .inl rfl
      · split at h
        · cases h
        next futures reserve hfutures =>
          obtain ⟨declared, hdeclared, hpair⟩ := bind_eq_some_iff.mp hfutures
          obtain ⟨amount, hamount, hboth⟩ := map_eq_some_iff.mp hpair
          cases hboth
          exact reserveVerdict_below (reserve_pos hdeclared hamount) h

/-- The collateral gate reads the quote of the product only. -/
theorem collateralVerdict_probe (hentry : NewEntry evidence.scope proposed)
    (account : Option FuturesCollateralEvidence) (cash : Option Decimal) :
    collateralVerdict policy evidence.mode (probeEntry evidence.scope) account cash =
      collateralVerdict policy evidence.mode proposed account cash := by
  have hlinked : collateralLinked (probeEntry evidence.scope).productId =
      collateralLinked proposed.productId := by
    unfold collateralLinked
    rw [hentry.quote, show productQuote (probeEntry evidence.scope).productId = _ from
      probeProduct_quote evidence.scope]
  have hkind : (probeEntry evidence.scope).inKind = proposed.inKind := by
    simp [inKind, hentry.funding, probeEntry]
  unfold collateralVerdict
  rw [hlinked, hkind]

/-- The report's collateral check is quiet when the gate's passes, and measures the rest with at
least the gate's quote. -/
theorem collateralCheck_quiet (hentry : NewEntry evidence.scope proposed)
    (h : (collateralVerdict policy evidence.mode proposed evidence.futuresCollateral
      (scopeCash snapshots evidence)).1 = none) :
    ¬ (collateralCheck policy evidence (scopeCash snapshots evidence)).1.Blocks ∧
      CashBelow (gateCash policy snapshots evidence proposed)
        (collateralCheck policy evidence (scopeCash snapshots evidence)).2 := by
  unfold gateCash collateralCheck
  rw [collateralVerdict_probe hentry]
  split
  · exact ⟨by simp [FleetEntryCheck.Blocks], collateralVerdict_below h⟩
  · split
    · exact ⟨by simp [FleetEntryCheck.Blocks], collateralVerdict_below h⟩
    · split
      next remaining hverdict =>
        rw [hverdict]
        exact ⟨by simp [FleetEntryCheck.Blocks], .inl rfl⟩
      next denial _ hverdict =>
        rw [hverdict] at h
        cases h

/-! ## Quiet checks -/

theorem gateCheck_quiet {name : FleetCheckName} {blockerClass : Denial → FleetBlockerClass}
    {objection : Objection} (h : objection = .pass) :
    ∃ check, gateCheck name blockerClass objection = .ok check ∧ ¬ check.Blocks := by
  subst h
  exact ⟨_, rfl, by simp [FleetEntryCheck.Blocks]⟩

section

variable (hentry : NewEntry evidence.scope proposed)
include hentry

theorem quoteScopeCheck_quiet
    (h : quoteScopedSnapshots (riskBearingSnapshots snapshots evidence.mode) proposed.productId =
      .ok books) :
    ¬ (quoteScopeCheck snapshots evidence).1.Blocks ∧
      (quoteScopeCheck snapshots evidence).2 = books := by
  have hsame : quoteScopedSnapshots (riskBearingSnapshots snapshots evidence.mode)
      (probeProduct evidence.scope) = .ok books := by
    rw [← h]
    unfold quoteScopedSnapshots
    rw [probeProduct_quote, hentry.quote]
  unfold quoteScopeCheck
  rw [hsame]
  exact ⟨by simp [FleetEntryCheck.Blocks], rfl⟩

theorem openSlotsCheck_quiet {portfolioMember : Bool}
    (h : entryMembership policy evidence.mode proposed (snapshots.filter (fun item =>
      item.deployment.mode = evidence.mode ∧ occupiesRunningSlot item.deployment)) portfolioMember
      = .pass) : ¬ (openSlotsCheck policy snapshots evidence).Blocks := by
  simp only [entryMembership, andThen_pass_iff, hentry.noAdd, Bool.false_eq_true,
    if_false] at h
  obtain ⟨-, -, hslots⟩ := h
  unfold openSlotsCheck
  split at hslots
  · exact absurd hslots denyText_ne_pass
  next hfree =>
    rw [if_pos (not_le.mp hfree)]
    simp [FleetEntryCheck.Blocks]

/-- The account cap leaves the probe room wherever it leaves a real entry room. -/
theorem exposureCapCheck_quiet {small big : Option Decimal} (hcash : CashBelow small big)
    (h : exposureVerdict policy evidence.mode proposed books small = .pass) :
    ∃ check, exposureCapCheck policy evidence books big = .ok check ∧ ¬ check.Blocks := by
  have hzero : proposed.inKindCapital = 0 := by
    simp [inKindCapital, inKind, hentry.funding]
  have hprobe : (probeEntry evidence.scope).inKindCapital = 0 := rfl
  obtain ⟨hcapital, haccount, -⟩ := exposureVerdict_pass_iff.mp h
  rw [hzero] at hcapital haccount
  have hmono := capitalBase_mono policy hcash evidence.mode books
  have hcap : (books.map markedExposure).sum + (probeEntry evidence.scope).notional ≤
      portfolioCap policy evidence.mode (capitalBase policy evidence.mode big books) := by
    obtain ⟨hfraction, hceiling⟩ := le_portfolioCap_iff.mp haccount
    have hpositive := hentry.positive
    have hscaled := mul_le_mul_of_nonneg_right hmono (fractions_pos policy).1.le
    refine le_portfolioCap_iff.mpr ⟨?_, ?_⟩
    · show _ + (0 : Decimal) ≤ _
      linarith
    · intro hlive ceiling hset
      have hbound := hceiling hlive ceiling hset
      show _ + (0 : Decimal) ≤ ceiling
      linarith
  have hpositive : 0 < capitalBase policy evidence.mode big books := hcapital.trans_le hmono
  -- what is left of the probe's verdict is its product and allocation caps
  have hother : ∃ found, exposureVerdict policy evidence.mode (probeEntry evidence.scope) books
      big = .ok found ∧ ∀ denial, found = some denial →
        denial.reasonCode ≠ .portfolioExposureExceeded := by
    have hdesk : deskReservationVerdict policy (probeEntry evidence.scope) evidence.mode =
        .pass := rfl
    unfold exposureVerdict
    dsimp only
    rw [hprobe, require_pass_iff.mpr hpositive, pass_andThen,
      require_pass_iff.mpr hcap, pass_andThen, hdesk, pass_andThen]
    unfold require
    split
    · unfold allocationVerdict
      split
      · exact ⟨none, rfl, by simp⟩
      · unfold require
        dsimp only
        split
        · exact ⟨none, rfl, by simp⟩
        · exact ⟨some _, rfl, by simp⟩
    · exact ⟨some _, rfl, by simp⟩
  obtain ⟨found, hfound, hcode⟩ := hother
  unfold exposureCapCheck
  rw [hfound]
  cases found with
  | none => exact ⟨_, rfl, by simp [FleetEntryCheck.Blocks]⟩
  | some denial =>
    refine ⟨{ name := .exposureCap, status := .pass }, ?_, by simp [FleetEntryCheck.Blocks]⟩
    show Except.ok _ = Except.ok _
    dsimp only
    rw [if_pos (hcode denial rfl)]

end

/-! ## Breakers -/

theorem selectLossVerdict_pass_iff {daily drawdown : Objection} :
    selectLossVerdict daily drawdown = .pass ↔ daily = .pass ∧ drawdown = .pass := by
  unfold selectLossVerdict Check.pass
  split
  · simp
  · simp
  · simp
  · simp
  · split
    · simp
    · simp

theorem dailyLossLimit_mono (mode : DeploymentMode) (books : List DeploymentSnapshot)
    (h : small ≤ big) :
    dailyLossLimit policy mode books small ≤ dailyLossLimit policy mode books big := by
  have hfraction : 0 ≤ dailyLossFraction policy books := by
    unfold dailyLossFraction
    split
    next fraction hset =>
      split
      · obtain ⟨futures, hfutures, hloss⟩ := bind_eq_some_iff.mp hset
        have hvalid := policy.valid
        simp only [PolicyFields.validated, decide_eq_true_eq] at hvalid
        obtain ⟨-, -, -, -, -, -, -, -, -, -, -, -, -, -, -, -, -, -, -, -, -, -, hlast⟩ := hvalid
        rw [hfutures] at hlast
        simp only [all_some, validated, decide_eq_true_eq] at hlast
        have hunit := hlast.2.2.1
        rw [hloss] at hunit
        simp only [all_some, unitFraction, decide_eq_true_eq] at hunit
        exact hunit.1.le
      · exact (fractions_pos policy).2.1.le
    · exact (fractions_pos policy).2.1.le
  have hscaled := mul_le_mul_of_nonneg_right h hfraction
  unfold dailyLossLimit
  split
  · exact min_le_min_right _ hscaled
  · split
    · split
      · exact min_le_min_right _ hscaled
      · exact hscaled
    · exact hscaled

theorem dailyLossVerdict_mono (hle : small ≤ big)
    (h : dailyLossVerdict policy mode books observation small = .pass) :
    dailyLossVerdict policy mode books observation big = .pass := by
  unfold dailyLossVerdict at h ⊢
  split at h
  · exact absurd h (by simp [Check.pass])
  · split at h
    · exact absurd h (by simp [Check.pass])
    · exact absurd h deny_ne_pass
  next loss hloss =>
    split at h
    · exact absurd h denyText_ne_pass
    next hpositive =>
      split at h
      next hwithin =>
        rw [if_neg (not_le.mpr ((not_le.mp hpositive).trans_le hle)),
          if_pos (hwithin.trans_le (dailyLossLimit_mono mode books hle))]
      · exact absurd h denyText_ne_pass

/-- No book carries the probe's strategy. -/
def ProbeUnclaimed (snapshots : List DeploymentSnapshot) : Prop :=
  ∀ item ∈ snapshots, item.deployment.strategyId ≠ some noStrategy

theorem drawdownBooks_probe (hprobe : ProbeUnclaimed snapshots) (mode : DeploymentMode)
    (quote : QuoteScope) (productId : String) :
    drawdownBooks snapshots mode quote (some noStrategy) productId = .ok [] := by
  have hnone : (dailyLossSnapshots snapshots mode).filter
      (fun item => matchesDrawdownScope item (some noStrategy) productId) = [] := by
    rw [List.filter_eq_nil_iff]
    intro item hitem hmatch
    exact hprobe item (List.mem_of_mem_filter hitem) (by simpa [matchesDrawdownScope] using hmatch)
  unfold drawdownBooks
  rw [hnone]
  rfl

theorem circuitBreakers_probe (hprobe : ProbeUnclaimed snapshots)
    (hentry : NewEntry evidence.scope proposed) (hle : small ≤ big)
    (h : evaluateCircuitBreakers policy evidence.mode proposed.productId proposed.strategyId
      snapshots observation small = .pass) :
    evaluateCircuitBreakers policy evidence.mode (probeProduct evidence.scope) (some noStrategy)
      snapshots observation big = .pass := by
  unfold evaluateCircuitBreakers at h ⊢
  rw [hentry.quote] at h
  rw [probeProduct_quote]
  dsimp only at h ⊢
  unfold withBooks at h ⊢
  split at h
  · exact absurd h (by simp [Check.pass])
  next books hbooks =>
    rw [andThen_pass_iff, andThen_pass_iff, selectLossVerdict_pass_iff] at h ⊢
    obtain ⟨hlatch, -, hdaily, -⟩ := h
    refine ⟨hlatch, ?_, dailyLossVerdict_mono hle hdaily, ?_⟩
    · unfold drawdownLatchVerdict withBooks
      rw [drawdownBooks_probe hprobe]
      rfl
    · unfold drawdownVerdict withBooks
      rw [drawdownBooks_probe hprobe]
      rfl

section

variable (hentry : NewEntry evidence.scope proposed)
include hentry

/-- The remaining gate functions read the quote of the product only. -/
theorem unresolvedAccounting_probe :
    unresolvedAccountingVerdict evidence.mode (probeProduct evidence.scope) snapshots =
      unresolvedAccountingVerdict evidence.mode proposed.productId snapshots := by
  unfold unresolvedAccountingVerdict
  rw [probeProduct_quote, hentry.quote]

theorem linkedBreaker_probe :
    linkedBreakerVerdict evidence.mode (probeProduct evidence.scope) snapshots =
      linkedBreakerVerdict evidence.mode proposed.productId snapshots := by
  have hscope : linkedScope (probeProduct evidence.scope) = linkedScope proposed.productId := by
    unfold linkedScope
    rw [probeProduct_quote, hentry.quote]
  unfold linkedBreakerVerdict
  rw [isFuturesProductId_of_quote hentry.quote,
    isFuturesProductId_of_quote (probeProduct_quote evidence.scope), hscope]
  simp only [Bool.false_eq_true, false_and, and_false, if_false]

theorem cluster_probe :
    clusterVerdict policy evidence.mode (probeEntry evidence.scope) snapshots (some observation) =
      clusterVerdict policy evidence.mode proposed snapshots (some observation) := by
  have hkind : proposed.inKind = false := by simp [inKind, hentry.funding]
  have hprobe : (probeEntry evidence.scope).inKind = false := rfl
  have hfirst : (probeEntry evidence.scope).readmitsWorkingEntry = false := rfl
  unfold clusterVerdict
  rw [hkind, hprobe, hfirst, hentry.noReprice]

end

end Thytrader.Risk
