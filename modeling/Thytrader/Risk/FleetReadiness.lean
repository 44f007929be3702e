import Thytrader.Risk.FleetProbe

/-!
# Fleet readiness against the gate

A check that the report derives from the gate and calls blocked fleet-wide should mean that the gate
denies every new entry of the scope (`fleet_block_denies_iff`). The BTC-beta cap breaks this: the
probe has no side, so base-unit netting leaves its figure gross, while the gate lets a hedging
futures leg lower the figure of a real entry.
-/

namespace Thytrader.Risk

open Lib MarketData Trading List FleetCheckName ProposedEntry Dict

/-! ## The beta cap -/

section

variable {account : BetaEvidence} {asOf : Time} {reference : String}
  {betas : Dict String Decimal} {books : List DeploymentSnapshot}

def BetaKnown (account : BetaEvidence) (asOf : Time) (productId : String) (beta : Decimal) :
    Prop :=
  ∃ result value, account.resultFor productId = .ok result ∧
    freshBeta result asOf = .estimate value ∧ beta = max value.beta 0

theorem BetaKnown.unique {productId : String} {first second : Decimal}
    (h : BetaKnown account asOf productId first) (h' : BetaKnown account asOf productId second) :
    first = second := by
  obtain ⟨result, value, hresult, hfresh, rfl⟩ := h
  obtain ⟨result', value', hresult', hfresh', rfl⟩ := h'
  cases hresult.symm.trans hresult'
  obtain rfl := BetaResult.estimate.inj (hfresh.symm.trans hfresh')
  rfl

variable {start : Dict String Decimal} {products : List String}

theorem collectBetas_known
    (h : collectBetas account asOf reference start products = .ok (.ok betas)) :
    (∀ product ∈ products, ∃ beta, BetaKnown account asOf product beta ∧
        betas.get? product = some beta) ∧
      ∀ product, product ∉ products → betas.get? product = start.get? product := by
  induction products generalizing start with
  | nil =>
    cases h
    exact ⟨by simp, fun _ _ => rfl⟩
  | cons _ products ih =>
    unfold collectBetas at h
    split at h
    · cases h
    next result hresult =>
      split at h
      · cases h
      next value hvalue =>
        obtain ⟨hlisted, hkept⟩ := ih h
        constructor
        · intro product hproduct
          obtain rfl | hrest := mem_cons.mp hproduct
          · by_cases hagain : product ∈ products
            · exact hlisted product hagain
            · refine ⟨_, ⟨result, value, hresult, hvalue, rfl⟩, ?_⟩
              rw [hkept product hagain, get?_set_self]
          · exact hlisted product hrest
        · intro product hproduct
          rw [mem_cons, not_or] at hproduct
          obtain ⟨hname, hrest⟩ := hproduct
          rw [hkept product hrest, get?_set_ne hname]

theorem collectBetas_of_known
    (h : ∀ product ∈ products, ∃ beta, BetaKnown account asOf product beta) :
    ∃ betas, collectBetas account asOf reference start products = .ok (.ok betas) := by
  induction products generalizing start with
  | nil => exact ⟨start, rfl⟩
  | cons name _ ih =>
    obtain ⟨beta, result, value, hresult, hfresh, rfl⟩ := h name mem_cons_self
    unfold collectBetas
    rw [hresult]
    dsimp only
    rw [hfresh]
    exact ih (fun product hproduct => h product (mem_cons_of_mem _ hproduct))

theorem mem_heldProducts {product : String} :
    product ∈ heldProducts books ↔
      ∃ book ∈ books, product ∈ bookProducts book ∧ productExposure book product ≠ 0 := by
  unfold heldProducts
  rw [(perm_insertionSort _ _).mem_iff, mem_dedup, mem_flatMap]
  simp only [mem_filter, decide_eq_true_eq]

theorem weightedExposure_congr {betas' : Dict String Decimal}
    (h : ∀ product ∈ heldProducts books, betas.get? product = betas'.get? product) :
    weightedExposure books betas = weightedExposure books betas' := by
  refine congrArg List.sum (map_congr_left ?_)
  intro book hbook
  refine congrArg List.sum (map_congr_left ?_)
  intro product hproduct
  by_cases hheld : productExposure book product = 0
  · rw [hheld]
    cases betas.get? product <;> cases betas'.get? product <;> simp
  · rw [h product (mem_heldProducts.mpr ⟨book, hbook, hproduct, hheld⟩)]

end

section

variable (policy : RiskPolicyDefinition) (snapshots : List DeploymentSnapshot)
  (evidence : FleetScopeEvidence) (observation : EntryObservation) (proposed : ProposedEntry)
  (books : List DeploymentSnapshot)

/-- The loaded evidence has the reference at beta 1, as `load_beta_evidence` reads it. -/
def ReferenceLoaded : Prop :=
  ∀ account result, evidence.beta = some account →
    account.results.get? (probeProduct evidence.scope) = some result →
    result = .estimate { beta := 1, returns := 0, lastClose := none }

/-- Base-unit netting brings the entry under a paper cap that the gross exposure exceeds. -/
structure NettingFrees : Prop where
  paper : evidence.mode = .paper
  loaded : evidence.betaLoaded = true
  frees : ∃ account betas fraction, evidence.beta = some account ∧
    policy.maxBtcBetaExposureFraction = some fraction ∧
    collectBetas account observation.asOf (referenceLabel proposed.productId) empty
      (proposed.productId :: heldProducts books) = .ok (.ok betas) ∧
    policy.paperCapitalQuote * fraction < weightedExposure books betas ∧
    weightedExposure books betas + nettingAdjustment policy .paper proposed books snapshots
        evidence.futuresLegs betas observation.marks +
      |proposed.notional| * (betas.get? proposed.productId).getD 0 ≤
        policy.paperCapitalQuote * fraction

end

section

variable {policy : RiskPolicyDefinition} {snapshots : List DeploymentSnapshot}
  {evidence : FleetScopeEvidence} {observation : EntryObservation} {proposed : ProposedEntry}
  {books : List DeploymentSnapshot}
variable {account : BetaEvidence} {cash : Option Decimal}

theorem probe_known (hreference : ReferenceLoaded evidence)
    (haccount : evidence.beta = some account) (asOf : Time) :
    ∃ beta, BetaKnown account asOf (probeProduct evidence.scope) beta := by
  have hown : betaReference (probeProduct evidence.scope) = .ok (probeProduct evidence.scope) := by
    cases evidence.scope with
    | usd | usdc | usdt => decide +kernel
  have hresult : account.resultFor (probeProduct evidence.scope) =
      .ok (.estimate { beta := 1, returns := 0, lastClose := none }) := by
    unfold BetaEvidence.resultFor
    split
    next loaded hloaded => rw [hreference account loaded haccount hloaded]
    · rw [hown]
      show Except.ok (if probeProduct evidence.scope = probeProduct evidence.scope then _ else _) = _
      rw [if_pos rfl]
  exact ⟨_, _, _, hresult, rfl, rfl⟩

variable {betas : Dict String Decimal}

theorem probe_betas (hreference : ReferenceLoaded evidence)
    (haccount : evidence.beta = some account)
    (hcollect : collectBetas account observation.asOf (referenceLabel proposed.productId)
      empty (proposed.productId :: heldProducts books) = .ok (.ok betas)) :
    ∃ probeBetas, collectBetas account observation.asOf
        (referenceLabel (probeEntry evidence.scope).productId) empty
        ((probeEntry evidence.scope).productId :: heldProducts books) = .ok (.ok probeBetas) ∧
      weightedExposure books probeBetas = weightedExposure books betas := by
  have hheld := (collectBetas_known hcollect).1
  have hknown : ∀ product ∈ (probeEntry evidence.scope).productId :: heldProducts books,
      ∃ beta, BetaKnown account observation.asOf product beta := by
    intro product hproduct
    obtain rfl | hrest := mem_cons.mp hproduct
    · exact probe_known hreference haccount observation.asOf
    · obtain ⟨beta, hbeta, -⟩ := hheld product (mem_cons_of_mem _ hrest)
      exact ⟨beta, hbeta⟩
  obtain ⟨probeBetas, hprobe⟩ := collectBetas_of_known hknown
  refine ⟨probeBetas, hprobe, weightedExposure_congr ?_⟩
  intro product hproduct
  obtain ⟨first, hfirst, hget⟩ :=
    (collectBetas_known hprobe).1 product (mem_cons_of_mem _ hproduct)
  obtain ⟨second, hsecond, hget'⟩ := hheld product (mem_cons_of_mem _ hproduct)
  rw [hget, hget', hfirst.unique hsecond]

theorem betaVerdict_probe (hbinds : betaCapApplies policy evidence.mode = true)
    (haccount : evidence.beta = some account)
    (hcollect : collectBetas account observation.asOf (referenceLabel (probeEntry
      evidence.scope).productId) empty ((probeEntry evidence.scope).productId :: heldProducts
      books) = .ok (.ok betas)) :
    ∃ denial, betaVerdict policy evidence.mode (probeEntry evidence.scope) books cash evidence.beta
        (some observation.asOf) snapshots evidence.futuresLegs observation.marks =
      .require (0 < capitalBase policy evidence.mode cash books ∧
        weightedExposure books betas ≤
          betaCap policy evidence.mode (capitalBase policy evidence.mode cash books)) denial := by
  have hnetting : nettingAdjustment policy evidence.mode (probeEntry evidence.scope) books snapshots
      evidence.futuresLegs betas observation.marks = 0 := by
    unfold nettingAdjustment
    split
    next hside => exact absurd hside (by simp [probeEntry])
    · rfl
  have hkind : (probeEntry evidence.scope).inKindCapital = 0 := rfl
  have hnone : (probeEntry evidence.scope).notional = 0 := rfl
  unfold betaVerdict
  rw [if_neg (by simp [hbinds]), haccount]
  dsimp only
  rw [hcollect]
  dsimp only
  rw [hnetting, hkind, hnone, abs_zero, zero_mul, add_zero, add_zero]
  exact ⟨_, rfl⟩

/-- The cap grows with the capital. -/
theorem betaCap_mono (policy : RiskPolicyDefinition) (mode : DeploymentMode)
    {small big : Decimal} (h : small ≤ big) :
    betaCap policy mode small ≤ betaCap policy mode big := by
  unfold betaCap
  dsimp only
  split
  next fraction ceiling hfraction _ =>
    have hscaled := mul_le_mul_of_nonneg_right h ((fractions_pos policy).2.2 fraction hfraction).le
    exact min_le_min_right _ hscaled
  next fraction hfraction _ =>
    exact mul_le_mul_of_nonneg_right h ((fractions_pos policy).2.2 fraction hfraction).le
  · exact le_rfl
  · exact le_rfl

theorem betaCap_paper {fraction : Decimal}
    (hfraction : policy.maxBtcBetaExposureFraction = some fraction) :
    betaCap policy .paper (capitalBase policy .paper cash books) =
      policy.paperCapitalQuote * fraction := by
  unfold betaCap capitalBase
  rw [hfraction]
  rfl

theorem betaCheck_admitted (hentry : NewEntry evidence.scope proposed)
    (hreference : ReferenceLoaded evidence)
    (hcash : CashBelow (gateCash policy snapshots evidence proposed) cash)
    (h : BetaAdmits policy snapshots evidence observation proposed books) :
    ∃ check, betaCheck policy snapshots evidence observation books cash = .ok check ∧
      (check.Blocks → NettingFrees policy snapshots evidence observation proposed books) := by
  have hkind : proposed.inKindCapital = 0 := by
    simp [inKindCapital, inKind, hentry.funding]
  unfold betaCheck
  split
  · exact ⟨_, rfl, by simp [FleetEntryCheck.Blocks]⟩
  next hbinds =>
    have hbinds : betaCapApplies policy evidence.mode = true := by simpa using hbinds
    split
    · exact ⟨_, rfl, by simp [FleetEntryCheck.Blocks]⟩
    next hloaded =>
      have hloaded : evidence.betaLoaded = true := by simpa using hloaded
      obtain ⟨account, asOf, betas, haccount, hasOf, hcollect, hwithin⟩ :=
        (betaVerdict_pass_iff hbinds).mp h
      cases hasOf
      obtain ⟨probeBetas, hprobe, hgross⟩ := probe_betas hreference haccount hcollect
      obtain ⟨denial, hverdict⟩ := betaVerdict_probe hbinds haccount hprobe
      have hcapital := hwithin.capital
      have hexposure := hwithin.exposure
      rw [hkind] at hcapital hexposure
      have hmono := capitalBase_mono policy hcash evidence.mode books
      rw [hverdict]
      unfold Check.require
      split
      · exact ⟨_, rfl, by simp [FleetEntryCheck.Blocks]⟩
      next hover =>
        refine ⟨_, rfl, ?_⟩
        intro _
        have hbeta : 0 ≤ (betas.get? proposed.productId).getD 0 := by
          cases hget : betas.get? proposed.productId with
          | none => exact le_rfl
          | some => exact collectBetas_nonneg hcollect (by simp) _ _ hget
        have hexceeds : betaCap policy evidence.mode (capitalBase policy evidence.mode cash books) <
            weightedExposure books betas := by
          rw [← hgross]
          by_contra hle
          exact hover ⟨hcapital.trans_le hmono, not_lt.mp hle⟩
        have hcaps := betaCap_mono policy evidence.mode hmono
        have hweight := mul_nonneg (abs_nonneg proposed.notional) hbeta
        cases hmode : evidence.mode with
        | live =>
          -- nothing is netted on live, so the entry adds to a figure over the cap
          have hgrossOnly : nettingAdjustment policy evidence.mode proposed books snapshots
              evidence.futuresLegs betas observation.marks = 0 := by
            unfold nettingAdjustment
            split
            · rw [if_pos (Or.inr (by rw [hmode]; simp))]
            · rfl
          exact absurd hexceeds (by linarith)
        | paper =>
          rw [hmode] at hbinds hexceeds hexposure
          have hsome : policy.maxBtcBetaExposureFraction.isSome = true := by
            simpa [betaCapApplies] using hbinds
          obtain ⟨fraction, hfraction⟩ := Option.isSome_iff_exists.mp hsome
          rw [betaCap_paper hfraction] at hexceeds hexposure
          exact ⟨hmode, hloaded, account, betas, fraction, haccount, hfraction, hcollect, hexceeds,
            hexposure⟩

theorem NettingFrees.admits (hentry : NewEntry evidence.scope proposed)
    (h : NettingFrees policy snapshots evidence observation proposed books) :
    BetaAdmits policy snapshots evidence observation proposed books := by
  have hkind : proposed.inKindCapital = 0 := by
    simp [inKindCapital, inKind, hentry.funding]
  obtain ⟨account, betas, fraction, haccount, hfraction, hcollect, -, hwithin⟩ := h.frees
  have hbinds : betaCapApplies policy evidence.mode = true := by
    simp [betaCapApplies, hfraction]
  refine (betaVerdict_pass_iff hbinds).mpr ⟨account, _, betas, haccount, rfl, hcollect, ?_, ?_⟩
  · rw [h.paper]
    exact paperCapital_pos policy
  · rw [h.paper, hkind, betaCap_paper hfraction]
    exact hwithin

theorem NettingFrees.blocks (hreference : ReferenceLoaded evidence)
    (h : NettingFrees policy snapshots evidence observation proposed books)
    (cash : Option Decimal) :
    ∃ check, betaCheck policy snapshots evidence observation books cash = .ok check ∧
      check.Blocks := by
  obtain ⟨account, betas, fraction, haccount, hfraction, hcollect, hexceeds, -⟩ := h.frees
  have hbinds : betaCapApplies policy evidence.mode = true := by
    simp [betaCapApplies, hfraction]
  obtain ⟨probeBetas, hprobe, hgross⟩ := probe_betas hreference haccount hcollect
  obtain ⟨denial, hverdict⟩ := betaVerdict_probe hbinds haccount hprobe
  unfold betaCheck
  rw [if_neg (by simp [hbinds]), if_neg (by simp [h.loaded]), hverdict, hgross, h.paper,
    betaCap_paper hfraction]
  unfold Check.require
  rw [if_neg (fun hboth => absurd hboth.2 (not_le.mpr hexceeds))]
  exact ⟨_, rfl, rfl, rfl, rfl⟩

end

/-! ## The report against the gate -/

section

variable {policy : RiskPolicyDefinition} {snapshots : List DeploymentSnapshot}
  {evidence : FleetScopeEvidence} {observation : EntryObservation}
  {portfolio : Option PortfolioRiskBook} {proposed : ProposedEntry}
  {books : List DeploymentSnapshot}

/-- When every other check of the gate passes, the report's only derived check that can block is the
beta cap. -/
theorem scopeChecks_admitted (hprobe : ProbeUnclaimed snapshots)
    (hentry : NewEntry evidence.scope proposed)
    (h : AdmittedButForBeta policy snapshots evidence observation portfolio proposed books)
    {beta : FleetEntryCheck}
    (hbeta : betaCheck policy snapshots evidence observation books
      (collateralCheck policy evidence (scopeCash snapshots evidence)).2 = .ok beta)
    (unreadable : List Uuid) :
    ∃ checks, scopeChecks policy snapshots evidence observation unreadable = .ok checks ∧
      beta ∈ checks ∧ ∀ check ∈ checks, check.Blocks → check = beta := by
  obtain ⟨hcollateral, hcash⟩ := collateralCheck_quiet hentry h.collateral
  obtain ⟨hquote, hbooks⟩ := quoteScopeCheck_quiet hentry h.sameQuote
  have hslots := openSlotsCheck_quiet hentry h.membership
  obtain ⟨exposure, hexposure, hexposureQuiet⟩ := exposureCapCheck_quiet hentry hcash h.exposure
  obtain ⟨unresolved, hunresolved, hunresolvedQuiet⟩ :
      ∃ check, unresolvedCheck snapshots evidence = .ok check ∧ ¬ check.Blocks :=
    gateCheck_quiet ((unresolvedAccounting_probe hentry).trans h.unresolved)
  obtain ⟨daily, hdaily, hdailyQuiet⟩ : ∃ check, dailyLossCheck policy snapshots evidence
      observation books (collateralCheck policy evidence (scopeCash snapshots evidence)).2 =
        .ok check ∧ ¬ check.Blocks :=
    gateCheck_quiet (circuitBreakers_probe hprobe hentry
      (capitalBase_mono policy hcash evidence.mode books) h.breakers)
  obtain ⟨linked, hlinked, hlinkedQuiet⟩ :
      ∃ check, linkedBreakerCheck snapshots evidence = .ok check ∧ ¬ check.Blocks :=
    gateCheck_quiet ((linkedBreaker_probe hentry).trans h.linked)
  obtain ⟨cluster, hcluster, hclusterQuiet⟩ :
      ∃ check, clusterCheck policy snapshots evidence observation = .ok check ∧ ¬ check.Blocks :=
    gateCheck_quiet ((cluster_probe hentry).trans h.cluster)
  -- the checks the report does not derive from the gate
  have hdisarm : ¬ (disarmCheck evidence).Blocks := by
    unfold disarmCheck FleetEntryCheck.Blocks
    split <;> simp [derived]
  have hinventory : ¬ (inventoryCheck unreadable).Blocks := by
    unfold inventoryCheck FleetEntryCheck.Blocks
    split <;> simp [derived]
  have hvenue : ¬ (venueCheck snapshots evidence).Blocks := by
    unfold venueCheck FleetEntryCheck.Blocks
    split
    · simp [derived]
    · dsimp only
      split <;> simp [derived]
  have hlatch : ¬ (drawdownLatchCheck snapshots evidence).Blocks := by
    unfold drawdownLatchCheck FleetEntryCheck.Blocks
    dsimp only
    split <;> simp [derived]
  have hchecks : scopeChecks policy snapshots evidence observation unreadable =
      .ok [disarmCheck evidence, inventoryCheck unreadable, (quoteScopeCheck snapshots evidence).1,
        venueCheck snapshots evidence,
        (collateralCheck policy evidence (scopeCash snapshots evidence)).1,
        openSlotsCheck policy snapshots evidence, exposure, beta, unresolved, daily,
        drawdownLatchCheck snapshots evidence, linked, cluster] := by
    unfold scopeChecks
    dsimp only
    rw [hbooks, hexposure, hbeta, hunresolved, hdaily, hlinked, hcluster]
    rfl
  refine ⟨_, hchecks, by simp, ?_⟩
  · intro check hcheck hblocks
    simp only [mem_cons, not_mem_nil, or_false] at hcheck
    obtain rfl | rfl | rfl | rfl | rfl | rfl | rfl | rfl | rfl | rfl | rfl | rfl | rfl := hcheck
    · exact absurd hblocks hdisarm
    · exact absurd hblocks hinventory
    · exact absurd hblocks hquote
    · exact absurd hblocks hvenue
    · exact absurd hblocks hcollateral
    · exact absurd hblocks hslots
    · exact absurd hblocks hexposureQuiet
    · rfl
    · exact absurd hblocks hunresolvedQuiet
    · exact absurd hblocks hdailyQuiet
    · exact absurd hblocks hlatch
    · exact absurd hblocks hlinkedQuiet
    · exact absurd hblocks hclusterQuiet

def ReportsBlock (policy : RiskPolicyDefinition) (snapshots : List DeploymentSnapshot)
    (evidence : FleetScopeEvidence) (observation : EntryObservation) (unreadable : List Uuid) :
    Prop :=
  ∃ health, evaluateScope policy snapshots evidence observation unreadable = .ok health ∧
    ∃ check ∈ health.checks, check.Blocks

/-- A fleet-wide block means that the gate admits no new entry of the scope, unless only the paper
beta cap objects and base-unit netting brings the entry under it. -/
theorem fleet_block_denies_iff (futuresEntry : ProposedEntry → Result RiskVerdict)
    (unreadable : List Uuid) (hprobe : ProbeUnclaimed snapshots)
    (hreference : ReferenceLoaded evidence) (hentry : NewEntry evidence.scope proposed) :
    (ReportsBlock policy snapshots evidence observation unreadable →
      evaluateNewEntry futuresEntry policy evidence.mode proposed snapshots
        (gateEvidence snapshots evidence observation portfolio) ≠ .ok .allow) ↔
    ¬ ∃ books,
      AdmittedButForBeta policy snapshots evidence observation portfolio proposed books ∧
        NettingFrees policy snapshots evidence observation proposed books := by
  constructor
  · intro hdenies hfreed
    obtain ⟨books, hother, hnetting⟩ := hfreed
    obtain ⟨beta, hbeta, hblocks⟩ := hnetting.blocks hreference
      (collateralCheck policy evidence (scopeCash snapshots evidence)).2
    obtain ⟨checks, hchecks, hmem, -⟩ := scopeChecks_admitted hprobe hentry hother hbeta unreadable
    refine hdenies ?_ ((allow_iff hentry futuresEntry).mpr ⟨books, hother, hnetting.admits hentry⟩)
    unfold ReportsBlock evaluateScope
    rw [hchecks]
    exact ⟨_, rfl, beta, hmem, hblocks⟩
  · intro hnone hreport hallow
    obtain ⟨books, hother, hadmits⟩ := (allow_iff hentry futuresEntry).mp hallow
    obtain ⟨-, hcash⟩ := collateralCheck_quiet hentry hother.collateral
    obtain ⟨beta, hbeta, hnetting⟩ := betaCheck_admitted hentry hreference hcash hadmits
    obtain ⟨checks, hchecks, -, honly⟩ :=
      scopeChecks_admitted hprobe hentry hother hbeta unreadable
    obtain ⟨health, hhealth, check, hcheck, hblocks⟩ := hreport
    unfold evaluateScope at hhealth
    rw [hchecks] at hhealth
    cases hhealth
    have hbetaBlocks := hblocks
    rw [honly check hcheck hblocks] at hbetaBlocks
    exact hnone ⟨books, hother, hnetting hbetaBlocks⟩

end

def hedgedPolicy : RiskPolicyDefinition where
  maxConcurrentOpenPositions := 4
  maxPortfolioExposureFraction := 1
  perProductMaxExposureFraction := 1
  paperCapitalQuote := 1000
  maxBtcBetaExposureFraction := some (1 / 10)
  futures := some { betaNetting := some .netByUnderlying }
  valid := by decide +kernel

def hedgedBook (mode : DeploymentMode) (id : Uuid) (productId : String) (side : PositionSide) :
    DeploymentSnapshot :=
  { deployment :=
      { id
        strategyFingerprint := none
        strategyId := some id
        productId
        mode
        status := .running
        cash := if side = .long then 800 else 1000
        phase := .open
        createdAt := 0
        updatedAt := 0
        paperStartingCash := some 1000
        initialEquity := some 1000
        performanceCapitalQuote := some 1000 }
    positions := [
      { deploymentId := id
        quantity := 2
        entryPrice := 100
        stopPrice := 90
        targetPrice := none
        enteredBar := 0
        updatedAt := 0
        productId
        side }]
    orders := [
      { id
        deploymentId := id
        intentId := id
        clientOrderId := "entry"
        side := if side = .long then .buy else .sell
        kind := .marketable
        quantity := 2
        status := .filled
        createdAt := 0
        updatedAt := 0
        filledQuantity := 2
        productId }]
    fills := [
      { id
        deploymentId := id
        orderId := id
        venueFillId := "entry"
        price := 100
        quantity := 2
        fee := 0
        filledAt := 0
        economicsAppliedAt := some 0 }] }

def hedgedBooks (mode : DeploymentMode) : List DeploymentSnapshot :=
  [hedgedBook mode 1 "BTC-USDC" .long, hedgedBook mode 2 "BIP-20DEC30-CDE" .short]

def hedgedEvidence (mode : DeploymentMode) : FleetScopeEvidence :=
  { mode
    scope := .usdc
    beta := some { results := empty }
    futuresLegs := some
      { underlyings := empty.set 2 "BTC"
        fundingCurrent := [2] } }

/-- Every product at 100. -/
def hedgedObservation : EntryObservation :=
  { asOf := 3600 * 1000000
    proposedPrice := some 100
    referencePrice := some 100
    marks := (empty.set "BTC-USDC" 100).set "BIP-20DEC30-CDE" 100 }

/-- A small long entry beside the hedge. -/
def hedgedEntry : ProposedEntry :=
  { productId := "BTC-USDC"
    strategyId := some 3
    notional := 10
    quantity := some (1 / 10)
    side := some .long }

theorem hedgedEntry_new : NewEntry .usdc hedgedEntry :=
  ⟨by decide +kernel, rfl, rfl, rfl, by norm_num [hedgedEntry]⟩

variable (mode : DeploymentMode)

theorem hedgedBooks_unclaimed : ProbeUnclaimed (hedgedBooks mode) := by
  intro item hitem
  simp only [hedgedBooks, mem_cons, not_mem_nil, or_false] at hitem
  obtain rfl | rfl := hitem
  · simp [hedgedBook, noStrategy]
  · simp [hedgedBook, noStrategy]

theorem hedgedEvidence_reference : ReferenceLoaded (hedgedEvidence mode) := by
  intro account result haccount hresult
  cases haccount
  cases hresult

theorem reportsBlock_of_any {policy : RiskPolicyDefinition} {snapshots : List DeploymentSnapshot}
    {evidence : FleetScopeEvidence} {observation : EntryObservation} {unreadable : List Uuid}
    (h : (evaluateScope policy snapshots evidence observation unreadable).toOption.any
      (fun health => health.checks.any (fun check => check.Blocks)) = true) :
    ReportsBlock policy snapshots evidence observation unreadable := by
  obtain ⟨health, hhealth, hany⟩ := exists_eq_ok_of_any h
  obtain ⟨check, hcheck, hblocks⟩ := any_eq_true.mp hany
  exact ⟨health, hhealth, check, hcheck, of_decide_eq_true hblocks⟩

/-- On live, without an observed venue balance, the report blocks and the gate denies. -/
theorem fleet_block_denies_live :
    ReportsBlock hedgedPolicy (hedgedBooks .live) (hedgedEvidence .live) hedgedObservation [] ∧
      evaluateNewEntry (fun _ => .ok .allow) hedgedPolicy .live hedgedEntry (hedgedBooks .live)
        (gateEvidence (hedgedBooks .live) (hedgedEvidence .live) hedgedObservation none) ≠
          .ok .allow := by
  have hreport : ReportsBlock hedgedPolicy (hedgedBooks .live) (hedgedEvidence .live)
      hedgedObservation [] := reportsBlock_of_any (by decide +kernel)
  refine ⟨hreport, (fleet_block_denies_iff (fun _ => .ok .allow) [] (hedgedBooks_unclaimed .live)
    (hedgedEvidence_reference .live) hedgedEntry_new).mpr ?_ hreport⟩
  intro hfreed
  obtain ⟨books, -, hnetting⟩ := hfreed
  exact absurd hnetting.paper (by simp [hedgedEvidence])

/-- On paper the spot book alone is over the beta cap and the report blocks; with the hedge netted
the gate admits the entry. -/
theorem hedged_entry_admitted_while_blocked :
    NewEntry .usdc hedgedEntry ∧
    ReportsBlock hedgedPolicy (hedgedBooks .paper) (hedgedEvidence .paper) hedgedObservation [] ∧
      evaluateNewEntry (fun _ => .ok .allow) hedgedPolicy .paper hedgedEntry (hedgedBooks .paper)
        (gateEvidence (hedgedBooks .paper) (hedgedEvidence .paper) hedgedObservation none) =
          .ok .allow :=
  ⟨hedgedEntry_new, reportsBlock_of_any (by decide +kernel), by decide +kernel⟩

end Thytrader.Risk
