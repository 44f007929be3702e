import Thytrader.Risk.GateSoundness

/-!
# Admission and size

Whether a smaller entry passes wherever a larger one does. `Smaller` relates two
entries that differ in notional and quantity alone. A quote-funded entry adds
nothing to the capital base, so every check either does not see its size or
compares it with a bound from above: each check is inherited by smaller entries,
and so is the gate (`evaluateSpotEntry_hereditary`, `evaluateNewEntry_sound`).

Base-unit netting is the exception, as a smaller entry may hedge less.
-/

namespace Thytrader.Risk

open Lib MarketData Trading ProposedEntry

/-! ## Smaller entries -/

/-- The entry at another size. -/
def ProposedEntry.resized (proposed : ProposedEntry) (notional : Decimal)
    (quantity : Option Decimal) : ProposedEntry :=
  { proposed with notional, quantity }

/-- A positive quantity at most another; an unknown quantity stays unknown. -/
inductive QuantityAtMost : Option Decimal → Option Decimal → Prop
  | unknown : QuantityAtMost none none
  | known {small big : Decimal} (hpos : 0 < small) (hle : small ≤ big) :
      QuantityAtMost (some small) (some big)

/-- The first entry differs from the second only by a smaller positive notional and quantity. -/
inductive Smaller : ProposedEntry → ProposedEntry → Prop
  | resized {big : ProposedEntry} {notional : Decimal} {quantity : Option Decimal}
      (hpos : 0 < notional) (hle : notional ≤ big.notional)
      (hquantity : QuantityAtMost quantity big.quantity) :
      Smaller (big.resized notional quantity) big

/-- The same between quote-funded entries. -/
def QuoteSmaller (small big : ProposedEntry) : Prop := Smaller small big ∧ big.funding = .quote

variable {big : ProposedEntry}

theorem inKindCapital_resized (h : big.funding = .quote) (notional : Decimal)
    (quantity : Option Decimal) :
    (big.resized notional quantity).inKindCapital = big.inKindCapital := by
  simp [inKindCapital, inKind, resized, h]

/-! ## Checks that do not see the size -/

section

variable (policy : RiskPolicyDefinition) (mode : DeploymentMode)
  (snapshots riskBearing books : List DeploymentSnapshot) (cash : Option Decimal)

theorem entryMembership_hereditary (occupied : List DeploymentSnapshot) (member : Bool) :
    Hereditary QuoteSmaller
      (fun proposed => entryMembership policy mode proposed occupied member) := by
  refine Hereditary.of_eq ?_
  rintro _ _ ⟨⟨_, _, _⟩, _⟩
  rfl

theorem collateralVerdict_resized {small : ProposedEntry} (h : QuoteSmaller small big)
    (evidence : Option FuturesCollateralEvidence) :
    collateralVerdict policy mode small evidence cash =
      collateralVerdict policy mode big evidence cash := by
  obtain ⟨⟨_, _, _⟩, _⟩ := h
  rfl

theorem unresolvedAccounting_hereditary :
    Hereditary QuoteSmaller
      (fun proposed => unresolvedAccountingVerdict mode proposed.productId snapshots) := by
  refine Hereditary.of_eq ?_
  rintro _ _ ⟨⟨_, _, _⟩, _⟩
  rfl

/-- The breakers see the size only through the capital base, which it does not change. -/
theorem entryBreaker_hereditary (observation : Option EntryObservation) :
    Hereditary QuoteSmaller (fun proposed =>
      entryBreakerVerdict policy mode proposed riskBearing books snapshots cash observation) := by
  refine Hereditary.of_eq ?_
  rintro _ big ⟨⟨_, _, _⟩, hquote⟩
  cases observation with
  | none => rfl
  | some =>
    simp only [entryBreakerVerdict, inKindCapital_resized hquote]
    rfl

end

/-! ## Checks that bound the size from above -/

section

variable (policy : RiskPolicyDefinition) (mode : DeploymentMode)
  (snapshots riskBearing books : List DeploymentSnapshot) (cash : Option Decimal)

theorem portfolioVerdict_hereditary (portfolio : Option PortfolioRiskBook) :
    Hereditary QuoteSmaller
      (fun proposed => portfolioVerdict portfolio proposed riskBearing books) := by
  rintro _ big ⟨⟨_, hle, _⟩, _⟩ hpass
  cases portfolio with
  | none => rfl
  | some =>
    obtain ⟨hmembers, havailable, hunlatched, htotal, hasset⟩ :=
      portfolioVerdict_pass_iff.mp hpass
    refine portfolioVerdict_pass_iff.mpr ⟨hmembers, havailable, hunlatched, ?_, ?_⟩
    · exact (add_le_add_right hle _).trans htotal
    · exact (add_le_add_right hle _).trans hasset

/-! ### Order bounds -/

theorem quantityBound_hereditary :
    Hereditary QuoteSmaller (fun proposed => quantityBound policy proposed) := by
  rintro _ big ⟨⟨_, _, hquantity⟩, _⟩ hpass
  refine quantityBound_pass_iff.mpr ?_
  intro cap hcap
  obtain ⟨larger, hlarger, hwithin⟩ := quantityBound_pass_iff.mp hpass cap hcap
  rw [hlarger] at hquantity
  cases hquantity with
  | known _ hle => exact ⟨_, rfl, hle.trans hwithin⟩

theorem notionalBound_hereditary :
    Hereditary QuoteSmaller (fun proposed => notionalBound policy proposed) := by
  rintro _ big ⟨⟨_, hle, _⟩, _⟩ hpass
  refine notionalBound_pass_iff.mpr ?_
  intro cap hcap
  exact hle.trans (notionalBound_pass_iff.mp hpass cap hcap)

theorem paperHeadroom_feeRate {totals result : PaperHeadroom} {books : List DeploymentSnapshot}
    (h : paperHeadroom totals books = some result) (hfee : 0 ≤ totals.feeRate) :
    0 ≤ result.feeRate := by
  induction books generalizing totals with
  | nil =>
    cases h
    exact hfee
  | cons _ _ ih =>
    unfold paperHeadroom at h
    split at h
    · cases h
    · exact ih h (hfee.trans (le_max_left _ _))

/-- A smaller entry leaves at least as much quote available. -/
theorem availableAfterEntry_resized {notional available : Decimal} {quantity : Option Decimal}
    (hle : notional ≤ big.notional)
    (h : availableAfterEntry policy mode big books cash = some available) :
    ∃ more, availableAfterEntry policy mode (big.resized notional quantity) books cash =
      some more ∧ available ≤ more := by
  unfold availableAfterEntry at h ⊢
  cases mode with
  | live =>
    dsimp only at h ⊢
    split at h
    · cases h
    next amount =>
      obtain ⟨hcash, h⟩ := of_ite_ne h nofun
      obtain ⟨reserved, hreserved, rfl⟩ := Option.map_eq_some_iff.mp h
      refine ⟨amount - reserved - notional, ?_, by linarith⟩
      rw [if_neg hcash, hreserved]
      rfl
  | paper =>
    obtain ⟨totals, htotals, rfl⟩ := Option.map_eq_some_iff.mp h
    refine ⟨_, by rw [htotals]; rfl, ?_⟩
    have hfee : 0 ≤ if books = [] then (effectivePaperFeeRates none none).2
        else totals.feeRate := by
      split
      · exact (by norm_num [effectivePaperFeeRates, paperTakerFeeRate])
      · exact paperHeadroom_feeRate htotals (le_refl _)
    have hcost := mul_le_mul_of_nonneg_right hle (add_nonneg zero_le_one hfee)
    dsimp only [resized]
    linarith

theorem reserveBound_hereditary :
    Hereditary QuoteSmaller (fun proposed => reserveBound policy mode proposed books cash) := by
  rintro _ big ⟨⟨_, hle, _⟩, _⟩ hpass
  refine reserveBound_pass_iff.mpr ?_
  intro required hrequired
  obtain ⟨available, havailable, hwithin⟩ := reserveBound_pass_iff.mp hpass required hrequired
  obtain ⟨more, hmore, hless⟩ := availableAfterEntry_resized policy mode books cash hle havailable
  exact ⟨more, hmore, hwithin.trans hless⟩

theorem orderBoundVerdict_hereditary :
    Hereditary QuoteSmaller
      (fun proposed => orderBoundVerdict policy mode proposed books cash) := by
  have hscope : Hereditary QuoteSmaller (fun proposed => quoteBoundScope policy proposed) := by
    refine Hereditary.of_eq ?_
    rintro _ _ ⟨⟨_, _, _⟩, _⟩
    rfl
  exact (quantityBound_hereditary policy).andThen (hscope.andThen
    ((notionalBound_hereditary policy).andThen (reserveBound_hereditary policy mode books cash)))

/-! ### Exposure -/

theorem deskReservation_hereditary :
    Hereditary QuoteSmaller (fun proposed => deskReservationVerdict policy proposed mode) := by
  rintro _ big ⟨⟨_, hle, _⟩, _⟩ hpass
  refine deskReservationVerdict_pass_iff.mpr ?_
  intro desk hdesk hlive item hitem
  obtain ⟨hquote, hwithin⟩ := deskReservationVerdict_pass_iff.mp hpass desk hdesk hlive item hitem
  exact ⟨hquote, (add_le_add_right hle _).trans hwithin⟩

theorem allocationVerdict_hereditary :
    Hereditary QuoteSmaller (fun proposed => allocationVerdict policy proposed books) := by
  rintro _ big ⟨⟨_, hle, _⟩, _⟩ hpass
  refine allocationVerdict_pass_iff.mpr ?_
  intro reserved hreserved
  exact (add_le_add_right hle _).trans (allocationVerdict_pass_iff.mp hpass reserved hreserved)

theorem exposureVerdict_hereditary :
    Hereditary QuoteSmaller (fun proposed => exposureVerdict policy mode proposed books cash) := by
  intro small big hsmaller hpass
  obtain ⟨hpositive, haccount, hproduct, hdesk, hallocation⟩ :=
    exposureVerdict_pass_iff.mp hpass
  have hdesk := deskReservation_hereditary policy mode hsmaller hdesk
  have hallocation := allocationVerdict_hereditary policy books hsmaller hallocation
  obtain ⟨⟨_, hle, _⟩, hquote⟩ := hsmaller
  refine exposureVerdict_pass_iff.mpr ?_
  rw [inKindCapital_resized hquote]
  refine ⟨hpositive, ?_, ?_, hdesk, hallocation⟩
  · exact (add_le_add_right hle _).trans haccount
  · exact (add_le_add_right hle _).trans hproduct

/-! ### Beta -/

/-- Without netting the weighted figure grows with the notional. -/
theorem betaVerdict_hereditary (hoff : policy.netsByUnderlying = false) (beta : Option BetaEvidence)
    (asOf : Option Time) (legs : Option FuturesLegs) (marks : Dict String Decimal) :
    Hereditary QuoteSmaller (fun proposed =>
      betaVerdict policy mode proposed books cash beta asOf snapshots legs marks) := by
  rintro _ big ⟨⟨hpos, hle, _⟩, hquote⟩ hpass
  cases hbinds : betaCapApplies policy mode with
  | false => simp [betaVerdict, hbinds]
  | true =>
    obtain ⟨evidence, observed, betas, hevidence, hobserved, hcollect, hwithin⟩ :=
      (betaVerdict_pass_iff hbinds).mp hpass
    refine (betaVerdict_pass_iff hbinds).mpr
      ⟨evidence, observed, betas, hevidence, hobserved, hcollect, ?_, ?_⟩
    · rw [inKindCapital_resized hquote]
      exact hwithin.capital
    · have hbeta : 0 ≤ (betas.get? big.productId).getD 0 := by
        cases hget : betas.get? big.productId with
        | none => exact le_refl _
        | some => exact collectBetas_nonneg hcollect (by simp) _ _ hget
      have hweighted := mul_le_mul_of_nonneg_right (abs_le_abs_of_nonneg hpos.le hle) hbeta
      have hcap := hwithin.exposure
      rw [nettingAdjustment_off hoff] at hcap ⊢
      rw [inKindCapital_resized hquote]
      exact (add_le_add_right hweighted _).trans hcap

end

/-! ## The gate -/

section

variable {policy : RiskPolicyDefinition} (hoff : policy.netsByUnderlying = false)
  (mode : DeploymentMode) (snapshots : List DeploymentSnapshot) (evidence : EntryEvidence)

include hoff

theorem boundedEntry_hereditary (riskBearing books : List DeploymentSnapshot)
    (cash : Option Decimal) :
    Hereditary QuoteSmaller (fun proposed =>
      boundedEntry policy mode proposed riskBearing books snapshots cash evidence) := by
  have hbounds : Hereditary QuoteSmaller (fun proposed =>
      if proposed.inKind then Check.pass
      else orderBoundVerdict policy mode proposed books cash) := by
    intro small big hsmaller hpass
    have hkind : small.inKind = big.inKind := by
      obtain ⟨⟨_, _, _⟩, _⟩ := hsmaller
      rfl
    dsimp only at hpass ⊢
    rw [hkind]
    split at hpass
    next hin => rw [if_pos hin]
    next hin =>
      rw [if_neg hin]
      exact orderBoundVerdict_hereditary policy mode books cash hsmaller hpass
  exact hbounds.andThen <|
    (exposureVerdict_hereditary policy mode books cash).andThen <|
    (betaVerdict_hereditary policy mode snapshots books cash hoff _ _ _ _).andThen <|
    (unresolvedAccounting_hereditary mode snapshots).andThen <|
    entryBreaker_hereditary policy mode snapshots riskBearing books cash _

theorem scopedEntry_hereditary (riskBearing books : List DeploymentSnapshot) :
    Hereditary QuoteSmaller (fun proposed =>
      scopedEntry policy mode proposed riskBearing books snapshots evidence) := by
  intro small big hsmaller hpass
  simp only [scopedEntry, Check.andThen_pass_iff] at hpass ⊢
  rw [collateralVerdict_resized policy mode evidence.liveQuoteCash hsmaller]
  obtain ⟨hmember, hportfolio, hcollateral, hbounded⟩ := hpass
  exact ⟨entryMembership_hereditary policy mode _ _ hsmaller hmember,
    portfolioVerdict_hereditary riskBearing books _ hsmaller hportfolio, hcollateral,
    boundedEntry_hereditary hoff mode snapshots evidence riskBearing books _ hsmaller hbounded⟩

/-- Every check of the spot gate is inherited by smaller quote-funded entries. -/
theorem evaluateSpotEntry_hereditary :
    Hereditary QuoteSmaller (fun proposed =>
      evaluateSpotEntry policy mode proposed snapshots evidence) := by
  intro small big hsmaller hpass
  have hproduct : small.productId = big.productId := by
    obtain ⟨⟨_, _, _⟩, _⟩ := hsmaller
    rfl
  simp only [evaluateSpotEntry, Check.andThen_pass_iff, hproduct] at hpass ⊢
  refine ⟨hpass.1, ?_⟩
  have hbooks := hpass.2
  unfold withBooks at hbooks ⊢
  split at hbooks
  · exact absurd hbooks (by simp [Check.pass])
  next books _ =>
    exact scopedEntry_hereditary hoff mode snapshots evidence _ books hsmaller hbooks

end

/-! ## Admission -/

/-- A live policy with one allocation, an account ceiling and order bounds. -/
def allocatedPolicy : RiskPolicyDefinition where
  maxConcurrentOpenPositions := 4
  maxPortfolioExposureFraction := 1 / 2
  perProductMaxExposureFraction := 2 / 5
  paperCapitalQuote := 10000
  allocations := [⟨7, 600⟩]
  maxPortfolioExposureQuote := some 500
  maxOrderQuantity := some 5
  minAvailableQuoteReserve := some 300
  valid := by decide +kernel

/-- A working entry of one book, resting for an hour. -/
def restingEntry (deploymentId : Uuid) (productId : String) (quantity price : Decimal) : Order :=
  { id := deploymentId
    deploymentId
    intentId := deploymentId
    clientOrderId := "entry"
    side := .buy
    kind := .postOnlyLimit
    quantity
    status := .open
    createdAt := 0
    updatedAt := 0
    price := some price
    venueOrderId := some "venue"
    productId }

def sleeveBook (id strategyId : Uuid) (productId : String) (order : Order) :
    DeploymentSnapshot :=
  { deployment :=
      { id
        strategyFingerprint := none
        strategyId := some strategyId
        productId
        mode := .live
        status := .running
        cash := 0
        phase := .pendingEntry
        createdAt := 0
        updatedAt := 0
        performanceCapitalQuote := some 1000
        initialEquity := some 0
        portfolioId := some 3 }
    orders := [order] }

/-- Two sleeves of one portfolio; the first order leaves its product to the deployment. -/
def sleeveBooks : List DeploymentSnapshot :=
  [sleeveBook 1 7 "BTC-USDC" (restingEntry 1 "" 1 100),
    sleeveBook 2 8 "ETH-USDC" (restingEntry 2 "ETH-USDC" 2 50)]

def sleeveEvidence : EntryEvidence :=
  { liveQuoteCash := some 1000
    observation := some
      { asOf := 3600 * 1000000
        proposedPrice := some 100
        referencePrice := some 101
        marks := Dict.empty }
    portfolio := some
      { portfolioId := 3
        capital := 1000
        maxTotalExposureFraction := 1 / 2
        maxPerAssetFraction := 2 / 5 } }

/-- The entry that fills both portfolio caps no further than allowed. -/
def sleeveEntry : ProposedEntry :=
  { productId := "BTC-USDC", strategyId := some 7, notional := 200, quantity := some 2 }

end Thytrader.Risk
