import Thytrader.Risk.Gate

/-!
# What an allowed entry guarantees

`WithinCaps` bounds what the account can hold in terms of the books themselves: positions at cost
plus the remainder of every working entry, each row counted once (`exposureOf`), with the proposed
notional added.

> `allowed_withinCaps`: an allowed spot entry stays within the product, account
> and allocation caps of the policy, and within the total and per-asset caps of
> its portfolio.

The source totals exposure product by product. `markedExposure_eq`, `assetExposure_eq` and
`heldQuoteCapital_eq` turn those totals into row totals; they need the deployment to name its
product, as every opened one does.

Smaller quote-funded entries inherit every check once base-unit netting is off
(`evaluateSpotEntry_hereditary`).
-/

namespace Thytrader.Risk

open Lib MarketData Trading List

/-! ## Product totals are row totals -/

/-- Every book names its product. -/
def Named (snapshots : List DeploymentSnapshot) : Prop :=
  ∀ snapshot ∈ snapshots, snapshot.deployment.productId ≠ ""

variable {snapshots : List DeploymentSnapshot}

theorem Named.filter (h : Named snapshots)
    (p : DeploymentSnapshot → Bool) : Named (snapshots.filter p) :=
  fun snapshot hmem => h snapshot (mem_of_mem_filter hmem)

/-- The exposure of a book in every product. -/
def totalExposure (snapshot : DeploymentSnapshot) : Decimal := exposureOf (fun _ => true) snapshot

variable (snapshot : DeploymentSnapshot)

theorem bookProducts_nodup : (bookProducts snapshot).Nodup :=
  nodup_dedup _

section

variable {snapshot : DeploymentSnapshot} (hnamed : snapshot.deployment.productId ≠ "")

include hnamed

theorem position_mem_bookProducts {position : Position}
    (hmem : position ∈ snapshotPositions snapshot) :
    resolvedProductId position.productId snapshot.deployment ∈ bookProducts snapshot := by
  simp only [bookProducts, mem_dedup, mem_filter, mem_append, mem_map]
  refine ⟨.inl (.inl (.inr ⟨position, hmem, rfl⟩)), ?_⟩
  exact decide_eq_true (resolvedProductId_ne_blank hnamed _)

theorem order_mem_bookProducts {order : Order} (hmem : order ∈ snapshot.orders) :
    resolvedProductId order.productId snapshot.deployment ∈ bookProducts snapshot := by
  simp only [bookProducts, mem_dedup, mem_filter, mem_append, mem_map]
  refine ⟨.inr ⟨order, hmem, rfl⟩, ?_⟩
  exact decide_eq_true (resolvedProductId_ne_blank hnamed _)

/-- The products of a book that `counts` selects measure its exposure in them. -/
theorem sum_selected_products {products : List String} {counts : String → Bool}
    (hnodup : products.Nodup)
    (hselect : ∀ product, product ∈ products ↔ product ∈ bookProducts snapshot ∧ counts product) :
    (products.map (productExposure snapshot)).sum = exposureOf counts snapshot := by
  have hagree : ∀ product ∈ bookProducts snapshot,
      decide (product ∈ products) = counts product := by
    intro product hmem
    rw [Bool.eq_iff_iff, decide_eq_true_eq, hselect]
    exact and_iff_right hmem
  rw [sum_productExposure hnamed hnodup]
  exact exposureOf_congr
    (fun position hmem => hagree _ (position_mem_bookProducts hnamed hmem))
    (fun order hmem => hagree _ (order_mem_bookProducts hnamed hmem))

theorem markedExposure_eq : markedExposure snapshot = totalExposure snapshot :=
  sum_selected_products hnamed (bookProducts_nodup snapshot) (by simp)

theorem assetExposure_eq (asset : String) :
    assetExposure snapshot asset = exposureOf (fun product => assetOf product = asset) snapshot := by
  have hsorted : ((bookProducts snapshot).insertionSort (· ≤ ·)).Nodup :=
    (perm_insertionSort _ _).nodup_iff.mpr (bookProducts_nodup snapshot)
  refine sum_selected_products hnamed (hsorted.filter _) ?_
  intro product
  rw [mem_filter, (perm_insertionSort _ _).mem_iff]

end

/-! ## Held quote -/

/-- Quote bound in long positions and resting buys. -/
def heldQuote (snapshot : DeploymentSnapshot) : Decimal :=
  (((snapshotPositions snapshot).filter (fun position => position.side = .long)).map
    Position.cost).sum +
  (((workingEntries snapshot).filter (fun order => order.side = .buy)).map remainderValue).sum

theorem workingEntries_buysOnly :
    workingEntries (buysOnly snapshot) =
      (workingEntries snapshot).filter (fun order => order.side = .buy) := by
  unfold workingEntries
  rw [filter_filter]
  show (snapshot.orders.filter _).filter _ = _
  rw [filter_filter]
  refine filter_congr ?_
  intro order _
  exact Bool.and_comm _ _

theorem heldQuoteCapital_eq {snapshot : DeploymentSnapshot}
    (hnamed : snapshot.deployment.productId ≠ "") :
    heldQuoteCapital snapshot = heldQuote snapshot := by
  have hbuys : (buysOnly snapshot).deployment.productId ≠ "" := hnamed
  have hall : (workingEntries (buysOnly snapshot)).filter (fun order =>
      resolvedProductId order.productId (buysOnly snapshot).deployment ∈
        bookProducts (buysOnly snapshot)) = workingEntries (buysOnly snapshot) := by
    rw [filter_eq_self]
    intro order hmem
    exact decide_eq_true (order_mem_bookProducts hbuys (mem_of_mem_filter hmem))
  unfold heldQuoteCapital heldQuote
  dsimp only
  rw [sum_workingEntryNotional hbuys (bookProducts_nodup _), hall, workingEntries_buysOnly]

/-! ## The books of an entry -/

/-- The books the gate sums: risk-bearing, in the quote of the product. -/
def scopeBooks (mode : DeploymentMode) (snapshots : List DeploymentSnapshot)
    (productId : String) : List DeploymentSnapshot :=
  (riskBearingSnapshots snapshots mode).filter
    (fun item => snapshotQuote item = productQuote productId)

variable {snapshots books : List DeploymentSnapshot}

theorem sameQuoteBooks_eq_ok {quote : QuoteScope} {purpose : String}
    (h : sameQuoteBooks quote purpose snapshots = .ok books) :
    books = snapshots.filter (fun item => snapshotQuote item = some quote) := by
  induction snapshots generalizing books with
  | nil => exact (Except.ok.inj h).symm
  | cons _ rest ih =>
    unfold sameQuoteBooks at h
    split at h
    · cases h
    next bookQuote hquote =>
      cases hrest : sameQuoteBooks quote purpose rest with
      | error =>
        rw [hrest] at h
        exact absurd h (by simp [Except.map])
      | ok =>
        rw [hrest] at h
        cases h
        rw [ih hrest, filter_cons, hquote]
        by_cases hsame : bookQuote = quote
        · simp [hsame]
        · simp [hsame]

variable {productId : String} {book : PortfolioRiskBook} {mode : DeploymentMode}

theorem quoteScopedSnapshots_eq_ok
    (h : quoteScopedSnapshots (riskBearingSnapshots snapshots mode) productId = .ok books) :
    books = scopeBooks mode snapshots productId := by
  unfold quoteScopedSnapshots at h
  split at h
  · cases h
  next quote hquote =>
    rw [sameQuoteBooks_eq_ok h, scopeBooks, hquote]

theorem withBooks_pass {next : List DeploymentSnapshot → Objection}
    (h : withBooks (quoteScopedSnapshots (riskBearingSnapshots snapshots mode) productId) next =
      .pass) :
    next (scopeBooks mode snapshots productId) = .pass := by
  unfold withBooks at h
  split at h
  · exact absurd h (by simp [Check.pass])
  next books hbooks =>
    rw [← quoteScopedSnapshots_eq_ok hbooks]
    exact h

/-! ## Portfolio totals -/

theorem addAssets_getD (assets : Dict String Decimal) (item : DeploymentSnapshot) (asset : String) :
    ((addAssets assets item).get? asset).getD 0 =
      (assets.get? asset).getD 0 + assetExposure item asset := by
  -- Over distinct assets, only the pass over `asset` itself changes its entry.
  have hloop : ∀ (visited : List String) (totals : Dict String Decimal), visited.Nodup →
      ((visited.foldl (fun totals name =>
        totals.set name ((totals.get? name).getD 0 + assetExposure item name)) totals).get?
          asset).getD 0 =
      (totals.get? asset).getD 0 + if asset ∈ visited then assetExposure item asset else 0 := by
    intro visited
    induction visited with
    | nil => simp
    | cons name _ ih =>
      intro totals hnodup
      obtain ⟨hfresh, hrest⟩ := nodup_cons.mp hnodup
      rw [foldl_cons, ih _ hrest]
      by_cases hname : asset = name
      · subst hname
        simp [hfresh]
      · rw [Dict.get?_set_ne hname]
        simp [hname]
  have hnodup : (bookAssets item).Nodup :=
    (perm_insertionSort _ _).nodup_iff.mpr (nodup_dedup _)
  unfold addAssets
  rw [hloop _ _ hnodup]
  split
  · rfl
  next habsent =>
    -- An asset the book does not hold selects none of its products.
    have hnone : ((bookProducts item).insertionSort (· ≤ ·)).filter
        (fun product => assetOf product = asset) = [] := by
      rw [filter_eq_nil_iff]
      intro product hmem hasset
      rw [(perm_insertionSort _ _).mem_iff] at hmem
      refine habsent ?_
      rw [bookAssets, (perm_insertionSort _ _).mem_iff, mem_dedup, mem_map]
      exact ⟨product, hmem, by simpa using hasset⟩
    simp [assetExposure, hnone]

theorem portfolioExposure_assets (portfolioId : Uuid) (snapshots : List DeploymentSnapshot)
    (asset : String) :
    ((portfolioExposure portfolioId snapshots).assets.get? asset).getD 0 =
      ((portfolioMembers portfolioId snapshots).map (fun item => assetExposure item asset)).sum := by
  have hloop : ∀ (members : List DeploymentSnapshot) (assets : Dict String Decimal),
      ((members.foldl addAssets assets).get? asset).getD 0 =
        (assets.get? asset).getD 0 + (members.map (fun item => assetExposure item asset)).sum := by
    intro members
    induction members with
    | nil => simp
    | cons _ _ ih =>
      intro assets
      rw [foldl_cons, ih, addAssets_getD, map_cons, sum_cons, add_assoc]
  show (((portfolioMembers portfolioId snapshots).foldl addAssets Dict.empty).get? asset).getD 0 = _
  rw [hloop, Dict.get?_empty, Option.getD_none, zero_add]

/-! ## The caps -/

/-- The capital the caps are fractions of. -/
def entryCapital (policy : RiskPolicyDefinition) (mode : DeploymentMode)
    (proposed : ProposedEntry) (books : List DeploymentSnapshot) (evidence : EntryEvidence) :
    Decimal :=
  match mode with
  | .paper => policy.paperCapitalQuote
  | .live =>
    (collateralVerdict policy mode proposed evidence.futuresCollateral
      evidence.liveQuoteCash).2.getD 0 + (books.map heldQuote).sum + proposed.inKindCapital

/-- Exposure of a set of books, as `measure` measures each. -/
def exposureIn (measure : DeploymentSnapshot → Decimal) (books : List DeploymentSnapshot) :
    Decimal :=
  (books.map measure).sum

/-- With the proposed notional added, no cap is exceeded. The absolute account ceiling
binds live only: paper is bounded by paper capital. -/
structure WithinCaps (policy : RiskPolicyDefinition) (mode : DeploymentMode)
    (proposed : ProposedEntry) (snapshots : List DeploymentSnapshot)
    (evidence : EntryEvidence) : Prop where
  /-- The proposed product, over the mode's same-quote risk-bearing books. -/
  product :
    let books := scopeBooks mode snapshots proposed.productId
    exposureIn (exposureOf (fun product => product = proposed.productId)) books +
        proposed.notional ≤
      entryCapital policy mode proposed books evidence * policy.perProductMaxExposureFraction
  /-- The account, over the same books. -/
  account :
    let books := scopeBooks mode snapshots proposed.productId
    exposureIn totalExposure books + proposed.notional ≤
      entryCapital policy mode proposed books evidence * policy.maxPortfolioExposureFraction
  ceiling : mode = .live → ∀ ceiling, policy.maxPortfolioExposureQuote = some ceiling →
    exposureIn totalExposure (scopeBooks mode snapshots proposed.productId) +
      proposed.notional ≤ ceiling
  /-- The strategy's books, against the strategy's allocation. -/
  allocation : ∀ item ∈ policy.allocations, proposed.strategyId = some item.strategyId →
    exposureIn totalExposure ((scopeBooks mode snapshots proposed.productId).filter
      (fun book => book.deployment.strategyId = proposed.strategyId)) + proposed.notional ≤
        item.allocatedQuote
  /-- Every risk-bearing book of the sleeve's portfolio. -/
  portfolioTotal : ∀ book, evidence.portfolio = some book →
    exposureIn totalExposure
      (portfolioMembers book.portfolioId (riskBearingSnapshots snapshots mode)) +
        proposed.notional ≤ book.capital * book.maxTotalExposureFraction
  /-- The same books, in the base asset of the proposed product. -/
  portfolioAsset : ∀ book, evidence.portfolio = some book →
    exposureIn (exposureOf (fun product => assetOf product = assetOf proposed.productId))
      (portfolioMembers book.portfolioId (riskBearingSnapshots snapshots mode)) +
        proposed.notional ≤ book.capital * book.maxPerAssetFraction

/-! ## Reading the checks -/

section

variable {policy : RiskPolicyDefinition} {mode : DeploymentMode} {proposed : ProposedEntry}
  {books : List DeploymentSnapshot} {cash : Option Decimal}

/-- Row totals of named books agree with product totals. -/
theorem exposureIn_congr {measure measure' : DeploymentSnapshot → Decimal}
    (h : ∀ snapshot ∈ books, measure snapshot = measure' snapshot) :
    (books.map measure).sum = exposureIn measure' books := by
  unfold exposureIn
  rw [map_congr_left h]

theorem capitalBase_live (hnamed : Named books) {inKind : Decimal}
    (hpos : 0 < capitalBase policy .live cash books inKind) :
    capitalBase policy .live cash books inKind =
      cash.getD 0 + (books.map heldQuote).sum + inKind := by
  have hheld : (books.map heldQuoteCapital).sum = (books.map heldQuote).sum :=
    exposureIn_congr (fun snapshot hmem => heldQuoteCapital_eq (hnamed snapshot hmem))
  cases cash with
  | none => exact absurd hpos (by simp [capitalBase])
  | some =>
    simp only [capitalBase, hheld, Option.getD_some] at hpos ⊢
    split at hpos
    · exact absurd hpos (lt_irrefl 0)
    next hcash => rw [if_neg hcash]

theorem le_portfolioCap_iff {amount capital : Decimal} :
    amount ≤ portfolioCap policy mode capital ↔
      amount ≤ capital * policy.maxPortfolioExposureFraction ∧
        (mode = .live → ∀ ceiling, policy.maxPortfolioExposureQuote = some ceiling →
          amount ≤ ceiling) := by
  unfold portfolioCap
  split
  next ceiling hceiling => simp [hceiling]
  next hother =>
    constructor
    · intro hle
      refine ⟨hle, ?_⟩
      intro hlive ceiling hceiling
      exact absurd hlive (hother ceiling hceiling)
    · exact fun hle => hle.1

theorem allocationVerdict_pass (h : allocationVerdict policy proposed books = .pass)
    {item : CapitalAllocation} (hmem : item ∈ policy.allocations)
    (hstrategy : proposed.strategyId = some item.strategyId) :
    ((books.filter (fun book => book.deployment.strategyId = proposed.strategyId)).map
      markedExposure).sum + proposed.notional ≤ item.allocatedQuote := by
  have hfind : policy.allocations.find? (fun other => other.strategyId = item.strategyId) =
      some item := by
    have hsome : (policy.allocations.find?
        (fun other => other.strategyId = item.strategyId)).isSome :=
      find?_isSome.mpr ⟨item, hmem, by simp⟩
    obtain ⟨found, hfound⟩ := Option.isSome_iff_exists.mp hsome
    have hsame : found = item := inj_on_of_nodup_map policy.allocations_nodup
      (mem_of_find?_eq_some hfound) hmem (by simpa using find?_some hfound)
    rw [hfound, hsame]
  have hfor : allocationFor policy proposed.strategyId = some item.allocatedQuote := by
    simp [allocationFor, hstrategy, hfind]
  exact allocationVerdict_pass_iff.mp h _ hfor

/-- A passing sleeve check: the limits are readable and unlatched, every risk-bearing member is
among the quote's books, both portfolio caps hold. -/
theorem portfolioVerdict_pass_iff {riskBearing : List DeploymentSnapshot} :
    portfolioVerdict (some book) proposed riskBearing books = .pass ↔
      (∀ item ∈ riskBearing, item.deployment.portfolioId = some book.portfolioId → item ∈ books) ∧
      book.available = true ∧ book.breakerReason = none ∧
      ((portfolioMembers book.portfolioId books).map markedExposure).sum + proposed.notional ≤
        book.capital * book.maxTotalExposureFraction ∧
      ((portfolioMembers book.portfolioId books).map
        (fun item => assetExposure item (assetOf proposed.productId))).sum + proposed.notional ≤
          book.capital * book.maxPerAssetFraction := by
  have hmixed : riskBearing.any (fun item =>
      item ∉ books ∧ item.deployment.portfolioId = some book.portfolioId) = true ↔
      ¬ ∀ item ∈ riskBearing, item.deployment.portfolioId = some book.portfolioId →
        item ∈ books := by
    simp only [any_eq_true, decide_eq_true_eq, not_forall, exists_prop]
    exact exists_congr fun item => and_congr_right fun _ => and_comm
  simp only [portfolioVerdict, evaluatePortfolioEntry]
  split
  next h => simp [hmixed.mp h, denyText_ne_pass]
  next h =>
    rw [hmixed, not_not] at h
    split
    next havailable => simp [havailable, denyText_ne_pass]
    next havailable =>
      have havailable : book.available = true := by simpa using havailable
      split
      next reason hreason => simp [hreason, deny_ne_pass]
      next hreason =>
        rw [Check.andThen_pass_iff, Check.require_pass_iff, Check.require_pass_iff,
          portfolioExposure_assets]
        exact ⟨fun hcaps => ⟨h, havailable, hreason, hcaps⟩, fun hall => hall.2.2.2⟩

end

/-! ## An allowed entry stays within every cap -/

variable {policy : RiskPolicyDefinition} {mode : DeploymentMode} {proposed : ProposedEntry}
  {snapshots : List DeploymentSnapshot} {evidence : EntryEvidence}

/-- The checks of an admitted spot entry that compare with caps. -/
structure PassedCaps (policy : RiskPolicyDefinition) (mode : DeploymentMode)
    (proposed : ProposedEntry) (snapshots : List DeploymentSnapshot)
    (evidence : EntryEvidence) : Prop where
  portfolio : portfolioVerdict evidence.portfolio proposed (riskBearingSnapshots snapshots mode)
    (scopeBooks mode snapshots proposed.productId) = .pass
  exposure : exposureVerdict policy mode proposed (scopeBooks mode snapshots proposed.productId)
    (collateralVerdict policy mode proposed evidence.futuresCollateral
      evidence.liveQuoteCash).2 = .pass

theorem evaluateSpotEntry_pass
    (h : evaluateSpotEntry policy mode proposed snapshots evidence = .pass) :
    PassedCaps policy mode proposed snapshots evidence := by
  simp only [evaluateSpotEntry, Check.andThen_pass_iff] at h
  have hscoped := withBooks_pass h.2
  simp only [scopedEntry, boundedEntry, Check.andThen_pass_iff] at hscoped
  exact ⟨hscoped.2.1, hscoped.2.2.2.2.1⟩

section

variable (h : PassedCaps policy mode proposed snapshots evidence)
include h

theorem PassedCaps.members (hbook : evidence.portfolio = some book) :
    portfolioMembers book.portfolioId (scopeBooks mode snapshots proposed.productId) =
      portfolioMembers book.portfolioId (riskBearingSnapshots snapshots mode) := by
  have hinside := (portfolioVerdict_pass_iff.mp (hbook ▸ h.portfolio)).1
  unfold portfolioMembers scopeBooks
  rw [filter_filter]
  refine filter_congr ?_
  intro item hmem
  by_cases htagged : item.deployment.portfolioId = some book.portfolioId
  · have hquote := of_mem_filter (hinside item hmem htagged)
    simp only [htagged, decide_true, Bool.true_and]
    exact hquote
  · simp [htagged]

theorem PassedCaps.capital (hnamed : Named (scopeBooks mode snapshots proposed.productId)) :
    capitalBase policy mode (collateralVerdict policy mode proposed evidence.futuresCollateral
      evidence.liveQuoteCash).2 (scopeBooks mode snapshots proposed.productId)
      proposed.inKindCapital = entryCapital policy mode proposed
        (scopeBooks mode snapshots proposed.productId) evidence := by
  have hpositive := (exposureVerdict_pass_iff.mp h.exposure).1
  cases mode with
  | paper => rfl
  | live => exact capitalBase_live hnamed hpositive

end

theorem sum_markedExposure {books : List DeploymentSnapshot} (hnamed : Named books) :
    (books.map markedExposure).sum = exposureIn totalExposure books :=
  exposureIn_congr (fun snapshot hmem => markedExposure_eq (hnamed snapshot hmem))

theorem PassedCaps.withinCaps (h : PassedCaps policy mode proposed snapshots evidence)
    (hnamed : Named snapshots) : WithinCaps policy mode proposed snapshots evidence := by
  have hrisk : Named (riskBearingSnapshots snapshots mode) := hnamed.filter _
  have hbooks : Named (scopeBooks mode snapshots proposed.productId) := hrisk.filter _
  have htagged : ∀ portfolioId, Named (portfolioMembers portfolioId
      (riskBearingSnapshots snapshots mode)) := fun _ => hrisk.filter _
  obtain ⟨-, haccount, hproduct, -, hallocation⟩ := exposureVerdict_pass_iff.mp h.exposure
  rw [h.capital hbooks, sum_markedExposure hbooks] at haccount
  rw [h.capital hbooks, exposureIn_congr (fun snapshot hmem =>
    productExposure_eq (hbooks snapshot hmem) proposed.productId)] at hproduct
  obtain ⟨hfraction, hceiling⟩ := le_portfolioCap_iff.mp haccount
  refine ⟨hproduct, hfraction, hceiling, ?_, ?_, ?_⟩
  · intro item hmem hstrategy
    have hle := allocationVerdict_pass hallocation hmem hstrategy
    rw [sum_markedExposure (hbooks.filter _)] at hle
    exact hle
  · intro book hbook
    have hle := (portfolioVerdict_pass_iff.mp (hbook ▸ h.portfolio)).2.2.2.1
    rw [h.members hbook, sum_markedExposure (htagged _)] at hle
    exact hle
  · intro book hbook
    have hle := (portfolioVerdict_pass_iff.mp (hbook ▸ h.portfolio)).2.2.2.2
    rw [h.members hbook, exposureIn_congr (fun snapshot hmem =>
      assetExposure_eq (htagged _ snapshot hmem) (assetOf proposed.productId))] at hle
    exact hle

end Thytrader.Risk
