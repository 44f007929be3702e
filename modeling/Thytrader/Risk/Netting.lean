import Thytrader.Risk.FleetReadiness
import Thytrader.Risk.ResidualExposure

/-!
# What netting takes off the beta figure

`netting_adjustment` compares the net base of an underlying, valued at the spot mark, with the
gross cost of its spot leg. It never raises the figure and never takes more than the gross
(`netting_bounded`). A leg
of either direction lets the mark of the spot leg count in place of its cost, so where the mark
stands below the cost even a leg that adds exposure lowers the figure.
-/

namespace Thytrader.Risk

open Lib MarketData Trading List

/-- What a well-formed book holds and works: quantities are magnitudes, the side has the sign. -/
structure PositiveBook (book : DeploymentSnapshot) : Prop where
  orders : ∀ order ∈ book.orders, ∀ price ∈ order.price, 0 < price
  positions : ∀ position ∈ snapshotPositions book, 0 ≤ position.cost

/-- The spot product an underlying nets under. -/
def spotOf (policy : RiskPolicyDefinition) (underlying : String) : String :=
  underlying ++ "-" ++ policy.quoteCurrency.text

/-- What one book adds to the gross of a spot leg. -/
def legCost (book : DeploymentSnapshot) (product : String) : Decimal :=
  (((snapshotPositions book).filter (fun position =>
    resolvedProductId position.productId book.deployment = product)).map Position.cost).sum

/-- The spot leg of a product after the entry: signed base and gross cost. -/
def legAfter (proposed : ProposedEntry) (side : PositionSide) (occupied : List DeploymentSnapshot)
    (spotProduct : String) : Decimal × Decimal :=
  let leg := spotLeg occupied spotProduct
  match proposed.quantity with
  | some quantity =>
    if proposed.productId = spotProduct then
      (leg.1 + (if side = .short then -quantity else quantity), leg.2 + |proposed.notional|)
    else leg
  | none => leg

/-- By how much the mark takes the spot leg below its cost. -/
def markedDown (leg : Decimal × Decimal) (mark : Decimal) : Decimal := max (leg.2 - |leg.1| * mark) 0

/-- What the futures leg and the mark take off the gross of a spot leg, at most. -/
def hedgedAway (leg : Decimal × Decimal) (mark futuresBase : Decimal) : Decimal :=
  (if 0 ≤ leg.1 * futuresBase then 0 else mark * |futuresBase|) + markedDown leg mark

theorem abs_le_abs_add_of_mul_nonneg {base hedge : Decimal} (h : 0 ≤ base * hedge) :
    |base| ≤ |base + hedge| := by
  refine sq_le_sq.mp ?_
  nlinarith [sq_nonneg hedge]

/-- An adjustment that never raises the figure `beta_verdict` compares with the cap and never takes
it below nothing. -/
def Adjusts (proposed : ProposedEntry) (occupied : List DeploymentSnapshot)
    (betas : Dict String Decimal) (adjustment : Decimal) : Prop :=
  adjustment ≤ 0 ∧ 0 ≤ weightedExposure occupied betas + adjustment +
    |proposed.notional| * (betas.get? proposed.productId).getD 0

/-- Each underlying takes off something between nothing and the mark-down of the spot leg and,
opposite to it, the futures base at the mark. -/
def WithinHedge (policy : RiskPolicyDefinition) (proposed : ProposedEntry) (side : PositionSide)
    (occupied : List DeploymentSnapshot) (betas marks : Dict String Decimal) : Prop :=
  ∀ underlying futuresBase,
    nettedUnderlying policy proposed side occupied betas marks underlying futuresBase ≤ 0 ∧
    ∀ beta mark, betas.get? (spotOf policy underlying) = some beta →
      marks.get? (spotOf policy underlying) = some mark → 0 < mark →
      -nettedUnderlying policy proposed side occupied betas marks underlying futuresBase ≤
        hedgedAway (legAfter proposed side occupied (spotOf policy underlying)) mark futuresBase *
          beta

/-- A total over some keys is at most the total over keys that hold every one with value. -/
theorem sum_map_le_of_support {value : String → Decimal} {keys others : List String}
    (hnodup : keys.Nodup) (hnonneg : ∀ key, 0 ≤ value key)
    (hsupport : ∀ key ∈ keys, key ∉ others → value key = 0) :
    (keys.map value).sum ≤ (others.map value).sum := by
  have hkept : ((keys.filter (· ∈ others)).map value).sum = (keys.map value).sum :=
    sum_map_filter_of_zero fun key hkey hout => hsupport key hkey (of_decide_eq_false hout)
  have hsubset : keys.filter (· ∈ others) ⊆ others :=
    fun key hkey => of_decide_eq_true (mem_filter.mp hkey).2
  obtain ⟨found, hperm, hsub⟩ := (hnodup.filter (· ∈ others)).subperm hsubset
  rw [← hkept, ← (hperm.map value).sum_eq]
  exact (hsub.map value).sum_le_sum (by simp [hnonneg])

section

variable (policy : RiskPolicyDefinition) (proposed : ProposedEntry) (side : PositionSide)
  {occupied : List DeploymentSnapshot} {betas : Dict String Decimal} (marks : Dict String Decimal)

theorem nettedUnderlying_eq (underlying : String) (futuresBase : Decimal) :
    nettedUnderlying policy proposed side occupied betas marks underlying futuresBase =
      match betas.get? (spotOf policy underlying), marks.get? (spotOf policy underlying) with
      | some beta, some mark =>
        let leg := legAfter proposed side occupied (spotOf policy underlying)
        if futuresBase = 0 ∨ mark ≤ 0 then 0
        else if leg.2 = 0 then 0
        else min (|leg.1 + futuresBase| * mark - leg.2) 0 * beta
      | _, _ => 0 := by
  rfl

/-! ## The gross of the spot legs -/

variable {book : DeploymentSnapshot}

theorem legCost_le (hbook : PositiveBook book) (product : String) :
    0 ≤ legCost book product ∧ legCost book product ≤ |productExposure book product| := by
  constructor
  · refine sum_nonneg ?_
    intro cost hmem
    obtain ⟨position, hposition, rfl⟩ := mem_map.mp hmem
    exact hbook.positions position (mem_filter.mp hposition).1
  · exact (le_add_of_nonneg_right (workingEntryNotional_nonneg hbook.orders product)).trans
      (le_abs_self _)

theorem legCost_of_unlisted {product : String} (hnamed : product ≠ "")
    (hunlisted : product ∉ bookProducts book) : legCost book product = 0 := by
  unfold legCost
  rw [filter_eq_nil_iff.mpr]
  · rfl
  · intro position hposition hresolved
    refine hunlisted ?_
    simp only [bookProducts, mem_dedup, mem_filter, mem_append, mem_map]
    exact ⟨.inl (.inl (.inr ⟨position, hposition, of_decide_eq_true hresolved⟩)), by simpa⟩

theorem spotLeg_cons (book : DeploymentSnapshot) (product : String) :
    (spotLeg (book :: occupied) product).2 =
      legCost book product + (spotLeg occupied product).2 := by
  simp [spotLeg, legCost]

theorem spotLeg_nonneg (hbooks : ∀ book ∈ occupied, PositiveBook book) (product : String) :
    0 ≤ (spotLeg occupied product).2 := by
  induction occupied with
  | nil => exact le_rfl
  | cons book _ ih =>
    obtain ⟨hbook, hrest⟩ := forall_mem_cons.mp hbooks
    rw [spotLeg_cons]
    exact add_nonneg (legCost_le hbook product).1 (ih hrest)

theorem legAfter_nonneg (hbooks : ∀ book ∈ occupied, PositiveBook book) (product : String) :
    0 ≤ (legAfter proposed side occupied product).2 := by
  have hleg := spotLeg_nonneg hbooks product
  unfold legAfter
  split
  · split
    · exact add_nonneg hleg (abs_nonneg _)
    · exact hleg
  · exact hleg

variable (hbetas : ∀ product beta, betas.get? product = some beta → 0 ≤ beta)

include hbetas

theorem betaOf_nonneg (product : String) : 0 ≤ (betas.get? product).getD 0 := by
  cases hbeta : betas.get? product with
  | none => exact le_rfl
  | some beta => exact hbetas product beta hbeta

/-- The weighted gross of distinct spot products is within the weighted exposure of the books. -/
theorem sum_legCost_le (hbooks : ∀ book ∈ occupied, PositiveBook book) {products : List String}
    (hnodup : products.Nodup) (hnamed : ∀ product ∈ products, product ≠ "") :
    (products.map (fun product =>
      (spotLeg occupied product).2 * (betas.get? product).getD 0)).sum ≤
        weightedExposure occupied betas := by
  induction occupied with
  | nil => simp [spotLeg, weightedExposure]
  | cons book rest ih =>
    obtain ⟨hbook, hrest⟩ := forall_mem_cons.mp hbooks
    have hown : (products.map (fun product =>
        legCost book product * (betas.get? product).getD 0)).sum ≤
          ((bookProducts book).map (fun product =>
            legCost book product * (betas.get? product).getD 0)).sum := by
      refine sum_map_le_of_support hnodup ?_ ?_
      · intro product
        exact mul_nonneg (legCost_le hbook product).1 (betaOf_nonneg hbetas product)
      · intro product hproduct hunlisted
        rw [legCost_of_unlisted (hnamed product hproduct) hunlisted, zero_mul]
    have hexposure : ((bookProducts book).map (fun product =>
        legCost book product * (betas.get? product).getD 0)).sum ≤
          weightedExposure [book] betas := by
      simp only [weightedExposure, map_cons, map_nil, sum_cons, sum_nil, add_zero]
      refine sum_le_sum ?_
      intro product _
      cases hbeta : betas.get? product with
      | none => exact (mul_zero _).le
      | some beta =>
        exact mul_le_mul_of_nonneg_right (legCost_le hbook product).2 (hbetas product beta hbeta)
    have hsplit : weightedExposure (book :: rest) betas =
        weightedExposure [book] betas + weightedExposure rest betas := by
      simp [weightedExposure]
    simp only [spotLeg_cons, add_mul, sum_map_add]
    rw [hsplit]
    exact add_le_add (hown.trans hexposure) (ih hrest)

theorem legAfter_le (product : String) :
    (legAfter proposed side occupied product).2 * (betas.get? product).getD 0 ≤
      (spotLeg occupied product).2 * (betas.get? product).getD 0 +
        if proposed.productId = product then
          |proposed.notional| * (betas.get? proposed.productId).getD 0
        else 0 := by
  unfold legAfter
  split
  · split
    next hproduct => rw [add_mul, hproduct]
    · rw [add_zero]
  · split
    · exact le_add_of_nonneg_right (mul_nonneg (abs_nonneg _) (betaOf_nonneg hbetas _))
    · rw [add_zero]

/-! ## One underlying -/

/-- One underlying takes off something between nothing and its whole gross. -/
theorem nettedUnderlying_bounds (hbooks : ∀ book ∈ occupied, PositiveBook book)
    (underlying : String) (futuresBase : Decimal) :
    nettedUnderlying policy proposed side occupied betas marks underlying futuresBase ≤ 0 ∧
      0 ≤ nettedUnderlying policy proposed side occupied betas marks underlying futuresBase +
        (legAfter proposed side occupied (spotOf policy underlying)).2 *
          (betas.get? (spotOf policy underlying)).getD 0 := by
  have hbeta := betaOf_nonneg hbetas (spotOf policy underlying)
  have hgross := legAfter_nonneg proposed side hbooks (spotOf policy underlying)
  rw [nettedUnderlying_eq]
  generalize legAfter proposed side occupied _ = leg at hgross ⊢
  have hproduct := mul_nonneg hgross hbeta
  split
  next beta mark hget _ =>
    rw [hget, Option.getD_some] at hbeta hproduct ⊢
    dsimp only
    split
    · exact ⟨le_rfl, by linarith⟩
    next hcounts =>
      split
      · exact ⟨le_rfl, by linarith⟩
      refine ⟨mul_nonpos_of_nonpos_of_nonneg (min_le_right _ _) hbeta, ?_⟩
      rw [not_or, not_le] at hcounts
      have hnet := mul_nonneg (abs_nonneg (leg.1 + futuresBase)) hcounts.2.le
      have hle : -leg.2 ≤ min (|leg.1 + futuresBase| * mark - leg.2) 0 :=
        le_min (by linarith) (by linarith)
      linarith [mul_le_mul_of_nonneg_right hle hbeta]
  · exact ⟨le_rfl, by linarith⟩

theorem nettedSum_adjusts (hbooks : ∀ book ∈ occupied, PositiveBook book)
    (hedges : List (String × Decimal)) (hnodup : (hedges.map Prod.fst).Nodup) :
    Adjusts proposed occupied betas (hedges.map (fun hedge =>
      nettedUnderlying policy proposed side occupied betas marks hedge.1 hedge.2)).sum := by
  have hspots : (hedges.map (fun hedge => spotOf policy hedge.1)).Nodup := by
    have hspots := hnodup.map (f := spotOf policy) (fun _ _ h => by simpa [spotOf] using h)
    rwa [map_map] at hspots
  have hgross := sum_legCost_le hbetas hbooks hspots
    (forall_mem_map.mpr fun _ _ => by simp [spotOf])
  have hproposed := sum_map_ite_eq_key _ hspots proposed.productId
    (|proposed.notional| * (betas.get? proposed.productId).getD 0)
  rw [map_map] at hgross hproposed
  constructor
  · refine (sum_le_sum (g := fun _ => 0) fun hedge _ =>
      (nettedUnderlying_bounds policy proposed side marks hbetas hbooks hedge.1 hedge.2).1).trans ?_
    simp
  · have hentry := mul_nonneg (abs_nonneg proposed.notional) (betaOf_nonneg hbetas proposed.productId)
    have hbounds := sum_le_sum (l := hedges) (f := fun _ => (0 : Decimal)) fun hedge _ =>
      (nettedUnderlying_bounds policy proposed side marks hbetas hbooks hedge.1 hedge.2).2.trans
        (add_le_add_right (legAfter_le proposed side hbetas _) _)
    simp only [sum_map_add, map_const', sum_replicate, nsmul_zero] at hbounds
    simp only [Function.comp_def] at hgross hproposed
    have hown := hproposed.trans_le ((ite_le_sup _ _ _).trans_eq (max_eq_left hentry))
    linarith

/-- What netting takes off an underlying is within its hedge. -/
theorem nettedUnderlying_hedge (hbooks : ∀ book ∈ occupied, PositiveBook book) :
    WithinHedge policy proposed side occupied betas marks := by
  intro underlying futuresBase
  refine ⟨(nettedUnderlying_bounds policy proposed side marks hbetas hbooks _ _).1, ?_⟩
  intro beta mark hbeta hmark hpositive
  have hnonneg := hbetas _ _ hbeta
  rw [nettedUnderlying_eq, hbeta, hmark]
  generalize legAfter proposed side occupied _ = leg
  have hdown : 0 ≤ markedDown leg mark := le_max_right _ _
  have hmarked : leg.2 - |leg.1| * mark ≤ markedDown leg mark := le_max_left _ _
  have hhedge := mul_nonneg hpositive.le (abs_nonneg futuresBase)
  have haway : 0 ≤ hedgedAway leg mark futuresBase ∧
      leg.2 - |leg.1 + futuresBase| * mark ≤ hedgedAway leg mark futuresBase := by
    unfold hedgedAway
    split
    next hsame =>
      have hle := mul_le_mul_of_nonneg_right (abs_le_abs_add_of_mul_nonneg hsame) hpositive.le
      exact ⟨by linarith, by linarith⟩
    · have hle := abs_sub_abs_le_abs_sub leg.1 (-futuresBase)
      rw [abs_neg, sub_neg_eq_add] at hle
      exact ⟨by linarith, by linarith [mul_le_mul_of_nonneg_right hle hpositive.le]⟩
  have hzero : -(0 : Decimal) ≤ hedgedAway leg mark futuresBase * beta := by
    rw [neg_zero]
    exact mul_nonneg haway.1 hnonneg
  dsimp only
  split
  · exact hzero
  · split
    · exact hzero
    · rw [← neg_mul]
      exact mul_le_mul_of_nonneg_right (neg_le.mp (le_min (by linarith) (by linarith))) hnonneg

/-- Netting never raises the beta figure nor takes it below nothing; each underlying takes off at
most its hedge and its mark-down. -/
theorem netting_bounded (mode : DeploymentMode) (snapshots : List DeploymentSnapshot)
    (legs : Option FuturesLegs) (hbooks : ∀ book ∈ occupied, PositiveBook book) :
    Adjusts proposed occupied betas
      (nettingAdjustment policy mode proposed occupied snapshots legs betas marks) ∧
    WithinHedge policy proposed side occupied betas marks := by
  refine ⟨?_, nettedUnderlying_hedge _ _ _ _ hbetas hbooks⟩
  unfold nettingAdjustment
  have hnone := nettedSum_adjusts policy proposed side marks hbetas hbooks [] nodup_nil
  split
  · split
    · exact hnone
    · refine nettedSum_adjusts _ _ _ _ hbetas hbooks _ ?_
      unfold futuresBaseByUnderlying
      split
      · exact nodup_nil
      next totals _ _ => exact totals.nodup.sublist (filter_sublist.map _)
  · exact hnone

end

/-- Two units bought at 100 beside a long futures book. -/
def sameSideBooks : List DeploymentSnapshot :=
  [hedgedBook .paper 1 "BTC-USDC" .long, hedgedBook .paper 2 "BIP-20DEC30-CDE" .long]

def fallenMarks : Dict String Decimal :=
  (Dict.empty.set "BTC-USDC" 40).set "BIP-20DEC30-CDE" 40

/-- With the mark at 40 the long futures base frees room for a long entry. -/
theorem sameSide_netted :
    0 < (legAfter hedgedEntry .long (sameSideBooks.take 1) "BTC-USDC").1 * 2 ∧
      futuresBaseByUnderlying sameSideBooks .paper
        { underlyings := Dict.empty.set 2 "BTC", fundingCurrent := [2] } fallenMarks =
          [("BTC", 2)] ∧
      nettingAdjustment hedgedPolicy .paper hedgedEntry (sameSideBooks.take 1) sameSideBooks
        (hedgedEvidence .paper).futuresLegs (Dict.empty.set "BTC-USDC" 1) fallenMarks = -46 := by
  decide +kernel

/-- The whole spot leg is hedged by a short of its size, at the price it cost. -/
theorem netting_bounded_sameSide :
    nettingAdjustment hedgedPolicy .paper hedgedEntry (sameSideBooks.take 1) sameSideBooks
      (hedgedEvidence .paper).futuresLegs (Dict.empty.set "BTC-USDC" 1) fallenMarks ≤ 0 ∧
    nettedUnderlying hedgedPolicy hedgedEntry .long (sameSideBooks.take 1)
      (Dict.empty.set "BTC-USDC" 1) (Dict.empty.set "BTC-USDC" 100) "BTC" (-2) = -200 ∧
    200 ≤ hedgedAway (legAfter hedgedEntry .long (sameSideBooks.take 1) "BTC-USDC") 100 (-2) * 1 := by
  have hbetas : ∀ product beta, (Dict.empty.set "BTC-USDC" 1).get? product = some beta →
      (0 : Decimal) ≤ beta := by
    intro product beta hbeta
    rw [Dict.get?_set] at hbeta
    split at hbeta
    · cases hbeta
      exact zero_le_one
    · cases hbeta
  have hbooks : ∀ book ∈ sameSideBooks.take 1, PositiveBook book := by
    intro book hbook
    obtain rfl := mem_singleton.mp hbook
    exact ⟨by simp [hedgedBook], by decide +kernel⟩
  have hnetted : nettedUnderlying hedgedPolicy hedgedEntry .long (sameSideBooks.take 1)
      (Dict.empty.set "BTC-USDC" 1) (Dict.empty.set "BTC-USDC" 100) "BTC" (-2) = -200 := by
    decide +kernel
  have hwithin := ((netting_bounded hedgedPolicy hedgedEntry .long (Dict.empty.set "BTC-USDC" 100)
    hbetas .paper [] none hbooks).2 "BTC" (-2)).2 1 100 (by decide) (by decide) (by decide)
  rw [hnetted, neg_neg] at hwithin
  exact ⟨(netting_bounded hedgedPolicy hedgedEntry .long fallenMarks hbetas _ _ _ hbooks).1.1,
    hnetted, hwithin⟩

end Thytrader.Risk
