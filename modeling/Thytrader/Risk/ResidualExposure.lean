import Thytrader.Risk.EntryLimits

/-!
# Exposure that the residual test does not see

`_marked_exposure` measures a book on every product it holds, works or runs.
`snapshot_has_residual_exposure` looks for working entries on the products of the runtime rows
only, or on the deployment's product when there are none, so that a stopped book whose only order
rests on another product is left out of the risk totals (`marked_exposure_residual_iff`).
-/

namespace Thytrader.Risk

open Lib Trading List

/-- The products `snapshot_has_residual_exposure` asks for working entries. -/
def askedProducts (snapshot : DeploymentSnapshot) : List String :=
  if snapshot.instrumentRuntimes = [] then [snapshot.deployment.productId]
  else snapshot.instrumentRuntimes.map (·.productId)

/-- The phases it looks at. -/
def askedPhases (snapshot : DeploymentSnapshot) : List RuntimePhase :=
  if snapshot.instrumentRuntimes = [] then [snapshot.deployment.phase]
  else snapshot.instrumentRuntimes.map (·.phase)

def EntryOn (snapshot : DeploymentSnapshot) (products : List String) : Prop :=
  ∃ product ∈ products, ∃ order ∈ snapshot.orders, reservesQuote snapshot product order = true

/-- What makes the residual test answer for a book that is exposed. -/
def ResidualSeen (snapshot : DeploymentSnapshot) : Prop :=
  snapshotPositions snapshot ≠ [] ∨ (∃ phase ∈ askedPhases snapshot, phase.inMarket = true) ∨
    (EntryOn snapshot (bookProducts snapshot) → EntryOn snapshot (askedProducts snapshot))

theorem snapshotHasResidualExposure_iff (snapshot : DeploymentSnapshot) :
    snapshotHasResidualExposure snapshot = true ↔ snapshotPositions snapshot ≠ [] ∨
      (∃ phase ∈ askedPhases snapshot, phase.inMarket = true) ∨
        ∃ product ∈ askedProducts snapshot, 0 < workingEntryNotional snapshot product := by
  unfold snapshotHasResidualExposure askedPhases askedProducts
  by_cases hheld : snapshotPositions snapshot = []
  · rw [if_neg (not_not.mpr hheld)]
    by_cases hrows : snapshot.instrumentRuntimes = []
    · -- without a position row the second look for a position finds nothing
      have hposition : snapshot.position = none := by
        unfold snapshotPositions at hheld
        split at hheld
        · simpa using hheld
        next hrows => exact absurd hheld hrows
      simp [hheld, hrows, hposition]
    · simp [hheld, hrows]
  · simp [hheld]

section

variable {snapshot : DeploymentSnapshot}
  (hprices : ∀ order ∈ snapshot.orders, ∀ price ∈ order.price, 0 < price)

include hprices

theorem remainderValue_pos {product : String} {order : Order} (horder : order ∈ snapshot.orders)
    (hreserves : reservesQuote snapshot product order = true) : 0 < remainderValue order := by
  obtain ⟨-, hsome, -, hleft, -⟩ := of_decide_eq_true hreserves
  obtain ⟨price, hprice⟩ := Option.isSome_iff_exists.mp hsome
  unfold remainderValue
  rw [hprice]
  exact mul_pos hleft (hprices order horder price hprice)

theorem workingEntryNotional_nonneg (product : String) :
    0 ≤ workingEntryNotional snapshot product := by
  refine sum_nonneg ?_
  intro value hvalue
  obtain ⟨order, horder, rfl⟩ := mem_map.mp hvalue
  obtain ⟨hmem, hreserves⟩ := mem_filter.mp horder
  exact (remainderValue_pos hprices hmem hreserves).le

theorem workingEntryNotional_pos_iff (product : String) :
    0 < workingEntryNotional snapshot product ↔
      ∃ order ∈ snapshot.orders, reservesQuote snapshot product order = true := by
  constructor
  · intro hpos
    by_contra hnone
    have hempty : snapshot.orders.filter (reservesQuote snapshot product) = [] :=
      filter_eq_nil_iff.mpr fun order horder hreserves => hnone ⟨order, horder, hreserves⟩
    unfold workingEntryNotional at hpos
    rw [hempty] at hpos
    exact lt_irrefl _ hpos
  · rintro ⟨order, horder, hreserves⟩
    refine sum_pos _ ?_ ?_
    · intro value hvalue
      obtain ⟨other, hother, rfl⟩ := mem_map.mp hvalue
      obtain ⟨hmem, hcounted⟩ := mem_filter.mp hother
      exact remainderValue_pos hprices hmem hcounted
    · exact ne_nil_of_mem (mem_map_of_mem (mem_filter.mpr ⟨horder, hreserves⟩))

theorem sum_workingEntryNotional_pos_iff (products : List String) :
    0 < (products.map (workingEntryNotional snapshot)).sum ↔ EntryOn snapshot products := by
  unfold EntryOn
  simp only [← workingEntryNotional_pos_iff hprices]
  induction products with
  | nil => simp
  | cons product products ih =>
    have hhead := workingEntryNotional_nonneg hprices product
    have hrest : 0 ≤ (products.map (workingEntryNotional snapshot)).sum := by
      refine sum_nonneg ?_
      intro value hvalue
      obtain ⟨other, -, rfl⟩ := mem_map.mp hvalue
      exact workingEntryNotional_nonneg hprices other
    simp only [map_cons, sum_cons, mem_cons, exists_eq_or_imp, ← ih]
    constructor
    · intro hsum
      by_contra hneither
      rw [not_or, not_lt, not_lt] at hneither
      linarith
    · rintro (hpos | hpos)
      · linarith
      · linarith

end

/-- The residual test sees an exposed book exactly when it holds a position, an asked phase is in
the market, or its working entries reach an asked product. -/
theorem marked_exposure_residual_iff (snapshot : DeploymentSnapshot)
    (hprices : ∀ order ∈ snapshot.orders, ∀ price ∈ order.price, 0 < price) :
    (0 < markedExposure snapshot → snapshotHasResidualExposure snapshot = true) ↔
      ResidualSeen snapshot := by
  rw [snapshotHasResidualExposure_iff]
  unfold ResidualSeen
  by_cases hheld : snapshotPositions snapshot = []
  · have hmarked : markedExposure snapshot =
        ((bookProducts snapshot).map (workingEntryNotional snapshot)).sum := by
      unfold markedExposure productExposure
      simp [hheld]
    have hasked : (∃ product ∈ askedProducts snapshot, 0 < workingEntryNotional snapshot product) ↔
        EntryOn snapshot (askedProducts snapshot) := by
      simp only [workingEntryNotional_pos_iff hprices, EntryOn]
    rw [hmarked, sum_workingEntryNotional_pos_iff hprices, hasked]
    by_cases hentry : EntryOn snapshot (bookProducts snapshot)
    · simp [hentry]
    · simp [hentry]
  · simp [hheld]

/-- A book of BTC-USD whose only order buys one ETH-USD at 100. -/
def secondaryEntry (status : DeploymentStatus) (runtimes : List InstrumentRuntime) :
    DeploymentSnapshot where
  deployment :=
    { id := 1
      strategyFingerprint := none
      strategyId := none
      productId := "BTC-USD"
      mode := .live
      status
      cash := 0
      phase := .flat
      createdAt := 0
      updatedAt := 0
      allocatedCapital := some 150 }
  orders :=
    [{ id := 2
       deploymentId := 1
       intentId := 3
       clientOrderId := "entry"
       side := .buy
       kind := .postOnlyLimit
       quantity := 1
       status := .open
       createdAt := 0
       updatedAt := 0
       price := some 100
       productId := "ETH-USD" }]
  instrumentRuntimes := runtimes

theorem marked_exposure_residual_iff_entry :
    (0 < markedExposure (secondaryEntry .stopped [⟨"ETH-USD", .flat, none, none, 0, 0, 0, none, none⟩]) →
      snapshotHasResidualExposure
        (secondaryEntry .stopped [⟨"ETH-USD", .flat, none, none, 0, 0, 0, none, none⟩]) = true) ↔
      ResidualSeen (secondaryEntry .stopped [⟨"ETH-USD", .flat, none, none, 0, 0, 0, none, none⟩]) :=
  marked_exposure_residual_iff _ (by simp [secondaryEntry])

theorem stopped_entry_dropped :
    markedExposure (secondaryEntry .stopped []) = 100 ∧
      riskBearingSnapshots [secondaryEntry .stopped []] .live = [] ∧
        snapshotHasResidualExposure (secondaryEntry .stopped []) = false := by
  decide +kernel

end Thytrader.Risk
