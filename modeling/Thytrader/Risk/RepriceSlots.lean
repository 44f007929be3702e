import Mathlib.Data.Finset.Card
import Thytrader.Risk.EntrySize

/-!
# The slot of a repriced entry

`_reprice_entry` asks the gate again for an entry it has just cancelled. The book is still in
PENDING_ENTRY, so `open_position_slot_count` counts it among the slots in use, and its replacement
needs one slot more than its first entry did (`slotKept_iff`). The clustering cap leaves a
readmitted entry out (`readmits_working_entry`); the slot cap does not.
-/

namespace Thytrader.Risk

open Lib MarketData Trading List

/-- A runtime that `open_position_slot_count` counts for a product. -/
def RunsInMarket (book : DeploymentSnapshot) (product : String) : Prop :=
  if book.instrumentRuntimes = [] then
    (book.position.isSome ∨ book.deployment.phase.inMarket) ∧ book.deployment.productId = product
  else ∃ runtime ∈ book.instrumentRuntimes, runtime.phase.inMarket ∧ runtime.productId = product

/-- A product whose entry was cancelled unfilled: nothing held, the runtime still waiting. -/
structure EntryPending (productId : String) (book : DeploymentSnapshot) : Prop where
  flat : ∀ position ∈ snapshotPositions book,
    resolvedProductId position.productId book.deployment ≠ productId
  pending :
    if book.instrumentRuntimes = [] then
      book.position = none ∧ book.deployment.productId = productId ∧
        book.deployment.phase = .pendingEntry
    else ∃ runtime ∈ book.instrumentRuntimes, runtime.productId = productId ∧
      runtime.phase = .pendingEntry

/-- The book as its first entry found it. -/
def beforeEntry (productId : String) (book : DeploymentSnapshot) : DeploymentSnapshot :=
  { book with
    deployment := { book.deployment with phase := .flat }
    instrumentRuntimes := book.instrumentRuntimes.map (fun runtime =>
      if runtime.productId = productId then { runtime with phase := .flat } else runtime) }

section

variable {productId : String} {book : DeploymentSnapshot}

theorem openPositionSlotCount_eq : ∃ products : Finset String,
    openPositionSlotCount book = products.card ∧ ∀ product, product ∈ products ↔
      (∃ position ∈ snapshotPositions book,
        resolvedProductId position.productId book.deployment = product) ∨
      RunsInMarket book product := by
  unfold openPositionSlotCount RunsInMarket
  by_cases hsingle : book.instrumentRuntimes = []
  · simp only [hsingle, ne_eq, not_true_eq_false, if_false, if_true]
    split
    next hbusy =>
      refine ⟨_, (card_toFinset _).symm, fun product => ?_⟩
      simp [hbusy, or_comm, @eq_comm _ product]
    next hidle =>
      refine ⟨_, (card_toFinset _).symm, fun product => ?_⟩
      simp [hidle]
  · simp only [hsingle, ne_eq, not_false_eq_true, if_true, if_false]
    refine ⟨_, (card_toFinset _).symm, fun product => ?_⟩
    simp [and_assoc]

theorem EntryPending.runsInMarket (h : EntryPending productId book) (product : String) :
    RunsInMarket book product ↔
      product = productId ∨ RunsInMarket (beforeEntry productId book) product := by
  have hpending := h.pending
  unfold RunsInMarket
  by_cases hsingle : book.instrumentRuntimes = []
  · rw [if_pos hsingle] at hpending
    simp [beforeEntry, hsingle, hpending, RuntimePhase.inMarket, @eq_comm _ productId]
  · rw [if_neg hsingle] at hpending
    obtain ⟨runtime, hruntime, hproduct, hphase⟩ := hpending
    rw [if_neg hsingle, if_neg (by simpa [beforeEntry] using hsingle)]
    constructor
    · rintro ⟨other, hother, hmarket, rfl⟩
      by_cases hsame : other.productId = productId
      · exact .inl hsame
      · refine .inr ⟨other, mem_map.mpr ⟨other, hother, if_neg hsame⟩, hmarket, rfl⟩
    · rintro (rfl | ⟨other, hother, hmarket, rfl⟩)
      · exact ⟨runtime, hruntime, by rw [hphase]; rfl, hproduct⟩
      · obtain ⟨stored, hstored, rfl⟩ := mem_map.mp hother
        split at hmarket
        · cases hmarket
        next hother => exact ⟨stored, hstored, hmarket, by rw [if_neg hother]⟩

theorem EntryPending.not_runsInMarket (h : EntryPending productId book) :
    ¬ RunsInMarket (beforeEntry productId book) productId := by
  have hpending := h.pending
  unfold RunsInMarket
  by_cases hsingle : book.instrumentRuntimes = []
  · rw [if_pos hsingle] at hpending
    simp [beforeEntry, hsingle, hpending, RuntimePhase.inMarket]
  · rw [if_neg (by simpa [beforeEntry] using hsingle)]
    rintro ⟨other, hother, hmarket, hproduct⟩
    obtain ⟨stored, -, rfl⟩ := mem_map.mp hother
    split at hmarket
    · cases hmarket
    next hne => exact hne (by rwa [if_neg hne] at hproduct)

/-- The pending entry takes a slot of its own. -/
theorem EntryPending.slotCount (h : EntryPending productId book) :
    openPositionSlotCount book = openPositionSlotCount (beforeEntry productId book) + 1 := by
  obtain ⟨products, hcount, hmem⟩ := @openPositionSlotCount_eq book
  obtain ⟨others, hothers, hother⟩ := @openPositionSlotCount_eq (beforeEntry productId book)
  have hnew : productId ∉ others := by
    rw [hother]
    rintro (⟨position, hposition, hproduct⟩ | hruns)
    · exact h.flat position hposition hproduct
    · exact h.not_runsInMarket hruns
  rw [hcount, hothers, ← Finset.card_insert_of_notMem hnew]
  congr 1
  ext product
  rw [Finset.mem_insert, hmem, hother, h.runsInMarket]
  exact or_left_comm

end

theorem Check.andThen_of_ne_pass {first second : Objection} (h : first ≠ .pass) :
    first.andThen second = first := by
  unfold Check.andThen
  split
  · rfl
  · rfl
  · exact absurd rfl h

section

variable {policy : RiskPolicyDefinition} {mode : DeploymentMode} {proposed : ProposedEntry}
  {portfolioMember : Bool} {occupied : List DeploymentSnapshot}

/-- The checks before the slots pass. -/
def Member (policy : RiskPolicyDefinition) (mode : DeploymentMode) (proposed : ProposedEntry)
    (portfolioMember : Bool) : Prop :=
  allowlistVerdict policy proposed.productId = .pass ∧
    allocationMembership policy proposed.strategyId mode portfolioMember
      (isFuturesProductId proposed.productId) proposed.deskId = .pass

def DeniesSlot (objection : Objection) : Prop :=
  ∃ denial, objection = .ok (some denial) ∧ denial.reasonCode = .maxOpenPositions

theorem entryMembership_slots (hnew : proposed.isPyramidAdd = false)
    (hmember : Member policy mode proposed portfolioMember) :
    entryMembership policy mode proposed occupied portfolioMember =
      if policy.maxConcurrentOpenPositions ≤ (occupied.map openPositionSlotCount).sum then
        denyText .maxOpenPositions
          "Open and pending positions already use every concurrent slot for this mode."
      else .pass := by
  unfold entryMembership
  rw [hmember.1, hmember.2, Check.pass_andThen, Check.pass_andThen, if_neg (by simp [hnew])]

/-- An entry that is no member is denied for that, whatever the slots. -/
theorem entryMembership_earlier (hmember : ¬ Member policy mode proposed portfolioMember) :
    ∃ objection, ¬ DeniesSlot objection ∧
      ∀ occupied, entryMembership policy mode proposed occupied portfolioMember = objection := by
  by_cases hlisted : allowlistVerdict policy proposed.productId = .pass
  · have hallocated := fun h => hmember ⟨hlisted, h⟩
    refine ⟨allocationMembership policy proposed.strategyId mode portfolioMember
      (isFuturesProductId proposed.productId) proposed.deskId, ?_, fun occupied => ?_⟩
    · rintro ⟨denial, h, hcode⟩
      unfold allocationMembership at h
      repeat' split at h
      all_goals cases h <;> cases hcode
    · unfold entryMembership
      rw [hlisted, Check.pass_andThen, Check.andThen_of_ne_pass hallocated]
  · refine ⟨allowlistVerdict policy proposed.productId, ?_, fun occupied => ?_⟩
    · rintro ⟨denial, h, hcode⟩
      unfold allowlistVerdict at h
      dsimp only at h
      repeat' split at h
      all_goals cases h <;> cases hcode
    · exact Check.andThen_of_ne_pass hlisted

/-- What a reprice is owed: no refusal for its own slot, and the first entry's decision. -/
structure SlotKept (policy : RiskPolicyDefinition) (mode : DeploymentMode)
    (proposed : ProposedEntry) (portfolioMember : Bool) (before after : List DeploymentSnapshot)
    (book : DeploymentSnapshot) (notional quantity : Decimal) : Prop where
  admitted :
    ((before ++ beforeEntry proposed.productId book :: after).map openPositionSlotCount).sum <
        policy.maxConcurrentOpenPositions →
      ¬ DeniesSlot (entryMembership policy mode
        { proposed with notional, quantity := some quantity, readmitsWorkingEntry := true }
        (before ++ book :: after) portfolioMember)
  same : entryMembership policy mode
      { proposed with notional, quantity := some quantity, readmitsWorkingEntry := true }
      (before ++ book :: after) portfolioMember =
    entryMembership policy mode proposed (before ++ beforeEntry proposed.productId book :: after)
      portfolioMember

/-- The reprice of a pending entry gets its first entry's decision unless the other books leave
exactly one slot. -/
theorem slotKept_iff (hnew : proposed.isPyramidAdd = false) (before after : List DeploymentSnapshot)
    {book : DeploymentSnapshot} (h : EntryPending proposed.productId book)
    (notional quantity : Decimal) :
    SlotKept policy mode proposed portfolioMember before after book notional quantity ↔
      (Member policy mode proposed portfolioMember →
        ((before ++ beforeEntry proposed.productId book :: after).map openPositionSlotCount).sum +
          1 ≠ policy.maxConcurrentOpenPositions) := by
  have hcount : ((before ++ book :: after).map openPositionSlotCount).sum =
      ((before ++ beforeEntry proposed.productId book :: after).map openPositionSlotCount).sum +
        1 := by
    simp only [map_append, map_cons, sum_append, sum_cons, h.slotCount]
    omega
  by_cases hmember : Member policy mode proposed portfolioMember
  · have hreprice := @entryMembership_slots policy mode
      { proposed with notional, quantity := some quantity, readmitsWorkingEntry := true }
      portfolioMember (before ++ book :: after) hnew hmember
    have hfirst := @entryMembership_slots policy mode proposed portfolioMember
      (before ++ beforeEntry proposed.productId book :: after) hnew hmember
    rw [hcount] at hreprice
    constructor
    · intro hkept _ hlast
      have hlast := hlast.ge
      rw [if_pos hlast] at hreprice
      exact hkept.admitted (by omega) ⟨_, hreprice, rfl⟩
    · intro hfree
      have hfree := hfree hmember
      refine ⟨?_, ?_⟩
      · rintro hothers ⟨denial, hdenied, -⟩
        rw [hreprice, if_neg (by omega)] at hdenied
        cases hdenied
      · rw [hreprice, hfirst]
        exact if_congr (by omega) rfl rfl
  · obtain ⟨objection, hreason, hdenied⟩ := entryMembership_earlier hmember
    refine iff_of_true ⟨fun _ => ?_, ?_⟩ (fun h => absurd h hmember)
    · exact (hdenied _).symm ▸ hreason
    · exact (hdenied (before ++ book :: after)).trans (hdenied _).symm

end

/-- The allocated policy with room for one position. -/
def oneSlotPolicy : RiskPolicyDefinition :=
  { allocatedPolicy with maxConcurrentOpenPositions := 1, valid := by decide +kernel }

/-- A sleeve that waits for an entry that was cancelled to be repriced. -/
def pendingSleeve : DeploymentSnapshot :=
  sleeveBook 1 7 "BTC-USDC" { restingEntry 1 "BTC-USDC" 2 100 with status := .canceled }

theorem pendingSleeve_pending : EntryPending sleeveEntry.productId pendingSleeve :=
  ⟨fun _ h => absurd (show _ ∈ [] from h) not_mem_nil, rfl, rfl, rfl⟩

/-- Two more books wait for their entries under a cap of four. -/
theorem slotKept_iff_sleeve :
    SlotKept allocatedPolicy .live sleeveEntry false
      [sleeveBook 2 8 "ETH-USDC" (restingEntry 2 "ETH-USDC" 2 50)]
      [sleeveBook 4 9 "SOL-USDC" (restingEntry 4 "SOL-USDC" 3 20)] pendingSleeve 190 2 :=
  (slotKept_iff rfl _ _ pendingSleeve_pending 190 2).mpr (fun _ => by decide +kernel)

/-- The first entry takes the one slot; at another price it is refused for it. -/
theorem slot_refused :
    entryMembership oneSlotPolicy .live sleeveEntry
      [beforeEntry sleeveEntry.productId pendingSleeve] false = .pass ∧
    DeniesSlot (entryMembership oneSlotPolicy .live
      { sleeveEntry with notional := 190, quantity := some 2, readmitsWorkingEntry := true }
      [pendingSleeve] false) ∧
    ¬ SlotKept oneSlotPolicy .live sleeveEntry false [] [] pendingSleeve 190 2 := by
  have hrefused : DeniesSlot (entryMembership oneSlotPolicy .live
      { sleeveEntry with notional := 190, quantity := some 2, readmitsWorkingEntry := true }
      [pendingSleeve] false) := ⟨_, rfl, rfl⟩
  refine ⟨rfl, hrefused, fun h => ?_⟩
  have hadmitted := h.admitted (by decide)
  exact hadmitted hrefused

end Thytrader.Risk
