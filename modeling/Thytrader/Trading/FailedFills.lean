import Thytrader.Trading.FillCash

/-!
# Failing fill transactions

`apply_fill_transaction` of the in-memory store inserts the evidence row before it projects the
fill. A projection that raises therefore leaves the evidence behind, unless the venue fill was
recorded before (`failing_fill_keeps_store_iff`); a missing deployment raises before any write.
-/

namespace Thytrader.Trading

open Lib MemoryStore

variable {store : MemoryStore} {call : FillCall}

theorem recordEvidence_eq_self {fill : Fill} :
    store.recordEvidence fill = store ↔ fill.key ∈ store.fillKeys := by
  unfold recordEvidence
  split
  next hknown => exact iff_of_true rfl hknown
  next hnew =>
    refine iff_of_false (fun hsame => hnew ?_) hnew
    rw [← hsame]
    exact Finset.mem_insert_self _ _

section

variable {failure : Failure} (h : (call.run store).1 = .error failure)
include h

/-- A call raises because its deployment is missing, or after it has recorded its evidence. -/
theorem FillCall.run_error :
    (store.deployments.get? call.deploymentId = none ∧ (call.run store).2 = store) ∨
      (store.deployments.get? call.deploymentId ≠ none ∧
        (call.run store).2 = store.recordEvidence call.fill) := by
  have houtcome := call.run_outcome store
  generalize call.run store = result at h houtcome ⊢
  cases houtcome with
  | missing hmissing => exact .inl ⟨hmissing, rfl⟩
  | duplicate | projected => cases h
  | refused hsnapshot => exact .inr ⟨by simp [(getDeployment_ok hsnapshot).1], rfl⟩

/-- A failing call leaves the store as it was exactly when it writes no evidence. -/
theorem failing_fill_keeps_store_iff :
    (call.run store).2 = store ↔
      store.deployments.get? call.deploymentId = none ∨ call.fill.key ∈ store.fillKeys := by
  obtain ⟨hmissing, hsame⟩ | ⟨hstored, hrecorded⟩ := FillCall.run_error h
  · exact iff_of_true hsame (.inl hmissing)
  · rw [hrecorded, recordEvidence_eq_self]
    exact ⟨.inr, fun hcase => hcase.resolve_left hstored⟩

end

/-- A live perpetual book with an excess reduction that no managed fill proves. -/
def unprovenStore : MemoryStore :=
  { MemoryStore.empty.createDeployment
      { sampleDeployment with mode := .live, productId := "BIP-20DEC30-CDE" } with
    intents := Dict.empty.set 6
      { id := 6, deploymentId := 1, clientOrderId := "exit", purpose := .liquidation, side := .sell
        kind := .marketable, quantity := 2, createdAt := 0, candleStartsAt := 0
        idempotencyKey := some excessReductionPrefix } }

def unprovenCall : FillCall :=
  { deploymentId := 1, fill := { sampleFill 10 "v1" 2 with orderId := 6 }
    order := sampleOrder 6 .sell, now := 7, after := 8 }

theorem unproven_raises {store : MemoryStore}
    (h : (unprovenCall.run store).1.toOption.isNone = true) :
    ∃ failure, (unprovenCall.run store).1 = .error failure := by
  cases hrun : (unprovenCall.run store).1 with
  | error failure => exact ⟨failure, rfl⟩
  | ok result =>
    rw [hrun] at h
    cases h

/-- The repair is refused, and its evidence stays. -/
theorem unproven_leaves_evidence :
    (∃ failure, (unprovenCall.run unprovenStore).1 = .error failure) ∧
      unprovenStore.fills.values = [] ∧
      (unprovenCall.run unprovenStore).2.fills.values = [unprovenCall.fill] :=
  ⟨unproven_raises (by decide +kernel), by decide +kernel, by decide +kernel⟩

/-- Without its deployment, and once its evidence is there, the refused repair changes nothing. -/
theorem refused_keeps_store :
    (unprovenCall.run MemoryStore.empty).2 = MemoryStore.empty ∧
    let recorded := (unprovenCall.run unprovenStore).2
    (∃ failure, (unprovenCall.run recorded).1 = .error failure) ∧
      (unprovenCall.run recorded).2 = recorded := by
  obtain ⟨failure, hraised⟩ : ∃ failure,
      (unprovenCall.run (unprovenCall.run unprovenStore).2).1 = .error failure :=
    unproven_raises (by decide +kernel)
  exact ⟨(failing_fill_keeps_store_iff rfl).mpr (.inl rfl), ⟨failure, hraised⟩,
    (failing_fill_keeps_store_iff hraised).mpr (.inr (by decide +kernel))⟩

end Thytrader.Trading
