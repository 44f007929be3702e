import Thytrader.Trading.RowWrites

/-!
# Supervision of a book

The fields of a row that say whether the book trades and why not, and what the store's own
rewrites make of them. A fill keeps all of them, or faults the book with one of the ledger's
texts (`FillCall.run_supervised`); leases and funding keep them.
-/

namespace Thytrader.Trading

/-- A rewrite that keeps what holds the book, and what it shows unless a fill faults it. -/
structure Supervised (before after : Deployment) : Prop where
  holds : after.holds = before.holds
  shown : after.shown = before.shown ∨ FillFault before after

/-! ## Store calls -/

variable {store : MemoryStore}

theorem FillCall.run_supervised (hkeyed : DeploymentsKeyed store) (call : FillCall) :
    (call.run store).2.deployments = store.deployments ∨
      ∃ current row, store.deployments.get? call.deploymentId = some current ∧
        (call.run store).2.deployments = store.deployments.set call.deploymentId row ∧
        row.id = call.deploymentId ∧ row.revision = current.revision + 1 ∧
        Supervised current row := by
  obtain hsame | ⟨snapshot, projected, source, stamped, hsnapshot, hprojected, -, hown, hrows⟩ :=
    call.run_row hkeyed
  · exact .inl hsame
  · obtain ⟨-, -, hholds, hshown⟩ := projectFillEconomics_kept hprojected
    refine .inr ⟨snapshot.deployment, _, (MemoryStore.getDeployment_ok hsnapshot).1, hrows, hown,
      rfl, ?_⟩
    unfold fillProjectionDeployment
    split
    · exact ⟨hholds, hshown⟩
    · exact ⟨rfl, hshown⟩

end Thytrader.Trading
