import Mathlib.Data.Int.ConditionallyCompleteOrder
import Thytrader.Execution.Idempotency
import Thytrader.Lib.Lease

/-!
# The lease fence

Workers claim, renew and release leases (`acquire_worker_lease`, `release_worker_leases`) while
submissions write intents through their fenced stores (`RevisionFencedStore.save_intent`). A `Board`
is the world of the submissions with each holder's memory: the deadline of the last lease granted to
it and not released. The claims carry the callers' own clocks, so the board also keeps the largest
reading of a granted claim per book; an instant counts as now when it is not before it.

Time passing is no action: `lease_fence` holds at every such instant. Other clients leave the lease
columns of existing rows as they stand (`KeepsLeases`).
-/

namespace Thytrader.Execution

open Trading Lib MemoryStore Option Function World

/-! ## The board -/

/-- The world, and per book the grants and the largest clock reading of a granted claim. -/
structure Board where
  world : World
  views : Uuid → String → Option Time
  latest : Uuid → WithBot Time

/-- The lease of one book: its row's lease columns and the holders' views. -/
def Board.lease (board : Board) (deploymentId : Uuid) : Lease String Time :=
  { holder := (board.world.store.deployments.get? deploymentId).bind (·.workerLeaseHolder)
    expires := (board.world.store.deployments.get? deploymentId).bind (·.workerLeaseExpiresAt)
    views := board.views deploymentId
    latest := board.latest deploymentId }

/-- `release_worker_leases` frees this row. -/
def Releases (holder : String) (now : Time) (row : Deployment) : Prop :=
  row.workerLeaseHolder = some holder ∧ row.workerLeaseExpiresAt.any (now < ·) = true

instance (holder : String) (now : Time) : DecidablePred (Releases holder now) :=
  fun _ => inferInstanceAs (Decidable (_ ∧ _))

/-- A granted claim is remembered with the returned row's expiry. -/
def Board.granted (board : Board) (deploymentId : Uuid) (holder : String) (now : Time)
    (saved : Deployment) : Board :=
  { board with
    views := update board.views deploymentId
      (update (board.views deploymentId) holder saved.workerLeaseExpiresAt)
    latest := update board.latest deploymentId (max (board.latest deploymentId) now) }

def Board.observe (board : Board) : Action → Board
  | .store (.acquireWorkerLease deploymentId holder now ttl) =>
    match (board.world.store.acquireWorkerLease deploymentId holder now ttl).1 with
    | .ok (some saved) => board.granted deploymentId holder now saved
    | _ => board
  | .release holder now =>
    { board with
      views := fun deploymentId =>
        if (board.world.store.deployments.get? deploymentId).any (Releases holder now ·) then
          update (board.views deploymentId) holder none
        else board.views deploymentId }
  | _ => board

def Board.apply (board : Board) (action : Action) : Board :=
  { board.observe action with world := board.world.apply action }

/-- The lease columns of every existing row are left as they stand. -/
def KeepsLeases (before after : MemoryStore) : Prop :=
  ∀ id row, before.deployments.get? id = some row →
    ∃ next, after.deployments.get? id = some next ∧
      next.workerLeaseHolder = row.workerLeaseHolder ∧
      next.workerLeaseExpiresAt = row.workerLeaseExpiresAt

/-- Lease columns change through claims and releases only. -/
def Action.LeaseScope (world : World) : Action → Prop
  | .store (.acquireWorkerLease _ _ _ _) => True
  | .store other => KeepsLeases world.store (other.run world.store)
  | _ => True

/-- One step of an interleaving of claims, releases and intent writes. -/
def leaseStep (board : Board) (action : Action) (next : Board) : Prop :=
  action.LeaseScope board.world ∧ next = board.apply action

/-- Nobody remembers a lease yet. -/
def Board.Initial (board : Board) : Prop :=
  ∀ deploymentId holder, board.views deploymentId holder = none

/-- Every book's lease keeps its invariant. -/
def BoardInv (board : Board) : Prop :=
  ∀ deploymentId, (board.lease deploymentId).Inv

/-! ## One step -/

variable {board : Board}

theorem BoardInv.keeps (hinv : BoardInv board) {world : World}
    (hkeeps : KeepsLeases board.world.store world.store) : BoardInv { board with world } := by
  intro deploymentId holder e hview
  rcases hinv deploymentId holder e hview with ⟨hholder, hexpires⟩ | hold
  · cases hrow : board.world.store.deployments.get? deploymentId with
    | none =>
      simp only [Board.lease, hrow, bind_none] at hholder
      cases hholder
    | some row =>
      obtain ⟨next, hnext, hsame, hsame'⟩ := hkeeps deploymentId row hrow
      simp only [Board.lease, hrow, bind_some] at hholder hexpires
      refine .inl ⟨?_, ?_⟩
      · simp only [Board.lease, hnext, bind_some, hsame, hholder]
      · simp only [Board.lease, hnext, bind_some, hsame', hexpires]
  · exact .inr hold

theorem KeepsLeases.of_rows {before after : MemoryStore}
    (h : after.deployments = before.deployments) : KeepsLeases before after := by
  intro id row hrow
  exact ⟨row, by rw [h]; exact hrow, rfl, rfl⟩

/-- The admission test of a claim is the register's. -/
theorem free_of_leaseAvailable {deploymentId : Uuid} {holder : String} {now : Time}
    {row : Deployment} (hrow : board.world.store.deployments.get? deploymentId = some row)
    (havailable : leaseAvailable row holder now = true) :
    (board.lease deploymentId).Free holder now := by
  simp only [leaseAvailable, Bool.or_eq_true, decide_eq_true_eq] at havailable
  simp only [Lease.Free, Board.lease, hrow, bind_some]
  rcases havailable with ((hnone | hnone) | hexpired) | hsame
  · exact .inl hnone
  · exact .inr (.inl hnone)
  · cases hexpires : row.workerLeaseExpiresAt with
    | none => exact .inr (.inl rfl)
    | some e =>
      rw [hexpires, any_some, decide_eq_true_eq] at hexpired
      exact .inr (.inr (.inl ⟨e, rfl, hexpired⟩))
  · exact .inr (.inr (.inr hsame))

theorem claim_cases (board : Board) (deploymentId : Uuid) (holder : String) (now : Time)
    (ttl : Duration) :
    board.apply (.store (.acquireWorkerLease deploymentId holder now ttl)) = board ∨
    ∃ next, board.apply (.store (.acquireWorkerLease deploymentId holder now ttl)) = next ∧
      (board.lease deploymentId).Free holder now ∧
      next.lease deploymentId = (board.lease deploymentId).grant holder now (now + ttl) ∧
      ∀ other, other ≠ deploymentId → next.lease other = board.lease other := by
  rcases acquireWorkerLease_cases board.world.store deploymentId holder now ttl with
    ⟨_, hrun⟩ | ⟨row, hrow, ⟨_, hrun⟩ | ⟨havailable, hrun⟩⟩
  · left
    simp only [Board.apply, Board.observe, hrun, apply, StoreCall.run]
  · left
    simp only [Board.apply, Board.observe, hrun, apply, StoreCall.run]
  · right
    refine ⟨_, rfl, free_of_leaseAvailable hrow havailable, ?_, ?_⟩
    · simp only [Board.apply, Board.observe, Board.granted, hrun, apply, StoreCall.run,
        Board.lease, Lease.grant, Dict.get?_set_self, update_self, bind_some,
        leasedRow]
    · intro other hother
      simp only [Board.apply, Board.observe, Board.granted, hrun, apply, StoreCall.run,
        Board.lease, Dict.get?_set_ne hother, update_of_ne hother]

theorem release_cases (board : Board) (holder : String) (now : Time) (deploymentId : Uuid) :
    (board.apply (.release holder now)).lease deploymentId = board.lease deploymentId ∨
    ((board.lease deploymentId).holder = some holder ∧
      (board.apply (.release holder now)).lease deploymentId =
        (board.lease deploymentId).release holder now) := by
  have hrow : (releaseWorkerLeases board.world.store holder now).deployments.get? deploymentId =
      (board.world.store.deployments.get? deploymentId).map (releasedRow · holder now) :=
    Dict.get?_mapValues _ _ _
  cases hget : board.world.store.deployments.get? deploymentId with
  | none =>
    left
    rw [hget, map_none] at hrow
    simp only [Board.apply, Board.observe, apply, Board.lease, hrow, hget, any_none,
      Bool.false_eq_true, if_false]
  | some row =>
    rw [hget, map_some] at hrow
    by_cases hfreed : Releases holder now row
    · right
      rw [show releasedRow row holder now = { row with
        workerLeaseHolder := none, workerLeaseExpiresAt := some now } from if_pos hfreed] at hrow
      refine ⟨by simp only [Board.lease, hget, bind_some, hfreed.1], ?_⟩
      simp only [Board.apply, Board.observe, apply, Board.lease, Lease.release, hrow, hget,
        any_some, hfreed, decide_true, if_true, bind_some]
    · left
      rw [show releasedRow row holder now = row from if_neg hfreed] at hrow
      simp only [Board.apply, Board.observe, apply, Board.lease, hrow, hget, any_some,
        hfreed, decide_false, if_false, Bool.false_eq_true, bind_some]

/-- A task's step leaves the store, inserts its intent or replaces an order. -/
theorem advance_store (world : World) (task : Submission) :
    (advance world task).2.1 = world.store ∨
    (advance world task).2.1 = (insertStep world.store task).2 ∨
    ∃ order, (advance world task).2.1 = world.store.replaceOrder order := by
  unfold advance
  split
  · split <;> exact .inl rfl
  · split <;> exact .inl rfl
  · split
    · exact .inl rfl
    · split
      · split <;> exact .inl rfl
      · exact .inl rfl
  · split
    · exact .inl rfl
    · exact .inr (.inl rfl)
  · exact .inr (.inl rfl)
  · exact .inr (.inr ⟨_, rfl⟩)
  · exact .inl rfl
  · exact .inl rfl
  · exact .inl rfl

theorem advance_rows (world : World) (task : Submission) :
    (advance world task).2.1.deployments = world.store.deployments := by
  rcases advance_store world task with hsame | hinsert | ⟨order, hplaced⟩
  · rw [hsame]
  · rw [hinsert, insertStep]
    rcases insertLeasedIntent_cases world.store task.fence task.intent with
      ⟨failure, hrun⟩ | ⟨_, hrun⟩
    · rw [hrun]
    · rw [hrun]
  · rw [hplaced]
    exact (replaceOrder_frame world.store order).2

theorem leaseStep_inv {next : Board} {action : Action} (hinv : BoardInv board)
    (hstep : leaseStep board action next) : BoardInv next := by
  obtain ⟨hscope, rfl⟩ := hstep
  cases action with
  | call | gate => exact hinv.keeps (KeepsLeases.of_rows rfl)
  | advance =>
    refine hinv.keeps (KeepsLeases.of_rows ?_)
    simp only [apply]
    split
    · rfl
    next task _ => exact advance_rows board.world task
  | release holder now =>
    intro deploymentId
    rcases release_cases board holder now deploymentId with hsame | ⟨hheld, hreleased⟩
    · rw [hsame]
      exact hinv deploymentId
    · rw [hreleased]
      exact (hinv deploymentId).release hheld now
  | store storeCall =>
    cases storeCall with
    | acquireWorkerLease deploymentId holder now ttl =>
      rcases claim_cases board deploymentId holder now ttl with
        hsame | ⟨next, hnext, hfree, hgranted, hothers⟩
      · rw [hsame]
        exact hinv
      · rw [hnext]
        intro other
        by_cases hother : other = deploymentId
        · subst hother
          rw [hgranted]
          exact (hinv other).grant hfree (now + ttl)
        · rw [hothers other hother]
          exact hinv other
    | _ => exact hinv.keeps hscope

/-! ## Fenced inserts -/

/-- A fenced insert on its own book finds the lease free or its own. -/
theorem requireLeaseHolder_ok {writer : RevisionFence} {intent : OrderIntent}
    {current : Option String} (hown : intent.deploymentId = writer.deploymentId)
    (h : requireLeaseHolder (writer.intentFence intent) intent.deploymentId current =
      .ok ()) : current = none ∨ current = some writer.holder := by
  have hfence : writer.intentFence intent = some (writer.deploymentId, writer.holder) := by
    unfold RevisionFence.intentFence
    rw [if_neg (not_not.mpr hown)]
  rw [hfence] at h
  by_contra hother
  rw [not_or] at hother
  simp only [requireLeaseHolder, hown, true_and] at h
  rw [if_pos hother] at h
  cases h

/-- A task's step changes the intents only by inserting its own, past the lease check. -/
theorem advance_intents (world : World) (task : Submission) :
    (advance world task).2.1.intents = world.store.intents ∨
    (requireLeaseHolder task.fence task.intent.deploymentId
        ((world.store.deployments.get? task.intent.deploymentId).bind (·.workerLeaseHolder)) =
          .ok () ∧
      (advance world task).2.1.intents = world.store.intents.set task.intent.id task.intent) := by
  rcases advance_store world task with hsame | hinsert | ⟨order, hplaced⟩
  · rw [hsame]
    exact .inl rfl
  · rw [hinsert, insertStep]
    rcases insertLeasedIntent_cases world.store task.fence task.intent with
      ⟨failure, hrun⟩ | ⟨hcheck, hrun⟩
    · rw [hrun]
      exact .inl rfl
    · rw [hrun]
      exact .inr ⟨hcheck, rfl⟩
  · rw [hplaced]
    exact .inl (replaceOrder_frame world.store order).1.intents

/-! ## Every run -/

/-- The row names `holder` with a lease that has not run out at `now`. -/
def HoldsLease (row : Deployment) (holder : String) (now : Time) : Prop :=
  row.workerLeaseHolder = some holder ∧ ∃ e, row.workerLeaseExpiresAt = some e ∧ now < e

/-- In every interleaving of claims, renewals, releases and intent writes, at every instant not
before a granted claim's clock reading: no two holders remember an unexpired lease on one book, and
the one that does is the holder the row names. An intent written through the fenced store of
`writer` is inserted only while its book's lease holder is absent or is that store's. -/
theorem lease_fence {start board : Board} {actions : List Action} (hstart : start.Initial)
    (hrun : Run leaseStep start actions board) :
    (∀ deploymentId holder other e e' (now : Time), holder ≠ other →
      board.views deploymentId holder = some e → board.views deploymentId other = some e' →
      board.latest deploymentId ≤ now → ¬ (now < e ∧ now < e')) ∧
    (∀ deploymentId holder e (now : Time), board.views deploymentId holder = some e →
      board.latest deploymentId ≤ now → now < e →
      ∃ row, board.world.store.deployments.get? deploymentId = some row ∧
        HoldsLease row holder now) ∧
    (∀ row holder other now, HoldsLease row holder now → HoldsLease row other now →
      holder = other) ∧
    (∀ index task (writer : RevisionFence) id, board.world.tasks[index]? = some task →
      task.intent.deploymentId = writer.deploymentId →
      task.fence = writer.intentFence task.intent →
      (board.apply (.advance index)).world.store.intents.get? id ≠
        board.world.store.intents.get? id →
      let current := (board.world.store.deployments.get? task.intent.deploymentId).bind
        (·.workerLeaseHolder)
      id = task.intent.id ∧ (current = none ∨ current = some writer.holder)) := by
  have hinv : BoardInv board := by
    refine Run.invariant BoardInv (fun _ _ _ h hstep => leaseStep_inv h hstep) hrun ?_
    intro deploymentId holder e hview
    rw [show (start.lease deploymentId).views holder = none from hstart deploymentId holder] at hview
    cases hview
  refine ⟨?_, ?_, ?_, ?_⟩
  · intro deploymentId holder other e e' now hne hview hview' hnow
    exact (hinv deploymentId).exclusive hne hview hview' hnow
  · intro deploymentId holder e now hview hnow hrunning
    obtain ⟨hholder, hexpires⟩ := (hinv deploymentId).recorded hview hnow hrunning
    obtain ⟨row, hrow, hnamed⟩ := bind_eq_some_iff.mp hholder
    refine ⟨row, hrow, hnamed, e, ?_, hrunning⟩
    simpa only [Board.lease, hrow, bind_some] using hexpires
  · intro row holder other now hholds hholds'
    have hsame := hholds.1.symm.trans hholds'.1
    exact Option.some.inj hsame
  · intro index task writer id hat hown hfence hchanged
    simp only [Board.apply, apply, hat] at hchanged
    rcases advance_intents board.world task with hsame | ⟨hcheck, hinserted⟩
    · rw [hsame] at hchanged
      exact absurd rfl hchanged
    · refine ⟨?_, ?_⟩
      · by_contra hother
        rw [hinserted, Dict.get?_set_ne hother] at hchanged
        exact hchanged rfl
      · rw [hfence] at hcheck
        exact requireLeaseHolder_ok hown hcheck

/-- Worker `a` claims for 45 units; `b` is refused at 10 and granted at 50. -/
def handover : List Action :=
  [.store (.acquireWorkerLease 1 "a" 0 45), .store (.acquireWorkerLease 1 "b" 10 45),
    .call (sampleIntent 20) (some (1, "a")) 30 false, .advance 0, .advance 0,
    .store (.acquireWorkerLease 1 "b" 50 45)]

/-- The sample book before any claim. -/
def sampleBoard : Board :=
  { world := sampleWorld
    views := fun _ _ => none
    latest := fun _ => ⊥ }

/-- After the hand-over only `b` holds an unexpired lease, and the intent `a` left waiting is not
inserted. -/
theorem lease_fence_handover :
    sampleBoard.Initial ∧
    Run leaseStep sampleBoard handover (handover.foldl Board.apply sampleBoard) ∧
    (∃ row, (handover.foldl Board.apply sampleBoard).world.store.deployments.get? 1 = some row ∧
      HoldsLease row "b" 60) ∧
    ((handover.foldl Board.apply sampleBoard).apply (.advance 0)).world.store.intents.get? 20 =
      none := by
  have hstart : sampleBoard.Initial := fun _ _ => rfl
  have hrun : Run leaseStep sampleBoard handover (handover.foldl Board.apply sampleBoard) :=
    .cons ⟨trivial, rfl⟩ (.cons ⟨trivial, rfl⟩ (.cons ⟨trivial, rfl⟩ (.cons ⟨trivial, rfl⟩
      (.cons ⟨trivial, rfl⟩ (.cons ⟨trivial, rfl⟩ (.nil _))))))
  obtain ⟨_, hrecorded, _, hfenced⟩ := lease_fence hstart hrun
  refine ⟨hstart, hrun, hrecorded 1 "b" 95 60 (by decide +kernel) (by decide +kernel)
    (by decide), ?_⟩
  by_contra hinserted
  have htask : (handover.foldl Board.apply sampleBoard).world.tasks[0]? =
      some ⟨sampleIntent 20, some (1, "a"), 30, false, .awaitingGate none .paper⟩ := by rfl
  have hcurrent := (hfenced 0 _ ⟨1, 0, "a"⟩ 20 htask rfl rfl
    (fun h => hinserted (h.trans (by decide +kernel)))).2
  exact absurd hcurrent (by decide +kernel)

end Thytrader.Execution
