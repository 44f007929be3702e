import Thytrader.FleetControl.Calls

/-!
# Played crowds

A scheduler for the fleet's calls. The stores answer as they do, the clock reads zero, and no
adoption is prepared. Whatever order of turns it plays is a run (`fleet_played`), so a theorem about
every reachable crowd can be read at a crowd that was reached.
-/

namespace Thytrader.FleetControl

open Trading Lib

/-- The answer of an operation and the stores after it. -/
def FleetOp.run (op : FleetOp) (s : FleetState) : op.Answer × FleetState :=
  match op with
  | .now => (0, s)
  | .uuid7 _ => (0, s)
  | .appendAudit _ => (true, s)
  | .prepareAdoption _ => (.error .keyError, s)
  | .snapshot => (s.snapshot, s)
  | .setModes modes inhibited instant =>
    let next := s.setModes modes inhibited instant
    (next.snapshot, next)
  | .raiseIfInhibited mode action => (s.raiseIfInhibited mode action, s)
  | .getOperation key => (s.operations.get? key, s)
  | .insertOperation operation =>
    let fresh := !s.operations.contains operation.idempotencyKey
    (fresh, if fresh then s.putOperation operation else s)
  | .saveOperation operation => ((), s.putOperation operation)
  | .applyLatch operation request instant => s.applyLatch operation request instant
  | .saveTarget updated expectedRevision saved => s.saveTarget updated expectedRevision saved
  | .deploymentRow deploymentId => (s.store.deployments.get? deploymentId, s)
  | .getDeployment deploymentId => (s.store.getDeployment deploymentId, s)
  | .listDeployments => (s.store.listDeployments, s)
  | .insertDeployment deployment =>
    ((), { s with store := s.store.createDeployment deployment })
  | .intentByKey key => (s.store.getIntentByIdempotencyKey key, s)
  | .insertLeasedIntent fence intent =>
    let inserted := s.store.insertLeasedIntent fence intent
    (inserted.1, { s with store := inserted.2 })
  | .store call => ((), { s with store := call.run s.store })

theorem FleetOp.run_exec (modeOf : Uuid → DeploymentMode) (op : FleetOp) (s : FleetState) :
    op.exec modeOf s (op.run s).1 (op.run s).2 := by
  cases op with
  | prepareAdoption => exact ⟨rfl, fun _ h => by cases h⟩
  | insertLeasedIntent => exact ⟨_, rfl, rfl⟩
  | now | uuid7 | appendAudit | saveOperation | applyLatch | saveTarget | insertDeployment
  | store => rfl
  | _ => exact ⟨rfl, rfl⟩

abbrev FleetCrowd : Type := Crowd FleetState FleetCall FleetLock Failure FleetOp FleetOp.Answer

/-- The moves played in order, with the digest of a text the text itself. -/
def FleetCrowd.played (crowd : FleetCrowd) (moves : List (CrowdMove FleetCall)) :
    Option (List (CrowdEvent FleetCall FleetLock FleetOp StoreCall) × FleetCrowd) :=
  crowd.playAll (FleetCall.program id) FleetOp.run moves

/-- New stores with no call yet. -/
def FleetCrowd.fresh : FleetCrowd := ⟨.start, fun _ => none, []⟩

theorem fleet_played {crowd : FleetCrowd} {moves : List (CrowdMove FleetCall)}
    {check : List (CrowdEvent FleetCall FleetLock FleetOp StoreCall) × FleetCrowd → Bool}
    (hcalls : ∀ call, .call call ∈ moves → ∀ deployment, call.inserts = some deployment →
      deployment.mode = .live)
    (h : (crowd.played moves).any check = true) :
    ∃ events crowd', Run (fleetStep id (fun _ => .live)) crowd events crowd' ∧
      check (events, crowd') = true := by
  obtain ⟨⟨events, crowd'⟩, hplayed, hcheck⟩ := (Option.any_eq_true _ _).mp h
  exact ⟨events, crowd', Crowd.playAll_run (fun _ call hcall => hcalls call hcall)
    (FleetOp.run_exec _) hplayed, hcheck⟩

/-- The lock a task stands at. -/
def FleetCrowd.awaited (crowd : FleetCrowd) (index : Nat) : Option FleetLock :=
  match crowd.tasks[index]? with
  | some ⟨_, .perform (.acquire lock) _⟩ => some lock
  | _ => none

theorem FleetCrowd.waits {crowd : FleetCrowd} {i j : Nat} {lock : FleetLock}
    (h : crowd.awaited i = some lock) (howner : crowd.owner lock = some j) : crowd.Waits i j := by
  unfold awaited at h
  split at h
  next hat =>
    cases h
    exact ⟨_, _, _, hat, howner⟩
  · cases h

/-- The task ended by raising. -/
def FleetCrowd.refused (crowd : FleetCrowd) (index : Nat) : Bool :=
  match crowd.tasks[index]? with
  | some ⟨_, .raise _⟩ => true
  | _ => false

/-- The task ended, or was abandoned. -/
def FleetCrowd.ended (crowd : FleetCrowd) (index : Nat) : Bool :=
  match crowd.tasks[index]? with
  | some ⟨_, .done _⟩ => true
  | _ => false

theorem FleetCrowd.not_unfinished {crowd : FleetCrowd} {index : Nat}
    (h : crowd.ended index = true) : ¬ crowd.Unfinished index := by
  rintro ⟨call, op, next, hat⟩
  simp [ended, hat] at h

/-- A live book that trades BTC-USDC. -/
def liveBook (id : Uuid) : Deployment :=
  { id
    strategyFingerprint := none
    strategyId := none
    productId := "BTC-USDC"
    mode := .live
    status := .running
    cash := 0
    phase := .flat
    createdAt := 0
    updatedAt := 0 }

/-- A start of the book, from its call to its end. -/
def started (id : Uuid) : List (CrowdMove FleetCall) :=
  .call (.createDeployment (liveBook id)) :: List.replicate 4 (.turn 0)

end Thytrader.FleetControl
