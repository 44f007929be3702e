import Thytrader.FleetControl.Models
import Thytrader.Lib.Locks
import Thytrader.Trading.RowWrites

/-!
# The in-memory fleet and execution stores

`InMemoryFleetControlStore` bound as the entry gate of an `InMemoryExecutionStore`: the state the
two share, its locks, and every step between two awaits of the calls on them.

Mirroring notes: `record_target` saves the command and its receipt with no await between, so
`saveTarget` is one operation, as is `apply_latch` under its lock. Clock readings, fresh ids, the
audit store and the preparation of an adoption answer arbitrarily. `recordedCommands` and
`latchChanges` are what has been written so far; the source keeps no such lists, and no operation
reads them. `_scoped_rows` and `read_entry_inhibition` also refresh the process-local copy of the
latch, which no insert reads.
-/

namespace Thytrader.Trading

/-- `list_deployments`: newest update first. -/
def MemoryStore.listDeployments (store : MemoryStore) : List Deployment :=
  store.deployments.values.mergeSort (fun a b => decide (b.updatedAt ≤ a.updatedAt))

end Thytrader.Trading

namespace Thytrader.FleetControl

open Trading Lib

/-- `asyncio.Lock`s: one per idempotency key, one per base and mode, and the latch's own. -/
inductive FleetLock where
  | operation (key : String)
  | inventory (mode : DeploymentMode) (base : String)
  | latch
  deriving DecidableEq

/-- A lifecycle command a fleet operation wrote, and the revision of the row it replaced. -/
structure RecordedCommand where
  key : String
  deploymentId : Uuid
  revision : Int
  deriving DecidableEq

/-- A change of the latch by a fleet operation, and the revisions it replaced. -/
structure LatchChange where
  key : String
  replaced : List (DeploymentMode × Int)
  deriving DecidableEq

/-- Both stores. -/
structure FleetState where
  store : MemoryStore
  inhibited : DeploymentMode → Bool
  revisions : DeploymentMode → Int
  updatedAt : Option Time
  operations : Dict String FleetOperation
  recordedCommands : List RecordedCommand
  latchChanges : List LatchChange

namespace FleetState

def start : FleetState :=
  { store := MemoryStore.empty
    inhibited := fun _ => false
    revisions := fun _ => 0
    updatedAt := none
    operations := Dict.empty
    recordedCommands := []
    latchChanges := [] }

def snapshot (s : FleetState) : InhibitionSnapshot :=
  { paperInhibited := s.inhibited .paper
    liveInhibited := s.inhibited .live
    paperRevision := s.revisions .paper
    liveRevision := s.revisions .live
    updatedAt := s.updatedAt }

/-- `_set` for one mode: bump the revision only when the bit changes. -/
def setMode (inhibited : Bool) (now : Time) (s : FleetState) (mode : DeploymentMode) : FleetState :=
  if s.inhibited mode = inhibited then s
  else
    { s with
      inhibited := Function.update s.inhibited mode inhibited
      revisions := Function.update s.revisions mode (s.revisions mode + 1)
      updatedAt := some now }

/-- `_set`. -/
def setModes (s : FleetState) (modes : List DeploymentMode) (inhibited : Bool) (now : Time) :
    FleetState :=
  modes.foldl (setMode inhibited now) s

def requireInhibitionRevisions (s : FleetState) (expected : ExpectedInhibition)
    (modes : List DeploymentMode) : Result Unit :=
  match modes.find? (fun mode => expected.confirmed mode ≠ some (s.revisions mode)) with
  | none => .ok ()
  | some mode =>
    .error (.conflict ("inhibition_revision_conflict: " ++ modeValue mode ++ " revision is " ++
      toString (s.revisions mode) ++ ", not confirmed " ++ revisionText (expected.confirmed mode) ++
      ". Read a new fleet preview."))

/-- One mode of `apply_latch`: the bit is set and the revision bumped even when it was set. -/
def latchMode (inhibited : Bool) (s : FleetState) (mode : DeploymentMode) : FleetState :=
  { s with
    inhibited := Function.update s.inhibited mode inhibited
    revisions := Function.update s.revisions mode (s.revisions mode + 1) }

/-- `self._operations[key] = operation`. -/
def putOperation (s : FleetState) (operation : FleetOperation) : FleetState :=
  { s with operations := s.operations.set operation.idempotencyKey operation }

/-- `apply_latch`, past its lock. -/
def applyLatch (s : FleetState) (operation : FleetOperation) (request : FleetExecuteRequest)
    (now : Time) : Result FleetOperation × FleetState :=
  if operation.latchApplied then (.ok operation, s)
  else
    let modes := request.mode.modes
    match s.requireInhibitionRevisions request.expectedInhibition modes with
    | .error failure => (.error failure, s)
    | .ok () =>
      let latched := modes.foldl (latchMode (request.action = .disarm)) s
      let stamped := { latched with updatedAt := some now }
      let saved :=
        { operation with inhibition := stamped.snapshot, latchApplied := true, updatedAt := now }
      let change : LatchChange :=
        { key := operation.idempotencyKey
          replaced := modes.map (fun mode => (mode, s.revisions mode)) }
      (.ok saved, { stamped.putOperation saved with latchChanges := s.latchChanges ++ [change] })

/-- The end of `record_target`: the command on its row, then the receipt. -/
def saveTarget (s : FleetState) (updated : Option Deployment) (expectedRevision : Int)
    (saved : FleetOperation) : Result Unit × FleetState :=
  match updated with
  | none => (.ok (), s.putOperation saved)
  | some row =>
    match s.store.saveDeployment row (some expectedRevision) with
    | (.error failure, store) => (.error failure, { s with store })
    | (.ok _, store) =>
      let command : RecordedCommand :=
        { key := saved.idempotencyKey
          deploymentId := row.id
          revision := ((s.store.deployments.get? row.id).map (·.revision)).getD 0 }
      (.ok (),
        { s.putOperation saved with
          store
          recordedCommands := s.recordedCommands ++ [command] })

/-! ### What the writes do -/

variable (s : FleetState) (modes : List DeploymentMode)

theorem setModes_frame (inhibited : Bool) (now : Time) :
    (s.setModes modes inhibited now).store = s.store ∧
      (s.setModes modes inhibited now).operations = s.operations ∧
      (s.setModes modes inhibited now).recordedCommands = s.recordedCommands ∧
      (s.setModes modes inhibited now).latchChanges = s.latchChanges := by
  unfold setModes
  induction modes generalizing s with
  | nil => exact ⟨rfl, rfl, rfl, rfl⟩
  | cons mode _ ih =>
    obtain ⟨hstore, hoperations, hcommands, hchanges⟩ := ih (s.setMode inhibited now mode)
    rw [List.foldl_cons, hstore, hoperations, hcommands, hchanges]
    unfold setMode
    split
    · exact ⟨rfl, rfl, rfl, rfl⟩
    · exact ⟨rfl, rfl, rfl, rfl⟩

theorem latchModes_frame (inhibited : Bool) :
    (modes.foldl (latchMode inhibited) s).store = s.store ∧
      (modes.foldl (latchMode inhibited) s).operations = s.operations ∧
      (modes.foldl (latchMode inhibited) s).recordedCommands = s.recordedCommands := by
  induction modes generalizing s with
  | nil => exact ⟨rfl, rfl, rfl⟩
  | cons mode _ ih =>
    obtain ⟨hstore, hoperations, hcommands⟩ := ih (s.latchMode inhibited mode)
    rw [List.foldl_cons, hstore, hoperations, hcommands]
    exact ⟨rfl, rfl, rfl⟩

theorem requireInhibitionRevisions_ok {s : FleetState} {expected : ExpectedInhibition}
    {modes : List DeploymentMode} (h : s.requireInhibitionRevisions expected modes = .ok ()) :
    ∀ mode ∈ modes, expected.confirmed mode = some (s.revisions mode) := by
  unfold requireInhibitionRevisions at h
  split at h
  next hnone =>
    intro mode hmode
    simpa using List.find?_eq_none.mp hnone mode hmode
  · cases h

/-- `apply_latch` raises, finds its change recorded, or records it with the operation. -/
theorem applyLatch_cases (operation : FleetOperation) (request : FleetExecuteRequest) (now : Time) :
    (∃ failure, s.applyLatch operation request now = (.error failure, s)) ∨
    (operation.latchApplied = true ∧ s.applyLatch operation request now = (.ok operation, s)) ∨
    (operation.latchApplied = false ∧
      (∀ mode ∈ request.mode.modes,
        request.expectedInhibition.confirmed mode = some (s.revisions mode)) ∧
      ∃ inhibition after,
        s.applyLatch operation request now =
          (.ok { operation with inhibition, latchApplied := true, updatedAt := now }, after) ∧
        after.store = s.store ∧
        after.operations = s.operations.set operation.idempotencyKey
          { operation with inhibition, latchApplied := true, updatedAt := now } ∧
        after.recordedCommands = s.recordedCommands ∧
        after.latchChanges = s.latchChanges ++ [{
          key := operation.idempotencyKey
          replaced := request.mode.modes.map (fun mode => (mode, s.revisions mode)) }] ∧
        after.inhibited =
          (request.mode.modes.foldl (latchMode (request.action = .disarm)) s).inhibited) := by
  unfold applyLatch
  split
  next hlatched => exact .inr (.inl ⟨hlatched, rfl⟩)
  next hlatched =>
    dsimp only
    split
    next failure _ => exact .inl ⟨failure, rfl⟩
    next hok =>
      obtain ⟨hstore, hoperations, hcommands⟩ :=
        latchModes_frame s request.mode.modes (request.action = .disarm)
      refine .inr (.inr ⟨by simpa using hlatched, requireInhibitionRevisions_ok hok, _, _, rfl,
        hstore, ?_, hcommands, rfl, rfl⟩)
      simp only [putOperation, hoperations]

/-- The end of `record_target` raises without a trace, saves the receipt alone, or saves the
command with it on a row at the confirmed revision. -/
theorem saveTarget_cases (updated : Option Deployment) (expectedRevision : Int)
    (saved : FleetOperation) :
    (∃ failure, s.saveTarget updated expectedRevision saved = (.error failure, s)) ∨
    (updated = none ∧
      s.saveTarget updated expectedRevision saved = (.ok (), s.putOperation saved)) ∨
    ∃ row current store, updated = some row ∧
      s.store.deployments.get? row.id = some current ∧ current.revision = expectedRevision ∧
      store.deployments = s.store.deployments.set row.id (row.withRevision (current.revision + 1)) ∧
      store.intents = s.store.intents ∧
      s.saveTarget updated expectedRevision saved = (.ok (),
        { s.putOperation saved with
          store
          recordedCommands := s.recordedCommands ++ [{
            key := saved.idempotencyKey
            deploymentId := row.id
            revision := current.revision }] }) := by
  unfold saveTarget
  cases updated with
  | none => exact .inr (.inl ⟨rfl, rfl⟩)
  | some row =>
    dsimp only
    rcases MemoryStore.saveDeployment_cases s.store row (some expectedRevision) none with
      ⟨failure, hrun⟩ | ⟨current, next, hcurrent, hexpected, hrun, hrows, hsame⟩
    · rw [hrun]
      exact .inl ⟨failure, rfl⟩
    · rw [hrun, hcurrent]
      refine .inr (.inr ⟨row, current, next, rfl, hcurrent, ?_, hrows, hsame.intents, rfl⟩)
      rcases hexpected with hnone | hsome
      · cases hnone
      · exact (Option.some.inj hsome).symm

end FleetState

/-- The noun of a refused action: `"starts" if action == "start" else "entries"`. -/
inductive LatchAction where
  | start
  | entry
  deriving DecidableEq

def entryInhibitedDetail (mode : DeploymentMode) (action : LatchAction) : String :=
  let noun := match action with
    | .start => "starts"
    | .entry => "entries"
  "ENTRY_INHIBITED: New " ++ modeValue mode ++ " " ++ noun ++ " are refused until an explicit " ++
    "fleet rearm. Disarm does not flatten, cancel, or pause residual positions."

def FleetState.raiseIfInhibited (s : FleetState) (mode : DeploymentMode) (action : LatchAction) :
    Result Unit :=
  if s.inhibited mode then .error (.conflict (entryInhibitedDetail mode action)) else .ok ()

/-- What `prepare_adoption` leaves to write: the intent, then the other records. -/
structure PreparedAdoption where
  intent : OrderIntent
  writes : List StoreCall

/-- One step of a call between two of its awaits. -/
inductive FleetOp where
  | now
  | uuid7 (now : Time)
  | appendAudit (operation : FleetOperation)
  | prepareAdoption (base : String)
  | snapshot
  | setModes (modes : List DeploymentMode) (inhibited : Bool) (now : Time)
  | raiseIfInhibited (mode : DeploymentMode) (action : LatchAction)
  | getOperation (key : String)
  | insertOperation (operation : FleetOperation)
  | saveOperation (operation : FleetOperation)
  | applyLatch (operation : FleetOperation) (request : FleetExecuteRequest) (now : Time)
  | saveTarget (updated : Option Deployment) (expectedRevision : Int) (saved : FleetOperation)
  | deploymentRow (deploymentId : Uuid)
  | getDeployment (deploymentId : Uuid)
  | listDeployments
  | insertDeployment (deployment : Deployment)
  | intentByKey (key : String)
  | insertLeasedIntent (fence : Option (Uuid × String)) (intent : OrderIntent)
  | store (call : StoreCall)

/-- What each operation answers. -/
abbrev FleetOp.Answer : FleetOp → Type
  | .now => Time
  | .uuid7 _ => Uuid
  | .appendAudit _ => Bool
  | .prepareAdoption _ => Result PreparedAdoption
  | .snapshot => InhibitionSnapshot
  | .setModes _ _ _ => InhibitionSnapshot
  | .raiseIfInhibited _ _ => Result Unit
  | .getOperation _ => Option FleetOperation
  | .insertOperation _ => Bool
  | .saveOperation _ => Unit
  | .applyLatch _ _ _ => Result FleetOperation
  | .saveTarget _ _ _ => Result Unit
  | .deploymentRow _ => Option Deployment
  | .getDeployment _ => Result DeploymentSnapshot
  | .listDeployments => List Deployment
  | .insertDeployment _ => Unit
  | .intentByKey _ => Option OrderIntent
  | .insertLeasedIntent _ _ => Result Unit
  | .store _ => Unit

/-- A write that inserts neither a deployment nor an intent, and leaves every row's mode: `modeOf`
is the mode each id was created with. -/
def RecordWrite (modeOf : Uuid → DeploymentMode) : StoreCall → Prop
  | .createDeployment _ => False
  | .insertLeasedIntent _ _ => False
  | .saveDeployment deployment _ _ => deployment.mode = modeOf deployment.id
  | _ => True

def FleetOp.exec (modeOf : Uuid → DeploymentMode) (op : FleetOp) (s : FleetState)
    (answer : op.Answer) (s' : FleetState) : Prop :=
  match op, answer with
  | .now, _ => s' = s
  | .uuid7 _, _ => s' = s
  | .appendAudit _, _ => s' = s
  | .prepareAdoption _, answer =>
    s' = s ∧ ∀ prepared, answer = .ok prepared →
      prepared.intent.purpose = .adoption ∧ ∀ call ∈ prepared.writes, RecordWrite modeOf call
  | .snapshot, answer => s' = s ∧ answer = s.snapshot
  | .setModes modes inhibited instant, answer =>
    s' = s.setModes modes inhibited instant ∧ answer = s'.snapshot
  | .raiseIfInhibited mode action, answer => s' = s ∧ answer = s.raiseIfInhibited mode action
  | .getOperation key, answer => s' = s ∧ answer = s.operations.get? key
  | .insertOperation operation, answer =>
    answer = !s.operations.contains operation.idempotencyKey ∧
      s' = if answer then s.putOperation operation else s
  | .saveOperation operation, _ => s' = s.putOperation operation
  | .applyLatch operation request instant, answer =>
    (answer, s') = s.applyLatch operation request instant
  | .saveTarget updated expectedRevision saved, answer =>
    (answer, s') = s.saveTarget updated expectedRevision saved
  | .deploymentRow deploymentId, answer =>
    s' = s ∧ answer = s.store.deployments.get? deploymentId
  | .getDeployment deploymentId, answer => s' = s ∧ answer = s.store.getDeployment deploymentId
  | .listDeployments, answer => s' = s ∧ answer = s.store.listDeployments
  | .insertDeployment deployment, _ =>
    s' = { s with store := s.store.createDeployment deployment }
  | .intentByKey key, answer => s' = s ∧ answer = s.store.getIntentByIdempotencyKey key
  | .insertLeasedIntent fence intent, answer =>
    ∃ store, (answer, store) = s.store.insertLeasedIntent fence intent ∧ s' = { s with store }
  | .store call, _ => s' = { s with store := call.run s.store }

namespace FleetOp

/-- What one operation writes. -/
inductive Writes (s : FleetState) : FleetOp → FleetState → Prop where
  | nothing {op : FleetOp} : Writes s op s
  | modes (modes : List DeploymentMode) (inhibited : Bool) (now : Time) :
    Writes s (.setModes modes inhibited now) (s.setModes modes inhibited now)
  | inserted (operation : FleetOperation) :
    Writes s (.insertOperation operation) (s.putOperation operation)
  | saved (operation : FleetOperation) :
    Writes s (.saveOperation operation) (s.putOperation operation)
  | latched {operation : FleetOperation} {request : FleetExecuteRequest} {now : Time}
    {inhibition : InhibitionSnapshot} {after : FleetState}
    (hfresh : operation.latchApplied = false)
    (hconfirmed : ∀ mode ∈ request.mode.modes,
      request.expectedInhibition.confirmed mode = some (s.revisions mode))
    (hstore : after.store = s.store)
    (hset : after.operations = s.operations.set operation.idempotencyKey
      { operation with inhibition, latchApplied := true, updatedAt := now })
    (hcommands : after.recordedCommands = s.recordedCommands)
    (hchanges : after.latchChanges = s.latchChanges ++
      [⟨operation.idempotencyKey, request.mode.modes.map (fun mode => (mode, s.revisions mode))⟩])
    (hinhibited : after.inhibited =
      (request.mode.modes.foldl (FleetState.latchMode (request.action = .disarm)) s).inhibited) :
    Writes s (.applyLatch operation request now) after
  | receipted (expectedRevision : Int) (saved : FleetOperation) :
    Writes s (.saveTarget none expectedRevision saved) (s.putOperation saved)
  | commanded {row current : Deployment} {store : MemoryStore} (saved : FleetOperation)
    (hcurrent : s.store.deployments.get? row.id = some current)
    (hset : store.deployments =
      s.store.deployments.set row.id (row.withRevision (current.revision + 1)))
    (hintents : store.intents = s.store.intents) :
    Writes s (.saveTarget (some row) current.revision saved)
      { s.putOperation saved with
        store
        recordedCommands := s.recordedCommands ++
          [⟨saved.idempotencyKey, row.id, current.revision⟩] }
  | deployed (deployment : Deployment) :
    Writes s (.insertDeployment deployment) { s with store := s.store.createDeployment deployment }
  | intended (fence : Option (Uuid × String)) (intent : OrderIntent) :
    Writes s (.insertLeasedIntent fence intent)
      { s with store := { s.store with intents := s.store.intents.set intent.id intent } }
  | ran (call : StoreCall) : Writes s (.store call) { s with store := call.run s.store }

theorem exec_writes {modeOf : Uuid → DeploymentMode} {op : FleetOp} {s s' : FleetState}
    {answer : op.Answer} (hexec : op.exec modeOf s answer s') : Writes s op s' := by
  cases op with
  | now | uuid7 | appendAudit => exact hexec ▸ .nothing
  | setModes modes inhibited now => exact hexec.1 ▸ .modes modes inhibited now
  | insertOperation operation =>
    rw [hexec.2]
    split
    · exact .inserted operation
    · exact .nothing
  | saveOperation operation => exact hexec ▸ .saved operation
  | applyLatch operation request now =>
    rcases s.applyLatch_cases operation request now with ⟨failure, hrun⟩ | ⟨_, hrun⟩ |
      ⟨hfresh, hconfirmed, _, _, hrun, hstore, hset, hcommands, hchanges, hinhibited⟩
    · cases hexec.trans hrun
      exact .nothing
    · cases hexec.trans hrun
      exact .nothing
    · cases hexec.trans hrun
      exact .latched hfresh hconfirmed hstore hset hcommands hchanges hinhibited
  | saveTarget updated expectedRevision saved =>
    rcases s.saveTarget_cases updated expectedRevision saved with ⟨failure, hrun⟩ | ⟨rfl, hrun⟩ |
      ⟨row, current, store, rfl, hcurrent, rfl, hset, hintents, hrun⟩
    · cases hexec.trans hrun
      exact .nothing
    · cases hexec.trans hrun
      exact .receipted expectedRevision saved
    · cases hexec.trans hrun
      exact .commanded saved hcurrent hset hintents
  | insertDeployment deployment => exact hexec ▸ .deployed deployment
  | insertLeasedIntent fence intent =>
    obtain ⟨store, hinsert, rfl⟩ := hexec
    rcases MemoryStore.insertLeasedIntent_cases s.store fence intent with
      ⟨failure, hrun⟩ | ⟨-, hrun⟩
    · cases hinsert.trans hrun
      exact .nothing
    · cases hinsert.trans hrun
      exact .intended fence intent
  | store call => exact hexec ▸ .ran call
  | _ => exact hexec.1 ▸ .nothing

end FleetOp

end Thytrader.FleetControl
