import Thytrader.Trading.Memory

/-!
# Fleet operations

`fleet_control/models.py`, `commands.py`, and the pure functions of `store.py` and `service.py`:
what an operator asks of the whole fleet, the durable record of one such operation, and the
command planned for one confirmed book.

Mirroring notes: the SHA-256 digest of `fingerprint_request` is an argument. The preview texts of
`effects.py` and the audit text are read by nothing modelled here.
-/

namespace Thytrader.FleetControl

open Trading Lib

inductive FleetAction where
  | disarm
  | managedStop
  | flatten
  | rearm
  deriving DecidableEq, Repr

def FleetAction.value : FleetAction → String
  | .disarm => "disarm"
  | .managedStop => "managed_stop"
  | .flatten => "flatten"
  | .rearm => "rearm"

/-- `action in {DISARM, REARM}`. -/
def FleetAction.latches (action : FleetAction) : Bool := action = .disarm ∨ action = .rearm

inductive FleetModeScope where
  | paper
  | live
  | all
  deriving DecidableEq, Repr

def FleetModeScope.value : FleetModeScope → String
  | .paper => "paper"
  | .live => "live"
  | .all => "all"

/-- `modes_for`. -/
def FleetModeScope.modes : FleetModeScope → List DeploymentMode
  | .paper => [.paper]
  | .live => [.live]
  | .all => [.paper, .live]

inductive FleetOperationStatus where
  | pending
  | accepted
  | partialResult
  | completed
  | rejected
  deriving DecidableEq, Repr

inductive FleetTargetStatus where
  | commandRecorded
  | alreadyApplied
  | revisionConflict
  | failed
  | notConfirmed
  | unchanged
  deriving DecidableEq, Repr

inductive VenueEffect where
  | none
  | asyncManagedShutdown
  | asyncFlatten
  deriving DecidableEq, Repr

structure InhibitionSnapshot where
  paperInhibited : Bool
  liveInhibited : Bool
  paperRevision : Int
  liveRevision : Int
  updatedAt : Option Time
  deriving DecidableEq

/-- `ExpectedTarget`: the revision the operator confirmed. -/
structure ExpectedTarget where
  deploymentId : Uuid
  revision : Int
  deriving DecidableEq

/-- `TargetResult`: one book's receipt. -/
structure TargetResult where
  deploymentId : Uuid
  expectedRevision : Option Int
  status : FleetTargetStatus
  detail : String
  venueEffect : VenueEffect
  deriving DecidableEq

structure FleetOperation where
  id : Uuid
  idempotencyKey : String
  action : FleetAction
  mode : FleetModeScope
  status : FleetOperationStatus
  requestFingerprint : String
  createdAt : Time
  updatedAt : Time
  targets : List TargetResult
  inhibition : InhibitionSnapshot
  liveAcknowledged : Bool
  auditRecorded : Bool
  note : String
  latchApplied : Bool := false
  deriving DecidableEq

structure ExpectedInhibition where
  paperRevision : Option Int := none
  liveRevision : Option Int := none
  deriving DecidableEq

def ExpectedInhibition.confirmed (expected : ExpectedInhibition) : DeploymentMode → Option Int
  | .paper => expected.paperRevision
  | .live => expected.liveRevision

structure FleetExecuteRequest where
  action : FleetAction
  mode : FleetModeScope
  idempotencyKey : String
  expectedTargets : List ExpectedTarget
  liveAcknowledged : Bool
  allowEmptyScope : Bool
  expectedInhibition : ExpectedInhibition := {}

/-! ## Confirmation -/

def requiresLiveAcknowledgement (action : FleetAction) (mode : FleetModeScope) : Bool :=
  (action = .rearm ∨ action = .flatten) ∧ (mode = .live ∨ mode = .all)

def liveAckRequired : String :=
  "live_acknowledgement_required: This fleet action can re-enable or exit live trading. Send " ++
    "i_understand_live=true only after the operator explicitly acknowledged it."

def emptyScope : String :=
  "Fleet action has no confirmed deployment ids. Pass the preview's --expect values, or " ++
    "--allow-empty-scope after a preview showed no books."

def requireRequest (request : FleetExecuteRequest) : Result Unit :=
  if requiresLiveAcknowledgement request.action request.mode ∧ !request.liveAcknowledged then
    .error (.conflict liveAckRequired)
  else if ¬ (request.expectedTargets.map (·.deploymentId)).Nodup then
    .error (.conflict "Duplicate confirmed deployment ids are not allowed.")
  else if request.action.latches ∧
      request.mode.modes.any (fun mode => request.expectedInhibition.confirmed mode = none) then
    .error (.conflict "expected_inhibition_required: Confirm preview latch revisions.")
  else if (request.action = .managedStop ∨ request.action = .flatten) ∧
      request.expectedTargets = [] ∧ !request.allowEmptyScope then
    .error (.conflict emptyScope)
  else .ok ()

/-- `f"{revision}"` of an optional revision. -/
def revisionText : Option Int → String
  | none => "None"
  | some revision => toString revision

/-- `f"{int(flag)}"`. -/
def flagText (flag : Bool) : String := if flag then "1" else "0"

/-- `sorted_expected`: by the text of the deployment id. -/
def sortedExpected (pairs : List (String × Int)) : List (String × Int) :=
  pairs.mergeSort (fun a b => decide (a.1 ≤ b.1))

/-- The canonical text of one request that `fingerprint_request` hashes. -/
def canonicalRequest (request : FleetExecuteRequest) : String :=
  let pairs := request.expectedTargets.map
    (fun item => (String.ofList (uuidText item.deploymentId), item.revision))
  let targets := ",".intercalate
    ((sortedExpected pairs).map (fun pair => pair.1 ++ ":" ++ toString pair.2))
  "action=" ++ request.action.value ++ ";mode=" ++ request.mode.value ++ ";live=" ++
    flagText request.liveAcknowledged ++ ";empty=" ++ flagText request.allowEmptyScope ++
    ";targets=" ++ targets ++ ";paper_revision=" ++
    revisionText request.expectedInhibition.paperRevision ++ ";live_revision=" ++
    revisionText request.expectedInhibition.liveRevision

def fingerprint (sha256 : String → String) (request : FleetExecuteRequest) : String :=
  sha256 (canonicalRequest request)

def requireSameFingerprint (existing : FleetOperation) (fingerprint : String) : Result Unit :=
  if existing.requestFingerprint ≠ fingerprint then
    .error (.conflict ("idempotency_key already used for a different fleet request. " ++
      "Repeat the same action, mode, acknowledgement, and expected revisions."))
  else .ok ()

/-! ## Planned commands -/

/-- `DeploymentMode.value`. -/
def modeValue : DeploymentMode → String
  | .paper => "paper"
  | .live => "live"

/-- `mode is FleetModeScope.ALL or row.mode.value == mode.value`. -/
def FleetModeScope.covers (scope : FleetModeScope) (mode : DeploymentMode) : Bool :=
  mode ∈ scope.modes

/-- `command_for_status(STOPPED, flatten=...)`. -/
def stopCommand (flatten : Bool) : LifecycleCommand :=
  if flatten then .flatten else .managedShutdown

/-- `confirmed_command`: plan a command only from a row at the confirmed revision. -/
def confirmedCommand (row : Option Deployment) (expected : ExpectedTarget) (action : FleetAction)
    (mode : FleetModeScope) (now : Time) : Option Deployment × TargetResult :=
  let outOfScope : Option Deployment × TargetResult :=
    (none, { deploymentId := expected.deploymentId
             expectedRevision := some expected.revision
             status := .failed
             detail := "Deployment is not in the confirmed mode scope."
             venueEffect := .none })
  match row with
  | none => outOfScope
  | some row =>
    if ¬ mode.covers row.mode then outOfScope
    else if row.revision ≠ expected.revision then
      (none, { deploymentId := row.id
               expectedRevision := some expected.revision
               status := .revisionConflict
               detail := "Revision is " ++ toString row.revision ++ ", not confirmed " ++
                 toString expected.revision ++ "."
               venueEffect := .none })
    else
      let flatten : Bool := action = .flatten
      let command := stopCommand flatten
      if row.status = .stopped ∧ row.lifecycleCommand = command then
        (none, { deploymentId := row.id
                 expectedRevision := some expected.revision
                 status := .unchanged
                 detail := "Confirmed revision already has this command; not a causal replay."
                 venueEffect := .none })
      else
        (some (withRuntime row now
            { status := some .stopped, lifecycleCommand := some command, clearMismatch := true }),
          { deploymentId := row.id
            expectedRevision := some expected.revision
            status := .commandRecorded
            detail := "Lifecycle command and causal receipt recorded. " ++
              "Worker completion is asynchronous."
            venueEffect := if flatten then .asyncFlatten else .asyncManagedShutdown })

theorem confirmedCommand_target {row : Deployment} {expected : ExpectedTarget}
    {action : FleetAction} {mode : FleetModeScope} {now : Time}
    (hid : row.id = expected.deploymentId) :
    (confirmedCommand (some row) expected action mode now).2.deploymentId = expected.deploymentId ∧
      (∀ updated, (confirmedCommand (some row) expected action mode now).1 = some updated →
        updated.id = expected.deploymentId ∧ row.revision = expected.revision ∧
        updated.mode = row.mode ∧
        (confirmedCommand (some row) expected action mode now).2.status = .commandRecorded) := by
  unfold confirmedCommand
  dsimp only
  split
  · exact ⟨rfl, fun _ h => absurd h (by simp)⟩
  · split
    · exact ⟨hid, fun _ h => absurd h (by simp)⟩
    next hrevision =>
      split
      · exact ⟨hid, fun _ h => absurd h (by simp)⟩
      · refine ⟨hid, fun updated h => ?_⟩
        cases h
        exact ⟨hid, not_not.mp hrevision, rfl, rfl⟩

/-! ## Finished operations -/

/-- `_not_confirmed`: a book in scope the operator did not confirm. -/
def notConfirmed (row : Deployment) : TargetResult :=
  { deploymentId := row.id
    expectedRevision := none
    status := .notConfirmed
    detail := "In scope but not in the confirmed id list. Not commanded."
    venueEffect := .none }

def statusFor (action : FleetAction) (results : List TargetResult) : FleetOperationStatus :=
  if action.latches then .completed
  else if results.any (fun item => item.status = .failed ∨ item.status = .revisionConflict) then
    .partialResult
  else if results.any (fun item => item.status = .notConfirmed) then .partialResult
  else .accepted

def completionNote (action : FleetAction) : String :=
  if action.latches then
    "Latch updated in durable state. No deployment lifecycle command was recorded."
  else
    "Commands were recorded per book where status is command_recorded. " ++
      "This is not an atomic venue transaction and does not prove orders cancelled or " ++
      "positions flat."

/-- The order of `_scoped_rows`: newest first, then by the text of the id, downwards. -/
def newerRow (a b : Deployment) : Bool :=
  b.createdAt < a.createdAt ∨ (b.createdAt = a.createdAt ∧
    String.ofList (uuidText b.id) ≤ String.ofList (uuidText a.id))

/-- `_scoped_rows`: every deployment in scope. -/
def scopedRows (rows : List Deployment) (mode : FleetModeScope) : List Deployment :=
  (rows.filter (fun row => mode.covers row.mode)).mergeSort newerRow

def FleetOperation.receipts (operation : FleetOperation) : List Uuid :=
  operation.targets.map (·.deploymentId)

end Thytrader.FleetControl
