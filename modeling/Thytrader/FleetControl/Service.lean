import Thytrader.Execution.Submit
import Thytrader.FleetControl.Store

/-!
# Fleet operations, starts and intents

The calls that take the fleet's locks, as programs over the operations of the two stores:
`fleet_control/service.py` and the methods of `InMemoryFleetControlStore` it awaits,
`InMemoryExecutionStore.create_deployment` and `save_intent` with the latch bound as entry gate,
and `InMemoryInventoryAdoptionStore.adopt_inventory`.

Mirroring notes: `validate_execution` passes, as both stores are in memory. What an adoption reads
of the venue and of the live books decides its `prepare_adoption`, which answers arbitrarily.
-/

namespace Thytrader.FleetControl

open Trading Lib Execution MarketData Program

/-- A call on the fleet's stores. -/
abbrev FleetProgram (α : Type) : Type := LockProgram FleetLock Failure FleetOp FleetOp.Answer α

/-- One operation of the stores. -/
abbrev act (op : FleetOp) : FleetProgram op.Answer := perform op

/-- Under the latch's own lock. -/
abbrev latched (op : FleetOp) : FleetProgram op.Answer := withLock .latch (act op)

/-! ## The fleet store -/

def readInhibition : FleetProgram InhibitionSnapshot := latched .snapshot

def inhibit (modes : List DeploymentMode) (now : Time) : FleetProgram InhibitionSnapshot :=
  latched (.setModes modes true now)

def release (modes : List DeploymentMode) (now : Time) : FleetProgram InhibitionSnapshot :=
  latched (.setModes modes false now)

def getOperation (key : String) : FleetProgram (Option FleetOperation) :=
  latched (.getOperation key)

def insertOperation (operation : FleetOperation) : FleetProgram Bool :=
  latched (.insertOperation operation)

def saveOperation (operation : FleetOperation) : FleetProgram Unit :=
  latched (.saveOperation operation)

def applyLatch (operation : FleetOperation) (request : FleetExecuteRequest) (now : Time) :
    FleetProgram FleetOperation :=
  withLock .latch (do
    let applied ← act (.applyLatch operation request now)
    ofExcept applied)

/-- `record_target` of the store. -/
def storeTarget (operation : FleetOperation) (expected : ExpectedTarget) (now : Time) :
    FleetProgram FleetOperation :=
  withLock .latch (do
    let read ← act (.getDeployment expected.deploymentId)
    let snapshot ← ofExcept read
    let planned :=
      confirmedCommand (some snapshot.deployment) expected operation.action operation.mode now
    let saved := { operation with targets := operation.targets ++ [planned.2], updatedAt := now }
    let written ← act (.saveTarget planned.1 expected.revision saved)
    let _ ← ofExcept written
    pure saved)

/-! ## `execute_fleet` -/

/-- `_record_target`, past a known failure: the receipt that names it. -/
def recordFailure (operation : FleetOperation) (expected : ExpectedTarget)
    (outcome : FleetTargetStatus) (detail : String) : FleetProgram FleetOperation := do
  match ← getOperation operation.idempotencyKey with
  | none => .raise (.storeError "Fleet receipt is unavailable; result remains unknown.")
  | some durable =>
    if durable.targets.any (fun item => item.deploymentId = expected.deploymentId) then
      pure durable
    else
      let result : TargetResult :=
        { deploymentId := expected.deploymentId
          expectedRevision := some expected.revision
          status := outcome
          detail
          venueEffect := .none }
      let now ← act .now
      let saved := { durable with targets := durable.targets ++ [result], updatedAt := now }
      saveOperation saved
      pure saved

/-- `_record_target`: record only known outcomes. -/
def recordTarget (operation : FleetOperation) (expected : ExpectedTarget) :
    FleetProgram FleetOperation := do
  let now ← act .now
  match ← (storeTarget operation expected now).attempt with
  | .ok saved => pure saved
  | .error (.conflict detail) => recordFailure operation expected .revisionConflict detail
  | .error (.leaseTaken detail) => recordFailure operation expected .revisionConflict detail
  | .error (.storeError detail) => recordFailure operation expected .failed detail
  | .error failure => .raise failure

/-- The loop of `_apply_books`: each confirmed target without a receipt. -/
def recordTargets (recorded : List Uuid) (operation : FleetOperation) :
    List ExpectedTarget → FleetProgram FleetOperation
  | [] => pure operation
  | expected :: rest =>
    if expected.deploymentId ∈ recorded then recordTargets recorded operation rest
    else do
      let next ← recordTarget operation expected
      recordTargets recorded next rest

def applyBooks (request : FleetExecuteRequest) (operation : FleetOperation) :
    FleetProgram FleetOperation := do
  let recorded := operation.receipts
  let confirmed := request.expectedTargets.map (·.deploymentId)
  let operation ← recordTargets recorded operation request.expectedTargets
  let rows ← act .listDeployments
  let omitted := ((scopedRows rows request.mode).filter
    (fun row => row.id ∉ confirmed ∧ row.id ∉ recorded)).map notConfirmed
  pure { operation with targets := operation.targets ++ omitted }

/-- `_audit`, with or without an audit store. -/
def audit (audited : Bool) (operation : FleetOperation) : FleetProgram FleetOperation :=
  if audited then do
    let recorded ← act (.appendAudit operation)
    pure { operation with auditRecorded := recorded }
  else pure operation

def applyEffects (request : FleetExecuteRequest) (operation : FleetOperation) :
    FleetProgram FleetOperation :=
  if request.action.latches then do
    let now ← act .now
    applyLatch operation request now
  else applyBooks request operation

/-- `_apply_pending`: continue without repeating recorded targets. -/
def applyPending (request : FleetExecuteRequest) (audited : Bool) (operation : FleetOperation) :
    FleetProgram FleetOperation := do
  let operation ← applyEffects request operation
  let _ ← readInhibition
  let now ← act .now
  let finished ← audit audited
    { operation with
      status := statusFor request.action operation.targets
      updatedAt := now
      note := completionNote request.action
      auditRecorded := false }
  saveOperation finished
  pure finished

section

variable (sha256 : String → String)

/-- `_insert_pending`: persist the intent before any command. -/
def insertPending (request : FleetExecuteRequest) : FleetProgram FleetOperation := do
  let now ← act .now
  let inhibition ← readInhibition
  let id ← act (.uuid7 now)
  let operation : FleetOperation :=
    { id
      idempotencyKey := request.idempotencyKey
      action := request.action
      mode := request.mode
      status := .pending
      requestFingerprint := fingerprint sha256 request
      createdAt := now
      updatedAt := now
      targets := []
      inhibition
      liveAcknowledged := request.liveAcknowledged
      auditRecorded := false
      note := "Intent recorded. Book commands have not been applied." }
  if ← insertOperation operation then pure operation
  else
    match ← getOperation request.idempotencyKey with
    | none => .raise (.storeError "Fleet operation storage conflict.")
    | some existing =>
      let _ ← ofExcept (requireSameFingerprint existing (fingerprint sha256 request))
      pure existing

/-- `execute_fleet`, inside its operation guard. -/
def executeGuarded (request : FleetExecuteRequest) (audited : Bool) :
    FleetProgram FleetOperation := do
  match ← getOperation request.idempotencyKey with
  | some existing =>
    let _ ← ofExcept (requireSameFingerprint existing (fingerprint sha256 request))
    if existing.status ≠ .pending then pure existing
    else applyPending request audited existing
  | none =>
    let operation ← insertPending sha256 request
    applyPending request audited operation

/-- `execute_fleet`: apply one confirmed action, or return the durable result for its key. -/
def executeFleet (request : FleetExecuteRequest) (audited : Bool) : FleetProgram FleetOperation := do
  let _ ← ofExcept (requireRequest request)
  withLock (.operation request.idempotencyKey) (executeGuarded sha256 request audited)

end

/-! ## Starts and intents -/

/-- `create_deployment`: insert unless the latch refuses the mode. -/
def createDeployment (deployment : Deployment) : FleetProgram Unit :=
  withLock .latch (do
    let allowed ← act (.raiseIfInhibited deployment.mode .start)
    let _ ← ofExcept allowed
    act (.insertDeployment deployment))

def insertLeasedIntent (fence : Option (Uuid × String)) (intent : OrderIntent) :
    FleetProgram Unit := do
  let inserted ← act (.insertLeasedIntent fence intent)
  ofExcept inserted

/-- The latch check of `_insert_intent` for an entry. -/
def insertEntry (fence : Option (Uuid × String)) (intent : OrderIntent) : FleetProgram Unit := do
  match ← act (.deploymentRow intent.deploymentId) with
  | none => .raise (.storeError "Entry deployment was not found.")
  | some deployment =>
    withLock .latch (do
      let allowed ← act (.raiseIfInhibited deployment.mode .entry)
      let _ ← ofExcept allowed
      insertLeasedIntent fence intent)

/-- The key check of `_insert_intent`. -/
def requireFreshKey (key : Option String) : FleetProgram Unit :=
  match key with
  | none => pure ()
  | some key => do
    let existing ← act (.intentByKey key)
    if existing.isSome then .raise keyConflict else pure ()

def insertIntent (fence : Option (Uuid × String)) (intent : OrderIntent) : FleetProgram Unit := do
  requireFreshKey intent.idempotencyKey
  if intent.purpose = .entry then insertEntry fence intent else insertLeasedIntent fence intent

def awaitedBase (intent : OrderIntent) (deployment : Option Deployment) : Option FleetLock :=
  match deployment with
  | none => none
  | some deployment =>
    let productId := resolvedProductId intent.productId deployment
    if intent.purpose = .entry ∧ deployment.mode = .live ∧ isSpotProductId productId then
      match baseCurrency productId with
      | .ok base => some (.inventory deployment.mode base)
      | .error _ => none
    else none

def saveIntent (fence : Option (Uuid × String)) (intent : OrderIntent) : FleetProgram Unit := do
  let deployment ← act (.deploymentRow intent.deploymentId)
  match awaitedBase intent deployment with
  | some lock => withLock lock (insertIntent fence intent)
  | none => insertIntent fence intent

/-! ## Adoptions -/

/-- `AdoptionWrite`: the fields its locks and inserts depend on. -/
structure AdoptionWrite where
  base : String
  deploymentId : Uuid
  idempotencyKey : Option String
  newDeployment : Option Deployment
  expectedRevision : Option Int
  respectEntryLatch : Bool

def readBooks : List Deployment → FleetProgram Unit
  | [] => pure ()
  | row :: rest => do
    let read ← act (.getDeployment row.id)
    let _ ← ofExcept read
    readBooks rest

def targetBook (write : AdoptionWrite) : FleetProgram Unit :=
  match write.newDeployment with
  | some created => do
    let stored ← act (.deploymentRow created.id)
    if created.id ≠ write.deploymentId ∨ stored.isSome then
      .raise (.conflict "The new book is not the adoption's book.")
    else pure ()
  | none => do
    let read ← act (.getDeployment write.deploymentId)
    let book ← ofExcept read
    if write.expectedRevision.isSome ∧
        write.expectedRevision ≠ some book.deployment.revision then
      .raise revisionConflict
    else pure ()

/-- `_insert_book`: the latch is checked only when asked. -/
def insertBook (write : AdoptionWrite) : FleetProgram Unit :=
  match write.newDeployment with
  | none => pure ()
  | some created =>
    if write.respectEntryLatch then createDeployment created
    else act (.store (.createDeployment created))

/-- The store writes of a prepared adoption. -/
def writeRecords : List StoreCall → FleetProgram Unit
  | [] => pure ()
  | call :: rest => do
    act (.store call)
    writeRecords rest

def adoptInventory (write : AdoptionWrite) : FleetProgram Unit :=
  withLock (.inventory .live write.base) (do
    let rows ← act .listDeployments
    readBooks (rows.filter (fun row => row.mode = .live))
    targetBook write
    let preparation ← act (.prepareAdoption write.base)
    let prepared ← ofExcept preparation
    requireFreshKey write.idempotencyKey
    insertBook write
    saveIntent none prepared.intent
    writeRecords prepared.writes)

/-! ## Calls -/

/-- A call that takes one of the fleet's locks. -/
inductive FleetCall where
  | execute (request : FleetExecuteRequest) (audited : Bool)
  | readInhibition
  | inhibit (modes : List DeploymentMode) (now : Time)
  | release (modes : List DeploymentMode) (now : Time)
  | createDeployment (deployment : Deployment)
  | saveIntent (fence : Option (Uuid × String)) (intent : OrderIntent)
  | adopt (write : AdoptionWrite)

def FleetCall.program (sha256 : String → String) : FleetCall → FleetProgram Unit
  | .execute request audited => do
    let _ ← executeFleet sha256 request audited
    pure ()
  | .readInhibition => do
    let _ ← FleetControl.readInhibition
    pure ()
  | .inhibit modes now => do
    let _ ← FleetControl.inhibit modes now
    pure ()
  | .release modes now => do
    let _ ← FleetControl.release modes now
    pure ()
  | .createDeployment deployment => FleetControl.createDeployment deployment
  | .saveIntent fence intent => FleetControl.saveIntent fence intent
  | .adopt write => adoptInventory write

def FleetCall.inserts : FleetCall → Option Deployment
  | .createDeployment deployment => some deployment
  | .adopt write => write.newDeployment
  | _ => none

/-- The calls and another client's write, each step between two awaits. -/
def fleetStep (sha256 : String → String) (modeOf : Uuid → DeploymentMode) :
    Crowd FleetState FleetCall FleetLock Failure FleetOp FleetOp.Answer →
      CrowdEvent FleetCall FleetLock FleetOp StoreCall →
        Crowd FleetState FleetCall FleetLock Failure FleetOp FleetOp.Answer → Prop :=
  CrowdStep (FleetCall.program sha256)
    (fun _ call => ∀ deployment, call.inserts = some deployment →
      deployment.mode = modeOf deployment.id)
    (FleetOp.exec modeOf)
    (fun s call s' => RecordWrite modeOf call ∧ s' = { s with store := call.run s.store })

end Thytrader.FleetControl
