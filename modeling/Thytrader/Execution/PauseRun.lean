import Thytrader.Execution.AutomaticPause
import Thytrader.Lib.Versions

/-!
# Runs over one book's pauses

Any number of workers, each through its `RevisionFencedStore`, and any other clients write one
deployment row; each awaited store call is one step, and between two of a client's steps any other
may come. A `Scene` is the shared store with the fences, the reconcile walks that are open between
two of their awaits, and what a run records: the versions of the row, who moved it out of RUNNING
last, and for each worker the revision of the last change of the shown status by its own faults,
fills or retentions (`own`) or by anything else (`foreign`).

A client may save over any version it may have read, so reads are no steps. A walk judges the rows
it read in order, and compares its next row only when it has judged everything it wrote itself.

Mirroring notes: calls that leave the book's row alone (orders, positions, evidence, other books)
are one event. `reset_breaker_latches` is not among the writers.
-/

namespace Thytrader.Execution

open Trading Lib

/-! ## The scene -/

/-- A reconcile walk between two awaits: the row it started from, the row it compares next, and its
first new fault. Imports of attached children are walks of their own. -/
structure OpenWalk where
  started : Deployment
  before : Deployment
  firstFault : Option String := none

/-- Why a book left RUNNING. -/
inductive Cause where
  | system (pause : SystemPause)
  | operator
  | breaker
  | portfolioLatch
  | fault
  | failures
  | retention
  | other
  deriving DecidableEq

/-- The pauses that no automatic resume may undo. -/
def Cause.pauses : Cause → Bool
  | .operator | .breaker | .portfolioLatch | .fault | .failures => true
  | .system _ | .retention | .other => false

/-- The shared store with its clients and what a run records. -/
structure Scene where
  store : MemoryStore
  fences : Nat → RevisionFence
  walks : Nat → Nat → Option OpenWalk
  versions : List Deployment
  cause : Option Cause
  since : Bool
  own : Nat → Int
  foreign : Nat → Int

/-- The wrappers a save goes through: the raw store or one worker's fence, and a product scope
with the parent snapshot it read. -/
structure Channel where
  worker : Option Nat
  scope : Option (String × DeploymentSnapshot) := none

/-- One step of some client. -/
inductive PauseEvent where
  | bind (worker : Nat) (row : Deployment) (holder : String)
  | lease (holder : String) (now : Time) (ttl : Duration)
  | save (channel : Channel) (writer : Writer) (base row : Deployment) (now : Time)
  | breakerPause (worker : Option Nat) (base : Deployment) (detail : Reason) (latch : Bool)
      (now : Time)
  | fill (worker : Option Nat) (call : FillCall)
  | funding (worker : Option Nat) (flows : List FundingCashFlow) (expectedRevision : Option Int)
  | openWalk (worker depth : Nat) (row : Deployment)
  | judge (worker depth : Nat) (row : Deployment)
  | compareFrom (worker depth : Nat) (row : Deployment)
  | retain (channel : Channel) (worker depth : Nat) (now : Time)
  | elsewhere (call : StoreCall)

namespace Scene

variable (book : Uuid)

/-- A row that differs from the newest version is one more: it may move the book out of RUNNING, and
another status or reason moves every worker's marks. -/
def record (scene : Scene) (cause : Deployment → Deployment → Cause) (author : Option Nat)
    (before after : Deployment) : Scene :=
  { scene with
    versions := after :: scene.versions
    cause :=
      if after.status = .running then none
      else if before.status = .running then some (cause before after)
      else scene.cause
    since :=
      if after.status = .running ∨ before.status = .running then false
      else scene.since || (cause before after).pauses
    own := fun worker =>
      if after.shown ≠ before.shown ∧ author = some worker then after.revision
      else scene.own worker
    foreign := fun worker =>
      if after.shown ≠ before.shown ∧ author ≠ some worker then after.revision
      else scene.foreign worker }

def commit (scene : Scene) (cause : Deployment → Deployment → Cause) (author : Option Nat)
    (next : MemoryStore) : Scene :=
  match scene.versions.head?, next.deployments.get? book with
  | some before, some after =>
    if after = before then { scene with store := next }
    else { scene.record cause author before after with store := next }
  | _, _ => { scene with store := next }

def setFence (scene : Scene) (worker : Nat) (fence : RevisionFence) : Scene :=
  { scene with fences := Function.update scene.fences worker fence }

def setWalk (scene : Scene) (worker depth : Nat) (walk : OpenWalk) : Scene :=
  { scene with
    walks := Function.update scene.walks worker
      (Function.update (scene.walks worker) depth (some walk)) }

end Scene

/-! ## Saves -/

/-- The row a channel hands to the inner store. -/
def Channel.written (channel : Channel) (row : Deployment) : Deployment :=
  match channel.scope with
  | none => row
  | some (productId, current) => scopedParent current row productId

/-- `save_deployment` through the channel's wrappers: the result, the worker's fence and the
next store. Unfenced clients pass the revision of the row they read. -/
def Channel.save (channel : Channel) (scene : Scene) (row : Deployment) :
    Result Deployment × Option RevisionFence × MemoryStore :=
  let runtime := channel.scope.map (fun scope => runtimeFromDeployment row scope.1)
  match channel.worker with
  | none =>
    let (result, next) :=
      scene.store.saveDeployment (channel.written row) (some row.revision) runtime
    (result, none, next)
  | some worker =>
    let (result, fence, next) := (scene.fences worker).saveDeployment scene.store
      (channel.written row) (channel.scope.map (fun _ => row.revision)) runtime
    (result, some fence, next)

/-- The scene after a call through a channel: the worker's fence is refreshed. -/
def Scene.refence (scene : Scene) (worker : Option Nat) (fence : Option RevisionFence) : Scene :=
  match worker, fence with
  | some worker, some fence => scene.setFence worker fence
  | _, _ => scene

def Writer.cause (writer : Writer) (after : Deployment) : Cause :=
  match writer with
  | .feedGate _ false => .system .userFeed
  | .dataGap .decision => .system .dataGap
  | .missingCandles _ =>
    if after.mismatchDetail = some missingDecisionCandles then .system .dataGap else .other
  | .fault _ => .fault
  | .operate .running _ => .other
  | .operate _ _ => .operator
  | .latch _ => .breaker
  | .portfolioLatch _ => .portfolioLatch
  | .failures _ => .failures
  | _ => .other

def fillCause (before after : Deployment) : Cause :=
  if after.status = faultStatus before ∧ after.mismatchDetail.any (· ∈ fillFaultDetails) then .fault
  else .other

def Writer.author (writer : Writer) (channel : Channel) : Option Nat :=
  match writer with
  | .fault _ => channel.worker
  | _ => none

/-! ## Steps -/

namespace Scene

variable (book : Uuid)

/-- The walk is undisturbed: only its own worker's faults, fills and retentions changed what the
book shows since the row it started from. -/
def undisturbed (scene : Scene) (worker : Nat) (walk : OpenWalk) : Bool :=
  scene.foreign worker ≤ walk.started.revision

def retain (scene : Scene) (channel : Channel) (worker depth : Nat) (walk : OpenWalk)
    (now : Time) : Scene :=
  if retains walk.before walk.started.status walk.started.mismatchDetail walk.firstFault then
    let row := retainedRow walk.before walk.started.status walk.started.mismatchDetail
      walk.firstFault now
    let (result, fence, next) := channel.save scene row
    let author := if scene.undisturbed worker walk then some worker else none
    let saved := (scene.commit book (fun _ _ => .retention) author next).refence channel.worker fence
    match result with
    | .error _ => saved
    | .ok row => saved.setWalk worker depth { walk with before := row }
  else scene

def apply (scene : Scene) : PauseEvent → Scene
  | .bind worker row holder => scene.setFence worker ⟨book, row.revision, holder⟩
  | .lease holder now ttl =>
    scene.commit book (fun _ _ => .other) none
      (scene.store.acquireWorkerLease book holder now ttl).2
  | .save channel writer _ row _ =>
    let (_, fence, next) := channel.save scene row
    (scene.commit book (fun _ after => writer.cause after) (writer.author channel) next).refence
      channel.worker fence
  | .breakerPause worker base detail latch now =>
    match worker with
    | none =>
      scene.commit book (fun _ _ => .breaker) none
        (scene.store.saveBreakerPause book base.revision detail latch now).2
    | some index =>
      let (_, fence, next) := (scene.fences index).saveBreakerPause scene.store book
        base.revision detail latch now
      (scene.commit book (fun _ _ => .breaker) none next).setFence index fence
  | .fill worker call =>
    match worker with
    | none => scene.commit book fillCause none (call.run scene.store).2
    | some index =>
      let (_, fence, next) := (scene.fences index).applyFill scene.store call
      (scene.commit book fillCause (some index) next).setFence index fence
  | .funding worker flows expectedRevision =>
    match worker with
    | none =>
      scene.commit book (fun _ _ => .other) none
        (scene.store.applyFundingTransaction book flows expectedRevision).2
    | some index =>
      let (_, fence, next) := (scene.fences index).applyFunding scene.store book flows
        expectedRevision
      (scene.commit book (fun _ _ => .other) none next).setFence index fence
  | .openWalk worker depth row => scene.setWalk worker depth { started := row, before := row }
  | .judge worker depth row =>
    match scene.walks worker depth with
    | none => scene
    | some walk =>
      scene.setWalk worker depth
        { walk with
          before := row
          firstFault := firstNewFault walk.firstFault walk.before row }
  | .compareFrom worker depth row =>
    match scene.walks worker depth with
    | none => scene
    | some walk => scene.setWalk worker depth { walk with before := row }
  | .retain channel worker depth now =>
    match scene.walks worker depth with
    | none => scene
    | some walk => scene.retain book channel worker depth walk now
  | .elsewhere call => scene.commit book (fun _ _ => .other) none (call.run scene.store)

/-- The clients save and walk from rows the store held; a writer saves the row it computes; a peer
is paused while it runs, or to latch it. -/
def Allowed (scene : Scene) : PauseEvent → Prop
  | .bind _ row _ => row ∈ scene.versions
  | .lease _ _ _ => True
  | .save channel writer base row now =>
    base ∈ scene.versions ∧ (∃ planned, writer.write base now = some planned ∧
      SameControl planned row) ∧
      ∀ scope, channel.scope = some scope → scope.2.deployment.id = book
  | .breakerPause _ base _ latch _ =>
    base ∈ scene.versions ∧ (base.status = .running ∨
      (latch = true ∧ base.dailyLossLatched = false))
  | .fill _ call => call.deploymentId = book
  | .funding _ _ _ => True
  | .openWalk _ _ row => row ∈ scene.versions
  | .judge worker depth row =>
    row ∈ scene.versions ∧
      ∀ walk, scene.walks worker depth = some walk → walk.before.revision ≤ row.revision
  | .compareFrom worker depth row =>
    row ∈ scene.versions ∧ ∀ walk, scene.walks worker depth = some walk →
      walk.before.revision ≤ row.revision ∧ scene.own worker ≤ walk.before.revision
  | .retain channel worker _ _ =>
    channel.worker = some worker ∧
      ∀ scope, channel.scope = some scope → scope.2.deployment.id = book
  | .elsewhere call =>
    (call.run scene.store).deployments.get? book = scene.store.deployments.get? book ∧
      DeploymentsKeyed (call.run scene.store)

end Scene

/-- One step of an interleaving. -/
def pauseStep (book : Uuid) (scene : Scene) (event : PauseEvent) (next : Scene) : Prop :=
  scene.Allowed book event ∧ next = scene.apply book event

/-- A save of this row through the channel would find the store and the fence at its revision. -/
def Scene.Admits (book : Uuid) (scene : Scene) (channel : Channel) (row : Deployment) : Prop :=
  (scene.store.deployments.get? book).map (·.revision) = some row.revision ∧
    ∀ worker, channel.worker = some worker → channel.scope = none →
      (scene.fences worker).expectedRevision = row.revision

/-- A retention about to save the text of a system pause runs in an undisturbed walk. -/
def Scene.Heeds (book : Uuid) (scene : Scene) : PauseEvent → Prop
  | .retain channel worker depth _ =>
    ∀ walk, scene.walks worker depth = some walk → scene.Admits book channel walk.before →
      (∃ pause : SystemPause,
        retainedDetail walk.started.mismatchDetail walk.firstFault = some pause.detail) →
      scene.undisturbed worker walk = true
  | _ => True

/-- One step of an interleaving whose retentions heed the writes they would undo. -/
def heedfulPauseStep (book : Uuid) (scene : Scene) (event : PauseEvent) (next : Scene) : Prop :=
  pauseStep book scene event next ∧ scene.Heeds book event

/-- A book as it was created: one version, without a recorded reason, and no walk open. -/
structure Scene.Initial (book : Uuid) (scene : Scene) : Prop where
  keyed : DeploymentsKeyed scene.store
  row : ∃ row, scene.store.deployments.get? book = some row ∧ scene.versions = [row] ∧
    row.mismatchDetail = none ∧
    ∀ worker, scene.own worker ≤ row.revision ∧ scene.foreign worker ≤ row.revision
  fences : ∀ worker, (scene.fences worker).deploymentId = book
  walks : ∀ worker depth, scene.walks worker depth = none

end Thytrader.Execution
