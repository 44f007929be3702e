import Thytrader.Portfolios.Floor
import Thytrader.Portfolios.RuntimeState

/-!
# Supervising, starting and resetting a deployed portfolio

`execution_worker/portfolio_supervisor.py` with `start` and `reset_breaker` of
`portfolios/runtime.py`, for one portfolio. All three are programs over awaited calls on the
portfolio store and the execution store. The runtime row is written by compare-and-set on its
revision, and nothing but these three writes it.

Mirroring notes:
- A cycle supervises several portfolios on views it read together; here the others happen between
  two calls of this one.
- `start` plans its sleeves against the strategies, the risk policy, the market data and the
  account's fee rates, which answer what they like (`planSleeves`), and creates each planned
  sleeve's book with `create_deployment` (`startSleeve`).
- The journal entries and audit events are left out: nothing here reads them.
-/

namespace Thytrader.Portfolios

open Lib
open Risk (PortfolioRiskBook utcDayStart)
open Trading

/-! ## Calls -/

inductive RuntimeFailure where
  | portfolio (error : PortfolioError)
  | execution (failure : Failure)
  deriving DecidableEq

/-- The awaited calls. -/
inductive RuntimeOp where
  | listDeployments
  | runtimeView
  | get
  | runtimeState
  | planSleeves (targets : List SleeveView)
  | startSleeve (view : SleeveView) (capital : Decimal)
  | getDeployment (deploymentId : Uuid)
  | saveDeployment (deployment : Deployment) (expectedRevision : Int)
  | writeRuntime (state : PortfolioRuntimeState) (expectedRevision : Nat)

/-- What a call answers. -/
@[reducible] def RuntimeOp.Answer : RuntimeOp → Type
  | .listDeployments => List Deployment
  | .runtimeView => Option PortfolioRuntimeView
  | .get => Outcome PortfolioAggregate
  | .runtimeState => Outcome PortfolioRuntimeState
  | .planSleeves _ => Outcome Unit
  | .startSleeve _ _ => Unit
  | .getDeployment _ => Result DeploymentSnapshot
  | .saveDeployment _ _ => Result Deployment
  | .writeRuntime _ _ => Outcome (Option PortfolioRuntimeState)

/-- A coroutine over those calls. -/
abbrev RuntimeProgram (α : Type) := Program RuntimeFailure RuntimeOp RuntimeOp.Answer α

def call (op : RuntimeOp) : RuntimeProgram op.Answer := .perform op .done

/-- Raise a failed answer of the portfolio store. -/
def orPortfolioError {α : Type} (answer : Outcome α) : RuntimeProgram α :=
  Program.ofExcept (answer.mapError .portfolio)

/-- Raise a failed answer of the execution store. -/
def orExecutionError {α : Type} (answer : Result α) : RuntimeProgram α :=
  Program.ofExcept (answer.mapError .execution)

/-- `ExecutionConflictError` and its subclass. -/
def isConflict : Failure → Bool
  | .conflict _ => true
  | .leaseTaken _ => true
  | _ => false

/-- `PortfolioError`, `ExecutionStoreError` and `ExecutionConflictError`: what supervision logs
and skips. -/
def RuntimeFailure.skipped : RuntimeFailure → Bool
  | .portfolio (.valueError _) => false
  | .portfolio _ => true
  | .execution (.storeError _) => true
  | .execution failure => isConflict failure

/-! ## Supervision -/

/-- `save_deployment` under the row's own revision; a conflict is passed over. -/
def saveUnlessMoved (item row : Deployment) : RuntimeProgram Unit := do
  match ← call (.saveDeployment row item.revision) with
  | .ok _ => return ()
  | .error failure => if isConflict failure then return () else .raise (.execution failure)

/-- `weights.get(strategy_id)`: the last sleeve of that strategy. -/
def sleeveWeight (aggregate : PortfolioAggregate) (item : Deployment) : Option Decimal :=
  item.strategyId.bind (fun strategyId =>
    (aggregate.sleeves.reverse.find? (fun view => view.sleeve.strategyId = strategyId)).map
      (·.sleeve.weightFraction))

def syncAllocations (aggregate : PortfolioAggregate) (now : Time) :
    List Deployment → RuntimeProgram Unit
  | [] => return ()
  | item :: rest => do
    match sleeveWeight aggregate item with
    | none => syncAllocations aggregate now rest
    | some weight =>
      let target := aggregate.portfolio.capitalQuote * weight
      if item.allocatedCapital = some target then syncAllocations aggregate now rest
      else do
        saveUnlessMoved item { item with allocatedCapital := some target, updatedAt := now }
        syncAllocations aggregate now rest

/-- `_equity_unresolved`: a book without recorded equity whose accounting is not certified. -/
def equityUnresolved : List Deployment → RuntimeProgram Bool
  | [] => return false
  | book :: rest => do
    if book.performanceEquity.isSome then equityUnresolved rest
    else
      match ← call (.getDeployment book.id) with
      | .error (.storeError _) => return true
      | .error failure => .raise (.execution failure)
      | .ok snapshot =>
        let ledger ← orExecutionError (ledgerFromSnapshot snapshot none none)
        if ledger.accountingComplete then equityUnresolved rest else return true

def pauseRunning (detail : String) (now : Time) : List Deployment → RuntimeProgram Unit
  | [] => return ()
  | item :: rest => do
    saveUnlessMoved item (withRuntime item now
      { status := some .paused
        lifecycleCommand := some .stopNewEntries
        mismatchDetail := some detail })
    pauseRunning detail now rest

def enforceLatch (state : PortfolioRuntimeState) (running : List Deployment) (now : Time) :
    RuntimeProgram PortfolioRuntimeState := do
  match state.breakerReason with
  | none => return state
  | some reason =>
    if running = [] then return state
    else do
      let detail := reason.text ++ ": " ++
        orBlank (state.breakerDetail.getD "") "portfolio breaker latched"
      pauseRunning (clipText detail 2000) now running
      return state

/-- `_HEARTBEAT`: one minute. -/
def heartbeat : Duration := 60 * 1000000

def baselinesMoved (runtime recorded : PortfolioRuntimeState) (now : Time) : Bool :=
  decide ((runtime.dayOpenEquity, runtime.dayOpenAt, runtime.highWaterMarkEquity,
      runtime.lastEquity) ≠
    (recorded.dayOpenEquity, recorded.dayOpenAt, recorded.highWaterMarkEquity,
      recorded.lastEquity)) ||
    runtime.lastEvaluatedAt.all (fun last => heartbeat ≤ now - last)

def newTrip (aggregate : PortfolioAggregate) (runtime recorded : PortfolioRuntimeState) :
    Option BreakerTrip :=
  if runtime.breakerLatched then none else trippedBreaker aggregate recorded

def PortfolioRuntimeState.latch (recorded : PortfolioRuntimeState) (trip : Option BreakerTrip)
    (now : Time) : PortfolioRuntimeState :=
  match trip with
  | none => recorded
  | some trip =>
    { recorded with
      breakerReason := some trip.reason
      breakerDetail := some (clipText trip.detail 500)
      breakerLatchedAt := some now }

/-- The write of `_supervise_one`: record the equity and a trip, unless nothing moved. -/
def recordEquity (aggregate : PortfolioAggregate) (runtime : PortfolioRuntimeState)
    (run : List Deployment) (now : Time) : RuntimeProgram PortfolioRuntimeState := do
  let recorded := runtime.rollBaselines (runEquity aggregate run) now
  let trip := newTrip aggregate runtime recorded
  let latched := recorded.latch trip now
  if trip.isNone && !baselinesMoved runtime recorded now then return runtime
  else
    match ← orPortfolioError (← call (.writeRuntime latched runtime.revision)) with
    | some written => return written
    | none => return if trip.isSome then latched else runtime

/-- The running ones among a portfolio's books. -/
def runningMembers (tagged : List Deployment) : List Deployment :=
  (occupiedMembers tagged).filter (fun item => item.status = .running)

def superviseOne (view : PortfolioRuntimeView) (deployments : List Deployment) (now : Time) :
    RuntimeProgram PortfolioRuntimeState := do
  let tagged := members deployments view.aggregate.portfolio.portfolioId
  if occupiedMembers tagged = [] then return view.runtime
  else
    syncAllocations view.aggregate now (occupiedMembers tagged)
    let run := runMembers tagged view.runtime
    let unresolved ← equityUnresolved run
    let state ← if unresolved then pure view.runtime
      else recordEquity view.aggregate view.runtime run now
    enforceLatch state (runningMembers tagged) now

/-- `supervise_portfolios` for one portfolio: no gate book when it is gone, untagged or its
supervision failed. -/
def supervisePortfolio (portfolioId : Uuid) (now : Time) :
    RuntimeProgram (Option PortfolioRiskBook) := do
  let deployments ← call .listDeployments
  if deployments.all (fun item => item.portfolioId ≠ some portfolioId) then return none
  else
    match ← call .runtimeView with
    | none => return none
    | some view =>
      match ← (superviseOne view deployments now).attempt with
      | .ok runtime => return some (riskBook view.aggregate runtime)
      | .error failure => if failure.skipped then return none else .raise failure

/-! ## Operator actions -/

/-- What a start names: the revision it was planned against, the acknowledgement, one sleeve
or all. -/
structure StartRequest where
  revision : Nat
  liveAcknowledged : Bool := false
  liveAllowed : Bool := false
  sleeveId : Option Uuid := none

def startTargets (aggregate : PortfolioAggregate) (request : StartRequest) :
    Outcome (List SleeveView) :=
  match request.sleeveId with
  | none => .ok aggregate.sleeves
  | some sleeveId => (aggregate.sleeve sleeveId).map ([·])

def runtimeConflict : PortfolioError :=
  .conflict "portfolio_runtime_conflict" "The portfolio's runtime state changed; try again."

/-- `_begin_run`: a fresh run at the portfolio's capital. -/
def beginFreshRun (aggregate : PortfolioAggregate) (runtime : PortfolioRuntimeState) (now : Time) :
    RuntimeProgram Unit := do
  let fresh := runtime.beginRun aggregate.portfolio.capitalQuote now
  match ← orPortfolioError (← call (.writeRuntime fresh runtime.revision)) with
  | some _ => return ()
  | none => .raise (.portfolio runtimeConflict)

def start (portfolioId : Uuid) (request : StartRequest) (context : MutationContext) :
    RuntimeProgram Unit := do
  let aggregate ← orPortfolioError (← call .get)
  orPortfolioError (requireRevision aggregate.portfolio request.revision)
  orPortfolioError (requireLiveAcknowledgement (deploymentMode aggregate) request.liveAcknowledged)
  orPortfolioError (require (deploymentMode aggregate ≠ .live ∨ request.liveAllowed = true)
    (.conflict "live_credentials_missing" "Live trading requires configured Coinbase credentials."))
  let runtime ← orPortfolioError (← call .runtimeState)
  orPortfolioError (requireBreakerClear runtime.breakerReason)
  orPortfolioError (require (aggregate.sleeves ≠ []) (.validation "portfolio_has_no_sleeves"
    "Add at least one sleeve before starting the portfolio."))
  let targets ← orPortfolioError (startTargets aggregate request)
  let tagged := members (← call .listDeployments) portfolioId
  -- a sleeve already running or paused here is attached, the others are planned
  let planned := targets.filter (fun view =>
    !tagged.any (fun item => item.strategyId = some view.sleeve.strategyId ∧ occupiesRunningSlot item))
  orPortfolioError (← call (.planSleeves planned))
  let now := (millisecondContext context).occurredAt
  if planned ≠ [] ∧ occupiedMembers tagged = [] then beginFreshRun aggregate runtime now else pure ()
  planned.forM (fun view =>
    call (.startSleeve view (aggregate.portfolio.capitalQuote * view.sleeve.weightFraction)))

/-- The books `snapshot` reads: those of the run and the running or paused ones. -/
def snapshotMembers (tagged : List Deployment) (runtime : PortfolioRuntimeState) :
    List Deployment :=
  tagged.filter (fun item => item.id ∈ (runMembers tagged runtime).map (·.id) ∨
    occupiesRunningSlot item)

def readSnapshot (item : Deployment) : RuntimeProgram Unit := do
  let _ ← orExecutionError (← call (.getDeployment item.id))

/-- The state a reset writes. -/
def PortfolioRuntimeState.cleared (runtime : PortfolioRuntimeState) (equity : Decimal)
    (now : Time) : PortfolioRuntimeState :=
  { runtime with
    breakerReason := none
    breakerDetail := none
    breakerLatchedAt := none
    dayOpenEquity := some equity
    dayOpenAt := some (utcDayStart now)
    highWaterMarkEquity := some equity
    lastEquity := some equity
    lastEvaluatedAt := some now }

/-- One attempt of `reset_breaker`: nothing when the row moved on. -/
def resetAttempt (portfolioId : Uuid) (now : Time) :
    RuntimeProgram (Option PortfolioRuntimeState) := do
  let aggregate ← orPortfolioError (← call .get)
  let runtime ← orPortfolioError (← call .runtimeState)
  let tagged := members (← call .listDeployments) portfolioId
  (snapshotMembers tagged runtime).forM readSnapshot
  orPortfolioError (require (runtime.breakerLatched = true)
    (.conflict "portfolio_breaker_not_latched" "No portfolio breaker is latched."))
  let equity := runEquity aggregate (runMembers tagged runtime)
  orPortfolioError (← call (.writeRuntime (runtime.cleared equity now) runtime.revision))

/-- `reset_breaker`: two attempts. -/
def resetBreaker (portfolioId : Uuid) (context : MutationContext) :
    RuntimeProgram PortfolioRuntimeState := do
  let now := (millisecondContext context).occurredAt
  match ← resetAttempt portfolioId now with
  | some written => return written
  | none =>
    match ← resetAttempt portfolioId now with
    | some written => return written
    | none => .raise (.portfolio runtimeConflict)

/-! ## The stores -/

/-- The portfolio store, the portfolio's runtime row (empty under revision 0 before its first
write) and the execution store. -/
structure Scene where
  portfolios : PortfolioStore
  runtime : PortfolioRuntimeState
  execution : MemoryStore

/-- What the calls outside these stores answer, and what creating a sleeve's book does. -/
structure RuntimeInputs where
  library : Library
  plan : Outcome Unit := .ok ()
  create : SleeveView → Decimal → MemoryStore → MemoryStore := fun _ _ execution => execution

namespace Scene

def aggregate (scene : Scene) (portfolioId : Uuid) (library : Library) :
    Outcome PortfolioAggregate :=
  (scene.portfolios.portfolio portfolioId).map (scene.portfolios.aggregate library)

/-- `write_runtime`: compare-and-set on the row's revision. -/
def writeRuntime (scene : Scene) (state : PortfolioRuntimeState) (expectedRevision : Nat) :
    Option PortfolioRuntimeState × Scene :=
  if scene.runtime.revision = expectedRevision then
    let written := { state with revision := expectedRevision + 1 }
    (some written, { scene with runtime := written })
  else (none, scene)

/-- One call: its answer and the stores after it. -/
def perform (portfolioId : Uuid) (inputs : RuntimeInputs) :
    (op : RuntimeOp) → Scene → op.Answer × Scene
  | .listDeployments, scene => (Floor.listDeployments scene.execution, scene)
  | .runtimeView, scene =>
    (((scene.aggregate portfolioId inputs.library).toOption).map (⟨·, scene.runtime⟩), scene)
  | .get, scene => (scene.aggregate portfolioId inputs.library, scene)
  | .runtimeState, scene =>
    ((scene.portfolios.portfolio portfolioId).map (fun _ => scene.runtime), scene)
  | .planSleeves _, scene => (inputs.plan, scene)
  | .startSleeve view capital, scene =>
    ((), { scene with execution := inputs.create view capital scene.execution })
  | .getDeployment deploymentId, scene => (scene.execution.getDeployment deploymentId, scene)
  | .saveDeployment deployment expectedRevision, scene =>
    let (answer, execution) := scene.execution.saveDeployment deployment (some expectedRevision)
    (answer, { scene with execution := execution })
  | .writeRuntime state expectedRevision, scene =>
    match scene.portfolios.portfolio portfolioId with
    | .error error => (.error error, scene)
    | .ok _ =>
      let (answer, next) := scene.writeRuntime state expectedRevision
      (.ok answer, next)

end Scene

end Thytrader.Portfolios
