import Thytrader.Execution.RuntimeOps
import Thytrader.Risk.Breakers

/-!
# Breaker pauses

`execution/breaker_pause.py` with the fresh accounting portfolio of
`risk/accounting_evidence.py`: a daily-loss trip latches the tripping book and pauses every
running book of its mode and quote scope, one compare-and-set at a time.

Mirroring notes: the midnight marks that the bound market data recovers only go into the
`risk_day_open_evidence` of the loaded snapshots, so the recovered evidence is an argument. A
verdict's detail is the text it renders to. The clock readings of the peers' pauses are one
function of the peer.
-/

namespace Thytrader.Execution

open Trading Risk

/-! ## The accounting portfolio -/

/-- `list_deployments`: newest-updated first. -/
def listDeployments (store : MemoryStore) : List Deployment :=
  store.deployments.values.insertionSort (fun first second => second.updatedAt ≤ first.updatedAt)

abbrev OpeningEvidence := DeploymentSnapshot → Option DailyOpeningEvidence

def withOpening (evidence : OpeningEvidence) (snapshot : DeploymentSnapshot) : DeploymentSnapshot :=
  match evidence snapshot with
  | none => snapshot
  | some opening =>
    { snapshot with deployment := { snapshot.deployment with riskDayOpenEvidence := some opening } }

def accountingSnapshot (store : MemoryStore) (evidence : OpeningEvidence) (deploymentId : Uuid) :
    Result DeploymentSnapshot := do
  let snapshot ← store.getDeployment deploymentId
  if snapshot.accountingComplete then return withOpening evidence snapshot
  else throw (.storeError "Risk accounting snapshot omitted sibling economics.")

def accountingPortfolio (store : MemoryStore) (evidence : OpeningEvidence) :
    Result (List DeploymentSnapshot) :=
  (listDeployments store).mapM (fun deployment => accountingSnapshot store evidence deployment.id)

/-- `_portfolio_with_current`: `expected` are the books the caller knows of. -/
def portfolioWithCurrent (store : MemoryStore) (evidence : OpeningEvidence) (expected : List Uuid) :
    Result (List DeploymentSnapshot) := do
  let loaded ← accountingPortfolio store evidence
  if expected.all (fun id => id ∈ loaded.map (·.deployment.id)) then return loaded
  else throw (.storeError "Risk accounting inventory is incomplete.")

/-! ## Pausing the peers -/

/-- `_pause_daily_peer`, with the attempts left; the last conflict is raised. -/
def pauseDailyPeer (store : MemoryStore) (deploymentId : Uuid) (mode : DeploymentMode)
    (productId detail : String) (latch : Bool) (now : Time) : Nat → Result Unit × MemoryStore
  | 0 => (.ok (), store)
  | attempts + 1 =>
    match store.getDeployment deploymentId with
    | .error failure => (.error failure, store)
    | .ok current =>
      match quoteScopedSnapshots [current] productId with
      | .error _ => (.ok (), store)
      | .ok books =>
        if current.deployment.mode ≠ mode ∨ books = [] then (.ok (), store)
        else if current.deployment.status ≠ .running ∧
            (latch = false ∨ current.deployment.dailyLossLatched) then (.ok (), store)
        else
          match store.saveBreakerPause deploymentId current.deployment.revision detail latch now with
          | (.ok _, next) => (.ok (), next)
          | (.error (.conflict message), next) =>
            if attempts = 0 then (.error (.conflict message), next)
            else pauseDailyPeer next deploymentId mode productId detail latch now attempts
          | (.error failure, next) => (.error failure, next)

/-- The loop of `_pause_mode_running` over the books in scope. -/
def pausePeers (mode : DeploymentMode) (productId detail : String) (anchor : Option Uuid)
    (now : Uuid → Time) : List DeploymentSnapshot → MemoryStore → Result Unit × MemoryStore
  | [], store => (.ok (), store)
  | item :: rest, store =>
    match pauseDailyPeer store item.deployment.id mode productId detail
        (anchor = some item.deployment.id) (now item.deployment.id) 3 with
    | (.error failure, next) => (.error failure, next)
    | (.ok (), next) => pausePeers mode productId detail anchor now rest next

def pauseModeRunning (store : MemoryStore) (mode : DeploymentMode) (productId : String)
    (portfolio : List DeploymentSnapshot) (detail : String) (now : Uuid → Time) :
    Result Unit × MemoryStore :=
  match quoteScopedSnapshots (portfolio.filter (fun item => item.deployment.mode = mode))
      productId with
  | .error _ => (.ok (), store)
  | .ok books =>
    let anchor :=
      if books.any (fun item => item.deployment.dailyLossLatched) then none
      else books.head?.map (·.deployment.id)
    pausePeers mode productId detail anchor now books store

/-! ## The trip -/

/-- The reason codes that pause a book, as `breaker_pause_detail` prints them. -/
inductive BreakerReason where
  | dailyLoss
  | drawdown
  | other (value : String)
  deriving DecidableEq

def BreakerReason.value : BreakerReason → String
  | dailyLoss => "DAILY_LOSS_LIMIT"
  | drawdown => "STRATEGY_DRAWDOWN_LIMIT"
  | other value => value

def breakerPauseDetail (reason : BreakerReason) (detail : String) : String :=
  reason.value ++ ": " ++ detail

def latchedRow (deployment : Deployment) (reason : BreakerReason) (now : Time) : Deployment :=
  withRuntime deployment now
    { dailyLossLatched := if reason = .dailyLoss then some true else none
      drawdownLatched := if reason = .drawdown then some true else none }

/-- The clock readings and recovered evidence of one trip. -/
structure TripDraws where
  latchedAt : Time
  pausedAt : Time
  peerAt : Uuid → Time
  evidence : OpeningEvidence

/-- `_pause_for_breaker`, past the latch. -/
def pauseTripped (store : MemoryStore) (snapshot : DeploymentSnapshot) (portfolio : List Uuid)
    (reason : BreakerReason) (detail : String) (draws : TripDraws) :
    Result DeploymentSnapshot × MemoryStore :=
  if reason = .dailyLoss then
    match portfolioWithCurrent store draws.evidence (snapshot.deployment.id :: portfolio) with
    | .error failure => (.error failure, store)
    | .ok loaded =>
      match pauseModeRunning store snapshot.deployment.mode snapshot.deployment.productId loaded
          detail draws.peerAt with
      | (.error failure, next) => (.error failure, next)
      | (.ok (), next) => (next.getDeployment snapshot.deployment.id, next)
  else pause store snapshot detail draws.pausedAt

def pauseForBreaker (store : MemoryStore) (deploymentId : Uuid) (portfolio : List Uuid)
    (reason : BreakerReason) (text : String) (draws : TripDraws) :
    Result DeploymentSnapshot × MemoryStore :=
  match store.getDeployment deploymentId with
  | .error failure => (.error failure, store)
  | .ok snapshot =>
    let detail := breakerPauseDetail reason text
    if reason = .dailyLoss ∨ reason = .drawdown then
      match store.saveDeployment (latchedRow snapshot.deployment reason draws.latchedAt)
          (some snapshot.deployment.revision) with
      | (.error failure, next) => (.error failure, next)
      | (.ok _, next) =>
        match next.getDeployment snapshot.deployment.id with
        | .error failure => (.error failure, next)
        | .ok stamped => pauseTripped next stamped portfolio reason detail draws
    else pauseTripped store snapshot portfolio reason detail draws

end Thytrader.Execution
