import Thytrader.Trading.Inventory
import Thytrader.Trading.Memory

/-!
# Reading and pausing one book

The pure questions that the closed-bar loop asks of a snapshot:
`execution/runtime_ops.py`, `execution/exit_guards.py`, `trading/lifecycle.py` and the
fill-economics guard of `execution/exits.py`; and `_pause`, which every fault ends in.

Mirroring notes: the process-local view of the fleet latch is an argument (`inhibited`, one
answer per mode). A set of intent ids is the list of them.
-/

namespace Thytrader.Execution

open Trading

/-- Membership in `_ACTIVE`. -/
def active (status : OrderStatus) : Bool :=
  status = .open || status = .pending || status = .unknown

def isWorkingEntryOrder (order : Order) : Bool :=
  active order.status && order.parentOrderId = none &&
    (order.kind = .postOnlyLimit || order.kind = .marketable)

/-- `_active_entry`: the working entry order. Without any entry intent, only an order
whose intent is unknown counts. -/
def activeEntry (snapshot : DeploymentSnapshot) : Option Order :=
  let known := snapshot.intents.map (·.id)
  let entryIds := (snapshot.intents.filter (fun intent => intent.purpose = .entry)).map (·.id)
  if entryIds ≠ [] then
    snapshot.orders.find? (fun order => order.intentId ∈ entryIds ∧ isWorkingEntryOrder order)
  else
    snapshot.orders.find? (fun order => isWorkingEntryOrder order ∧ order.intentId ∉ known)

def entriesAllowed (inhibited : DeploymentMode → Bool) (deployment : Deployment) : Bool :=
  if inhibited deployment.mode then false
  else
    deployment.status = .running ∧ deployment.lifecycleCommand = .none ∧
      deployment.dailyLossLatched = false ∧ deployment.drawdownLatched = false

/-- `save_deployment`, then `get_deployment`. -/
def saveAndRead (store : MemoryStore) (row : Deployment) :
    Result DeploymentSnapshot × MemoryStore :=
  match store.saveDeployment row with
  | (.error failure, next) => (.error failure, next)
  | (.ok _, next) => (next.getDeployment row.id, next)

/-- The row `_pause` writes: a stopped book keeps its status. -/
def pausedRow (deployment : Deployment) (detail : String) (now : Time) : Deployment :=
  withRuntime deployment now
    { status := some (if deployment.status = .stopped then .stopped else .paused)
      mismatchDetail := some detail
      phase := some deployment.phase }

/-- `_pause`, without a phase. -/
def pause (store : MemoryStore) (snapshot : DeploymentSnapshot) (detail : String) (now : Time) :
    Result DeploymentSnapshot × MemoryStore :=
  saveAndRead store (pausedRow snapshot.deployment detail now)

end Thytrader.Execution
