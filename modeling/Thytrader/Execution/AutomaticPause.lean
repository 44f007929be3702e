import Thytrader.Execution.BreakerPause
import Thytrader.Execution.ReconcileStatus
import Thytrader.Trading.Supervision

/-!
# The worker's own pauses

`execution_worker/supervision.py`: two pauses the worker makes and takes back by itself, one for
a user-order feed that is down and one for a gapped decision window; and every other writer of a
book's status, detail, command and latches. Each writer is the row it computes from the row it
has read, `none` when it writes nothing (or raises first).

Mirroring notes: the user feed's reading and the broker's presence are arguments. A writer that
also moves other fields is here with the fields that no pause or resume looks at left alone; a
run may save any row that agrees with it on the others (`SameControl`). The texts of the other
writers are any text but the two of the system pauses (`Reason`).
-/

namespace Thytrader.Execution

open Trading

/-! ## The two system pauses -/

def missingDecisionCandles : String :=
  "Market-data window is gapped or missing the latest closed bar."

def userFeedPauseDetail : String := "User-order feed is not connected."

/-- The pauses that the worker clears by itself. -/
inductive SystemPause where
  | userFeed
  | dataGap
  deriving DecidableEq

def SystemPause.detail : SystemPause → String
  | userFeed => userFeedPauseDetail
  | dataGap => missingDecisionCandles

/-- A text that gives another reason. -/
def OtherReason (detail : String) : Prop := ∀ pause : SystemPause, detail ≠ pause.detail

/-- The texts of the other writers. -/
abbrev Reason := {detail : String // OtherReason detail}

theorem SystemPause.detail_injective : Function.Injective SystemPause.detail := by
  intro a b h
  cases a <;> cases b <;> first | rfl | exact absurd h (by decide)

/-- A text that does not start like either system text gives another reason. -/
theorem otherReason_of_head {detail : String}
    (h : ∀ pause : SystemPause, detail.toList.head? ≠ pause.detail.toList.head?) :
    OtherReason detail :=
  fun pause heq => h pause (by rw [heq])

theorem fillFaultDetails_otherReason : ∀ detail ∈ fillFaultDetails, OtherReason detail := by
  intro detail hdetail
  simp only [fillFaultDetails, List.mem_cons, List.not_mem_nil, or_false] at hdetail
  intro pause
  rcases hdetail with rfl | rfl | rfl <;> cases pause <;> decide

/-- What a data-gap pause of the worker names. -/
inductive GapReason where
  | decision
  | coverage (productId : String)
  | htf

/-- The detail passed to `_pause_running_for_data_gap`. -/
def GapReason.detail : GapReason → String
  | decision => missingDecisionCandles
  | coverage productId =>
    "Market-data window is gapped or missing the latest closed bar" ++ (" on " ++ productId ++ ".")
  | htf => "HTF market-data window is gapped or missing the latest completed HTF bar."

/-- Only a gap of the decision window itself pauses with the text that is cleared again. -/
theorem GapReason.detail_otherReason {reason : GapReason} (h : reason ≠ .decision) :
    OtherReason reason.detail := by
  cases reason with
  | decision => exact absurd rfl h
  | htf =>
    have hhead : ∀ pause : SystemPause,
        GapReason.htf.detail.toList.head? ≠ pause.detail.toList.head? := by
      intro pause
      cases pause <;> decide
    exact otherReason_of_head hhead
  | coverage productId =>
    intro pause
    cases pause with
    | userFeed =>
      intro heq
      have hhead : (GapReason.coverage productId).detail.toList.head? = some 'M' := by
        unfold GapReason.detail
        simp
      rw [heq] at hhead
      exact absurd hhead (by decide)
    | dataGap =>
      intro heq
      -- the two texts part after their common beginning
      have htext : missingDecisionCandles =
          "Market-data window is gapped or missing the latest closed bar" ++ "." := by decide
      have hlist := congrArg String.toList (heq.trans htext)
      unfold GapReason.detail at hlist
      rw [String.toList_append, String.toList_append] at hlist
      have htail := List.append_cancel_left hlist
      simp [String.toList_append] at htail

def pauseRunningForDataGap (reason : GapReason) (row : Deployment) (now : Time) :
    Option Deployment :=
  if row.status ≠ .running then none
  else some (withRuntime row now
    { status := some .paused, mismatchDetail := some reason.detail })

def pauseRunningForMissingCandles (liveBroker : Bool) (row : Deployment) (now : Time) :
    Option Deployment :=
  if row.status ≠ .running then none
  else
    let detail :=
      if row.mode = .live ∧ liveBroker = false then "Live broker is unavailable."
      else missingDecisionCandles
    some (withRuntime row now { status := some .paused, mismatchDetail := some detail })

/-- The book is paused with this detail, and nothing else holds it. -/
def onlyPaused (detail : String) (row : Deployment) : Bool :=
  row.status = .paused ∧ row.mismatchDetail = some detail ∧ row.lifecycleCommand = .none ∧
    row.dailyLossLatched = false ∧ row.drawdownLatched = false

def isFeedOnlyPause (row : Deployment) : Bool := onlyPaused userFeedPauseDetail row

def isDataGapOnlyPause (row : Deployment) : Bool := onlyPaused missingDecisionCandles row

/-- The row of an automatic resume. -/
def resumedRow (row : Deployment) (now : Time) : Deployment :=
  withRuntime row now { status := some .running, clearMismatch := true }

def clearFeedOnlyPause (row : Deployment) (now : Time) : Option Deployment :=
  if isFeedOnlyPause row then some (resumedRow row now) else none

def clearDataGapOnlyPause (evaluatedThrough : Time) (row : Deployment) (now : Time) :
    Option Deployment :=
  if isDataGapOnlyPause row = false ∨ row.lastEvaluatedBar ≠ some evaluatedThrough then none
  else some (resumedRow row now)

/-- `_pause_five_minute_live_if_feed_down`: what it writes. -/
def pauseFiveMinuteLiveIfFeedDown (requiresLiveUserFeed connected : Bool) (row : Deployment)
    (now : Time) : Option Deployment :=
  if row.mode ≠ .live then none
  else if requiresLiveUserFeed = false then none
  else if connected then clearFeedOnlyPause row now
  else if row.status ≠ .running then none
  else some (withRuntime row now
    { status := some .paused, mismatchDetail := some userFeedPauseDetail })

/-! ## The other writers -/

def commandForStatus (status : DeploymentStatus) (flatten : Bool) : LifecycleCommand :=
  match status with
  | .paused => .stopNewEntries
  | .running => .none
  | .stopped => if flatten then .flatten else .managedShutdown

/-- `set_deployment_status`, past its strategy checks: the operator's commands. -/
def setDeploymentStatus (status : DeploymentStatus) (flatten : Bool) (row : Deployment)
    (now : Time) : Option Deployment :=
  if row.status = .stopped ∧ status ≠ .stopped then none
  else if status = .running ∧ row.status = .running then none
  else some (withRuntime row now
    { status := some status
      lifecycleCommand := some (commandForStatus status flatten)
      clearMismatch := true })

/-- `_pause_running` of the portfolio supervisor, on one of its running books. -/
def pauseSleeve (detail : String) (row : Deployment) (now : Time) : Option Deployment :=
  if row.status ≠ .running then none
  else some (withRuntime row now
    { status := some .paused
      lifecycleCommand := some .stopNewEntries
      mismatchDetail := some detail })

/-- `_may_pause_for_failures`, past the count. -/
def mayPauseForFailures (row : Deployment) : Bool :=
  row.status = .running ∧ row.lifecycleCommand = .none ∧ orText row.mismatchDetail none = none ∧
    row.dailyLossLatched = false ∧ row.drawdownLatched = false

/-- `_pause_repeatedly_failing_books`, on one book. -/
def pauseRepeatedlyFailing (detail : String) (row : Deployment) (now : Time) :
    Option Deployment :=
  if mayPauseForFailures row then pauseSleeve detail row now else none

/-- A pause that looks at no status: `_prepare_live` without a broker, a missing HTF or
indicator window, a missing published identity. -/
def pausedWith (detail : String) (row : Deployment) (now : Time) : Deployment :=
  withRuntime row now { status := some .paused, mismatchDetail := some detail }

/-- A note that keeps the status: `_await_flat_confirmation`, `_note_flatten_awaiting_price`,
the de-risk notes. -/
def notedRow (detail : String) (row : Deployment) (now : Time) : Deployment :=
  withRuntime row now { mismatchDetail := some detail }

/-- `_note_broker_unavailable` and the note of a stopped book without its strategy. -/
def noteStopped (detail : String) (row : Deployment) (now : Time) : Option Deployment :=
  if row.mismatchDetail ≠ none then none
  else some (withRuntime row now { status := some .stopped, mismatchDetail := some detail })

/-- `_clear_confirmed_read_fault`, `_clear_broker_unavailable`, a stale position fault. -/
def clearedRow (row : Deployment) (now : Time) : Deployment :=
  withRuntime row now { clearMismatch := true }

/-- A requested flatten that is flat settles as STOPPED. -/
def settledRow (row : Deployment) (now : Time) : Deployment :=
  withRuntime row now { status := some .stopped, clearMismatch := true, pendingEntryBars := some 0 }

/-- Every writer of a deployment row but fills, funding, leases, retentions and peers' breaker
pauses. -/
inductive Writer where
  | feedGate (requiresLiveUserFeed connected : Bool)
  | dataGap (reason : GapReason)
  | missingCandles (liveBroker : Bool)
  | clearDataGap (due : List Time)
  | fault (detail : Reason)
  | pauseAlways (detail : Reason)
  | note (detail : Reason)
  | noteStopped (detail : Reason)
  | clearDetail
  | settle
  | latch (reason : BreakerReason)
  | runtime
  | operate (status : DeploymentStatus) (flatten : Bool)
  | portfolioLatch (detail : Reason)
  | failures (detail : Reason)

def Writer.write (writer : Writer) (row : Deployment) (now : Time) : Option Deployment :=
  match writer with
  | .feedGate requiresLiveUserFeed connected =>
    pauseFiveMinuteLiveIfFeedDown requiresLiveUserFeed connected row now
  | .dataGap reason => pauseRunningForDataGap reason row now
  | .missingCandles liveBroker => pauseRunningForMissingCandles liveBroker row now
  | .clearDataGap due =>
    match due.getLast? with
    | none => none
    | some newest => clearDataGapOnlyPause newest row now
  | .fault detail => some (pausedRow row detail now)
  | .pauseAlways detail => some (pausedWith detail row now)
  | .note detail => some (notedRow detail row now)
  | .noteStopped detail => Execution.noteStopped detail row now
  | .clearDetail => some (clearedRow row now)
  | .settle => some (settledRow row now)
  | .latch reason =>
    if reason = .dailyLoss ∨ reason = .drawdown then some (latchedRow row reason now) else none
  | .runtime => some row
  | .operate status flatten => setDeploymentStatus status flatten row now
  | .portfolioLatch detail => pauseSleeve detail row now
  | .failures detail => pauseRepeatedlyFailing detail row now

/-- The fields that pauses and resumes look at, and the fence. -/
structure SameControl (planned row : Deployment) : Prop where
  id : row.id = planned.id
  revision : row.revision = planned.revision
  shown : row.shown = planned.shown
  holds : row.holds = planned.holds

/-- A scoped save writes the caller's control fields. -/
theorem scopedParent_sameControl {current : DeploymentSnapshot} {row : Deployment}
    (hid : current.deployment.id = row.id) (productId : String) :
    SameControl row (scopedParent current row productId) := by
  unfold scopedParent
  split
  · exact ⟨hid, rfl, rfl, rfl⟩
  · exact ⟨hid, rfl, rfl, rfl⟩

/-! ## Retention -/

/-- The detail a retention writes. -/
def retainedDetail (startedDetail firstFault : Option String) : Option String :=
  if firstFault.isSome then firstFault else startedDetail

/-- `_retain_reconcile_supervision` saves a row. -/
def retains (deployment : Deployment) (startedStatus : DeploymentStatus)
    (startedDetail firstFault : Option String) : Bool :=
  ¬ (retainedStatus startedStatus deployment.status firstFault = deployment.status ∧
      retainedDetail startedDetail firstFault = deployment.mismatchDetail) ∧
    ¬ (startedStatus = .running ∧ firstFault = none)

def retainedRow (deployment : Deployment) (startedStatus : DeploymentStatus)
    (startedDetail firstFault : Option String) (now : Time) : Deployment :=
  withRuntime deployment now
    { status := some (retainedStatus startedStatus deployment.status firstFault)
      mismatchDetail := retainedDetail startedDetail firstFault
      clearMismatch := retainedDetail startedDetail firstFault = none }

end Thytrader.Execution
