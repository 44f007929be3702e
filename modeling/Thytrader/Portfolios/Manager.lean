import Thytrader.Lib.Program
import Thytrader.Portfolios.Store
import Thytrader.Trading.Exposure
import Thytrader.Trading.Memory

/-!
# The manager loop

`portfolios/manager.py` with the runtime actions it takes (`portfolios/runtime.py`,
`runtime_guards.py`, `runtime_outcomes.py`, `deployment.py`) and `set_deployment_status` of
`execution/service.py`. Submitting, approving and declining are programs over awaited calls on the
portfolio and the execution store; other calls run between any two of them.

A rebalance or add-sleeve is settled in one locked section. A pause or a resume first
changes the sleeve's deployment in the execution store and settles the proposal
afterwards.

Mirroring notes:
- The manager always names one sleeve, so `_targets` is that sleeve's book; pausing a whole
  portfolio is left out.
- Calls outside both stores (the risk policy's safeguards, the published strategy, the breaker
  state) answer what they like. The audit event is left out: its failure is swallowed and nothing
  reads it.
- `save_deployment` is tagged with its proposal for the runs to speak of; the store ignores the tag.
-/

namespace Thytrader.Portfolios

open Lib
open Trading

/-! ## Calls -/

structure ProposalRef where
  portfolioId : Uuid
  proposalId : Uuid
  deriving DecidableEq, Repr

inductive BreakerReason where
  | portfolioDailyLossStop
  | portfolioDrawdownStop
  deriving DecidableEq, Repr

/-- What `convergence_policy_check` reads of a published strategy: whether it carries the policy,
else the refusal and the warning. -/
structure PublishedPolicy where
  convergence : Bool
  refusal : String
  warning : String

/-- The awaited calls. -/
inductive ManagerOp where
  | expireProposals (now : Time)
  | get (portfolioId : Uuid)
  | getProposal (ref : ProposalRef)
  | countPending (portfolioId : Uuid)
  | createProposal (ref : ProposalRef) (request : ProposalSubmitRequest) (sleeveId : Uuid)
      (context : MutationContext)
  | settleProposal (ref : ProposalRef) (strategyId : Option Uuid) (settler : Settler)
  | runtimeState (portfolioId : Uuid)
  | listDeployments
  | requireConvergenceWarmup
  | getDeployment (deploymentId : Uuid)
  | loadPublished (fingerprint : String)
  | saveDeployment (ref : ProposalRef) (deployment : Deployment) (expectedRevision : Int)
  | appendJournal (entry : JournalEntry)

/-- What a call answers. -/
def ManagerOp.Answer : ManagerOp → Type
  | .expireProposals _ => Unit
  | .get _ => Outcome PortfolioAggregate
  | .getProposal _ => Outcome Proposal
  | .countPending _ => Outcome Nat
  | .createProposal _ _ _ _ => Outcome Proposal
  | .settleProposal _ _ _ => Outcome Proposal
  | .runtimeState _ => Outcome (Option BreakerReason)
  | .listDeployments => List Deployment
  | .requireConvergenceWarmup => Bool
  | .getDeployment _ => Result DeploymentSnapshot
  | .loadPublished _ => Result PublishedPolicy
  | .saveDeployment _ _ _ => Result Deployment
  | .appendJournal _ => Outcome Unit

/-- A coroutine over those calls. -/
abbrev ManagerProgram (α : Type) := Program PortfolioError ManagerOp ManagerOp.Answer α

/-- Await one call. -/
def ask (op : ManagerOp) : ManagerProgram op.Answer := .perform op .done

/-- Raise a failed answer, continue with a good one. -/
def orRaise {α : Type} (answer : Outcome α) : ManagerProgram α := Program.ofExcept answer

/-! ## Sleeve books -/

/-- `members`: the portfolio's deployments by descending creation time and printed id; the sort is
stable. -/
def members (deployments : List Deployment) (portfolioId : Uuid) : List Deployment :=
  (deployments.filter (fun item => item.portfolioId = some portfolioId)).insertionSort
    (fun a b => b.createdAt < a.createdAt ∨ (a.createdAt = b.createdAt ∧ b.id.toNat ≤ a.id.toNat))

/-- `_current_book`: the sleeve's running or paused book, else its newest. -/
def currentBook (tagged : List Deployment) (strategyId : Uuid) : Option Deployment :=
  let mine := tagged.filter (fun item => item.strategyId = some strategyId)
  (mine.filter occupiesRunningSlot).head?.or mine.head?

/-- `_sleeve_book` of `sleeve_books`: the sleeve's view and its current book. -/
def sleeveBook (aggregate : PortfolioAggregate) (deployments : List Deployment) (sleeveId : Uuid) :
    Outcome (SleeveView × Option Deployment) := do
  let view ← aggregate.sleeve sleeveId
  let tagged := members deployments aggregate.portfolio.portfolioId
  return (view, currentBook tagged view.sleeve.strategyId)

def deploymentMode (aggregate : PortfolioAggregate) : DeploymentMode :=
  match aggregate.portfolio.mode with
  | .live => .live
  | .paper => .paper

/-! ## Status changes -/

/-- `SleeveOutcomeKind`, the outcomes of a pause and a resume. -/
inductive SleeveOutcomeKind where
  | paused
  | resumed
  | unchanged
  | failed
  deriving DecidableEq, Repr

/-- The literal itself. -/
def SleeveOutcomeKind.text : SleeveOutcomeKind → String
  | .paused => "paused"
  | .resumed => "resumed"
  | .unchanged => "unchanged"
  | .failed => "failed"

structure SleeveOutcome where
  sleeveId : Uuid
  strategyId : Uuid
  strategyName : String
  outcome : SleeveOutcomeKind
  deploymentId : Option Uuid
  message : Option String

/-- `_outcome`. -/
def sleeveOutcome (view : SleeveView) (deployment : Option Deployment) (outcome : SleeveOutcomeKind)
    (message : Option String) : SleeveOutcome where
  sleeveId := view.sleeve.sleeveId
  strategyId := view.sleeve.strategyId
  strategyName := view.strategy.name
  outcome := outcome
  deploymentId := deployment.map (·.id)
  message := message

/-- `command_for_status`, without `flatten`. -/
def commandForStatus : DeploymentStatus → LifecycleCommand
  | .paused => .stopNewEntries
  | .running => .none
  | .stopped => .managedShutdown

def failureText : Failure → String
  | .storeError message => message
  | .conflict message => message
  | .leaseTaken message => message
  | .valueError message => message
  | .simulation message => message
  | .signalEvaluation message => message
  | .keyError => ""
  | .divisionByZero => ""

def convergenceCheck (deployment : Deployment) (status : DeploymentStatus) (enforce : Bool) :
    ManagerProgram (Result (List String)) :=
  if status = .running ∧ deployment.kind = .strategy then
    match deployment.strategyFingerprint with
    | none => return .error (.conflict "This deployment has no strategy snapshot to resume.")
    | some fingerprint => do
      match ← ask (.loadPublished fingerprint) with
      | .error failure => return .error failure
      | .ok published =>
        if published.convergence then return .ok []
        else if enforce then return .error (.conflict published.refusal)
        else return .ok [published.warning]
  else return .ok []

/-- `save_deployment` under the revision that was read, then the row again. -/
def saveStatus (ref : ProposalRef) (snapshot : DeploymentSnapshot) (deploymentId : Uuid)
    (status : DeploymentStatus) (now : Time) (warnings : List String) :
    ManagerProgram (Result (DeploymentSnapshot × List String)) := do
  let updated := withRuntime snapshot.deployment now
    { status := some status, lifecycleCommand := some (commandForStatus status),
      clearMismatch := true }
  match ← ask (.saveDeployment ref updated snapshot.deployment.revision) with
  | .error failure => return .error failure
  | .ok _ =>
    match ← ask (.getDeployment deploymentId) with
    | .error failure => return .error failure
    | .ok written => return .ok (written, warnings)

/-- `set_deployment_status`: the written snapshot and the warnings, or the failure. -/
def setDeploymentStatus (ref : ProposalRef) (deploymentId : Uuid) (status : DeploymentStatus)
    (enforce : Bool) (now : Time) : ManagerProgram (Result (DeploymentSnapshot × List String)) := do
  match ← ask (.getDeployment deploymentId) with
  | .error failure => return .error failure
  | .ok snapshot =>
    let current := snapshot.deployment.status
    if current = .stopped ∧ status ≠ .stopped then
      return .error (.conflict "A stopped deployment cannot be resumed.")
    else if status = .running ∧ current = .running then return .ok (snapshot, [])
    else
      match ← convergenceCheck snapshot.deployment status enforce with
      | .error failure => return .error failure
      | .ok warnings => saveStatus ref snapshot deploymentId status now warnings

/-- `" ".join(warnings) or None`. -/
def joinedWarnings (warnings : List String) : Option String :=
  orText (some (" ".intercalate warnings)) none

/-- `_set_status`: a failure of the execution store is the outcome `failed`. -/
def setStatus (ref : ProposalRef) (view : SleeveView) (deployment : Deployment)
    (status : DeploymentStatus) (outcome : SleeveOutcomeKind) (now : Time) :
    ManagerProgram SleeveOutcome := do
  let enforce ← if status = .running then ask .requireConvergenceWarmup else pure false
  match ← setDeploymentStatus ref deployment.id status enforce now with
  | .error failure => return sleeveOutcome view (some deployment) .failed (some (failureText failure))
  | .ok (snapshot, warnings) =>
    return sleeveOutcome view (some snapshot.deployment) outcome (joinedWarnings warnings)

/-! ## Pausing and resuming one sleeve -/

/-- The two runtime actions of a proposal. -/
inductive RuntimeAction where
  | pause
  | resume
  deriving DecidableEq, Repr

/-- The status a book takes. -/
def RuntimeAction.status : RuntimeAction → DeploymentStatus
  | .pause => .paused
  | .resume => .running

/-- The outcome of a book that changed. -/
def RuntimeAction.outcome : RuntimeAction → SleeveOutcomeKind
  | .pause => .paused
  | .resume => .resumed

def RuntimeAction.kind : RuntimeAction → JournalKind
  | .pause => .deploymentPaused
  | .resume => .deploymentResumed

/-- `_VERBS`. -/
def RuntimeAction.verb : RuntimeAction → String
  | .pause => "Paused"
  | .resume => "Resumed"

/-- The message of a book that is already where the action puts it. -/
def RuntimeAction.already : RuntimeAction → String
  | .pause => "Already paused."
  | .resume => "Already running."

/-- `utc_millisecond`: microseconds truncated to the millisecond. -/
def utcMillisecond (time : Time) : Time := time / 1000 * 1000

/-- `_millisecond`. -/
def millisecondContext (context : MutationContext) : MutationContext :=
  { context with occurredAt := utcMillisecond context.occurredAt }

/-- `_require_deployed` for one sleeve. -/
def requireDeployed (book : Option Deployment) : Outcome Unit :=
  require (book.any occupiesRunningSlot = true) (.conflict "portfolio_sleeve_not_deployed"
    "This sleeve has no running or paused bot.")

/-- `_journal_action`: one entry when a book changed or refused. -/
def journalAction (aggregate : PortfolioAggregate) (action : RuntimeAction) (outcome : SleeveOutcome)
    (context : MutationContext) (note : String) : ManagerProgram Unit :=
  if outcome.outcome = .unchanged then return ()
  else do
    let changed := if outcome.outcome = .failed then [] else outcome.deploymentId.toList
    let summary := action.verb ++ " " ++ aggregate.portfolio.mode.text ++ " sleeve “" ++
      outcome.strategyName ++ "” (1 " ++ outcome.outcome.text ++ ")."
    orRaise (← ask (.appendJournal (journalEntry aggregate.portfolio.portfolioId action.kind context
      summary aggregate.portfolio.revision
      { sleeveId := some outcome.sleeveId
        strategyId := some outcome.strategyId
        strategyName := some (clipText outcome.strategyName 120)
        reason := some .managerProposal
        deploymentIds := changed
        note := some note })))

def changeBook (ref : ProposalRef) (action : RuntimeAction) (view : SleeveView)
    (book : Option Deployment) (now : Time) : ManagerProgram SleeveOutcome :=
  match book with
  | none => return sleeveOutcome view none .unchanged (some "Not deployed.")
  | some deployment =>
    if deployment.status = .stopped then
      return sleeveOutcome view (some deployment) .unchanged (some "Not deployed.")
    else if deployment.status = action.status then
      return sleeveOutcome view (some deployment) .unchanged (some action.already)
    else setStatus ref view deployment action.status action.outcome now

def requireLiveAcknowledgement (mode : DeploymentMode) (acknowledged : Bool) : Outcome Unit :=
  require (mode ≠ .live ∨ acknowledged = true) (.liveAcknowledgement
    ("Live trading spends real money: send i_understand_live=true only after the operator " ++
      "explicitly acknowledged live trading."))

def breakerLabel : BreakerReason → String
  | .portfolioDailyLossStop => "daily loss"
  | .portfolioDrawdownStop => "drawdown"

def requireBreakerClear : Option BreakerReason → Outcome Unit
  | none => .ok ()
  | some reason => .error (.conflict "portfolio_breaker_latched"
      ("The portfolio's " ++ breakerLabel reason ++
        " breaker is latched; reset it before starting or resuming sleeves."))

/-- The checks `resume` makes and `pause` does not. -/
def resumeChecks (aggregate : PortfolioAggregate) (portfolioId : Uuid) (liveAcknowledged : Bool) :
    ManagerProgram Unit := do
  orRaise (requireLiveAcknowledgement (deploymentMode aggregate) liveAcknowledged)
  orRaise (requireBreakerClear (← orRaise (← ask (.runtimeState portfolioId))))

/-- `PortfolioRuntimeService.pause` and `.resume` for one sleeve. -/
def runtimeAction (ref : ProposalRef) (action : RuntimeAction) (sleeveId : Uuid)
    (context : MutationContext) (liveAcknowledged : Bool) (note : String) (now : Time) :
    ManagerProgram SleeveOutcome := do
  let aggregate ← orRaise (← ask (.get ref.portfolioId))
  let deployments ← ask .listDeployments
  if action = .resume then resumeChecks aggregate ref.portfolioId liveAcknowledged
  let (view, book) ← orRaise (sleeveBook aggregate deployments sleeveId)
  orRaise (requireDeployed book)
  let outcome ← changeBook ref action view book now
  journalAction aggregate action outcome (millisecondContext context) note
  return outcome

def requireSleeveChanged (outcome : SleeveOutcome) : Outcome Unit :=
  require (outcome.outcome ≠ .failed) (.conflict "portfolio_sleeve_action_failed"
    ((orText outcome.message none).getD "The sleeve's book refused the change."))

/-! ## Deciding -/

def settleProposal (ref : ProposalRef) (strategyId : Option Uuid) (settler : Settler) :
    ManagerProgram Unit := do
  let _ ← orRaise (← ask (.settleProposal ref strategyId settler))
  let _ ← orRaise (← ask (.get ref.portfolioId))
  return ()

/-- `str(error)`. -/
def PortfolioError.text : PortfolioError → String
  | .notFound message => message
  | .sleeveNotFound message => message
  | .strategyNotFound message => message
  | .proposalNotFound message => message
  | .revisionConflict _ => "Portfolio was changed by another update; reload it and try again."
  | .validation _ message => message
  | .conflict _ message => message
  | .sleeveExists _ => "This strategy is already a sleeve of the portfolio; change its weight instead."
  | .liveAcknowledgement message => message
  | .strategyLibrary => ""
  | .valueError message => message

/-- `_fail`: record that the change could not be made. -/
def failProposal (ref : ProposalRef) (error : PortfolioError) (context : MutationContext) :
    ManagerProgram Unit :=
  let code := (error.validationText.map Prod.fst).getD "portfolio_error"
  settleProposal ref none (.fail code error.text context)

/-- `PortfolioConflictError`. -/
def PortfolioError.isConflict : PortfolioError → Bool
  | .conflict _ _ => true
  | _ => false

/-- A `PortfolioError`: every failure but those of another kind. -/
def PortfolioError.isPortfolioError : PortfolioError → Bool
  | .strategyLibrary | .valueError _ => false
  | _ => true

def ProposalChange.runtime : ProposalChange → Option (RuntimeAction × Uuid)
  | .pauseSleeve sleeveId => some (.pause, sleeveId)
  | .resumeSleeve sleeveId => some (.resume, sleeveId)
  | _ => none

def actThenSettle (ref : ProposalRef) (action : RuntimeAction) (sleeveId : Uuid)
    (context : MutationContext) (liveAcknowledged : Bool) (note : String) (now : Time)
    (catches : PortfolioError → Bool) (settler : Settler) : ManagerProgram Unit := do
  match ← (runtimeAction ref action sleeveId context liveAcknowledged note now).attempt with
  | .error error =>
    if catches error then failProposal ref error context else .raise error
  | .ok outcome =>
    match requireSleeveChanged outcome with
    | .error error => failProposal ref error context
    | .ok () => settleProposal ref none settler

def autoApplyRuntime (ref : ProposalRef) (proposal : Proposal) (context : MutationContext)
    (now : Time) : ManagerProgram Unit :=
  match proposal.change with
  | .pauseSleeve sleeveId =>
    actThenSettle ref .pause sleeveId context false
      ("Proposal " ++ String.ofList (uuidText proposal.proposalId)) now
      PortfolioError.isPortfolioError (.autoApply context)
  | _ => return ()

/-- `_pending`: the proposal, which must still be pending, and the current portfolio. -/
def pendingProposal (ref : ProposalRef) (now : Time) :
    ManagerProgram (Proposal × PortfolioAggregate) := do
  ask (.expireProposals (utcMillisecond now))
  let proposal ← orRaise (← ask (.getProposal ref))
  orRaise (requirePending proposal)
  let aggregate ← orRaise (← ask (.get ref.portfolioId))
  return (proposal, aggregate)

/-- `approve`. `sleeveId` is the id minted for an added sleeve. -/
def approve (ref : ProposalRef) (request : ProposalDecisionRequest) (context : MutationContext)
    (now : Time) (sleeveId : Uuid) : ManagerProgram Unit := do
  let (proposal, aggregate) ← pendingProposal ref now
  let context := millisecondContext context
  match proposal.change.runtime with
  | some (action, sleeve) =>
    if action = .resume then
      orRaise (requireLiveAcknowledgement (deploymentMode aggregate) request.iUnderstandLive)
    actThenSettle ref action sleeve context request.iUnderstandLive
      ("Approved proposal " ++ String.ofList (uuidText proposal.proposalId)) now
      PortfolioError.isConflict (.approveRuntime request.note context)
  | none => settleProposal ref proposal.change.strategyId (.approve request.note context sleeveId)

def decline (ref : ProposalRef) (request : ProposalDecisionRequest) (context : MutationContext)
    (now : Time) : ManagerProgram Unit := do
  let _ ← pendingProposal ref now
  settleProposal ref none (.decline request.note (millisecondContext context))

/-! ## Submitting -/

def maxPendingProposals : Nat := 20

/-- `_sleeve_status`: the status of the sleeve's current book, if it has one. -/
def sleeveStatus (aggregate : PortfolioAggregate) (deployments : List Deployment) (sleeveId : Uuid) :
    Option DeploymentStatus :=
  match sleeveBook aggregate deployments sleeveId with
  | .ok (_, book) => book.map (·.status)
  | .error _ => none

def requireApplicable (aggregate : PortfolioAggregate) (change : ProposalChange) :
    ManagerProgram Unit :=
  match change with
  | .addSleeve _ =>
    orRaise (require (aggregate.portfolio.manager.permissions.mayProposeSleeves = true)
      (.validation "portfolio_proposal_not_permitted"
        "may_propose_sleeves is off: the manager may not propose new sleeves."))
  | .rebalance _ => return ()
  | .pauseSleeve sleeveId => do
    let _ ← orRaise (aggregate.sleeve sleeveId)
    let deployments ← ask .listDeployments
    orRaise (require (sleeveStatus aggregate deployments sleeveId = some .running)
      (.conflict "portfolio_sleeve_not_running" "Only a running sleeve can be paused."))
  | .resumeSleeve sleeveId => do
    let _ ← orRaise (aggregate.sleeve sleeveId)
    let deployments ← ask .listDeployments
    orRaise (require (sleeveStatus aggregate deployments sleeveId = some .paused)
      (.conflict "portfolio_sleeve_not_paused" "Only a paused sleeve can be resumed."))
    let breaker ← orRaise (← ask (.runtimeState aggregate.portfolio.portfolioId))
    orRaise (require (breaker = none) (.conflict "portfolio_breaker_latched"
      ("A portfolio breaker is latched; only a person can reset it, and no sleeve resumes " ++
        "until then.")))

/-- `submit`. `ref` names the proposal id minted for it. -/
def submit (ref : ProposalRef) (request : ProposalSubmitRequest) (channel : JournalChannel)
    (now : Time) (sleeveId : Uuid) : ManagerProgram Unit := do
  let moment := utcMillisecond now
  ask (.expireProposals moment)
  let aggregate ← orRaise (← ask (.get ref.portfolioId))
  orRaise (requireRevision aggregate.portfolio request.revision)
  requireApplicable aggregate request.change
  let pending ← orRaise (← ask (.countPending ref.portfolioId))
  orRaise (require (pending < maxPendingProposals) (.conflict "portfolio_proposal_limit"
    (toString maxPendingProposals ++ " proposals already wait for a decision; ask a person to " ++
      "approve or decline them first.")))
  let context : MutationContext := ⟨.manager, channel, moment⟩
  let proposal ← orRaise (← ask (.createProposal ref request sleeveId context))
  let _ ← orRaise (← ask (.get ref.portfolioId))
  if proposal.status = .pending ∧ proposal.approvalReason = none then
    autoApplyRuntime ref proposal context now
  else return ()

/-- What a caller runs: a submission, an approval, a decline, or a read that expires. -/
inductive ManagerCall where
  | submit (ref : ProposalRef) (request : ProposalSubmitRequest) (channel : JournalChannel)
      (now : Time) (sleeveId : Uuid)
  | approve (ref : ProposalRef) (request : ProposalDecisionRequest) (context : MutationContext)
      (now : Time) (sleeveId : Uuid)
  | decline (ref : ProposalRef) (request : ProposalDecisionRequest) (context : MutationContext)
      (now : Time)
  | expire (now : Time)

def ManagerCall.program : ManagerCall → ManagerProgram Unit
  | .submit ref request channel now sleeveId => Portfolios.submit ref request channel now sleeveId
  | .approve ref request context now sleeveId => Portfolios.approve ref request context now sleeveId
  | .decline ref request context now => Portfolios.decline ref request context now
  | .expire now => ask (.expireProposals (utcMillisecond now))

def ManagerCall.ref : ManagerCall → ProposalRef
  | .submit ref _ _ _ _ => ref
  | .approve ref _ _ _ _ => ref
  | .decline ref _ _ _ => ref
  | .expire _ => ⟨0, 0⟩

end Thytrader.Portfolios
