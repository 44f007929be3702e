import Thytrader.Portfolios.Rules

/-!
# Manager proposals

`portfolios/proposals.py` and the settlements of `portfolios/manager.py`. A proposal
names a change, waits as `pending` or is applied within the manager's permissions, and
is decided once. A settlement is what the store writes when a proposal is created or
decided: the proposal, the portfolio plan of an applied rebalance or add-sleeve, and the
journal.

Mirroring notes: the evidence a proposal cites is recorded and read by no rule, so it is
left out; `weight_moved` travels as canonical decimal text and is kept as its number.
-/

namespace Thytrader.Portfolios

open Lib

/-! ## Changes and proposals -/

/-- `RebalanceChange`: new weights for every sleeve, optionally the cash reserve. -/
structure RebalanceChange where
  weights : List WeightAssignment
  cashReserveFraction : Option ReserveFractionText := none
  nonempty : weights ≠ [] := by decide
  atMostMaxSleeves : weights.length ≤ maxSleeves := by decide
  deriving DecidableEq, Repr

structure AddSleeveChange where
  strategyId : Uuid
  weightFraction : WeightFractionText
  note : Option String := none
  deriving DecidableEq, Repr

inductive ProposalChange where
  | rebalance (change : RebalanceChange)
  | pauseSleeve (sleeveId : Uuid)
  | resumeSleeve (sleeveId : Uuid)
  | addSleeve (change : AddSleeveChange)
  deriving DecidableEq, Repr

inductive ProposalKind where
  | rebalance
  | pauseSleeve
  | resumeSleeve
  | addSleeve
  deriving DecidableEq, Repr

def ProposalChange.kind : ProposalChange → ProposalKind
  | .rebalance _ => .rebalance
  | .pauseSleeve _ => .pauseSleeve
  | .resumeSleeve _ => .resumeSleeve
  | .addSleeve _ => .addSleeve

def ProposalChange.strategyId : ProposalChange → Option Uuid
  | .addSleeve change => some change.strategyId
  | _ => none

inductive ProposalStatus where
  | pending
  | applied
  | declined
  | failed
  | expired
  deriving DecidableEq, Repr

/-- The literal itself. -/
def ProposalStatus.text : ProposalStatus → String
  | .pending => "pending"
  | .applied => "applied"
  | .declined => "declined"
  | .failed => "failed"
  | .expired => "expired"

inductive DecidedBy where
  | operator
  | manager
  | system
  deriving DecidableEq, Repr

/-- `PROPOSAL_TTL`: seven days. -/
def proposalTtl : Duration := 7 * 86400 * 1000000

/-- `REBALANCE_BUDGET_WINDOW`: seven days. -/
def rebalanceBudgetWindow : Duration := 7 * 86400 * 1000000

structure ProposalSubmitRequest where
  revision : Nat
  change : ProposalChange
  rationale : String

structure ProposalDecisionRequest where
  note : Option String := none
  iUnderstandLive : Bool := false

/-- `Proposal`: one stored proposal and its outcome. -/
structure Proposal where
  proposalId : Uuid
  portfolioId : Uuid
  kind : ProposalKind
  status : ProposalStatus
  summary : String
  rationale : String
  change : ProposalChange
  baseRevision : Nat
  channel : JournalChannel
  approvalReason : Option String := none
  weightMoved : Option Decimal := none
  createdAt : Time
  expiresAt : Time
  decidedAt : Option Time := none
  decidedBy : Option DecidedBy := none
  decisionNote : Option String := none
  autoApplied : Bool := false
  appliedRevision : Option Nat := none
  failureCode : Option String := none
  failureMessage : Option String := none
  deriving DecidableEq, Repr

/-- `ProposalSettlement`: what the store writes in one transaction. -/
structure ProposalSettlement where
  proposal : Proposal
  plan : Option MutationPlan
  journal : List JournalEntry
  deriving DecidableEq, Repr

/-! ## Approval requirements -/

structure ApprovalRequirement where
  autoApply : Bool
  reason : Option String
  weightMoved : Option Decimal := none
  deriving DecidableEq, Repr

/-- `weight_moved`: the larger of total increases and total decreases. -/
def weightMoved (aggregate : PortfolioAggregate) (change : RebalanceChange) : Outcome Decimal := do
  require (namesEverySleeve aggregate change.weights = true)
    (.validation "portfolio_weights_incomplete"
      "A rebalance must name every sleeve exactly once (propose removing a sleeve by pausing it instead).")
  let proposed := assignedWeight change.weights
  let increases := (aggregate.rows.map (fun row =>
    max 0 (proposed row.sleeveId - row.weightFraction))).sum
  let decreases := (aggregate.rows.map (fun row =>
    max 0 (row.weightFraction - proposed row.sleeveId))).sum
  return max increases decreases

def rebalanceRequirement (aggregate : PortfolioAggregate) (moved movedThisWeek : Decimal) :
    ApprovalRequirement :=
  let portfolio := aggregate.portfolio
  let permissions := portfolio.manager.permissions
  let budget := permissions.maxWeightChangePerWeek.val
  let remaining := max 0 (budget - movedThisWeek)
  if portfolio.mode = .live then
    ⟨false, some "This is a live portfolio: a rebalance moves real capital and needs approval.",
      some moved⟩
  else if permissions.mayRebalance = false then
    ⟨false, some "Rebalancing needs approval: may_rebalance is off.", some moved⟩
  else if remaining < moved then
    ⟨false, some ("Moves " ++ percentText moved ++ "; only " ++ percentText remaining ++ " of the " ++
      percentText budget ++ " weekly auto-apply budget is left."), some moved⟩
  else ⟨true, none, some moved⟩

def approvalRequirement (aggregate : PortfolioAggregate) (change : ProposalChange)
    (movedThisWeek : Decimal) : Outcome ApprovalRequirement :=
  match change with
  | .pauseSleeve _ =>
    if aggregate.portfolio.manager.permissions.mayPauseSleeves then .ok ⟨true, none, none⟩
    else .ok ⟨false, some "Pausing a sleeve needs approval: may_pause_sleeves is off.", none⟩
  | .resumeSleeve _ =>
    .ok ⟨false, some "Resuming a sleeve always needs a person's approval.", none⟩
  | .addSleeve _ => .ok ⟨false, some "Adding a sleeve always needs a person's approval.", none⟩
  | .rebalance change => do
    let moved ← weightMoved aggregate change
    return rebalanceRequirement aggregate moved movedThisWeek

/-! ## Texts -/

/-- `names.get(sleeve_id, default)`: a dict keeps an id's last name. -/
def sleeveName (aggregate : PortfolioAggregate) (sleeveId : Uuid) (default : String) : String :=
  match aggregate.sleeves.reverse.find? (fun view => view.sleeve.sleeveId = sleeveId) with
  | some view => view.strategy.name
  | none => default

def proposalSummary (aggregate : PortfolioAggregate) (change : ProposalChange)
    (strategyName : Option String) : String :=
  match change with
  | .pauseSleeve sleeveId => "Pause sleeve “" ++ sleeveName aggregate sleeveId "unknown sleeve" ++ "”."
  | .resumeSleeve sleeveId =>
    "Resume sleeve “" ++ sleeveName aggregate sleeveId "unknown sleeve" ++ "”."
  | .addSleeve change =>
    let name := (orText strategyName none).getD (String.ofList (uuidText change.strategyId))
    "Add sleeve “" ++ name ++ "” at " ++ percentText change.weightFraction.val ++ "."
  | .rebalance change =>
    let current (sleeveId : Uuid) : Option Decimal :=
      (aggregate.rows.reverse.find? (fun row => row.sleeveId = sleeveId)).map (·.weightFraction)
    let moves := change.weights.filterMap (fun item =>
      (current item.sleeveId).bind (fun weight =>
        if weight = item.weightFraction.val then none
        else some (sleeveName aggregate item.sleeveId "unknown" ++ " " ++ percentText weight ++ " → " ++
          percentText item.weightFraction.val)))
    let reserve := match change.cashReserveFraction with
      | none => []
      | some reserve =>
        if reserve.val = aggregate.portfolio.cashReserveFraction then []
        else ["cash reserve " ++ percentText aggregate.portfolio.cashReserveFraction ++ " → " ++
          percentText reserve.val]
    let text := if moves ++ reserve = [] then "no weight changes" else "; ".intercalate (moves ++ reserve)
    clipText ("Rebalance: " ++ text ++ ".") 500

def kindWords : JournalKind → String
  | .proposalSubmitted => "Manager proposed"
  | .proposalApproved => "Approved"
  | .proposalDeclined => "Declined"
  | .proposalFailed => "Could not apply"
  | _ => ""

def proposalSuffix (proposal : Proposal) (kind : JournalKind) : String :=
  match kind with
  | .proposalSubmitted =>
    if proposal.status = .pending ∧ proposal.approvalReason = none then
      " (auto-applies within the manager's permissions)"
    else if proposal.status = .pending then " (waiting for approval)"
    else if proposal.autoApplied then " (auto-applied)"
    else ""
  | .proposalFailed =>
    match orText proposal.failureMessage none with
    | none => ""
    | some message => ": " ++ message
  | _ => ""

def proposalEntry (current : PortfolioAggregate) (proposal : Proposal) (kind : JournalKind)
    (context : MutationContext) : JournalEntry :=
  journalEntry current.portfolio.portfolioId kind context
    (kindWords kind ++ ": " ++ proposal.summary ++ proposalSuffix proposal kind)
    current.portfolio.revision
    { reason := some .managerProposal
      proposalId := some proposal.proposalId
      rationale := some proposal.rationale
      note := proposal.decisionNote }

/-! ## Planning a change -/

/-- `_tag_plan`: the plan's entries are made on a manager proposal. -/
def tagPlan (plan : MutationPlan) (proposalId : Uuid) : MutationPlan :=
  { plan with journal := plan.journal.map (fun entry => { entry with
      detail := { entry.detail with
        reason := some .managerProposal, proposalId := some proposalId } }) }

/-- A plan must be there: `plan_set_weights` answers `None` for weights that match. -/
def requireChange : Option MutationPlan → Outcome MutationPlan
  | some plan => .ok plan
  | none => .error (.validation "portfolio_proposal_no_change"
      "These weights already match the portfolio.")

def rebalanceRequest (current : PortfolioAggregate) (change : RebalanceChange) :
    SetWeightsRequest where
  revision := current.portfolio.revision
  weights := change.weights
  cashReserveFraction := change.cashReserveFraction
  nonempty := change.nonempty
  atMostMaxSleeves := change.atMostMaxSleeves

def addSleeveRequest (current : PortfolioAggregate) (change : AddSleeveChange) :
    SleeveAddRequest where
  revision := current.portfolio.revision
  strategyId := change.strategyId
  weightFraction := change.weightFraction
  note := change.note

/-- `_plan_change`. `sleeveId` is the id minted for an added sleeve. -/
def planChange (current : PortfolioAggregate) (change : ProposalChange)
    (strategy : Option SleeveStrategy) (context : MutationContext) (proposalId sleeveId : Uuid) :
    Outcome (Option MutationPlan) :=
  match change with
  | .rebalance change => do
    let plan ← planSetWeights current (rebalanceRequest current change) context
    let plan ← requireChange plan
    return some (tagPlan plan proposalId)
  | .addSleeve change =>
    match strategy with
    | none => .error (.validation "portfolio_proposal_invalid"
        "An add-sleeve proposal must name a strategy.")
    | some strategy => do
      let plan ← planAddSleeve current strategy (addSleeveRequest current change) sleeveId context
      return some (tagPlan plan proposalId)
  | .pauseSleeve _ | .resumeSleeve _ => .ok none

theorem planChange_keeps {current : PortfolioAggregate} {change : ProposalChange}
    {strategy : Option SleeveStrategy} {context : MutationContext} {proposalId sleeveId : Uuid}
    {plan : MutationPlan}
    (h : planChange current change strategy context proposalId sleeveId = .ok (some plan))
    (hcurrent : Sound current.portfolio current.rows) (hfresh : FreshIds current.rows [sleeveId]) :
    Keeps current [sleeveId] plan := by
  cases change with
  | pauseSleeve | resumeSleeve => cases h
  | rebalance =>
    obtain ⟨planned, hplanned, h⟩ := bind_eq_ok h
    obtain ⟨checked, hchecked, h⟩ := bind_eq_ok h
    cases h
    cases planned with
    | none => exact absurd hchecked (by simp [requireChange])
    | some =>
      cases hchecked
      have hkeeps := planSetWeights_keeps hplanned hcurrent
      refine ⟨hkeeps.advances, hkeeps.sound, fun sleeve hsleeve => ?_⟩
      have hknown := hkeeps.known sleeve hsleeve
      rw [List.append_nil] at hknown
      exact List.mem_append_left _ hknown
  | addSleeve =>
    cases strategy with
    | none => exact absurd h (by simp [planChange])
    | some =>
      obtain ⟨planned, hplanned, h⟩ := bind_eq_ok h
      cases h
      have hkeeps := planAddSleeve_keeps hplanned hcurrent hfresh
      exact ⟨hkeeps.advances, hkeeps.sound, hkeeps.known⟩

/-! ## Settlements -/

def requirePending (proposal : Proposal) : Outcome Unit :=
  require (proposal.status = .pending) (.conflict "portfolio_proposal_not_pending"
    ("This proposal is " ++ proposal.status.text ++ "; only a pending proposal can be decided."))

/-- `_submission`: a new proposal, pending or applied when it may be. -/
def submission (current : PortfolioAggregate) (request : ProposalSubmitRequest) (moved : Decimal)
    (strategy : Option SleeveStrategy) (proposalId sleeveId : Uuid) (context : MutationContext) :
    Outcome ProposalSettlement := do
  requireRevision current.portfolio request.revision
  let change := request.change
  let plan ← planChange current change strategy context proposalId sleeveId
  let requirement ← approvalRequirement current change moved
  let applied := requirement.autoApply && decide (change.kind = .rebalance)
  let proposal : Proposal := {
    proposalId := proposalId
    portfolioId := current.portfolio.portfolioId
    kind := change.kind
    status := if applied then .applied else .pending
    summary := proposalSummary current change (strategy.map (·.name))
    rationale := request.rationale
    change := change
    baseRevision := current.portfolio.revision
    channel := context.channel
    approvalReason := requirement.reason
    weightMoved := requirement.weightMoved
    createdAt := context.occurredAt
    expiresAt := context.occurredAt + proposalTtl
    decidedAt := if applied then some context.occurredAt else none
    decidedBy := if applied then some .manager else none
    autoApplied := applied
    appliedRevision := if applied then plan.map (·.portfolio.revision) else none }
  return {
    proposal := proposal
    plan := if applied then plan else none
    journal := [proposalEntry current proposal .proposalSubmitted context] }

def decided (proposal : Proposal) (status : ProposalStatus) (decidedBy : DecidedBy)
    (decidedAt : Time) (note : Option String := none) (autoApplied : Bool := false)
    (appliedRevision : Option Nat := none) (failureCode : Option String := none)
    (failureMessage : Option String := none) : Proposal :=
  { proposal with
    status := status
    decidedBy := some decidedBy
    decidedAt := some decidedAt
    decisionNote := note
    autoApplied := autoApplied
    appliedRevision := appliedRevision
    failureCode := failureCode
    failureMessage := failureMessage }

def failure (current : PortfolioAggregate) (stored : Proposal) (code message : String)
    (context : MutationContext) : Outcome ProposalSettlement := do
  requirePending stored
  let decidedBy := if context.actor = .operator then .operator else .system
  let failed := decided stored .failed decidedBy context.occurredAt none false none
    (some (clipText code 64)) (some (clipText message 500))
  let system : MutationContext := ⟨.system, .system, context.occurredAt⟩
  return ⟨failed, none, [proposalEntry current failed .proposalFailed system]⟩

/-- `_closing`: approve after the runtime change, or decline. -/
def closing (current : PortfolioAggregate) (stored : Proposal) (status : ProposalStatus)
    (context : MutationContext) (note : Option String) : Outcome ProposalSettlement := do
  requirePending stored
  let appliedRevision := if status = .applied then some current.portfolio.revision else none
  let closed := decided stored status .operator context.occurredAt note false appliedRevision
  let kind := if status = .applied then .proposalApproved else .proposalDeclined
  return ⟨closed, none, [proposalEntry current closed kind context]⟩

def autoApplied (current : PortfolioAggregate) (stored : Proposal) (context : MutationContext) :
    Outcome ProposalSettlement := do
  requirePending stored
  return ⟨decided stored .applied .manager context.occurredAt none true
    (some current.portfolio.revision), none, []⟩

/-- The code and the text of a `PortfolioValidationError`; `none` for any other failure. -/
def PortfolioError.validationText : PortfolioError → Option (String × String)
  | .validation code message => some (code, message)
  | .conflict code message => some (code, message)
  | .sleeveExists _ => some ("portfolio_sleeve_exists",
      "This strategy is already a sleeve of the portfolio; change its weight instead.")
  | _ => none

/-- What `_approval` settles once the change is planned, or refused. -/
def settlePlanned (current : PortfolioAggregate) (stored : Proposal) (note : Option String)
    (context : MutationContext) : Outcome (Option MutationPlan) → Outcome ProposalSettlement
  | .error error =>
    match error.validationText with
    | some (code, message) => failure current stored code message context
    | none => .error error
  | .ok none =>
    failure current stored "portfolio_proposal_invalid" "This proposal makes no portfolio change."
      context
  | .ok (some plan) =>
    let approved := decided stored .applied .operator context.occurredAt note false
      (some plan.portfolio.revision)
    .ok ⟨approved, some plan, [proposalEntry current approved .proposalApproved context]⟩

/-- `_approval`: a rebalance or add-sleeve against the portfolio as it is now. -/
def approval (current : PortfolioAggregate) (stored : Proposal) (strategy : Option SleeveStrategy)
    (note : Option String) (context : MutationContext) (sleeveId : Uuid) :
    Outcome ProposalSettlement := do
  requirePending stored
  settlePlanned current stored note context
    (planChange current stored.change strategy context stored.proposalId sleeveId)

end Thytrader.Portfolios
