import Thytrader.Portfolios.Floor

/-!
# When a proposal has changed something, it is applied

A rebalance or add-sleeve is decided and applied in one locked section. A pause or resume
is made first and recorded afterwards, and nothing keeps the proposal pending in between:
a decline, an expiry or another approval's failure can land there, so that a proposal
which reads as declined has resumed a sleeve (`declined_proposal_resumed`).

`Undisturbed` says which steps do that: a step that declines, fails or expires a pending
proposal while another call that has found it pending has made its change, or still may.
In every run without such a step a sleeve changes only for a proposal that ends applied
(`proposals_change_only_when_applied`).

What the programs do is said once, as a protocol each of them follows (`program_follows`).
-/

namespace Thytrader.Portfolios

open Lib List Option
open Trading

variable {settler : Settler} {tasks : List Task} {task : Task} {floor' : Floor} {event : Event}

/-! ## The protocol -/

/-- What a call knows: its stage, that its proposal is a pause or a resume, that its
portfolio is there, and deployments that are there. -/
structure Knowledge where
  stage : Stage
  runtime : Bool
  portfolio : Bool
  deployments : List Uuid

/-- Whether the proposal an answer shows is a pause or a resume. -/
def Knowledge.sees (k : Knowledge) : (op : ManagerOp) → op.Answer → Bool
  | .getProposal _, answer =>
    match answer with
    | .ok proposal => proposal.change.runtime.isSome
    | .error _ => k.runtime
  | .createProposal _ _ _ _, answer =>
    match answer with
    | .ok proposal => proposal.change.runtime.isSome
    | .error _ => k.runtime
  | _, _ => k.runtime

def Knowledge.reads (k : Knowledge) (ref : ProposalRef) : (op : ManagerOp) → op.Answer → Bool
  | .get portfolioId, answer =>
    match answer with
    | .ok _ => k.portfolio || decide (portfolioId = ref.portfolioId)
    | .error _ => k.portfolio
  | _, _ => k.portfolio

def Knowledge.finds (k : Knowledge) : (op : ManagerOp) → op.Answer → List Uuid
  | .getDeployment deploymentId, answer =>
    match answer with
    | .ok _ => deploymentId :: k.deployments
    | .error _ => k.deployments
  | _, _ => k.deployments

/-- What a call about `ref` may do. -/
def mayPerform (ref : ProposalRef) (k : Knowledge) : ManagerOp → Prop
  | .expireProposals _ => k.stage = .opened
  | .getProposal own => own = ref ∧ k.stage = .opened
  | .createProposal own _ _ _ => own = ref ∧ k.stage = .opened
  | .saveDeployment own _ _ => own = ref ∧ k.stage = .changing
  | .settleProposal own strategyId settler =>
    own = ref ∧ (settler.appliesRuntime = true → k.runtime = true) ∧
      (k.stage = .changed → settler.appliesRuntime = true ∧ strategyId = none ∧ k.portfolio = true)
  | _ => True

/-- Which answers it may get: neither store forgets what it has shown. -/
def mayAnswer (ref : ProposalRef) (k : Knowledge) : (op : ManagerOp) → op.Answer → Prop
  | .get portfolioId, answer =>
    match answer with
    | .ok aggregate => aggregate.portfolio.portfolioId = portfolioId
    | .error _ => True
  | .getDeployment deploymentId, answer =>
    match answer with
    | .ok _ => True
    | .error _ => deploymentId ∉ k.deployments
  | .appendJournal entry, answer =>
    match answer with
    | .ok _ => True
    | .error _ => k.portfolio = true → entry.portfolioId ≠ ref.portfolioId
  | _, _ => True

/-- The protocol of a call about `ref`. -/
def protocol (ref : ProposalRef) : Protocol ManagerOp ManagerOp.Answer Knowledge where
  require := mayPerform ref
  answers := mayAnswer ref
  learn k op answer :=
    ⟨k.stage.after op answer, k.sees op answer, k.reads ref op answer, k.finds op answer⟩

/-- Nothing learned yet. -/
def Knowledge.start : Knowledge := ⟨.opened, false, false, []⟩

/-- A call that has changed a deployment does not end there. -/
def Knowledge.Quiet (k : Knowledge) : Prop := k.stage ≠ .changed

/-- The program follows the protocol and ends quietly, raising or not. -/
abbrev Quietly {α : Type} (ref : ProposalRef) (k : Knowledge) (program : ManagerProgram α) : Prop :=
  Follows (protocol ref) k program (fun k' _ => k'.Quiet) Knowledge.Quiet

/-! ## The programs follow it -/

section

variable {ref : ProposalRef} {k : Knowledge} {raised : Knowledge → Prop} {op : ManagerOp}

theorem follows_ask {α : Type} {next : op.Answer → ManagerProgram α} {post : Knowledge → α → Prop}
    (hrequire : mayPerform ref k op)
    (hnext : ∀ answer, mayAnswer ref k op answer → Follows (protocol ref) ((protocol ref).learn k
      op answer) (next answer) post raised) :
    Follows (protocol ref) k (ask op >>= next) post raised := ⟨hrequire, hnext⟩

/-- A call that reads an outcome and raises its failure. -/
theorem follows_orRaise {α β : Type} {x : Outcome α} {next : α → ManagerProgram β}
    {post : Knowledge → β → Prop} (hok : ∀ value, x = .ok value → Follows (protocol ref) k (next value) post raised)
    (herror : raised k) : Follows (protocol ref) k (orRaise x >>= next) post raised := by
  cases x with
  | ok value => exact hok value rfl
  | error => exact herror

theorem convergenceCheck_follows (deployment : Deployment) (status : DeploymentStatus)
    (enforce : Bool) :
    Follows (protocol ref) k (convergenceCheck deployment status enforce) (fun k' _ => k' = k)
      raised := by
  unfold convergenceCheck
  split
  · split
    · exact rfl
    next fingerprint =>
      refine follows_ask trivial fun answer _ => ?_
      split
      · exact rfl
      · split
        · exact rfl
        · split
          · exact rfl
          · exact rfl
  · exact rfl

/-- What a status change leaves: nothing happened, or it was saved. -/
def SavedIf (k k' : Knowledge) (saved : Prop) : Prop :=
  k'.runtime = k.runtime ∧ k'.portfolio = k.portfolio ∧
    (k'.stage = .changing ∨ k'.stage = .changed ∧ saved)

section

variable (hstage : k.stage = .changing)
include hstage

theorem saveStatus_follows {snapshot : DeploymentSnapshot}
    {deploymentId : Uuid} (hknown : deploymentId ∈ k.deployments) (status : DeploymentStatus)
    (now : Time) (warnings : List String) :
    Follows (protocol ref) k (saveStatus ref snapshot deploymentId status now warnings)
      (fun k' result => SavedIf k k' (result.isOk = true)) raised := by
  refine follows_ask ⟨rfl, hstage⟩ fun answer _ => ?_
  split
  next failure => exact ⟨rfl, rfl, .inl hstage⟩
  next saved =>
    refine follows_ask trivial fun answer hanswer => ?_
    split
    -- the deployment was there before, so it is still there now
    next failure => exact absurd hknown hanswer
    next written => exact ⟨rfl, rfl, .inr ⟨rfl, rfl⟩⟩

theorem setDeploymentStatus_follows (deploymentId : Uuid)
    (status : DeploymentStatus) (enforce : Bool) (now : Time) :
    Follows (protocol ref) k (setDeploymentStatus ref deploymentId status enforce now)
      (fun k' result => SavedIf k k' (result.isOk = true)) raised := by
  refine follows_ask trivial fun answer _ => ?_
  split
  next failure => exact ⟨rfl, rfl, .inl hstage⟩
  next snapshot _ =>
    dsimp only
    split
    · exact ⟨rfl, rfl, .inl hstage⟩
    · split
      · exact ⟨rfl, rfl, .inl hstage⟩
      · refine Follows.bind (convergenceCheck_follows _ _ _) ?_
        rintro k' result rfl
        split
        next failure => exact ⟨rfl, rfl, .inl hstage⟩
        next warnings =>
          have hread : ((protocol ref).learn k (.getDeployment deploymentId)
            (.ok snapshot)).stage = .changing := hstage
          exact saveStatus_follows hread mem_cons_self _ _ _

theorem setStatus_follows (view : SleeveView) (deployment : Deployment) (status : DeploymentStatus)
    {outcome : SleeveOutcomeKind} (houtcome : outcome ≠ .failed) (now : Time) :
    Follows (protocol ref) k (setStatus ref view deployment status outcome now)
      (fun k' result => SavedIf k k' (result.outcome ≠ .failed)) raised := by
  have hset (enforce : Bool)
      {next : Result (DeploymentSnapshot × List String) → ManagerProgram SleeveOutcome}
      (hnext : ∀ result, ∃ settled : SleeveOutcome, next result = pure settled ∧
        (result.isOk = true → settled.outcome ≠ .failed)) :
      Follows (protocol ref) k
        (setDeploymentStatus ref deployment.id status enforce now >>= next)
        (fun k' result => SavedIf k k' (result.outcome ≠ .failed)) raised := by
    refine Follows.bind (setDeploymentStatus_follows hstage _ _ _ _) ?_
    intro k' result hsaved
    obtain ⟨settled, hpure, hok⟩ := hnext result
    rw [hpure]
    exact ⟨hsaved.1, hsaved.2.1, hsaved.2.2.imp_right fun h => ⟨h.1, hok h.2⟩⟩
  unfold setStatus
  split
  on_goal 1 => refine follows_ask trivial fun enforce _ => hset enforce ?_
  on_goal 2 => refine hset false ?_
  all_goals
    intro result
    cases result with
    | error failure => exact ⟨_, rfl, fun hok => absurd hok (by simp [Except.isOk, Except.toBool])⟩
    | ok saved => exact ⟨_, rfl, fun _ => houtcome⟩

end

theorem RuntimeAction.outcome_ne_failed (action : RuntimeAction) : action.outcome ≠ .failed := by
  cases action with
  | pause | resume => simp [RuntimeAction.outcome]

theorem changeBook_follows (hstage : k.stage = .changing) (action : RuntimeAction)
    (view : SleeveView) (book : Option Deployment) (now : Time) :
    Follows (protocol ref) k (changeBook ref action view book now)
      (fun k' result => SavedIf k k' (result.outcome ≠ .failed)) raised := by
  unfold changeBook
  split
  · exact ⟨rfl, rfl, .inl hstage⟩
  next deployment =>
    split
    · exact ⟨rfl, rfl, .inl hstage⟩
    · split
      · exact ⟨rfl, rfl, .inl hstage⟩
      · exact setStatus_follows hstage _ _ _ action.outcome_ne_failed _

/-- The portfolio was read, so its journal takes the entry. -/
theorem journalAction_follows (hportfolio : k.portfolio = true) {aggregate : PortfolioAggregate}
    (hid : aggregate.portfolio.portfolioId = ref.portfolioId) (action : RuntimeAction)
    (outcome : SleeveOutcome) (context : MutationContext) (note : String) :
    Follows (protocol ref) k (journalAction aggregate action outcome context note)
      (fun k' _ => k' = k) raised := by
  unfold journalAction
  split
  · exact rfl
  · refine follows_ask trivial fun answer hanswer => ?_
    match answer with
    | .ok () => exact rfl
    | .error error => exact absurd hid (hanswer hportfolio)

variable (aggregate : PortfolioAggregate)

theorem resumeChecks_follows (portfolioId : Uuid) (liveAcknowledged : Bool) (hraised : raised k) :
    Follows (protocol ref) k (resumeChecks aggregate portfolioId liveAcknowledged)
      (fun k' _ => k' = k) raised := by
  refine follows_orRaise (fun _ _ => ?_) hraised
  refine follows_ask trivial fun answer _ => ?_
  refine follows_orRaise (fun breaker _ => ?_) hraised
  exact Follows.ofExcept (fun _ _ => rfl) (fun _ _ => hraised)

/-- What a runtime action leaves for the settlement. -/
structure Acted (k : Knowledge) (outcome : SleeveOutcome) : Prop where
  runtime : k.runtime = true
  portfolio : k.portfolio = true
  stage : k.stage = .changing ∨ k.stage = .changed ∧ outcome.outcome ≠ .failed

/-- Before its change: the call has found its pause or resume pending. -/
structure Changing (k : Knowledge) : Prop where
  stage : k.stage = .changing
  runtime : k.runtime = true

theorem Changing.quiet (h : Changing k) : k.Quiet := by
  rw [Knowledge.Quiet, h.stage]
  simp

/-- An action raises only before it has saved. -/
theorem runtimeAction_follows (h : Changing k) (action : RuntimeAction) (sleeveId : Uuid)
    (context : MutationContext) (liveAcknowledged : Bool) (note : String) (now : Time) :
    Follows (protocol ref) k
      (runtimeAction ref action sleeveId context liveAcknowledged note now) Acted Changing := by
  refine follows_ask trivial fun answer hanswer => ?_
  match answer with
  | .error error => exact ⟨h.stage, h.runtime⟩
  | .ok aggregate =>
    have hchanging : Changing ((protocol ref).learn k (.get ref.portfolioId) (.ok aggregate)) :=
      ⟨h.stage, h.runtime⟩
    have hportfolio : ((protocol ref).learn k (.get ref.portfolioId) (.ok aggregate)).portfolio =
        true := by simp [protocol, Knowledge.reads]
    have hid : aggregate.portfolio.portfolioId = ref.portfolioId := hanswer
    generalize (protocol ref).learn k (.get ref.portfolioId) (.ok aggregate) = k' at hchanging hportfolio
    refine follows_ask trivial fun deployments _ => ?_
    have hrest : Follows (protocol ref) k' (do
        let found ← orRaise (sleeveBook aggregate deployments sleeveId)
        orRaise (requireDeployed found.2)
        let outcome ← changeBook ref action found.1 found.2 now
        journalAction aggregate action outcome (millisecondContext context) note
        return outcome) Acted Changing := by
      refine follows_orRaise (fun found _ => ?_) hchanging
      refine follows_orRaise (fun _ _ => ?_) hchanging
      refine Follows.bind (changeBook_follows hchanging.stage _ _ _ _) ?_
      intro k'' outcome hsaved
      refine Follows.bind (journalAction_follows (hsaved.2.1.trans hportfolio) hid _ _ _ _) ?_
      rintro _ _ rfl
      exact ⟨hsaved.1.trans hchanging.runtime, hsaved.2.1.trans hportfolio, hsaved.2.2⟩
    split
    · refine Follows.bind (resumeChecks_follows _ _ _ hchanging) ?_
      rintro _ _ rfl
      exact hrest
    · exact hrest

variable {strategyId : Option Uuid}

/-- A settlement ends the call's part in its proposal. -/
theorem settleProposal_follows
    (hrequire : mayPerform ref k (.settleProposal ref strategyId settler)) :
    Quietly ref k (settleProposal ref strategyId settler) := by
  have hclosed : ∀ answer, ((protocol ref).learn k (.settleProposal ref strategyId settler)
      answer).Quiet := by
    simp [protocol, Knowledge.Quiet, Stage.after]
  refine follows_ask hrequire fun answer _ => ?_
  refine follows_orRaise (fun settled _ => ?_) (hclosed answer)
  refine follows_ask trivial fun aggregate _ => ?_
  exact follows_orRaise (fun _ _ => hclosed answer) (hclosed answer)

theorem failProposal_follows (hstage : k.stage = .changing) (error : PortfolioError)
    (context : MutationContext) : Quietly ref k (failProposal ref error context) := by
  refine settleProposal_follows ⟨rfl, fun h => absurd h (by simp [Settler.appliesRuntime]), ?_⟩
  intro hchanged
  rw [hstage] at hchanged
  cases hchanged

theorem actThenSettle_follows (h : Changing k) (action : RuntimeAction) (sleeveId : Uuid)
    (context : MutationContext) (liveAcknowledged : Bool) (note : String) (now : Time)
    (catches : PortfolioError → Bool) (hsettler : settler.appliesRuntime = true) :
    Quietly ref k
      (actThenSettle ref action sleeveId context liveAcknowledged note now catches settler) := by
  refine Follows.bind (Follows.attempt (runtimeAction_follows h _ _ _ _ _ _)) ?_
  intro k' result hresult
  match result with
  | .error error =>
    have hchanging : Changing k' := hresult
    dsimp only
    split
    · exact failProposal_follows hchanging.stage _ _
    · exact hchanging.quiet
  | .ok outcome =>
    have hacted : Acted k' outcome := hresult
    dsimp only
    split
    next error hfailed =>
      -- a refused change was not saved
      rcases hacted.stage with hstage | ⟨-, houtcome⟩
      · exact failProposal_follows hstage _ _
      · exact absurd hfailed (by simp [requireSleeveChanged, require, houtcome])
    · exact settleProposal_follows ⟨rfl, fun _ => hacted.runtime,
        fun _ => ⟨hsettler, rfl, hacted.portfolio⟩⟩

/-- What the pending check leaves: a call about a pause or a resume may change it now. -/
structure Checked (k : Knowledge) (proposal : Proposal) : Prop where
  quiet : k.Quiet
  changing : proposal.change.runtime ≠ none → Changing k

variable {proposal : Proposal}

theorem quiet_of_read (hopened : k.stage = .opened) {k' : Knowledge}
    (hstage : k'.stage = if proposal.awaitsAction then .changing else k.stage) : k'.Quiet := by
  rw [Knowledge.Quiet, hstage, hopened]
  split
  · simp
  · simp

theorem checked_of_read (hopened : k.stage = .opened) (hpending : proposal.status = .pending)
    {k' : Knowledge} (hstage : k'.stage = if proposal.awaitsAction then .changing else k.stage)
    (hruntime : k'.runtime = proposal.change.runtime.isSome) : Checked k' proposal := by
  cases hchange : proposal.change.runtime with
  | none => exact ⟨quiet_of_read hopened hstage, fun h => absurd hchange h⟩
  | some =>
    have hchanging : Changing k' := by
      refine ⟨?_, by rw [hruntime, hchange]; rfl⟩
      rw [hstage, Proposal.awaitsAction, hchange, hpending]
      rfl
    exact ⟨hchanging.quiet, fun _ => hchanging⟩

theorem pendingProposal_follows (hopened : k.stage = .opened) (now : Time) :
    Follows (protocol ref) k (pendingProposal ref now) (fun k' found => Checked k' found.1)
      Knowledge.Quiet := by
  refine follows_ask hopened fun _ _ => ?_
  refine follows_ask ⟨rfl, hopened⟩ fun answer _ => ?_
  match answer with
  | .error error =>
    have hquiet : k.Quiet := by
      rw [Knowledge.Quiet, hopened]
      simp
    exact hquiet
  | .ok proposal =>
    refine follows_orRaise (fun proposal' hproposal => ?_) (quiet_of_read hopened rfl)
    cases hproposal
    refine follows_orRaise (fun _ hrequire => ?_) (quiet_of_read hopened rfl)
    have hpending : proposal.status = .pending := require_eq_ok hrequire
    refine follows_ask trivial fun answer _ => ?_
    refine follows_orRaise (fun aggregate _ => ?_) (quiet_of_read hopened rfl)
    exact checked_of_read hopened hpending rfl rfl

theorem Checked.settles (h : Checked k proposal) (hsettler : settler.appliesRuntime = false) :
    mayPerform ref k (.settleProposal ref strategyId settler) :=
  ⟨rfl, fun happlies => absurd happlies (by simp [hsettler]), fun hchanged => absurd hchanged h.quiet⟩

section

variable (hopened : k.stage = .opened) (request : ProposalDecisionRequest)
  (context : MutationContext) (now : Time)
include hopened

theorem approve_follows (sleeveId : Uuid) :
    Quietly ref k (approve ref request context now sleeveId) := by
  refine Follows.bind (pendingProposal_follows hopened now) ?_
  rintro k' ⟨proposal, aggregate⟩ hchecked
  dsimp only at hchecked ⊢
  split
  next action sleeve hruntime =>
    have hchanging := hchecked.changing (by simp [hruntime])
    split
    · refine follows_orRaise (fun _ _ => ?_) hchanging.quiet
      exact actThenSettle_follows hchanging _ _ _ _ _ _ _ rfl
    · exact actThenSettle_follows hchanging _ _ _ _ _ _ _ rfl
  · exact settleProposal_follows (hchecked.settles rfl)

theorem decline_follows : Quietly ref k (decline ref request context now) := by
  refine Follows.bind (pendingProposal_follows hopened now) ?_
  intro k' found hchecked
  exact settleProposal_follows (hchecked.settles rfl)

end

theorem requireApplicable_follows (change : ProposalChange) (hquiet : k.Quiet) :
    Follows (protocol ref) k (requireApplicable aggregate change) (fun k' _ => k' = k)
      Knowledge.Quiet := by
  cases change with
  | addSleeve => exact Follows.ofExcept (fun _ _ => rfl) (fun _ _ => hquiet)
  | rebalance => exact rfl
  | pauseSleeve =>
    refine follows_orRaise (fun _ _ => ?_) hquiet
    refine follows_ask trivial fun deployments _ => ?_
    exact Follows.ofExcept (fun _ _ => rfl) (fun _ _ => hquiet)
  | resumeSleeve =>
    refine follows_orRaise (fun _ _ => ?_) hquiet
    refine follows_ask trivial fun deployments _ => ?_
    refine follows_orRaise (fun _ _ => ?_) hquiet
    refine follows_ask trivial fun answer _ => ?_
    refine follows_orRaise (fun breaker _ => ?_) hquiet
    exact Follows.ofExcept (fun _ _ => rfl) (fun _ _ => hquiet)

theorem autoApplyRuntime_follows (h : Checked k proposal) (context : MutationContext) (now : Time) :
    Quietly ref k (autoApplyRuntime ref proposal context now) := by
  unfold autoApplyRuntime
  split
  next sleeveId hchange =>
    have hchanging := h.changing (by simp [hchange, ProposalChange.runtime])
    exact actThenSettle_follows hchanging _ _ _ _ _ _ _ rfl
  · exact h.quiet

theorem submit_follows (hopened : k.stage = .opened) (request : ProposalSubmitRequest)
    (channel : JournalChannel) (now : Time) (sleeveId : Uuid) :
    Quietly ref k (submit ref request channel now sleeveId) := by
  refine follows_ask hopened fun _ _ => ?_
  refine follows_ask trivial fun answer _ => ?_
  show Follows (protocol ref) ((protocol ref).learn k (.get ref.portfolioId) answer) _ _ _
  have hread : ((protocol ref).learn k (.get ref.portfolioId) answer).stage = .opened := hopened
  generalize (protocol ref).learn k (.get ref.portfolioId) answer = k' at hread
  have hopen : k'.Quiet := by simp [Knowledge.Quiet, hread]
  refine follows_orRaise (fun aggregate _ => ?_) hopen
  refine follows_orRaise (fun _ _ => ?_) hopen
  refine Follows.bind (requireApplicable_follows _ _ hopen) ?_
  intro _ _ hsame
  rw [hsame]
  refine follows_ask trivial fun pending _ => ?_
  refine follows_orRaise (fun pending _ => ?_) hopen
  refine follows_orRaise (fun _ _ => ?_) hopen
  refine follows_ask ⟨rfl, hread⟩ fun answer _ => ?_
  match answer with
  | .error error => exact hopen
  | .ok proposal =>
    refine follows_orRaise (fun proposal' hproposal => ?_) (quiet_of_read hread rfl)
    cases hproposal
    refine follows_ask trivial fun answer _ => ?_
    refine follows_orRaise (fun aggregate _ => ?_) (quiet_of_read hread rfl)
    split
    next hauto =>
      exact autoApplyRuntime_follows (checked_of_read hread hauto.1 rfl rfl) _ _
    · exact quiet_of_read hread rfl

theorem program_follows (call : ManagerCall) :
    Quietly call.ref .start call.program := by
  cases call with
  | submit => exact submit_follows rfl _ _ _ _
  | approve => exact approve_follows rfl _ _ _ _
  | decline => exact decline_follows rfl _ _ _
  | expire =>
    have hquiet : Knowledge.start.Quiet := by simp [Knowledge.Quiet, Knowledge.start]
    exact ⟨rfl, fun _ _ => hquiet⟩

end

/-! ## What the answers say of the floor -/

/-- What a call has read holds of the floor from then on. -/
structure Knows (floor : Floor) (ref : ProposalRef) (k : Knowledge) : Prop where
  runtime : k.runtime = true → ∃ row, floor.proposal ref = some row ∧ row.change.runtime ≠ none
  portfolio : k.portfolio = true →
    (floor.registry.store.portfolios.get? ref.portfolioId).isSome = true
  deployments : ∀ id ∈ k.deployments, (floor.execution.deployments.get? id).isSome = true
  staged : k.stage = .changing ∨ k.stage = .changed → k.runtime = true

variable {after : Option Proposal} {row : Proposal}

section

variable {floor : Floor} {inputs : Inputs} {ref : ProposalRef} {k : Knowledge}

theorem portfolio_eq_ok_iff {store : PortfolioStore} {id : Uuid} :
    (store.portfolios.get? id).isSome = true ↔ ∃ portfolio, store.portfolio id = .ok portfolio := by
  unfold PortfolioStore.portfolio
  cases store.portfolios.get? id with
  | none | some => simp

/-- The stores answer what the protocol expects. -/
theorem Knows.answers (hknows : Knows floor ref k) (hsound : floor.Sound) (op : ManagerOp) :
    mayAnswer ref k op (floor.perform inputs op).1 := by
  cases op with
  | get portfolioId =>
    unfold mayAnswer Floor.perform
    dsimp only
    cases hportfolio : floor.registry.store.portfolio portfolioId with
    | error => exact trivial
    | ok => exact (hsound.registry _ _ (portfolio_eq_ok hportfolio)).portfolioId
  | getDeployment deploymentId =>
    unfold mayAnswer Floor.perform MemoryStore.getDeployment
    dsimp only
    cases hget : floor.execution.deployments.get? deploymentId with
    | some => exact trivial
    | none =>
      intro hknown
      have hsome := hknows.deployments _ hknown
      rw [hget] at hsome
      cases hsome
  | appendJournal =>
    unfold Floor.perform
    dsimp only
    split
    · exact trivial
    next error herror =>
      intro hportfolio hid
      obtain ⟨portfolio, hread⟩ := portfolio_eq_ok_iff.mp (hknows.portfolio hportfolio)
      rw [← hid] at hread
      rw [Floor.appendJournal, hread] at herror
      exact absurd herror (by simp [bind, Except.bind, pure, Except.pure])
  | _ => exact trivial

variable {proposal : Proposal}

theorem proposal_of_get (h : (floor.perform inputs (.getProposal ref)).1 = .ok proposal) :
    floor.proposal ref = some proposal := by
  obtain ⟨_, -, h⟩ := bind_eq_ok (x := floor.registry.store.portfolio ref.portfolioId) h
  exact findProposal_eq_ok h

theorem proposal_of_create (hsound : floor.Sound) {request : ProposalSubmitRequest}
    {sleeveId : Uuid} {context : MutationContext}
    (h : (floor.perform inputs (.createProposal ref request sleeveId context)).1 = .ok proposal) :
    (floor.perform inputs (.createProposal ref request sleeveId context)).2.proposal ref =
      some proposal := by
  have hwritten : Floor.written (StoreCall.lockedSection
      (.createProposal ref.portfolioId request ref.proposalId sleeveId context) inputs.reads
      floor.registry.store) = .ok proposal := h
  cases hsection : StoreCall.lockedSection
    (.createProposal ref.portfolioId request ref.proposalId sleeveId context) inputs.reads
    floor.registry.store with
  | error error =>
    rw [hsection] at hwritten
    exact absurd hwritten (by simp [Floor.written])
  | ok write =>
    rw [hsection] at hwritten
    have hsection' := hsection
    obtain ⟨strategy, -, hsection'⟩ := bind_eq_ok hsection'
    obtain ⟨before, hbefore, hsection'⟩ := bind_eq_ok hsection'
    obtain ⟨settlement, hsubmission, rfl⟩ := bind_pure_ok hsection'
    cases hwritten
    obtain ⟨hid, hportfolio, -, -⟩ := submission_cases hsubmission
    have hkept := (hsound.registry _ _ (portfolio_eq_ok hbefore)).portfolioId
    have hsame : settlement.proposal.portfolioId = ref.portfolioId := hportfolio.trans hkept
    refine (Floor.proposal_locked_settle hsection ref).trans (if_pos ?_)
    rw [hid, hsame]

theorem applied_of_settle (hsound : floor.Sound) (hsettler : settler.appliesRuntime = true)
    (hportfolio : (floor.registry.store.portfolios.get? ref.portfolioId).isSome = true)
    (hrow : floor.proposal ref = some row) (hpending : row.status = .pending) :
    ∃ new, (floor.perform inputs (.settleProposal ref none settler)).2.proposal ref = some new ∧
      new.status = .applied := by
  obtain ⟨portfolio, hportfolio⟩ := portfolio_eq_ok_iff.mp hportfolio
  have hfind : floor.registry.store.findProposal ref.portfolioId ref.proposalId = .ok row := by
    unfold PortfolioStore.findProposal
    rw [show (floor.registry.store.proposalsOf ref.portfolioId).find?
      (fun row => row.proposalId = ref.proposalId) = some row from hrow]
  have hrequire : requirePending row = .ok () := by
    unfold requirePending require
    rw [if_pos hpending]
  obtain ⟨settlement, hsettlement⟩ : ∃ settlement,
      settler.settlement (floor.registry.store.aggregate inputs.reads.joined portfolio) row none =
        .ok settlement := by
    cases settler with
    | approveRuntime =>
      unfold Settler.settlement closing
      rw [hrequire]
      exact ⟨_, rfl⟩
    | autoApply =>
      unfold Settler.settlement autoApplied
      rw [hrequire]
      exact ⟨_, rfl⟩
    | approve | decline | fail => exact absurd hsettler (by simp [Settler.appliesRuntime])
  have hsection : StoreCall.lockedSection
      (.settleProposal ref.portfolioId ref.proposalId none settler) inputs.reads
      floor.registry.store = .ok (.settle settlement) := by
    unfold StoreCall.lockedSection
    dsimp only
    rw [hportfolio, hfind]
    show (settler.settlement _ row none >>= fun settlement => Except.ok (Write.settle settlement)) = _
    rw [hsettlement]
    rfl
  obtain ⟨hmem, hstoredId⟩ := Floor.proposal_mem hrow
  obtain ⟨-, hid, hsame, -⟩ := settlement_cases hsettlement
  refine ⟨settlement.proposal, ?_, ((settlement_decides hsettlement).runtime hsettler).1⟩
  refine (Floor.proposal_locked_settle hsection ref).trans (if_pos ?_)
  rw [hid, hsame, hstoredId, (hsound.rows _ _ hmem).1]

variable {planned : Prop}

theorem RowStep.change (h : RowStep planned (some row) after) :
    ∃ new, after = some new ∧ new.change = row.change := by
  cases h with
  | same => exact ⟨row, rfl, rfl⟩
  | decided _ new _ _ hchange => exact ⟨new, rfl, hchange⟩

theorem Knows.persists (hknows : Knows floor ref k)
    (hrow : RowStep planned (floor.proposal ref) ((floor.perform inputs op).2.proposal ref)) :
    Knows (floor.perform inputs op).2 ref k := by
  refine ⟨?_, ?_, ?_, hknows.staged⟩
  · intro hruntime
    obtain ⟨row, hstored, hchange⟩ := hknows.runtime hruntime
    rw [hstored] at hrow
    obtain ⟨new, hnew, hsame⟩ := hrow.change
    exact ⟨new, hnew, hsame ▸ hchange⟩
  · exact fun hportfolio => Floor.portfolios_perform op (hknows.portfolio hportfolio)
  · exact fun id hid => Floor.deployments_perform op (hknows.deployments id hid)

theorem Knows.shown (hknows : Knows floor ref k) (hrow : floor.proposal ref = some proposal)
    (hopened : k.stage = .opened) :
    Knows floor ref ⟨if proposal.awaitsAction then .changing else k.stage,
      proposal.change.runtime.isSome, k.portfolio, k.deployments⟩ := by
  refine ⟨?_, hknows.portfolio, hknows.deployments, ?_⟩
  · intro hruntime
    exact ⟨proposal, hrow, isSome_iff_ne_none.mp hruntime⟩
  · intro hstage
    split at hstage
    next hawaits =>
      rw [Proposal.awaitsAction, Bool.and_eq_true] at hawaits
      exact hawaits.2
    · rw [hopened] at hstage
      exact absurd hstage (by simp)

theorem Knows.learns (hknows : Knows floor ref k) (hsound : floor.Sound)
    (hrow : RowStep planned (floor.proposal ref) ((floor.perform inputs op).2.proposal ref))
    (hrequire : mayPerform ref k op) : Knows (floor.perform inputs op).2 ref
      ((protocol ref).learn k op (floor.perform inputs op).1) := by
  have hpersists := hknows.persists hrow
  cases op with
  | getProposal own =>
    obtain ⟨rfl, hopened⟩ := hrequire
    cases hanswer : (floor.perform inputs (.getProposal own)).1 with
    | error => exact hpersists
    | ok => exact hpersists.shown (proposal_of_get hanswer) hopened
  | createProposal own request sleeveId context =>
    obtain ⟨rfl, hopened⟩ := hrequire
    cases hanswer : (floor.perform inputs (.createProposal own request sleeveId context)).1 with
    | error => exact hpersists
    | ok => exact hpersists.shown (proposal_of_create hsound hanswer) hopened
  | get portfolioId =>
    refine ⟨hpersists.runtime, ?_, hpersists.deployments, hpersists.staged⟩
    cases hread : floor.registry.store.portfolio portfolioId with
    | error =>
      intro hportfolio
      unfold protocol Floor.perform Knowledge.reads at hportfolio
      dsimp only at hportfolio
      rw [hread] at hportfolio
      exact hpersists.portfolio hportfolio
    | ok portfolio =>
      intro hportfolio
      unfold protocol Floor.perform Knowledge.reads at hportfolio
      dsimp only at hportfolio
      rw [hread] at hportfolio
      rcases Bool.or_eq_true_iff.mp hportfolio with hknown | hid
      · exact hpersists.portfolio hknown
      · rw [decide_eq_true_eq] at hid
        subst hid
        exact portfolio_eq_ok_iff.mpr ⟨portfolio, hread⟩
  | getDeployment deploymentId =>
    refine ⟨hpersists.runtime, hpersists.portfolio, ?_, hpersists.staged⟩
    intro id hid
    unfold protocol Floor.perform Knowledge.finds at hid
    dsimp only at hid
    unfold MemoryStore.getDeployment at hid
    cases hget : floor.execution.deployments.get? deploymentId with
    | none =>
      rw [hget] at hid
      exact hpersists.deployments id hid
    | some =>
      rw [hget] at hid
      rcases mem_cons.mp hid with rfl | hid
      · show (floor.execution.deployments.get? id).isSome = true
        rw [hget]
        rfl
      · exact hpersists.deployments id hid
  | saveDeployment =>
    have hruntime := hknows.staged (.inl hrequire.2)
    exact ⟨hpersists.runtime, hpersists.portfolio, hpersists.deployments, fun _ => hruntime⟩
  | settleProposal =>
    refine ⟨hpersists.runtime, hpersists.portfolio, hpersists.deployments, fun hstage => ?_⟩
    exact absurd hstage (by simp [protocol, Stage.after])
  | _ => exact hpersists

end

/-! ## The invariant -/

/-- The store call that changes a sleeve. -/
def IsSave : ManagerOp → Prop
  | .saveDeployment _ _ _ => True
  | _ => False

/-- The call has changed its sleeve, or has found its proposal pending and still may. -/
def Task.Engaged (task : Task) : Prop :=
  task.stage = .changed ∨ (task.stage = .changing ∧ task.program.MayPerform IsSave)

/-- The call has a store call to make. -/
def Task.Running (task : Task) : Prop :=
  match task.program with
  | .perform _ _ => True
  | _ => False

namespace Floor

/-- The step declines, fails or expires the pending proposal. -/
def Closes (floor floor' : Floor) (ref : ProposalRef) : Prop :=
  ∃ row new, floor.proposal ref = some row ∧ row.status = .pending ∧
    floor'.proposal ref = some new ∧ new.status ≠ .pending ∧ new.status ≠ .applied

/-- The step closes no proposal that another call is engaged with. -/
def Undisturbed (floor : Floor) (event : Event) (floor' : Floor) : Prop :=
  ∀ index inputs, event = .advance index inputs → ∀ other task,
    floor.tasks[other]? = some task → other ≠ index → floor.Closes floor' task.ref → ¬ task.Engaged

/-- A step that disturbs no other call. -/
structure CalmStep (floor : Floor) (event : Event) (floor' : Floor) : Prop where
  step : floor.Step event floor'
  undisturbed : floor.Undisturbed event floor'

/-- A running call: what it knows is true, and it follows the protocol from there. -/
structure Behaves (floor : Floor) (task : Task) (k : Knowledge) : Prop where
  stage : k.stage = task.stage
  knows : Knows floor task.ref k
  follows : Follows (protocol task.ref) k task.program (fun k' _ => k'.Quiet) Knowledge.Quiet

/-- The proposal is open for the call or was applied. -/
def Welcome (floor : Floor) (ref : ProposalRef) : Prop :=
  ∃ row, floor.proposal ref = some row ∧ (row.status = .pending ∨ row.status = .applied)

/-- The proposal was applied, or it is pending and the call that changed its sleeve has
still to settle it. -/
def Owned (floor : Floor) (ref : ProposalRef) : Prop :=
  ∃ row, floor.proposal ref = some row ∧
    (row.status = .applied ∨
      (row.status = .pending ∧ ∃ task ∈ floor.tasks, task.ref = ref ∧ task.stage = .changed))

/-- What holds in every state of an undisturbed run. -/
structure Inv (floor : Floor) : Prop where
  sound : floor.Sound
  behaves : ∀ task ∈ floor.tasks, ∃ k, floor.Behaves task k
  engaged : ∀ task ∈ floor.tasks, task.Engaged → floor.Welcome task.ref
  acted : ∀ ref ∈ floor.acted, floor.Owned ref
  once : floor.planned.Nodup
  planned : ∀ ref, ref ∈ floor.planned ↔
    ∃ row, floor.proposal ref = some row ∧ row.status = .applied ∧ row.change.runtime = none

theorem Initial.inv {floor : Floor} (h : floor.Initial) : floor.Inv where
  sound := ⟨Registry.reachable_inv h.registry, fun id row hrow => by
    rw [h.proposals] at hrow
    exact absurd hrow (by simp)⟩
  behaves := by simp [h.tasks]
  engaged := by simp [h.tasks]
  acted := by simp [h.acted]
  once := by simp [h.planned]
  planned ref := by simp [h.planned, proposal, h.proposals]

/-- A call that has only been started knows nothing. -/
theorem Inv.start {floor : Floor} (hinv : floor.Inv) (call : ManagerCall) :
    Inv { floor with tasks := floor.tasks ++ [⟨call.ref, call.program, .opened⟩] } where
  sound := ⟨hinv.sound.registry, hinv.sound.rows⟩
  behaves := by
    intro task htask
    rcases mem_append.mp htask with hold | hnew
    · obtain ⟨k, hstage, hknows, hfollows⟩ := hinv.behaves task hold
      exact ⟨k, hstage, ⟨hknows.runtime, hknows.portfolio, hknows.deployments, hknows.staged⟩, hfollows⟩
    · obtain rfl := mem_singleton.mp hnew
      refine ⟨.start, rfl, ⟨?_, ?_, ?_, ?_⟩, program_follows call⟩ <;> simp [Knowledge.start]
  engaged := by
    intro task htask hengaged
    rcases mem_append.mp htask with hold | hnew
    · exact hinv.engaged task hold hengaged
    · obtain rfl := mem_singleton.mp hnew
      exact absurd hengaged (by simp [Task.Engaged])
  acted := by
    intro ref href
    obtain ⟨row, hrow, hcases⟩ := hinv.acted ref href
    refine ⟨row, hrow, hcases.imp_right ?_⟩
    rintro ⟨hpending, task, htask, hsame⟩
    exact ⟨hpending, task, mem_append_left _ htask, hsame⟩
  once := hinv.once
  planned := hinv.planned

section

variable {floor : Floor} {inputs : Inputs} {ref : ProposalRef} {op : ManagerOp}
  {next : op.Answer → ManagerProgram Unit} {stage : Stage} {k : Knowledge}
variable {index : Nat} {new : Task}

theorem RowStep.decided_stays {planned : Prop} (h : RowStep planned (some row) after)
    (hdecided : row.status ≠ .pending) : after = some row := by
  cases h with
  | same => rfl
  | decided _ _ hpending => exact absurd hpending hdecided

section

variable (hsound : floor.Sound) (hbehaves : floor.Behaves ⟨ref, .perform op next, stage⟩ k)
  (hfresh : fresh floor.registry (mints op) = true)
include hsound hbehaves hfresh

/-- The store call of a call that behaves moves each proposal by at most one decision. -/
theorem Behaves.rowStep (inputs : Inputs) (other : ProposalRef) :
    RowStep (other ∈ floor.plannedOf inputs op) (floor.proposal other)
      ((floor.perform inputs op).2.proposal other) := by
  refine hsound.rowStep hfresh ?_ other
  rintro own strategyId settler rfl hsettler row hrow
  obtain ⟨rfl, hruntime, -⟩ := hbehaves.follows.1
  obtain ⟨stored, hstored, hchange⟩ := hbehaves.knows.runtime (hruntime hsettler)
  cases hrow.symm.trans hstored
  exact hchange

theorem Behaves.own :
    (floor.perform inputs op).2.Behaves
      ⟨ref, next (floor.perform inputs op).1, stage.after op (floor.perform inputs op).1⟩
      ((protocol ref).learn k op (floor.perform inputs op).1) where
  stage := by
    show k.stage.after op (floor.perform inputs op).1 = stage.after op (floor.perform inputs op).1
    rw [hbehaves.stage]
  knows := hbehaves.knows.learns hsound (hbehaves.rowStep hsound hfresh inputs ref) hbehaves.follows.1
  follows := hbehaves.follows.2 _ (hbehaves.knows.answers hsound op)

end

theorem engaged_of_same {answer : op.Answer} (hstage : stage.after op answer = stage)
    (h : Task.Engaged ⟨ref, next answer, stage.after op answer⟩) :
    Task.Engaged ⟨ref, .perform op next, stage⟩ := by
  rcases h with hchanged | ⟨hchanging, hmay⟩
  · exact .inl (hstage.symm.trans hchanged)
  · exact .inr ⟨hstage.symm.trans hchanging, .later answer hmay⟩

theorem not_engaged_of_opened {program : ManagerProgram Unit} :
    ¬ Task.Engaged ⟨ref, program, .opened⟩ := by
  simp [Task.Engaged]

/-- After its own store call, an engaged call's proposal is pending or applied. -/
theorem Behaves.welcome (hsound : floor.Sound)
    (hbehaves : floor.Behaves ⟨ref, .perform op next, stage⟩ k)
    (hbefore : Task.Engaged ⟨ref, .perform op next, stage⟩ → floor.Welcome ref)
    (h : Task.Engaged ⟨ref, next (floor.perform inputs op).1,
      stage.after op (floor.perform inputs op).1⟩) :
    (floor.perform inputs op).2.Welcome ref := by
  -- a call without the lock leaves the rows, so the proposal is as it was
  have hsame : lockedCall op = none → floor.Welcome ref →
      (floor.perform inputs op).2.Welcome ref := by
    rintro hunlocked ⟨row, hrow, hstatus⟩
    exact ⟨row, (proposal_perform hunlocked ref).trans hrow, hstatus⟩
  have hshown : ∀ proposal : Proposal, stage = .opened →
      Task.Engaged ⟨ref, next (floor.perform inputs op).1,
        if proposal.awaitsAction then .changing else stage⟩ → proposal.status = .pending := by
    rintro proposal rfl hengaged
    split at hengaged
    next hawaits =>
      rw [Proposal.awaitsAction, Bool.and_eq_true, decide_eq_true_eq] at hawaits
      exact hawaits.1
    · exact absurd hengaged not_engaged_of_opened
  have hstage := hbehaves.stage
  have hrequire := hbehaves.follows.1
  cases op with
  | expireProposals =>
    have hopened : stage = .opened := hstage.symm.trans hrequire
    subst hopened
    exact absurd h not_engaged_of_opened
  | getProposal own =>
    obtain ⟨rfl, hopened⟩ := hrequire
    have hopened : stage = .opened := hstage.symm.trans hopened
    cases hanswer : (floor.perform inputs (.getProposal own)).1 with
    | error =>
      rw [hanswer] at h
      subst hopened
      exact absurd h not_engaged_of_opened
    | ok proposal =>
      rw [hanswer] at h hshown
      exact ⟨proposal, proposal_of_get hanswer, .inl (hshown proposal hopened h)⟩
  | createProposal own request sleeveId context =>
    obtain ⟨rfl, hopened⟩ := hrequire
    have hopened : stage = .opened := hstage.symm.trans hopened
    cases hanswer : (floor.perform inputs (.createProposal own request sleeveId context)).1 with
    | error =>
      rw [hanswer] at h
      subst hopened
      exact absurd h not_engaged_of_opened
    | ok proposal =>
      rw [hanswer] at h hshown
      exact ⟨proposal, proposal_of_create hsound hanswer, .inl (hshown proposal hopened h)⟩
  | settleProposal =>
    exact absurd h (by simp [Task.Engaged, Stage.after])
  | saveDeployment =>
    exact hsame rfl (hbefore (.inr ⟨hstage.symm.trans hrequire.2, .here trivial⟩))
  | _ => exact hsame rfl (hbefore (engaged_of_same rfl h))

/-- A call that has changed its sleeve goes on or settles its proposal as applied. -/
theorem Behaves.changed (hsound : floor.Sound)
    (hbehaves : floor.Behaves ⟨ref, .perform op next, .changed⟩ k)
    (hrow : floor.proposal ref = some row) (hpending : row.status = .pending) :
    ∃ new, (floor.perform inputs op).2.proposal ref = some new ∧
      (new.status = .applied ∨
        (new.status = .pending ∧ Stage.changed.after op (floor.perform inputs op).1 = .changed)) := by
  have hsame : lockedCall op = none → Stage.changed.after op (floor.perform inputs op).1 = .changed →
      ∃ new, (floor.perform inputs op).2.proposal ref = some new ∧
        (new.status = .applied ∨
          (new.status = .pending ∧
            Stage.changed.after op (floor.perform inputs op).1 = .changed)) := by
    intro hunlocked hstage
    exact ⟨row, (proposal_perform hunlocked ref).trans hrow, .inr ⟨hpending, hstage⟩⟩
  have hstage : k.stage = .changed := hbehaves.stage
  have hrequire := hbehaves.follows.1
  cases op with
  | expireProposals => cases (hstage.symm.trans hrequire)
  | getProposal => cases (hstage.symm.trans hrequire.2)
  | createProposal | saveDeployment =>
    cases (hstage.symm.trans hrequire.2)
  | settleProposal =>
    obtain ⟨rfl, -, hchanged⟩ := hrequire
    obtain ⟨hsettler, rfl, hportfolio⟩ := hchanged hstage
    obtain ⟨new, hnew, happlied⟩ :=
      applied_of_settle hsound hsettler (hbehaves.knows.portfolio hportfolio) hrow hpending
    exact ⟨new, hnew, .inl happlied⟩
  | _ => exact hsame rfl rfl

theorem acted_perform {other : ProposalRef} (h : other ∈ (floor.perform inputs op).2.acted) :
    other ∈ floor.acted ∨ ∃ deployment expectedRevision,
      op = .saveDeployment other deployment expectedRevision ∧
        ∀ stage : Stage, stage.after op (floor.perform inputs op).1 = .changed := by
  cases op with
  | saveDeployment _ deployment expectedRevision =>
    unfold perform at h ⊢
    dsimp only at h ⊢
    split at h
    · rcases mem_cons.mp h with rfl | hold
      · exact .inr ⟨deployment, expectedRevision, rfl, fun _ => rfl⟩
      · exact .inl hold
    · exact .inl h
  | appendJournal =>
    unfold perform at h
    dsimp only at h
    split at h
    · exact .inl h
    · exact .inl h
  | _ => exact .inl h

/-- The other calls stand where they stood. -/
theorem mem_set_task (h : task ∈ tasks.set index new) :
    task = new ∨ ∃ other, other ≠ index ∧ tasks[other]? = some task := by
  obtain ⟨other, hother⟩ := mem_iff_getElem?.mp h
  rw [getElem?_set] at hother
  split at hother
  next hsame =>
    obtain ⟨-, hother⟩ := of_ite_ne_else hother nofun
    exact .inl (Option.some.inj hother).symm
  next hne => exact .inr ⟨other, Ne.symm hne, hother⟩

theorem mem_set_of_ne {other : Nat} (hne : other ≠ index) (h : tasks[other]? = some task) :
    task ∈ tasks.set index new := by
  refine mem_iff_getElem?.mpr ⟨other, ?_⟩
  rw [getElem?_set, if_neg (Ne.symm hne)]
  exact h

theorem mem_set_self (h : tasks[index]? = some task) : new ∈ tasks.set index new := by
  refine mem_iff_getElem?.mpr ⟨index, ?_⟩
  obtain ⟨hlt, -⟩ := List.getElem?_eq_some_iff.mp h
  rw [getElem?_set, if_pos rfl, if_pos hlt]

end

variable {floor : Floor} {inputs : Inputs} {index : Nat} {ref : ProposalRef} {op : ManagerOp}
  {next : op.Answer → ManagerProgram Unit} {stage : Stage}

/-- The floor after the store call of one running call. -/
def advanced (floor : Floor) (index : Nat) (inputs : Inputs) (ref : ProposalRef) (op : ManagerOp)
    (next : op.Answer → ManagerProgram Unit) (stage : Stage) : Floor :=
  { (floor.perform inputs op).2 with
    tasks := floor.tasks.set index
      ⟨ref, next (floor.perform inputs op).1, stage.after op (floor.perform inputs op).1⟩ }

/-- A proposal another call is engaged with stays pending or is applied. -/
theorem Undisturbed.welcome (hcalm : floor.Undisturbed event floor')
    (hevent : event = .advance index inputs) {planned : ProposalRef → Prop}
    (hrows : ∀ ref, RowStep (planned ref) (floor.proposal ref) (floor'.proposal ref)) {other : Nat}
    (htask : floor.tasks[other]? = some task) (hne : other ≠ index) (hengaged : task.Engaged)
    (hwelcome : floor.Welcome task.ref) : floor'.Welcome task.ref := by
  obtain ⟨row, hrow, hstatus⟩ := hwelcome
  have hstep := hrows task.ref
  rw [hrow] at hstep
  cases hafter : floor'.proposal task.ref with
  | none =>
    rw [hafter] at hstep
    cases hstep
  | some new =>
    refine ⟨new, hafter, ?_⟩
    rw [hafter] at hstep
    cases hstep with
    | same => exact hstatus
    | decided _ _ hpending hdecided =>
      refine .inr ?_
      by_contra happlied
      exact hcalm index inputs hevent other task htask hne
        ⟨row, new, hrow, hpending, hafter, hdecided, happlied⟩ hengaged

section

variable {new : List ProposalRef} (hinv : floor.Inv)
  (hrows : ∀ ref, RowStep (ref ∈ new) (floor.proposal ref) (floor'.proposal ref))
include hinv hrows

/-- The plans applied are those of the applied rebalances and added sleeves. -/
theorem planned_step (hplanned : floor'.planned = new ++ floor.planned) (ref : ProposalRef) :
    ref ∈ floor'.planned ↔
      ∃ row, floor'.proposal ref = some row ∧ row.status = .applied ∧ row.change.runtime = none := by
  rw [hplanned, mem_append, hinv.planned ref]
  have hstep := hrows ref
  generalize hbefore : floor.proposal ref = before at hstep
  generalize hafter : floor'.proposal ref = after at hstep
  cases hstep with
  | same _ hplan => exact or_iff_right hplan
  | submitted _ hplan => simp [hplan]
  | decided old _ hpending _ _ hplan =>
    have hold : ¬ old.status = .applied := by
      rw [hpending]
      simp
    simp [hplan, hold]

/-- A plan is applied once: the proposal was not applied before. -/
theorem once_step (hnew : new.Nodup) (hplanned : floor'.planned = new ++ floor.planned) :
    floor'.planned.Nodup := by
  rw [hplanned, nodup_append']
  refine ⟨hnew, hinv.once, ?_⟩
  intro ref href hold
  obtain ⟨row, hrow, happlied, -⟩ := (hinv.planned ref).mp hold
  have hstep := hrows ref
  rw [hrow] at hstep
  generalize floor'.proposal ref = after at hstep
  cases hstep with
  | same _ hplan => exact hplan href
  | decided _ _ hpending =>
    rw [happlied] at hpending
    cases hpending

end

theorem nodup_plannedOf (floor : Floor) (inputs : Inputs) (op : ManagerOp) :
    (floor.plannedOf inputs op).Nodup := by
  unfold plannedOf
  split
  next call _ =>
    unfold plannedBy
    split
    · split
      · exact nodup_singleton _
      · exact nodup_nil
    · exact nodup_nil
  · exact nodup_nil

theorem Behaves.withTasks {k : Knowledge} (h : floor.Behaves task k) (tasks : List Task) :
    Behaves { floor with tasks := tasks } task k :=
  ⟨h.stage, ⟨h.knows.runtime, h.knows.portfolio, h.knows.deployments, h.knows.staged⟩, h.follows⟩

section

variable (hinv : floor.Inv) (htask : floor.tasks[index]? = some ⟨ref, .perform op next, stage⟩)
include hinv htask

/-- A change made for a proposal stays the business of the call that made it. -/
theorem Inv.owned (hfresh : fresh floor.registry (mints op) = true)
    (hcalm : floor.Undisturbed (.advance index inputs) (floor.advanced index inputs ref op next
      stage)) {other : ProposalRef} (howned : floor.Owned other) :
    (floor.advanced index inputs ref op next stage).Owned other := by
  obtain ⟨k, hbehaves⟩ := hinv.behaves _ (mem_of_getElem? htask)
  have hrows := hbehaves.rowStep hinv.sound hfresh inputs
  obtain ⟨row, hrow, hcases⟩ := howned
  have hstep := hrows other
  rw [hrow] at hstep
  rcases hcases with happlied | ⟨hpending, task, hmem, rfl, hchanged⟩
  · exact ⟨row, RowStep.decided_stays hstep (by simp [happlied]), .inl happlied⟩
  · obtain ⟨position, hposition⟩ := mem_iff_getElem?.mp hmem
    by_cases hown : position = index
    · -- the call itself moves: it goes on, or settles the proposal as applied
      subst hown
      cases htask.symm.trans hposition
      obtain rfl : stage = .changed := hchanged
      obtain ⟨new, hnew, hcases⟩ := hbehaves.changed hinv.sound hrow hpending
      exact ⟨new, hnew, hcases.imp_right fun h => ⟨h.1, _, mem_set_self htask, rfl, h.2⟩⟩
    · obtain ⟨new, hnew, hstatus⟩ := hcalm.welcome rfl hrows hposition hown (.inl hchanged)
        ⟨row, hrow, .inl hpending⟩
      exact ⟨new, hnew, hstatus.symm.imp_right fun h =>
        ⟨h, task, mem_set_of_ne hown hposition, rfl, hchanged⟩⟩

variable {other : ProposalRef}

/-- A change is made only for a proposal that is pending or applied. -/
theorem Inv.saved {deployment : Deployment} {expectedRevision : Int}
    (hop : op = .saveDeployment other deployment expectedRevision)
    (hchanged : stage.after op (floor.perform inputs op).1 = .changed) :
    (floor.advanced index inputs ref op next stage).Owned other := by
  obtain ⟨k, hbehaves⟩ := hinv.behaves _ (mem_of_getElem? htask)
  subst hop
  obtain ⟨rfl, hchanging⟩ := hbehaves.follows.1
  have hengaged : Task.Engaged ⟨other, .perform (.saveDeployment other deployment expectedRevision)
      next, stage⟩ := .inr ⟨hbehaves.stage.symm.trans hchanging, .here trivial⟩
  obtain ⟨row, hrow, hstatus⟩ := hinv.engaged _ (mem_of_getElem? htask) hengaged
  refine ⟨row, (proposal_perform rfl other).trans hrow, hstatus.symm.imp_right fun h => ⟨h, ?_⟩⟩
  exact ⟨_, mem_set_self htask, rfl, hchanged⟩

theorem Inv.advance (hfresh : fresh floor.registry (mints op) = true)
    (hcalm : floor.Undisturbed (.advance index inputs) (floor.advanced index inputs ref op next
      stage)) : (floor.advanced index inputs ref op next stage).Inv := by
  have hmem := mem_of_getElem? htask
  obtain ⟨k, hbehaves⟩ := hinv.behaves _ hmem
  have hrows := hbehaves.rowStep hinv.sound hfresh inputs
  have hsound : (floor.perform inputs op).2.Sound := hinv.sound.perform hfresh
  refine ⟨⟨hsound.registry, hsound.rows⟩, ?_, ?_, ?_, ?_, ?_⟩
  · intro task htask'
    rcases mem_set_task htask' with rfl | ⟨other, -, hother⟩
    · exact ⟨_, (hbehaves.own hinv.sound hfresh).withTasks _⟩
    · obtain ⟨k', hstage, hknows, hfollows⟩ := hinv.behaves task (mem_of_getElem? hother)
      have hpersists : (floor.perform inputs op).2.Behaves task k' :=
        ⟨hstage, hknows.persists (hrows task.ref), hfollows⟩
      exact ⟨k', hpersists.withTasks _⟩
  · intro task htask' hengaged
    rcases mem_set_task htask' with rfl | ⟨other, hne, hother⟩
    · exact hbehaves.welcome hinv.sound (hinv.engaged _ hmem) hengaged
    · exact hcalm.welcome rfl hrows hother hne hengaged
        (hinv.engaged task (mem_of_getElem? hother) hengaged)
  · intro other hother
    rcases acted_perform hother with hold | ⟨deployment, expectedRevision, hop, hchanged⟩
    · exact hinv.owned htask hfresh hcalm (hinv.acted other hold)
    · exact hinv.saved htask hop (hchanged stage)
  · exact once_step hinv hrows (nodup_plannedOf _ _ _) (planned_perform op)
  · exact planned_step hinv hrows (planned_perform op)

end

theorem Inv.step (hinv : floor.Inv) (hstep : floor.CalmStep event floor') : floor'.Inv := by
  obtain ⟨call, rfl, rfl⟩ | ⟨index, inputs, ref, op, next, stage, rfl, htask, hfresh, hnext⟩ :=
    hstep.step.cases
  · exact hinv.start call
  · rw [tasks_perform] at hnext
    have hadvanced : floor' = floor.advanced index inputs ref op next stage := hnext
    subst hadvanced
    exact hinv.advance htask hfresh hstep.undisturbed

theorem Inv.decided_step (hinv : floor.Inv) (hstep : floor.CalmStep event floor')
    (hrow : floor.proposal ref = some row) (hdecided : row.status ≠ .pending) :
    floor'.proposal ref = some row := by
  obtain ⟨call, rfl, rfl⟩ | ⟨index, inputs, own, op, next, stage, rfl, htask, hfresh, hnext⟩ :=
    hstep.step.cases
  · exact hrow
  · obtain ⟨k, hbehaves⟩ := hinv.behaves _ (mem_of_getElem? htask)
    have hmoved := hbehaves.rowStep hinv.sound hfresh inputs ref
    rw [hrow] at hmoved
    subst hnext
    exact RowStep.decided_stays hmoved hdecided

end Floor

/-! ## The result -/

/-- Proposals are settled once, and only applied ones have changed anything, in every
run in which no proposal is declined, failed or expired while another call is engaged with
it. -/
theorem proposals_change_only_when_applied {floor : Floor}
    (h : Reachable Floor.Initial Floor.CalmStep floor) :
    (∀ events floor', Run Floor.CalmStep floor events floor' → ∀ ref row,
      floor.proposal ref = some row → row.status ≠ .pending → floor'.proposal ref = some row) ∧
    floor.planned.Nodup ∧
    (∀ ref, ref ∈ floor.planned ↔ ∃ row, floor.proposal ref = some row ∧ row.status = .applied ∧
      row.change.runtime = none) ∧
    (∀ ref ∈ floor.acted, ∃ row, floor.proposal ref = some row ∧
      (row.status = .applied ∨ (row.status = .pending ∧
        ∃ task ∈ floor.tasks, task.ref = ref ∧ task.stage = .changed ∧ task.Running))) := by
  have hinv : floor.Inv :=
    h.invariant Floor.Inv (fun _ h => h.inv) (fun _ _ _ hinv hstep => hinv.step hstep)
  refine ⟨?_, hinv.once, hinv.planned, ?_⟩
  · intro events floor' hrun ref row hrow hdecided
    have hkeep : floor'.Inv ∧ floor'.proposal ref = some row :=
      hrun.invariant (fun s => s.Inv ∧ s.proposal ref = some row)
        (fun _ _ _ h hstep => ⟨h.1.step hstep, h.1.decided_step hstep h.2 hdecided⟩) ⟨hinv, hrow⟩
    exact hkeep.2
  · intro ref href
    obtain ⟨row, hrow, hcases⟩ := hinv.acted ref href
    refine ⟨row, hrow, hcases.imp_right ?_⟩
    rintro ⟨hpending, task, htask, hsame, hchanged⟩
    refine ⟨hpending, task, htask, hsame, hchanged, ?_⟩
    -- a call that has changed its sleeve cannot have ended
    obtain ⟨k, hbehaves⟩ := hinv.behaves task htask
    have hfollows := hbehaves.follows
    have hstage : k.stage = .changed := hbehaves.stage.trans hchanged
    unfold Task.Running
    cases hprogram : task.program with
    | perform => exact trivial
    | done | raise =>
      rw [hprogram] at hfollows
      exact absurd hstage hfollows

/-! ## A resume approved, and one declined meanwhile -/

namespace Floor

def replay (floor : Floor) (schedule : List Event) : Option Floor := schedule.foldlM play floor

def allWelcome (floor : Floor) (tasks : List Task) : Bool :=
  tasks.all (fun task => (floor.proposal task.ref).all (fun row =>
    decide (row.status = .pending) || decide (row.status = .applied)))

/-- An event after which every running call's proposal is pending or applied. -/
def playCalm (floor : Floor) (event : Event) : Option Floor :=
  (floor.play event).filter (fun floor' => floor'.allWelcome floor.tasks)

variable {floor : Floor}

theorem calmStep_of_playCalm (h : floor.playCalm event = some floor') :
    floor.CalmStep event floor' := by
  obtain ⟨hplay, hwelcome⟩ := filter_eq_some_iff.mp h
  refine ⟨hplay, ?_⟩
  rintro index inputs - other task htask - ⟨row, new, -, -, hnew, hpending, happlied⟩
  have hall := all_eq_true.mp hwelcome task (mem_of_getElem? htask)
  rw [hnew] at hall
  simp [hpending, happlied] at hall

end Floor

def pausedBook : Deployment :=
  { id := 5
    strategyFingerprint := some "f"
    strategyId := some 7
    productId := "BTC-USDC"
    mode := .paper
    status := .paused
    cash := 600
    phase := .flat
    createdAt := 0
    updatedAt := 0
    portfolioId := some 1 }

/-- The portfolio with that book, before any proposal. -/
def pausedFloor : Floor where
  registry := newRegistry.after createdWithSleeve
  execution := { MemoryStore.empty with deployments := Dict.empty.set 5 pausedBook }
  tasks := []
  acted := []
  planned := []

theorem pausedFloor_initial : pausedFloor.Initial where
  registry := by
    have hcreated : newRegistry.Step createdWithSleeve (newRegistry.after createdWithSleeve) :=
      ⟨by decide, by simp [newRegistry], rfl⟩
    have hstart : Reachable Registry.Initial Registry.Step newRegistry := .start rfl
    exact hstart.next hcreated
  proposals id := by
    have hnone : pausedFloor.registry.store.proposals.entries = [] := by decide +kernel
    rw [PortfolioStore.proposalsOf, Dict.get?, hnone]
    rfl
  tasks := rfl
  acted := rfl
  planned := rfl

/-- The breaker is clear and the strategy carries the policy. -/
def clearInputs : Inputs := ⟨usdcReads, .ok none, false, .ok ⟨true, "", ""⟩⟩

def resumeRef : ProposalRef := ⟨1, 3⟩

/-- The manager proposes to resume the sleeve; the proposal waits for approval. -/
def resumeSubmitted : List Floor.Event :=
  .start (.submit resumeRef ⟨1, .resumeSleeve 2, "The trend is back."⟩ .api 1000 4) ::
    List.replicate 7 (.advance 0 clearInputs)

/-- An approval, up to and with the saved deployment. -/
def resumeApproved : List Floor.Event :=
  .start (.approve resumeRef {} ⟨.operator, .browser, 2000⟩ 2000 8) ::
    List.replicate 10 (.advance 1 clearInputs)

def resumeDeclined : List Floor.Event :=
  .start (.decline resumeRef {} ⟨.operator, .browser, 3000⟩ 3000) ::
    List.replicate 5 (.advance 2 clearInputs)

/-- The rest of the approval: its settlement comes too late, or is in time. -/
def resumeSettled (calls : Nat) : List Floor.Event := List.replicate calls (.advance 1 clearInputs)

def Task.ended (task : Task) : Bool :=
  match task.program with
  | .perform _ _ => false
  | _ => true

/-- What a test reads of a floor. -/
def Floor.report (floor : Floor) (ref : ProposalRef) :
    Option ProposalStatus × List ProposalRef × Option DeploymentStatus × Bool :=
  ((floor.proposal ref).map (·.status), floor.acted,
    (floor.execution.deployments.get? pausedBook.id).map (·.status), floor.tasks.all Task.ended)

/-- A declined proposal has resumed its sleeve, and every call is over. -/
theorem declined_proposal_resumed :
    ∃ floor, Reachable Floor.Initial Floor.Step floor ∧
      floor.report resumeRef = (some .declined, [resumeRef], some .running, true) := by
  have hreport : (pausedFloor.replay
      (resumeSubmitted ++ resumeApproved ++ resumeDeclined ++ resumeSettled 3)).map
        (·.report resumeRef) = some (some .declined, [resumeRef], some .running, true) := by
    decide +kernel
  obtain ⟨floor, hfloor, hreport⟩ := map_eq_some_iff.mp hreport
  exact ⟨floor, Reachable.replay id (.start pausedFloor_initial) hfloor, hreport⟩

theorem proposals_change_only_when_applied_resumed :
    ∃ floor, floor.report resumeRef = (some .applied, [resumeRef], some .running, true) ∧
      floor.planned.Nodup ∧
      (∀ events floor', Run Floor.CalmStep floor events floor' →
        (floor'.proposal resumeRef).map (·.status) = some .applied) ∧
      ∀ ref ∈ floor.acted, ∃ row, floor.proposal ref = some row ∧
        (row.status = .applied ∨ (row.status = .pending ∧
          ∃ task ∈ floor.tasks, task.ref = ref ∧ task.stage = .changed ∧ task.Running)) := by
  have hreport : ((resumeSubmitted ++ resumeApproved ++ resumeSettled 4).foldlM Floor.playCalm
      pausedFloor).map (·.report resumeRef) =
        some (some .applied, [resumeRef], some .running, true) := by
    decide +kernel
  obtain ⟨floor, hfloor, hreport⟩ := map_eq_some_iff.mp hreport
  obtain ⟨hdecided, honce, -, hacted⟩ := proposals_change_only_when_applied
    (Reachable.replay Floor.calmStep_of_playCalm (.start pausedFloor_initial) hfloor)
  refine ⟨floor, hreport, honce, ?_, hacted⟩
  intro events floor' hrun
  have hstatus : (floor.proposal resumeRef).map (·.status) = some .applied :=
    congrArg Prod.fst hreport
  obtain ⟨row, hrow, happlied⟩ := map_eq_some_iff.mp hstatus
  rw [hdecided events floor' hrun resumeRef row hrow (by simp [happlied]), map_some, happlied]

end Thytrader.Portfolios
