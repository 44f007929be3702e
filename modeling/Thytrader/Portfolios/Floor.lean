import Thytrader.Portfolios.Budget
import Thytrader.Portfolios.Manager

/-!
# Manager calls side by side

The floor is both stores with the calls running on them. A step starts a call or lets
one running call make its next store call, so a run is an interleaving of submissions,
approvals, declines and expiries. The floor also keeps what its history has to say: the
proposals on whose behalf a deployment was saved, and those whose plan was applied.

Each running call has a stage. It is `changing` from the moment it has found its pause or
resume proposal pending until it settles it, and `changed` once it has saved the
deployment.
-/

namespace Thytrader.Portfolios

open Lib PortfolioStore List StoreCall
open Trading

variable {current : PortfolioAggregate} {strategy : Option SleeveStrategy}
  {context : MutationContext} {sleeveId : Uuid} {settler : Settler} {op : ManagerOp}

/-! ## State -/

/-- How far a call has come with its proposal. -/
inductive Stage where
  | opened
  | changing
  | changed
  | closed
  deriving DecidableEq, Repr

/-- A running call. -/
structure Task where
  ref : ProposalRef
  program : ManagerProgram Unit
  stage : Stage

/-- The two stores, the running calls and the history. -/
structure Floor where
  registry : Registry
  execution : MemoryStore
  tasks : List Task
  acted : List ProposalRef
  planned : List ProposalRef

/-- What the calls outside both stores answer. -/
structure Inputs where
  reads : Reads
  runtime : Outcome (Option BreakerReason)
  warmup : Bool
  published : Result PublishedPolicy

/-- A stored proposal found pending whose change is a pause or a resume. -/
def Proposal.awaitsAction (proposal : Proposal) : Bool :=
  decide (proposal.status = .pending) && proposal.change.runtime.isSome

def Stage.after (stage : Stage) : (op : ManagerOp) → op.Answer → Stage
  | .getProposal _, answer =>
    match answer with
    | .ok proposal => if proposal.awaitsAction then .changing else stage
    | .error _ => stage
  | .createProposal _ _ _ _, answer =>
    match answer with
    | .ok proposal => if proposal.awaitsAction then .changing else stage
    | .error _ => stage
  | .saveDeployment _ _ _, answer =>
    match answer with
    | .ok _ => .changed
    | .error _ => stage
  | .settleProposal _ _ _, _ => .closed
  | _, _ => stage

namespace Floor

/-! ## Store calls -/

def proposal (floor : Floor) (ref : ProposalRef) : Option Proposal :=
  (floor.registry.store.proposalsOf ref.portfolioId).find? (fun row => row.proposalId = ref.proposalId)

def plannedBy : Outcome Write → List ProposalRef
  | .ok (.settle settlement) =>
    if settlement.plan.isSome then
      [⟨settlement.proposal.portfolioId, settlement.proposal.proposalId⟩]
    else []
  | _ => []

/-- The proposal a locked section wrote. -/
def written : Outcome Write → Outcome Proposal
  | .ok (.settle settlement) => .ok settlement.proposal
  | .ok _ => .error (.proposalNotFound "Proposal was not found.")
  | .error error => .error error

def locked (floor : Floor) (call : StoreCall) (reads : Reads) : Floor :=
  { floor with
    registry := floor.registry.after ⟨call, reads⟩
    planned := plannedBy (call.lockedSection reads floor.registry.store) ++ floor.planned }

/-- `list_proposals(..., status="pending")`: how many there are. -/
def countPending (store : PortfolioStore) (portfolioId : Uuid) : Outcome Nat := do
  let _ ← store.portfolio portfolioId
  return ((store.proposalsOf portfolioId).filter (fun row => row.status = .pending)).length

def getProposal (store : PortfolioStore) (ref : ProposalRef) : Outcome Proposal := do
  let _ ← store.portfolio ref.portfolioId
  store.findProposal ref.portfolioId ref.proposalId

/-- `append_journal` of one entry. -/
def appendJournal (store : PortfolioStore) (entry : JournalEntry) : Outcome PortfolioStore := do
  let _ ← store.portfolio entry.portfolioId
  return store.extendJournal entry.portfolioId [entry]

/-- `list_deployments`: newest update first, ties in insertion order. -/
def listDeployments (execution : MemoryStore) : List Deployment :=
  execution.deployments.values.insertionSort (fun a b => b.updatedAt ≤ a.updatedAt)

def lockedCall : ManagerOp → Option StoreCall
  | .expireProposals now => some (.expireProposals now)
  | .createProposal ref request sleeveId context =>
    some (.createProposal ref.portfolioId request ref.proposalId sleeveId context)
  | .settleProposal ref strategyId settler =>
    some (.settleProposal ref.portfolioId ref.proposalId strategyId settler)
  | _ => none

def perform (floor : Floor) (inputs : Inputs) : (op : ManagerOp) → op.Answer × Floor
  | .expireProposals now => ((), floor.locked (.expireProposals now) inputs.reads)
  | .get portfolioId =>
    ((floor.registry.store.portfolio portfolioId).map
      (floor.registry.store.aggregate inputs.reads.joined), floor)
  | .getProposal ref => (getProposal floor.registry.store ref, floor)
  | .countPending portfolioId => (countPending floor.registry.store portfolioId, floor)
  | .createProposal ref request sleeveId context =>
    let call : StoreCall := .createProposal ref.portfolioId request ref.proposalId sleeveId context
    (written (call.lockedSection inputs.reads floor.registry.store), floor.locked call inputs.reads)
  | .settleProposal ref strategyId settler =>
    let call : StoreCall := .settleProposal ref.portfolioId ref.proposalId strategyId settler
    (written (call.lockedSection inputs.reads floor.registry.store), floor.locked call inputs.reads)
  | .runtimeState _ => (inputs.runtime, floor)
  | .listDeployments => (listDeployments floor.execution, floor)
  | .requireConvergenceWarmup => (inputs.warmup, floor)
  | .getDeployment deploymentId => (floor.execution.getDeployment deploymentId, floor)
  | .loadPublished _ => (inputs.published, floor)
  | .saveDeployment ref deployment expectedRevision =>
    match floor.execution.saveDeployment deployment (some expectedRevision) with
    | (.ok saved, execution) =>
      (.ok saved, { floor with execution := execution, acted := ref :: floor.acted })
    | (.error failure, execution) => (.error failure, { floor with execution := execution })
  | .appendJournal entry =>
    match appendJournal floor.registry.store entry with
    | .ok store => (.ok (), { floor with registry := { floor.registry with store := store } })
    | .error error => (.error error, floor)

/-! ## Runs -/

/-- Start a call, or let a running one make its next store call. -/
inductive Event where
  | start (call : ManagerCall)
  | advance (index : Nat) (inputs : Inputs)

def mints (op : ManagerOp) : List Uuid := ((lockedCall op).map minted).getD []

/-- No earlier call minted these ids, and none of them is minted twice. -/
def fresh (registry : Registry) (ids : List Uuid) : Bool :=
  decide ids.Nodup && ids.all (fun id => decide (id ∉ registry.minted))

/-- The floor after an event: nothing when no such call is waiting, or its ids are taken. -/
def play (floor : Floor) : Event → Option Floor
  | .start call => some { floor with tasks := floor.tasks ++ [⟨call.ref, call.program, .opened⟩] }
  | .advance index inputs =>
    match floor.tasks[index]? with
    | some ⟨ref, .perform op next, stage⟩ =>
      if fresh floor.registry (mints op) then
        let (answer, floor) := floor.perform inputs op
        some { floor with tasks := floor.tasks.set index ⟨ref, next answer, stage.after op answer⟩ }
      else none
    | _ => none

/-- One step of any schedule. -/
def Step (floor : Floor) (event : Event) (floor' : Floor) : Prop := floor.play event = some floor'

/-- Portfolios made by any calls of the store, no proposals and no running calls. -/
structure Initial (floor : Floor) : Prop where
  registry : Reachable Registry.Initial Registry.Step floor.registry
  proposals : ∀ id, floor.registry.store.proposalsOf id = []
  tasks : floor.tasks = []
  acted : floor.acted = []
  planned : floor.planned = []

theorem Step.cases {floor floor' : Floor} {event : Event} (h : floor.Step event floor') :
    (∃ call, event = .start call ∧
      floor' = { floor with tasks := floor.tasks ++ [⟨call.ref, call.program, .opened⟩] }) ∨
    (∃ index inputs ref op next stage, event = .advance index inputs ∧
      floor.tasks[index]? = some ⟨ref, .perform op next, stage⟩ ∧
      fresh floor.registry (mints op) = true ∧
      floor' = { (floor.perform inputs op).2 with
        tasks := (floor.perform inputs op).2.tasks.set index
          ⟨ref, next (floor.perform inputs op).1, stage.after op (floor.perform inputs op).1⟩ }) := by
  cases event with
  | start call => exact .inl ⟨call, rfl, (Option.some.inj h).symm⟩
  | advance index inputs =>
    unfold Step play at h
    dsimp only at h
    split at h
    next ref op next stage htask =>
      obtain ⟨hfresh, h⟩ := of_ite_ne_else h nofun
      exact .inr ⟨index, inputs, ref, op, next, stage, rfl, htask, hfresh,
        (Option.some.inj h).symm⟩
    · cases h

end Floor

/-! ## What a settlement decides -/

/-- The settlements of a pause or resume that was made. -/
def Settler.appliesRuntime : Settler → Bool
  | .approveRuntime _ _ => true
  | .autoApply _ => true
  | _ => false

/-- A rebalance or add-sleeve is applied exactly with its plan. -/
def PlanApplied (settlement : ProposalSettlement) : Prop :=
  settlement.plan.isSome = true ↔
    settlement.proposal.status = .applied ∧ settlement.proposal.change.runtime = none

variable {proposalId : Uuid}

theorem runtime_of_planChange {change : ProposalChange} {plan : MutationPlan}
    (h : planChange current change strategy context proposalId sleeveId = .ok (some plan)) :
    change.runtime = none := by
  cases change with
  | rebalance | addSleeve => rfl
  | pauseSleeve | resumeSleeve => cases h

variable {settlement : ProposalSettlement} {request : ProposalSubmitRequest}

theorem submission_planApplied {moved : Decimal}
    (h : submission current request moved strategy proposalId sleeveId context = .ok settlement) :
    PlanApplied settlement := by
  obtain ⟨-, -, -, hcases⟩ := submission_cases h
  have hchange : settlement.proposal.change = request.change := by
    obtain ⟨_, -, h⟩ := bind_eq_ok h
    obtain ⟨_, -, h⟩ := bind_eq_ok h
    obtain ⟨_, -, h⟩ := bind_eq_ok h
    rw [← Except.ok.inj h]
  constructor
  · intro hplan
    obtain ⟨plan, hplan⟩ := Option.isSome_iff_exists.mp hplan
    refine ⟨?_, hchange ▸ runtime_of_planChange (submission_plan h hplan)⟩
    obtain ⟨_, -, h⟩ := bind_eq_ok h
    obtain ⟨_, -, h⟩ := bind_eq_ok h
    obtain ⟨_, -, h⟩ := bind_eq_ok h
    rw [← Except.ok.inj h] at hplan ⊢
    obtain ⟨happlied, hplan⟩ := of_ite_ne_else hplan nofun
    rw [if_pos happlied]
  · rintro ⟨hstatus, -⟩
    rcases hcases with hpending | ⟨plan, weight, hauto⟩
    · rw [hpending] at hstatus
      cases hstatus
    · rw [hauto.written]
      rfl

structure Decides (settler : Settler) (stored : Proposal) (settlement : ProposalSettlement) :
    Prop where
  pending : stored.status = .pending
  decided : settlement.proposal.status ≠ .pending
  change : settlement.proposal.change = stored.change
  runtime : settler.appliesRuntime = true →
    settlement.proposal.status = .applied ∧ settlement.plan = none
  planned : settler.appliesRuntime = false → PlanApplied settlement

variable {stored : Proposal}

theorem failure_decides {code message : String} (hsettler : settler.appliesRuntime = false)
    (h : failure current stored code message context = .ok settlement) :
    Decides settler stored settlement := by
  obtain ⟨_, hpending, rfl⟩ := bind_pure_ok h
  exact {
    pending := require_eq_ok hpending
    decided := by simp [decided]
    change := rfl
    runtime := fun hruntime => absurd hruntime (by simp [hsettler])
    planned := fun _ => ⟨fun hplan => absurd hplan (by simp),
      fun hstatus => absurd hstatus.1 (by simp [decided])⟩ }

theorem settlement_decides (h : settler.settlement current stored strategy = .ok settlement) :
    Decides settler stored settlement := by
  cases settler with
  | approve _ context sleeveId =>
    obtain ⟨_, hpending, h⟩ := bind_eq_ok h
    match hplanned : planChange current stored.change strategy context stored.proposalId sleeveId with
    | .error error =>
      rw [hplanned] at h
      dsimp only [settlePlanned] at h
      split at h
      · exact failure_decides rfl h
      · cases h
    | .ok none =>
      rw [hplanned] at h
      exact failure_decides rfl h
    | .ok (some plan) =>
      rw [hplanned] at h
      cases h
      exact {
        pending := require_eq_ok hpending
        decided := by simp [decided]
        change := rfl
        runtime := fun hruntime => absurd hruntime (by simp [Settler.appliesRuntime])
        planned := fun _ => ⟨fun _ => ⟨rfl, runtime_of_planChange hplanned⟩, fun _ => rfl⟩ }
  | approveRuntime | autoApply =>
    obtain ⟨_, hpending, rfl⟩ := bind_pure_ok h
    exact {
      pending := require_eq_ok hpending
      decided := by simp [decided]
      change := rfl
      runtime := fun _ => ⟨rfl, rfl⟩
      planned := fun hplan => absurd hplan (by simp [Settler.appliesRuntime]) }
  | decline =>
    obtain ⟨_, hpending, rfl⟩ := bind_pure_ok h
    exact {
      pending := require_eq_ok hpending
      decided := by simp [decided]
      change := rfl
      runtime := fun hruntime => absurd hruntime (by simp [Settler.appliesRuntime])
      planned := fun _ => ⟨fun hplan => absurd hplan (by simp),
        fun hstatus => absurd hstatus.1 (by simp [decided])⟩ }
  | fail => exact failure_decides rfl h

/-! ## What a store call does to the rows -/

/-- What one store call may do to one proposal: leave it, submit it, or decide it; and
whether it applied its plan. -/
inductive RowStep (planned : Prop) : Option Proposal → Option Proposal → Prop where
  | same (row : Option Proposal) (hplan : ¬ planned) : RowStep planned row row
  | submitted (new : Proposal)
      (hplan : planned ↔ new.status = .applied ∧ new.change.runtime = none) :
      RowStep planned none (some new)
  | decided (row new : Proposal) (hpending : row.status = .pending) (hdecided : new.status ≠ .pending)
      (hchange : new.change = row.change)
      (hplan : planned ↔ new.status = .applied ∧ new.change.runtime = none) :
      RowStep planned (some row) (some new)

theorem find?_upsert (rows : List Proposal) (proposal : Proposal) (id : Uuid) :
    (upsert rows proposal).find? (fun row => row.proposalId = id) =
      if id = proposal.proposalId then some proposal
      else rows.find? (fun row => row.proposalId = id) := by
  induction rows with
  | nil =>
    rw [upsert, find?_singleton]
    by_cases hid : id = proposal.proposalId
    · simp [hid]
    · simp [hid, Ne.symm hid]
  | cons row _ ih =>
    rw [upsert]
    by_cases hrow : row.proposalId = proposal.proposalId
    · rw [if_pos hrow, find?_cons, find?_cons, hrow]
      by_cases hid : id = proposal.proposalId
      · simp [hid]
      · simp [hid, Ne.symm hid]
    · rw [if_neg hrow, find?_cons, find?_cons, ih]
      by_cases hid : row.proposalId = id
      · simp [hid, hid ▸ hrow]
      · simp [hid]

namespace Floor

variable {floor : Floor} {inputs : Inputs}
variable {reads : Reads}

/-- The portfolios are sound and every stored proposal stands under its own ids. -/
structure Sound (floor : Floor) : Prop where
  registry : floor.registry.Inv
  rows : ∀ id, ∀ row ∈ floor.registry.store.proposalsOf id,
    row.portfolioId = id ∧ row.proposalId ∈ floor.registry.minted

theorem fresh_iff {registry : Registry} {ids : List Uuid} :
    fresh registry ids = true ↔ ids.Nodup ∧ ∀ id ∈ ids, id ∉ registry.minted := by
  simp [fresh]

variable {ref : ProposalRef}

theorem proposal_mem {row : Proposal} (h : floor.proposal ref = some row) :
    row ∈ floor.registry.store.proposalsOf ref.portfolioId ∧ row.proposalId = ref.proposalId :=
  ⟨mem_of_find?_eq_some h, by simpa using find?_some h⟩

theorem find_settle (store : PortfolioStore) (settlement : ProposalSettlement) (ref : ProposalRef) :
    ((store.settle settlement).proposalsOf ref.portfolioId).find?
        (fun row => row.proposalId = ref.proposalId) =
      if ref = ⟨settlement.proposal.portfolioId, settlement.proposal.proposalId⟩ then
        some settlement.proposal
      else (store.proposalsOf ref.portfolioId).find? (fun row => row.proposalId = ref.proposalId) := by
  rw [proposalsOf_settle]
  by_cases hportfolio : ref.portfolioId = settlement.proposal.portfolioId
  · rw [if_pos hportfolio, find?_upsert]
    by_cases hid : ref.proposalId = settlement.proposal.proposalId
    · rw [if_pos hid, if_pos]
      rw [← hportfolio, ← hid]
    · rw [if_neg hid, if_neg]
      rintro rfl
      exact hid rfl
  · rw [if_neg hportfolio, if_neg]
    rintro rfl
    exact hportfolio rfl

variable {call : StoreCall}

theorem proposal_locked_settle
    (h : call.lockedSection reads floor.registry.store = .ok (.settle settlement))
    (ref : ProposalRef) : (floor.locked call reads).proposal ref =
      if ref = ⟨settlement.proposal.portfolioId, settlement.proposal.proposalId⟩ then
        some settlement.proposal
      else floor.proposal ref := by
  unfold proposal locked Registry.after
  rw [h]
  exact find_settle _ _ _

theorem proposal_locked_error {error : PortfolioError}
    (h : call.lockedSection reads floor.registry.store = .error error) (ref : ProposalRef) :
    (floor.locked call reads).proposal ref = floor.proposal ref := by
  unfold proposal locked Registry.after
  rw [h]

theorem proposal_locked_expire (now : Time) (reads : Reads) (ref : ProposalRef) :
    (floor.locked (.expireProposals now) reads).proposal ref =
      (floor.proposal ref).map (expired now) := by
  show (((floor.registry.store.expireProposals now).proposalsOf ref.portfolioId).find?
    (fun row => row.proposalId = ref.proposalId)) = _
  rw [proposalsOf_expire, find?_map]
  congr 2
  funext row
  rw [Function.comp_apply]
  unfold expired
  split
  · rfl
  · rfl

theorem mem_plannedBy_settle :
    ref ∈ plannedBy (.ok (.settle settlement)) ↔ settlement.plan.isSome = true ∧
      ref = ⟨settlement.proposal.portfolioId, settlement.proposal.proposalId⟩ := by
  show ref ∈ (if settlement.plan.isSome then
    [(⟨settlement.proposal.portfolioId, settlement.proposal.proposalId⟩ : ProposalRef)] else []) ↔ _
  split
  next hplan => simp [hplan]
  next hplan => simp [hplan]

def plannedOf (floor : Floor) (inputs : Inputs) (op : ManagerOp) : List ProposalRef :=
  match lockedCall op with
  | some call => plannedBy (call.lockedSection inputs.reads floor.registry.store)
  | none => []

theorem planned_perform (op : ManagerOp) :
    (floor.perform inputs op).2.planned = floor.plannedOf inputs op ++ floor.planned := by
  cases op with
  | saveDeployment | appendJournal =>
    unfold perform
    dsimp only
    split
    · rfl
    · rfl
  | _ => rfl

theorem Sound.proposal_fresh (hsound : floor.Sound) (h : ref.proposalId ∉ floor.registry.minted) :
    floor.proposal ref = none := by
  refine find?_eq_none.mpr fun row hrow => ?_
  intro hid
  have hid : row.proposalId = ref.proposalId := by simpa using hid
  exact h (hid ▸ (hsound.rows _ row hrow).2)

/-- A call that settles one proposal moves that row and keeps the others. -/
theorem rowStep_locked (ref : ProposalRef) (hsettles : ∀ write,
    call.lockedSection reads floor.registry.store = .ok write →
      ∃ settlement, write = .settle settlement ∧
        ref = ⟨settlement.proposal.portfolioId, settlement.proposal.proposalId⟩ ∧
        RowStep (settlement.plan.isSome = true) (floor.proposal ref) (some settlement.proposal))
    (other : ProposalRef) :
    RowStep (other ∈ plannedBy (call.lockedSection reads floor.registry.store))
      (floor.proposal other) ((floor.locked call reads).proposal other) := by
  cases hsection : call.lockedSection reads floor.registry.store with
  | error error =>
    rw [proposal_locked_error hsection]
    exact .same _ (by simp [plannedBy])
  | ok write =>
    obtain ⟨settlement, rfl, href, hstep⟩ := hsettles write hsection
    rw [proposal_locked_settle hsection, ← href, mem_plannedBy_settle, ← href]
    by_cases hother : other = ref
    · rwa [hother, if_pos rfl, and_iff_left rfl]
    · rw [if_neg hother]
      exact .same _ (fun h => hother h.2)

theorem Sound.rowStep_create (hsound : floor.Sound)
    (hfresh : fresh floor.registry (mints (.createProposal ref request sleeveId context)) = true)
    (other : ProposalRef) : RowStep
      (other ∈ plannedBy (lockedSection
        (.createProposal ref.portfolioId request ref.proposalId sleeveId context) reads
        floor.registry.store))
      (floor.proposal other)
      ((floor.locked (.createProposal ref.portfolioId request ref.proposalId sleeveId context)
        reads).proposal other) := by
  refine rowStep_locked ref (fun write hsection => ?_) other
  obtain ⟨strategy, -, hsection⟩ := bind_eq_ok hsection
  obtain ⟨before, hbefore, hsection⟩ := bind_eq_ok hsection
  obtain ⟨settlement, hsubmission, rfl⟩ := bind_pure_ok hsection
  obtain ⟨hid, hportfolio, -, -⟩ := submission_cases hsubmission
  have hkept := (hsound.registry _ _ (portfolio_eq_ok hbefore)).portfolioId
  refine ⟨settlement, rfl, ?_, ?_⟩
  · have hsame : settlement.proposal.portfolioId = ref.portfolioId := hportfolio.trans hkept
    rw [hid, hsame]
  · rw [hsound.proposal_fresh ((fresh_iff.mp hfresh).2 _ (by simp [mints, lockedCall, minted]))]
    exact .submitted _ (submission_planApplied hsubmission)

theorem Sound.rowStep_settle (hsound : floor.Sound) {ref : ProposalRef} {strategyId : Option Uuid}
    (hruntime : settler.appliesRuntime = true → ∀ row, floor.proposal ref = some row →
      row.change.runtime ≠ none) (other : ProposalRef) :
    RowStep
      (other ∈ plannedBy (lockedSection
        (.settleProposal ref.portfolioId ref.proposalId strategyId settler) reads
        floor.registry.store))
      (floor.proposal other)
      ((floor.locked (.settleProposal ref.portfolioId ref.proposalId strategyId settler)
        reads).proposal other) := by
  refine rowStep_locked ref (fun write hsection => ?_) other
  obtain ⟨strategy, -, hsection⟩ := bind_eq_ok hsection
  obtain ⟨before, -, hsection⟩ := bind_eq_ok hsection
  obtain ⟨stored, hstored, hsection⟩ := bind_eq_ok hsection
  obtain ⟨settlement, hsettlement, rfl⟩ := bind_pure_ok hsection
  obtain ⟨-, hid, hportfolio, -⟩ := settlement_cases hsettlement
  have hdecides := settlement_decides hsettlement
  have hrow : floor.proposal ref = some stored := findProposal_eq_ok hstored
  obtain ⟨hmem, hstoredId⟩ := proposal_mem hrow
  refine ⟨settlement, rfl, ?_, ?_⟩
  · rw [hid, hportfolio, hstoredId, (hsound.rows _ _ hmem).1]
  · rw [hrow]
    refine .decided _ _ hdecides.pending hdecides.decided hdecides.change ?_
    cases happlies : settler.appliesRuntime with
    | false => exact hdecides.planned happlies
    | true =>
      have hnone := (hdecides.runtime happlies).2
      have hchange := hruntime happlies stored hrow
      rw [hnone, hdecides.change]
      exact ⟨fun h => absurd h (by simp), fun h => absurd h.2 hchange⟩

theorem proposal_perform (h : lockedCall op = none) (other : ProposalRef) :
    (floor.perform inputs op).2.proposal other = floor.proposal other := by
  cases op with
  | expireProposals | createProposal | settleProposal => exact absurd h (by simp [lockedCall])
  | saveDeployment =>
    unfold perform
    dsimp only
    split
    · rfl
    · rfl
  | appendJournal =>
    unfold perform
    dsimp only
    split
    next store hstore =>
      obtain ⟨_, -, rfl⟩ := bind_pure_ok hstore
      rfl
    · rfl
  | _ => rfl

/-- One store call moves each proposal by at most one decision. -/
theorem Sound.rowStep (hsound : floor.Sound) (hfresh : fresh floor.registry (mints op) = true)
    (hruntime : ∀ ref strategyId settler, op = .settleProposal ref strategyId settler →
      settler.appliesRuntime = true → ∀ row, floor.proposal ref = some row → row.change.runtime ≠
      none) (ref : ProposalRef) :
    RowStep (ref ∈ floor.plannedOf inputs op) (floor.proposal ref)
      ((floor.perform inputs op).2.proposal ref) := by
  cases op with
  | expireProposals now =>
    show RowStep _ _ ((floor.locked (.expireProposals now) inputs.reads).proposal ref)
    rw [proposal_locked_expire]
    cases hrow : floor.proposal ref with
    | none => exact .same _ (by simp [plannedOf, lockedCall, lockedSection, plannedBy])
    | some =>
      rw [Option.map_some]
      unfold expired
      split
      next hpending =>
        exact .decided _ _ hpending.1 (by simp) rfl
          (by simp [plannedOf, lockedCall, lockedSection, plannedBy])
      · exact .same _ (by simp [plannedOf, lockedCall, lockedSection, plannedBy])
  | createProposal => exact hsound.rowStep_create hfresh ref
  | settleProposal own strategyId settler =>
    exact hsound.rowStep_settle (hruntime own strategyId settler rfl) ref
  | saveDeployment | appendJournal =>
    rw [proposal_perform rfl]
    exact .same _ (by simp [plannedOf, lockedCall])
  | _ => exact .same _ (by simp [plannedOf, lockedCall])

theorem tasks_perform (op : ManagerOp) : (floor.perform inputs op).2.tasks = floor.tasks := by
  cases op with
  | saveDeployment | appendJournal =>
    unfold perform
    dsimp only
    split
    · rfl
    · rfl
  | _ => rfl

/-- A manager call settles a proposal or expires the due ones. -/
theorem lockedCall_write (op : ManagerOp) (hcall : lockedCall op = some call)
    {store : PortfolioStore} {write : Write} (h : call.lockedSection reads store = .ok write) :
    (∃ settlement, write = .settle settlement) ∨ ∃ now, write = .expire now := by
  cases op with
  | createProposal =>
    cases hcall
    obtain ⟨_, -, h⟩ := bind_eq_ok h
    obtain ⟨_, -, h⟩ := bind_eq_ok h
    obtain ⟨settlement, -, h⟩ := bind_eq_ok h
    exact .inl ⟨settlement, (Except.ok.inj h).symm⟩
  | settleProposal =>
    cases hcall
    obtain ⟨_, -, h⟩ := bind_eq_ok h
    obtain ⟨_, -, h⟩ := bind_eq_ok h
    obtain ⟨_, -, h⟩ := bind_eq_ok h
    obtain ⟨settlement, -, h⟩ := bind_eq_ok h
    exact .inl ⟨settlement, (Except.ok.inj h).symm⟩
  | expireProposals now =>
    cases hcall
    exact .inr ⟨now, (Except.ok.inj h).symm⟩
  | _ => exact absurd hcall (by simp [lockedCall])

variable {id : Uuid}

theorem portfolios_locked (op : ManagerOp) (hcall : lockedCall op = some call) (reads : Reads)
    (h : (floor.registry.store.portfolios.get? id).isSome = true) :
    ((floor.locked call reads).registry.store.portfolios.get? id).isSome = true := by
  unfold locked Registry.after
  split
  next write hsection =>
    obtain ⟨settlement, rfl⟩ | ⟨now, rfl⟩ := lockedCall_write op hcall hsection
    · show ((floor.registry.store.settle settlement).portfolios.get? id).isSome = true
      cases hplan : settlement.plan with
      | none => rwa [(settle_of_none _ hplan).1]
      | some =>
        rw [(settle_of_plan _ hplan).1, portfolios_apply, Dict.get?_set]
        split
        · rfl
        · exact h
    · exact h
  · exact h

theorem portfolios_perform (op : ManagerOp)
    (h : (floor.registry.store.portfolios.get? id).isSome = true) :
    ((floor.perform inputs op).2.registry.store.portfolios.get? id).isSome = true := by
  cases op with
  | expireProposals now => exact portfolios_locked (.expireProposals now) rfl inputs.reads h
  | createProposal ref request sleeveId context =>
    exact portfolios_locked (.createProposal ref request sleeveId context) rfl inputs.reads h
  | settleProposal ref strategyId settler =>
    exact portfolios_locked (.settleProposal ref strategyId settler) rfl inputs.reads h
  | saveDeployment =>
    unfold perform
    dsimp only
    split
    · exact h
    · exact h
  | appendJournal =>
    unfold perform
    dsimp only
    split
    next store hstore =>
      obtain ⟨_, -, rfl⟩ := bind_pure_ok hstore
      exact h
    · exact h
  | _ => exact h

theorem deployments_perform (op : ManagerOp)
    (h : (floor.execution.deployments.get? id).isSome = true) :
    ((floor.perform inputs op).2.execution.deployments.get? id).isSome = true := by
  cases op with
  | saveDeployment _ deployment expectedRevision =>
    have hsaved : ((floor.execution.saveDeployment deployment
        (some expectedRevision)).2.deployments.get? id).isSome = true := by
      rcases MemoryStore.saveDeployment_cases floor.execution deployment (some expectedRevision) none
        with ⟨failure, hfail⟩ | ⟨current, next, -, -, hok, hrows, -⟩
      · rw [hfail]
        exact h
      · rw [hok, hrows, Dict.get?_set]
        split
        · rfl
        · exact h
    unfold perform
    dsimp only
    split
    next saved execution hsave =>
      rw [hsave] at hsaved
      exact hsaved
    next failure execution hsave =>
      rw [hsave] at hsaved
      exact hsaved
  | appendJournal =>
    unfold perform
    dsimp only
    split
    · exact h
    · exact h
  | _ => exact h

theorem inv_locked (hinv : floor.registry.Inv) (hfresh : fresh floor.registry call.minted = true) :
    (floor.locked call reads).registry.Inv := by
  obtain ⟨hdistinct, hunused⟩ := fresh_iff.mp hfresh
  have hstep : floor.registry.Step ⟨call, reads⟩ (floor.locked call reads).registry :=
    ⟨hdistinct, hunused, rfl⟩
  exact hinv.step hstep

theorem Sound.locked (hsound : floor.Sound) (op : ManagerOp) (hcall : lockedCall op = some call)
    (hfresh : fresh floor.registry call.minted = true) : (floor.locked call reads).Sound := by
  have hminted : (floor.locked call reads).registry.minted = call.minted ++ floor.registry.minted :=
    Registry.minted_after _ _
  refine ⟨inv_locked hsound.registry hfresh, fun id row hrow => ?_⟩
  rw [hminted]
  have hold : ∀ row ∈ floor.registry.store.proposalsOf id, row.portfolioId = id ∧
      row.proposalId ∈ call.minted ++ floor.registry.minted := by
    intro row hrow
    obtain ⟨hportfolio, hid⟩ := hsound.rows id row hrow
    exact ⟨hportfolio, mem_append_right _ hid⟩
  -- a written row is a submission's, under a minted id, or keeps the ids of a stored one
  have hsettled : ∀ settlement,
      call.lockedSection reads floor.registry.store = .ok (.settle settlement) →
      row ∈ (floor.registry.store.settle settlement).proposalsOf id →
      row.portfolioId = id ∧ row.proposalId ∈ call.minted ++ floor.registry.minted := by
    intro settlement hsection hrow
    rw [proposalsOf_settle] at hrow
    split at hrow
    next hid =>
      rcases mem_upsert hrow with rfl | hrow
      · refine ⟨hid.symm, ?_⟩
        cases lockedSection_settles hsection with
        | submitted _ _ _ _ _ _ _ hcall _ h =>
          rw [hcall, (submission_cases h).1]
          exact mem_append_left _ (by simp [minted])
        | settled _ _ _ _ _ stored _ _ _ hfind h =>
          rw [(settlement_cases h).2.1]
          have hmem := mem_of_find?_eq_some (findProposal_eq_ok hfind)
          exact mem_append_right _ (hsound.rows _ stored hmem).2
      · exact hold row hrow
    · exact hold row hrow
  cases hsection : call.lockedSection reads floor.registry.store with
  | error =>
    unfold Floor.locked Registry.after at hrow
    rw [hsection] at hrow
    exact hold row hrow
  | ok =>
    unfold Floor.locked Registry.after at hrow
    rw [hsection] at hrow
    obtain ⟨settlement, rfl⟩ | ⟨now, rfl⟩ := lockedCall_write op hcall hsection
    · exact hsettled _ hsection hrow
    · have hrow : row ∈ (floor.registry.store.expireProposals now).proposalsOf id := hrow
      rw [proposalsOf_expire] at hrow
      obtain ⟨before, hbefore, rfl⟩ := mem_map.mp hrow
      have hids := hold before hbefore
      unfold expired
      split
      · exact hids
      · exact hids

theorem Sound.perform (hsound : floor.Sound) (hfresh : fresh floor.registry (mints op) = true) :
    (floor.perform inputs op).2.Sound := by
  cases op with
  | expireProposals now => exact hsound.locked (.expireProposals now) rfl hfresh
  | createProposal ref request sleeveId context =>
    exact hsound.locked (.createProposal ref request sleeveId context) rfl hfresh
  | settleProposal ref strategyId settler =>
    exact hsound.locked (.settleProposal ref strategyId settler) rfl hfresh
  | saveDeployment =>
    unfold Floor.perform
    dsimp only
    split
    · exact ⟨hsound.registry, hsound.rows⟩
    · exact ⟨hsound.registry, hsound.rows⟩
  | appendJournal =>
    unfold Floor.perform
    dsimp only
    split
    next store hstore =>
      obtain ⟨_, -, rfl⟩ := bind_pure_ok hstore
      refine ⟨?_, hsound.rows⟩
      intro id portfolio hget
      have hkept := hsound.registry id portfolio hget
      exact ⟨hkept.portfolioId, hkept.sound, hkept.revision, hkept.minted, hkept.sleeveIds⟩
    · exact hsound
  | _ => exact hsound

end Floor

end Thytrader.Portfolios
