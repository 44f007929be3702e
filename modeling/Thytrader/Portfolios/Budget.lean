import Thytrader.Portfolios.Invariants

/-!
# The weekly auto-rebalance budget

`create_proposal` reads the weight that auto-applied rebalances moved in the trailing week from the
stored proposals, and a submission is applied at once only when its own move fits what is left of
the budget. Here the rebalances that were auto-applied are recorded as they happen, each with the
weight it really moved (the sleeves before and after), and the bound holds for every closed window
of a week (`auto_rebalances_within_budget`).

The stored rows of a portfolio account for its whole record (`Booked.counted`), and the last
rebalance of a window saw all the others.
-/

namespace Thytrader.Portfolios

open Lib PortfolioStore List Registry List.Sublist

variable {moved : Decimal} {current : PortfolioAggregate} {strategy : Option SleeveStrategy}
  {proposalId : Uuid} {event : StoreEvent} {d : Diary} {budget : WeeklyChangeFractionText}

/-! ## The record -/

def weightIn (rows : List Sleeve) (sleeveId : Uuid) : Decimal :=
  ((rows.find? (fun row => row.sleeveId = sleeveId)).map (·.weightFraction)).getD 0

/-- The larger of total increases and total decreases between two sleeve sets. -/
def weightShift (before after : List Sleeve) : Decimal :=
  max (after.map (fun row => max 0 (row.weightFraction - weightIn before row.sleeveId))).sum
    (before.map (fun row => max 0 (row.weightFraction - weightIn after row.sleeveId))).sum

/-- A rebalance that was auto-applied, and the portfolio it was applied to. -/
structure AutoRebalance where
  portfolioId : Uuid
  occurredAt : Time
  moved : Decimal
  mode : PortfolioMode
  mayRebalance : Bool

def autoRebalanced (r : Registry) (event : StoreEvent) : Option AutoRebalance :=
  match event.call, event.call.lockedSection event.reads r.store with
  | .createProposal portfolioId _ _ _ context, .ok (.settle settlement) =>
    if settlement.proposal.status = .applied then
      (r.store.portfolios.get? portfolioId).map (fun portfolio =>
        ⟨portfolioId, context.occurredAt,
          weightShift (r.store.sleevesOf portfolioId) ((r.after event).store.sleevesOf portfolioId),
          portfolio.mode, portfolio.manager.permissions.mayRebalance⟩)
    else none
  | _, _ => none

/-- The registry with the record of its auto-applied rebalances. -/
structure Diary where
  registry : Registry
  rebalances : List AutoRebalance

namespace Diary

/-- A new store. -/
def Initial (d : Diary) : Prop := d = ⟨newRegistry, []⟩

def after (d : Diary) (event : StoreEvent) : Diary :=
  ⟨d.registry.after event, d.rebalances ++ (autoRebalanced d.registry event).toList⟩

/-- The portfolio, while it is there, has this budget. -/
def Budgeted (id : Uuid) (budget : WeeklyChangeFractionText) (d : Diary) : Prop :=
  ∀ portfolio, d.registry.store.portfolios.get? id = some portfolio →
    portfolio.manager.permissions.maxWeightChangePerWeek = budget

/-- One section of any caller, with the portfolio's budget held constant. -/
structure Step (id : Uuid) (budget : WeeklyChangeFractionText) (d : Diary) (event : StoreEvent)
    (d' : Diary) : Prop where
  section_ : d.registry.Step event d'.registry
  constant : d'.Budgeted id budget
  next : d' = d.after event

/-- The weight auto-applied rebalances of a portfolio moved in the closed week from `start`. -/
def movedInWeek (d : Diary) (id : Uuid) (start : Time) : Decimal :=
  ((d.rebalances.filter (fun entry => entry.portfolioId = id ∧ start ≤ entry.occurredAt ∧
    entry.occurredAt ≤ start + rebalanceBudgetWindow)).map (·.moved)).sum

end Diary

/-! ## What a submission applies -/

variable {aggregate : PortfolioAggregate} {change : RebalanceChange}

theorem weightMoved_nonneg (h : weightMoved aggregate change = .ok moved) : 0 ≤ moved := by
  obtain ⟨_, -, rfl⟩ := bind_pure_ok h
  refine le_max_of_le_left (sum_nonneg fun x hx => ?_)
  obtain ⟨row, -, rfl⟩ := mem_map.mp hx
  exact le_max_left _ _

section

variable {rows : List Sleeve} (hids : (rows.map (·.sleeveId)).Nodup)
include hids

theorem weightIn_of_mem {row : Sleeve}
    (hrow : row ∈ rows) : weightIn rows row.sleeveId = row.weightFraction := by
  have hfound : rows.find? (fun other => other.sleeveId = row.sleeveId) = some row := by
    cases hfind : rows.find? (fun other => other.sleeveId = row.sleeveId) with
    | none => exact absurd (find?_eq_none.mp hfind row hrow) (by simp)
    | some other =>
      have hid : other.sleeveId = row.sleeveId := by simpa using find?_some hfind
      rw [inj_on_of_nodup_map hids (mem_of_find?_eq_some hfind) hrow hid]
  rw [weightIn, hfound]
  rfl

/-- Rows reweighted in place shift by what `weight_moved` computes. -/
theorem weightShift_map {f : Sleeve → Sleeve} {weight : Uuid → Decimal}
    (hid : ∀ row ∈ rows, (f row).sleeveId = row.sleeveId)
    (hweight : ∀ row ∈ rows, (f row).weightFraction = weight row.sleeveId) :
    weightShift rows (rows.map f) =
      max (rows.map (fun row => max 0 (weight row.sleeveId - row.weightFraction))).sum
        (rows.map (fun row => max 0 (row.weightFraction - weight row.sleeveId))).sum := by
  have hids' : ((rows.map f).map (·.sleeveId)).Nodup := by
    rw [map_map, map_congr_left (f := (·.sleeveId) ∘ f) (g := (·.sleeveId)) hid]
    exact hids
  have hafter : ∀ row ∈ rows, weightIn (rows.map f) row.sleeveId = weight row.sleeveId := by
    intro row hrow
    rw [← hid row hrow, weightIn_of_mem hids' (mem_map_of_mem hrow), hweight row hrow, hid row hrow]
  unfold weightShift
  congr 2
  · rw [map_map]
    refine map_congr_left fun row hrow => ?_
    rw [Function.comp_apply, hweight row hrow, hid row hrow, weightIn_of_mem hids hrow]
  · exact map_congr_left fun row hrow => by rw [hafter row hrow]

end

variable {context : MutationContext}

theorem planChange_shift {change : RebalanceChange} {sleeveId : Uuid} {plan : MutationPlan}
    (hids : (current.rows.map (·.sleeveId)).Nodup)
    (hplan : planChange current (.rebalance change) strategy context proposalId sleeveId = .ok
      (some plan)) (hmoved : weightMoved current change = .ok moved) :
    weightShift current.rows plan.sleeves = moved := by
  obtain ⟨planned, hplanned, hplan⟩ := bind_eq_ok hplan
  obtain ⟨checked, hchecked, hplan⟩ := bind_eq_ok hplan
  cases hplan
  cases planned with
  | none => exact absurd hchecked (by simp [requireChange])
  | some =>
    cases hchecked
    obtain ⟨_, -, hplanned⟩ := bind_eq_ok hplanned
    obtain ⟨_, -, hplanned⟩ := bind_eq_ok hplanned
    obtain ⟨_, -, hplanned⟩ := bind_eq_ok hplanned
    obtain ⟨-, hplanned⟩ := of_ite_ne hplanned (fun hne => by cases hne)
    cases hplanned
    obtain ⟨_, -, hmoved⟩ := bind_eq_ok hmoved
    cases hmoved
    refine weightShift_map hids ?_ ?_
    · intro row _
      split
      · rfl
      · rfl
    · intro row _
      split
      next he => exact he.symm
      · rfl

variable {movedThisWeek : Decimal}

theorem rebalanceRequirement_auto
    (h : (rebalanceRequirement aggregate moved movedThisWeek).autoApply = true) :
    aggregate.portfolio.mode = .paper ∧
      aggregate.portfolio.manager.permissions.mayRebalance = true ∧
      moved ≤ max 0
        (aggregate.portfolio.manager.permissions.maxWeightChangePerWeek.val - movedThisWeek) := by
  unfold rebalanceRequirement at h
  dsimp only at h
  split at h
  · cases h
  next hmode =>
    split at h
    · cases h
    next hmay =>
      split at h
      · cases h
      next hfits =>
        refine ⟨?_, by simpa using hmay, not_lt.mp hfits⟩
        cases hcase : aggregate.portfolio.mode with
        | paper => rfl
        | live => exact absurd hcase hmode

theorem rebalanceRequirement_weightMoved (aggregate : PortfolioAggregate)
    (moved movedThisWeek : Decimal) :
    (rebalanceRequirement aggregate moved movedThisWeek).weightMoved = some moved := by
  unfold rebalanceRequirement
  dsimp only
  split
  · rfl
  · split
    · rfl
    · split
      · rfl
      · rfl

structure AutoSubmitted (current : PortfolioAggregate) (movedThisWeek : Decimal)
    (context : MutationContext) (settlement : ProposalSettlement) (plan : MutationPlan)
    (weight : Decimal) : Prop where
  written : settlement.plan = some plan
  shift : (current.rows.map (·.sleeveId)).Nodup → weightShift current.rows plan.sleeves = weight
  nonneg : 0 ≤ weight
  mode : current.portfolio.mode = .paper
  mayRebalance : current.portfolio.manager.permissions.mayRebalance = true
  fits : weight ≤ max 0
    (current.portfolio.manager.permissions.maxWeightChangePerWeek.val - movedThisWeek)
  kind : settlement.proposal.kind = .rebalance
  status : settlement.proposal.status = .applied
  autoApplied : settlement.proposal.autoApplied = true
  weightMoved : settlement.proposal.weightMoved = some weight
  decidedAt : settlement.proposal.decidedAt = some context.occurredAt

/-- A submission waits, or it is a rebalance within the permissions and the budget. -/
theorem submission_cases {request : ProposalSubmitRequest} {movedThisWeek : Decimal}
    {sleeveId : Uuid} {settlement : ProposalSettlement}
    (h : submission current request movedThisWeek strategy proposalId sleeveId context = .ok
      settlement) :
    settlement.proposal.proposalId = proposalId ∧
      settlement.proposal.portfolioId = current.portfolio.portfolioId ∧
      (∀ moved, settlement.proposal.weightMoved = some moved → 0 ≤ moved) ∧
      (settlement.proposal.status = .pending ∨
        ∃ plan weight, AutoSubmitted current movedThisWeek context settlement plan weight) := by
  obtain ⟨_, -, h⟩ := bind_eq_ok h
  obtain ⟨planned, hplanned, h⟩ := bind_eq_ok h
  obtain ⟨requirement, hrequirement, h⟩ := bind_eq_ok h
  generalize happlied : (requirement.autoApply && decide (request.change.kind = .rebalance)) = applied
    at h
  cases h
  refine ⟨rfl, rfl, ?_, ?_⟩
  · intro moved hmoved
    cases hchange : request.change with
    | pauseSleeve =>
      rw [hchange, approvalRequirement] at hrequirement
      split at hrequirement
      · rw [← Except.ok.inj hrequirement] at hmoved; cases hmoved
      · rw [← Except.ok.inj hrequirement] at hmoved; cases hmoved
    | resumeSleeve | addSleeve =>
      rw [hchange] at hrequirement
      rw [← Except.ok.inj hrequirement] at hmoved
      cases hmoved
    | rebalance =>
      rw [hchange] at hrequirement
      obtain ⟨weight, hweight, hrequirement⟩ := bind_eq_ok hrequirement
      rw [← Except.ok.inj hrequirement, rebalanceRequirement_weightMoved] at hmoved
      rw [← Option.some.inj hmoved]
      exact weightMoved_nonneg hweight
  · cases applied with
    | false => exact .inl rfl
    | true =>
      rw [Bool.and_eq_true, decide_eq_true_eq] at happlied
      obtain ⟨hauto, hkind⟩ := happlied
      cases hchange : request.change with
      | pauseSleeve | resumeSleeve | addSleeve =>
        exact absurd hkind (by simp [hchange, ProposalChange.kind])
      | rebalance =>
        rw [hchange] at hrequirement hplanned
        obtain ⟨weight, hweight, rfl⟩ := bind_pure_ok hrequirement
        obtain ⟨hmode, hmay, hfits⟩ := rebalanceRequirement_auto hauto
        obtain ⟨plan, rfl⟩ : ∃ plan, planned = some plan := by
          obtain ⟨_, -, hplanned⟩ := bind_eq_ok hplanned
          obtain ⟨checked, -, hplanned⟩ := bind_eq_ok hplanned
          exact ⟨_, (Except.ok.inj hplanned).symm⟩
        exact .inr ⟨plan, weight, {
          written := rfl
          shift := fun hids => planChange_shift hids hplanned hweight
          nonneg := weightMoved_nonneg hweight
          mode := hmode
          mayRebalance := hmay
          fits := hfits
          kind := rfl
          status := rfl
          autoApplied := rfl
          weightMoved := rebalanceRequirement_weightMoved _ _ _
          decidedAt := rfl }⟩

variable {settlement : ProposalSettlement}

/-- Every callback decides a pending proposal and keeps what it is about. -/
theorem settlement_cases {settler : Settler} {stored : Proposal}
    (h : settler.settlement current stored strategy = .ok settlement) :
    stored.status = .pending ∧ settlement.proposal.proposalId = stored.proposalId ∧
      settlement.proposal.portfolioId = stored.portfolioId ∧
      settlement.proposal.weightMoved = stored.weightMoved := by
  have hfailure : ∀ {code message : String} {context : MutationContext},
      failure current stored code message context = .ok settlement →
        settlement.proposal.proposalId = stored.proposalId ∧
        settlement.proposal.portfolioId = stored.portfolioId ∧
        settlement.proposal.weightMoved = stored.weightMoved := by
    intro code message context hfailed
    obtain ⟨_, -, rfl⟩ := bind_pure_ok hfailed
    exact ⟨rfl, rfl, rfl⟩
  cases settler with
  | approve _ context sleeveId =>
    obtain ⟨_, hpending, h⟩ := bind_eq_ok h
    refine ⟨require_eq_ok hpending, ?_⟩
    generalize planChange current stored.change strategy context stored.proposalId sleeveId = planned
      at h
    match planned with
    | .error error =>
      dsimp only [settlePlanned] at h
      split at h
      · exact hfailure h
      · cases h
    | .ok none => exact hfailure h
    | .ok (some plan) =>
      cases h
      exact ⟨rfl, rfl, rfl⟩
  | approveRuntime | decline | autoApply =>
    obtain ⟨_, hpending, rfl⟩ := bind_pure_ok h
    exact ⟨require_eq_ok hpending, rfl, rfl, rfl⟩
  | fail =>
    have hpending := h
    obtain ⟨_, hpending, -⟩ := bind_eq_ok hpending
    exact ⟨require_eq_ok hpending, hfailure h⟩

/-- The two calls that write a proposal. -/
inductive Settles (store : PortfolioStore) (call : StoreCall) (reads : Reads)
    (settlement : ProposalSettlement) : Prop where
  | submitted (portfolioId : Uuid) (request : ProposalSubmitRequest) (proposalId sleeveId : Uuid)
      (context : MutationContext) (before : Portfolio) (strategy : Option SleeveStrategy)
      (hcall : call = .createProposal portfolioId request proposalId sleeveId context)
      (hget : store.portfolios.get? portfolioId = some before)
      (h : submission (store.aggregate reads.joined before) request
        (autoMovedSince (store.proposalsOf portfolioId) context.occurredAt) strategy proposalId
        sleeveId context = .ok settlement)
  | settled (portfolioId proposalId : Uuid) (strategyId : Option Uuid) (settler : Settler)
      (before : Portfolio) (stored : Proposal) (strategy : Option SleeveStrategy)
      (hcall : call = .settleProposal portfolioId proposalId strategyId settler)
      (hget : store.portfolios.get? portfolioId = some before)
      (hfind : store.findProposal portfolioId proposalId = .ok stored)
      (h : settler.settlement (store.aggregate reads.joined before) stored strategy = .ok settlement)

theorem ofPlan_ne_settle (planned : Option MutationPlan) (settlement : ProposalSettlement) :
    Write.ofPlan planned ≠ .settle settlement := by
  cases planned with
  | none | some => simp [Write.ofPlan]

theorem lockedSection_settles {store : PortfolioStore} {call : StoreCall} {reads : Reads}
    (h : call.lockedSection reads store = .ok (.settle settlement)) :
    Settles store call reads settlement := by
  cases call with
  | create | removeSleeve | delete =>
    obtain ⟨_, -, h⟩ := bind_eq_ok h
    obtain ⟨_, -, h⟩ := bind_eq_ok h
    cases h
  | update | updateSleeve | setWeights =>
    obtain ⟨_, -, h⟩ := bind_eq_ok h
    obtain ⟨_, -, h⟩ := bind_eq_ok h
    exact absurd (Except.ok.inj h) (ofPlan_ne_settle _ _)
  | addSleeve | addSleeves =>
    obtain ⟨_, -, h⟩ := bind_eq_ok h
    obtain ⟨_, -, h⟩ := bind_eq_ok h
    obtain ⟨_, -, h⟩ := bind_eq_ok h
    cases h
  | createProposal portfolioId request proposalId sleeveId context =>
    obtain ⟨strategy, -, h⟩ := bind_eq_ok h
    obtain ⟨before, hbefore, h⟩ := bind_eq_ok h
    obtain ⟨found, hfound, h⟩ := bind_eq_ok h
    obtain rfl := Write.settle.inj (Except.ok.inj h)
    exact .submitted portfolioId request proposalId sleeveId context before strategy rfl
      (portfolio_eq_ok hbefore) hfound
  | settleProposal portfolioId proposalId strategyId settler =>
    obtain ⟨strategy, -, h⟩ := bind_eq_ok h
    obtain ⟨before, hbefore, h⟩ := bind_eq_ok h
    obtain ⟨stored, hstored, h⟩ := bind_eq_ok h
    obtain ⟨found, hfound, h⟩ := bind_eq_ok h
    obtain rfl := Write.settle.inj (Except.ok.inj h)
    exact .settled portfolioId proposalId strategyId settler before stored strategy rfl
      (portfolio_eq_ok hbefore) hstored hfound
  | expireProposals => cases h

/-! ## Stored proposals -/

section

variable {store : PortfolioStore}

theorem findProposal_eq_ok {portfolioId : Uuid} {stored : Proposal}
    (h : store.findProposal portfolioId proposalId = .ok stored) :
    (store.proposalsOf portfolioId).find? (fun row => row.proposalId = proposalId) = some stored := by
  unfold findProposal at h
  split at h
  next found hfound =>
    cases h
    exact hfound
  · cases h

variable {rows : List Proposal} {proposal : Proposal}

theorem upsert_of_absent (h : ∀ row ∈ rows, row.proposalId ≠ proposal.proposalId) :
    upsert rows proposal = rows ++ [proposal] := by
  induction rows with
  | nil => rfl
  | cons row _ ih =>
    rw [upsert, if_neg (h row (by simp)), ih (fun other hother => h other (by simp [hother]))]
    rfl

variable {stored : Proposal}

theorem upsert_of_find
    (h : rows.find? (fun row => row.proposalId = proposal.proposalId) = some stored) :
    ∃ earlier later, rows = earlier ++ stored :: later ∧
      upsert rows proposal = earlier ++ proposal :: later := by
  induction rows with
  | nil => cases h
  | cons row rest ih =>
    rw [find?_cons] at h
    rw [upsert]
    by_cases hid : row.proposalId = proposal.proposalId
    · rw [decide_eq_true hid] at h
      cases h
      exact ⟨[], rest, rfl, by rw [if_pos hid]; rfl⟩
    · rw [decide_eq_false hid] at h
      obtain ⟨earlier, later, hrows, hupsert⟩ := ih h
      exact ⟨row :: earlier, later, by rw [hrows]; rfl, by rw [if_neg hid, hupsert]; rfl⟩

theorem mem_upsert {row : Proposal} (h : row ∈ upsert rows proposal) :
    row = proposal ∨ row ∈ rows := by
  induction rows with
  | nil => exact .inl (mem_singleton.mp h)
  | cons _ _ ih =>
    rw [upsert] at h
    split at h
    · rcases mem_cons.mp h with rfl | hrest
      · exact .inl rfl
      · exact .inr (mem_cons_of_mem _ hrest)
    · rcases mem_cons.mp h with rfl | hrest
      · exact .inr (by simp)
      · exact (ih hrest).imp_right (mem_cons_of_mem _)

theorem proposalsOf_settle (settlement : ProposalSettlement) (id : Uuid) :
    (store.settle settlement).proposalsOf id =
      if id = settlement.proposal.portfolioId then
        upsert (store.proposalsOf id) settlement.proposal
      else store.proposalsOf id := by
  have hproposals : (store.settle settlement).proposals =
      store.proposals.set settlement.proposal.portfolioId
        (upsert (store.proposalsOf settlement.proposal.portfolioId) settlement.proposal) := by
    unfold settle
    split
    · rfl
    · rfl
  rw [proposalsOf, hproposals, Dict.get?_set]
  split
  next hid =>
    rw [hid]
    rfl
  · rfl

theorem proposalsOf_expire (now : Time) (id : Uuid) :
    (store.expireProposals now).proposalsOf id = (store.proposalsOf id).map (expired now) := by
  unfold proposalsOf expireProposals
  rw [Dict.get?_mapValues]
  cases store.proposals.get? id with
  | none | some => rfl

theorem proposalsOf_delete (other id : Uuid) :
    (store.delete other).proposalsOf id = if id = other then [] else store.proposalsOf id := by
  unfold proposalsOf delete
  split
  next hid =>
    rw [hid, Dict.get?_erase_self]
    rfl
  next hid => rw [Dict.get?_erase_ne hid]

/-- When and by how much a row counts against the budget. -/
def autoEntry (row : Proposal) : Option (Time × Decimal) :=
  if row.kind = .rebalance ∧ row.autoApplied = true ∧ row.status = .applied then
    match row.weightMoved, row.decidedAt with
    | some moved, some decidedAt => some (decidedAt, moved)
    | _, _ => none
  else none

theorem autoMoved_eq (since : Time) (row : Proposal) :
    autoMoved since row =
      (autoEntry row).bind (fun entry => if since ≤ entry.1 then some entry.2 else none) := by
  unfold autoMoved autoEntry
  split
  · cases row.weightMoved with
    | none => rfl
    | some =>
      cases row.decidedAt with
      | none | some => rfl
  · rfl

theorem autoEntry_of_status {row : Proposal} (h : row.status ≠ .applied) : autoEntry row = none := by
  unfold autoEntry
  rw [if_neg]
  rintro ⟨-, -, hstatus⟩
  exact h hstatus

theorem autoEntry_expired (now : Time) (row : Proposal) :
    autoEntry (expired now row) = autoEntry row := by
  unfold expired
  split
  next hpending =>
    rw [autoEntry_of_status (by simp), autoEntry_of_status (by simp [hpending.1])]
  · rfl

/-- The trailing sum over the counted entries. -/
theorem autoMovedSince_eq (rows : List Proposal) (now : Time) :
    autoMovedSince rows now =
      (((rows.filterMap autoEntry).filter
        (fun entry => now - rebalanceBudgetWindow ≤ entry.1)).map Prod.snd).sum := by
  unfold autoMovedSince
  congr 1
  induction rows with
  | nil => rfl
  | cons row _ ih =>
    rw [filterMap_cons, filterMap_cons, autoMoved_eq]
    cases autoEntry row with
    | none => exact ih
    | some entry =>
      rw [Option.bind_some, filter_cons]
      by_cases hsince : now - rebalanceBudgetWindow ≤ entry.1
      · rw [if_pos hsince, decide_eq_true hsince, if_pos rfl, map_cons, ← ih]
      · rw [if_neg hsince, decide_eq_false hsince, if_neg (by simp), ← ih]

end

/-! ## The stored rows account for the record -/

namespace Diary

def entriesOf (d : Diary) (id : Uuid) : List (Time × Decimal) :=
  (d.rebalances.filter (fun entry => entry.portfolioId = id)).map
    (fun entry => (entry.occurredAt, entry.moved))

/-- What the record and the stored proposals say of each other. -/
structure Booked (d : Diary) : Prop where
  inv : d.registry.Inv
  rows : ∀ id, ∀ row ∈ d.registry.store.proposalsOf id,
    row.portfolioId = id ∧ row.proposalId ∈ d.registry.minted ∧
      ∀ moved, row.weightMoved = some moved → 0 ≤ moved
  recorded : ∀ entry ∈ d.rebalances, entry.portfolioId ∈ d.registry.minted ∧ 0 ≤ entry.moved ∧
    entry.mode = .paper ∧ entry.mayRebalance = true
  counted : ∀ id portfolio, d.registry.store.portfolios.get? id = some portfolio →
    (d.entriesOf id).Sublist ((d.registry.store.proposalsOf id).filterMap autoEntry)

/-- A recorded step and what the budget check saw. -/
structure Recorded (d : Diary) (before : Portfolio) (entry : AutoRebalance) : Prop where
  present : d.registry.store.portfolios.get? entry.portfolioId = some before
  nonneg : 0 ≤ entry.moved
  mode : entry.mode = .paper
  mayRebalance : entry.mayRebalance = true
  fits : entry.moved ≤ max 0 (before.manager.permissions.maxWeightChangePerWeek.val -
    autoMovedSince (d.registry.store.proposalsOf entry.portfolioId) entry.occurredAt)

variable {entry : AutoRebalance}

/-- Only an applied submission is recorded. -/
theorem autoRebalanced_cases {r : Registry} (h : autoRebalanced r event = some entry) :
    ∃ request proposalId sleeveId context settlement before,
      event.call = .createProposal entry.portfolioId request proposalId sleeveId context ∧
      event.call.lockedSection event.reads r.store = .ok (.settle settlement) ∧
      settlement.proposal.status = .applied ∧
      r.store.portfolios.get? entry.portfolioId = some before ∧
      entry = ⟨entry.portfolioId, context.occurredAt,
        weightShift (r.store.sleevesOf entry.portfolioId)
          ((r.after event).store.sleevesOf entry.portfolioId),
        before.mode, before.manager.permissions.mayRebalance⟩ := by
  unfold autoRebalanced at h
  split at h
  next portfolioId request proposalId sleeveId context settlement hcall hsection =>
    obtain ⟨happlied, h⟩ := of_ite_ne_else h (fun hne => by cases hne)
    obtain ⟨before, hget, hentry⟩ := Option.map_eq_some_iff.mp h
    subst hentry
    exact ⟨request, proposalId, sleeveId, context, settlement, before, hcall, hsection, happlied,
      hget, rfl⟩
  · cases h

/-- What is recorded was applied on a paper portfolio that lets the manager rebalance, and
fits the budget that was left. -/
theorem Booked.recorded_step (hd : d.Booked) (hdistinct : event.call.minted.Nodup)
    (hunused : ∀ id ∈ event.call.minted, id ∉ d.registry.minted)
    (h : autoRebalanced d.registry event = some entry) :
    ∃ before settlement, d.Recorded before entry ∧
      event.call.lockedSection event.reads d.registry.store = .ok (.settle settlement) ∧
      settlement.proposal.portfolioId = entry.portfolioId ∧
      autoEntry settlement.proposal = some (entry.occurredAt, entry.moved) := by
  obtain ⟨request, proposalId, sleeveId, context, settlement, before, hcall, hsection, happlied,
    hget, hentry⟩ := autoRebalanced_cases h
  have hkept := hd.inv _ _ hget
  cases lockedSection_settles hsection with
  | settled _ _ _ _ _ _ _ hcall' =>
    rw [hcall] at hcall'
    cases hcall'
  | submitted _ _ _ _ _ _ _ hcall' hget' hsubmission =>
    obtain ⟨rfl, rfl, rfl, rfl, rfl⟩ := StoreCall.createProposal.inj (hcall.symm.trans hcall')
    cases hget.symm.trans hget'
    obtain ⟨-, hid, -, hpending | ⟨plan, weight, hauto⟩⟩ := submission_cases hsubmission
    · rw [hpending] at happlied
      cases happlied
    · have hafter : (d.registry.after event).store.sleevesOf entry.portfolioId = plan.sleeves := by
        have hstore : (d.registry.after event).store = d.registry.store.settle settlement := by
          unfold Registry.after
          rw [hsection]
          rfl
        have hplan : plan.portfolio.portfolioId = entry.portfolioId := by
          rw [hcall] at hdistinct hunused
          have hsub : [sleeveId].Sublist [proposalId, sleeveId] := by simp
          have hkeeps := planChange_keeps (submission_plan hsubmission hauto.written)
            (hkept.soundAggregate _) (hkept.freshIds (hdistinct.sublist hsub)
              (fun id hid => hunused id (hsub.subset hid)) _)
          exact hkeeps.advances.portfolioId.trans hkept.portfolioId
        rw [hstore, sleevesOf, (settle_of_plan d.registry.store hauto.written).2,
          ← sleevesOf, sleevesOf_apply, if_pos hplan.symm]
      have hshift : weightShift (d.registry.store.sleevesOf entry.portfolioId) plan.sleeves =
          weight := by
        have := hauto.shift (by
          rw [rows_aggregate, hkept.portfolioId]
          exact hkept.sound.sleeveIds)
        rwa [rows_aggregate, hkept.portfolioId] at this
      rw [hafter, hshift] at hentry
      have hmoved : entry.moved = weight := by rw [hentry]
      have hat : entry.occurredAt = context.occurredAt := by rw [hentry]
      refine ⟨before, settlement, ⟨hget, hmoved ▸ hauto.nonneg, ?_, ?_, ?_⟩, hsection,
        hid.trans hkept.portfolioId, ?_⟩
      · rw [hentry]
        exact hauto.mode
      · rw [hentry]
        exact hauto.mayRebalance
      · rw [hmoved, hat]
        exact hauto.fits
      · rw [autoEntry, if_pos ⟨hauto.kind, hauto.autoApplied, hauto.status⟩, hauto.weightMoved,
          hauto.decidedAt, hmoved, hat]

/-- A written proposal lands where it belongs and never takes an entry away. -/
theorem Booked.upserted (hd : d.Booked) (hunused : ∀ id ∈ event.call.minted, id ∉ d.registry.minted)
    (h : Settles d.registry.store event.call event.reads settlement) :
    settlement.proposal.proposalId ∈ event.call.minted ++ d.registry.minted ∧
      (∀ moved, settlement.proposal.weightMoved = some moved → 0 ≤ moved) ∧
      (((d.registry.store.proposalsOf settlement.proposal.portfolioId).filterMap autoEntry).Sublist
        ((upsert (d.registry.store.proposalsOf settlement.proposal.portfolioId)
          settlement.proposal).filterMap autoEntry)) ∧
      ((∃ portfolioId request proposalId sleeveId context,
          event.call = .createProposal portfolioId request proposalId sleeveId context) →
        upsert (d.registry.store.proposalsOf settlement.proposal.portfolioId)
            settlement.proposal =
          d.registry.store.proposalsOf settlement.proposal.portfolioId ++ [settlement.proposal]) := by
  cases h with
  | submitted portfolioId _ proposalId _ _ _ _ hcall _ h =>
    obtain ⟨hid, -, hnonneg, -⟩ := submission_cases h
    have hminted : proposalId ∈ event.call.minted := by
      rw [hcall]
      exact mem_cons_self
    have happend : upsert
        (d.registry.store.proposalsOf settlement.proposal.portfolioId) settlement.proposal =
        d.registry.store.proposalsOf settlement.proposal.portfolioId ++ [settlement.proposal] := by
      refine upsert_of_absent fun row hrow hsame => ?_
      rw [hid] at hsame
      exact hunused proposalId hminted (hsame ▸ (hd.rows _ row hrow).2.1)
    refine ⟨by rw [hid]; exact mem_append_left _ hminted, hnonneg, ?_, fun _ => happend⟩
    rw [happend, filterMap_append]
    exact sublist_append_left _ _
  | settled portfolioId proposalId _ _ _ stored _ hcall _ hfind h =>
    obtain ⟨hpending, hid, hportfolio, hmoved⟩ := settlement_cases h
    have hfind := findProposal_eq_ok hfind
    have hstored := mem_of_find?_eq_some hfind
    obtain ⟨hkey, hminted, hnonneg⟩ := hd.rows portfolioId stored hstored
    have hsame : stored.proposalId = proposalId := by simpa using find?_some hfind
    refine ⟨by rw [hid]; exact mem_append_right _ hminted, by rwa [hmoved], ?_, ?_⟩
    · rw [hportfolio, hkey]
      rw [← hsame, ← hid] at hfind
      obtain ⟨earlier, later, hrows, hupsert⟩ := upsert_of_find hfind
      rw [hupsert, hrows, filterMap_append, filterMap_append, filterMap_cons,
        filterMap_cons, autoEntry_of_status (by simp [hpending])]
      refine append (refl _) ?_
      cases autoEntry settlement.proposal with
      | none => exact refl _
      | some => exact sublist_cons_self _ _
    · rintro ⟨_, _, _, _, _, hcall'⟩
      rw [hcall] at hcall'
      cases hcall'

/-- The record of one portfolio after a section. -/
theorem entriesOf_after (d : Diary) (event : StoreEvent) (id : Uuid) :
    (d.after event).entriesOf id = d.entriesOf id ++
      ((autoRebalanced d.registry event).toList.filter (fun entry => entry.portfolioId = id)).map
        (fun entry => (entry.occurredAt, entry.moved)) := by
  unfold entriesOf after
  rw [filter_append, map_append]

theorem entriesOf_after_of_none (h : autoRebalanced d.registry event = none) (id : Uuid) :
    (d.after event).entriesOf id = d.entriesOf id := by
  rw [entriesOf_after, h]
  exact append_nil _

theorem autoRebalanced_of_ne {r : Registry}
    (h : ∀ settlement, event.call.lockedSection event.reads r.store ≠ .ok (.settle settlement)) :
    autoRebalanced r event = none := by
  cases hauto : autoRebalanced r event with
  | none => rfl
  | some =>
    obtain ⟨_, _, _, _, settlement, _, _, hsection, -⟩ := autoRebalanced_cases hauto
    exact absurd hsection (h settlement)

/-- A section that writes no proposal and no row of `id` keeps the account. -/
theorem minted_subset (r : Registry) (event : StoreEvent) : r.minted ⊆ (r.after event).minted := by
  rw [minted_after]
  exact subset_append_right _ _

/-- A section moves no stored proposal to another portfolio. -/
theorem Booked.rows_after (hd : d.Booked) (event : StoreEvent) (id : Uuid) :
    ∀ row ∈ d.registry.store.proposalsOf id, row.portfolioId = id ∧
      row.proposalId ∈ (d.registry.after event).minted ∧
        ∀ moved, row.weightMoved = some moved → 0 ≤ moved := by
  intro row hmem
  obtain ⟨hid, hminted, hnonneg⟩ := hd.rows id row hmem
  exact ⟨hid, minted_subset _ _ hminted, hnonneg⟩

/-- A section that settles nothing records nothing. -/
theorem Booked.quiet (hd : d.Booked) (hinv : (d.registry.after event).Inv)
    (hsection : ∀ settlement,
      event.call.lockedSection event.reads d.registry.store ≠ .ok (.settle settlement))
    {store : PortfolioStore} (hstore : (d.registry.after event).store = store)
    (hrows : ∀ id, ∀ row ∈ store.proposalsOf id, row.portfolioId = id ∧
      row.proposalId ∈ (d.registry.after event).minted ∧
        ∀ moved, row.weightMoved = some moved → 0 ≤ moved)
    (hcounted : ∀ id portfolio, store.portfolios.get? id = some portfolio →
      (d.entriesOf id).Sublist ((store.proposalsOf id).filterMap autoEntry)) :
    (d.after event).Booked := by
  subst hstore
  have hnone := autoRebalanced_of_ne hsection
  refine ⟨hinv, hrows, ?_, ?_⟩
  · intro entry hentry
    have hentry : entry ∈ d.rebalances := by
      rw [after, hnone] at hentry
      simpa using hentry
    obtain ⟨hid, hrest⟩ := hd.recorded entry hentry
    exact ⟨minted_subset _ _ hid, hrest⟩
  · intro id portfolio hget
    rw [entriesOf_after_of_none hnone]
    exact hcounted id portfolio hget

theorem Booked.settles (hd : d.Booked) (hdistinct : event.call.minted.Nodup)
    (hunused : ∀ id ∈ event.call.minted, id ∉ d.registry.minted)
    (hinv : (d.registry.after event).Inv)
    (hsection : event.call.lockedSection event.reads d.registry.store = .ok (.settle settlement)) :
    (d.after event).Booked := by
  have hstore : (d.registry.after event).store = d.registry.store.settle settlement := by
    unfold Registry.after
    rw [hsection]
    rfl
  obtain ⟨hid, hnonneg, hsub, happend⟩ := hd.upserted hunused (lockedSection_settles hsection)
  rw [← minted_after] at hid
  have hpermitted := lockedSection_permitted hd.inv hdistinct hunused hsection
  refine ⟨hinv, ?_, ?_, ?_⟩
  · intro id row hrow
    have hrow : row ∈ (d.registry.store.settle settlement).proposalsOf id := hstore ▸ hrow
    rw [proposalsOf_settle] at hrow
    split at hrow
    next hsame =>
      rcases mem_upsert hrow with rfl | hmem
      · exact ⟨hsame.symm, hid, hnonneg⟩
      · exact hd.rows_after event id row hmem
    · exact hd.rows_after event id row hrow
  · intro entry hentry
    rcases mem_append.mp hentry with hold | hnew
    · obtain ⟨hmem, hrest⟩ := hd.recorded entry hold
      exact ⟨minted_subset _ _ hmem, hrest⟩
    · have hauto : autoRebalanced d.registry event = some entry := by simpa using hnew
      obtain ⟨before, _, hrecorded, -⟩ := hd.recorded_step hdistinct hunused hauto
      exact ⟨minted_subset _ _ (hd.inv _ _ hrecorded.present).minted, hrecorded.nonneg, hrecorded.mode,
        hrecorded.mayRebalance⟩
  · intro id portfolio hget
    have hget : (d.registry.store.settle settlement).portfolios.get? id = some portfolio :=
      hstore ▸ hget
    obtain ⟨before, hbefore⟩ := hd.inv.present hpermitted (by simp) hget
    have hcounted := hd.counted id before hbefore
    show ((d.after event).entriesOf id).Sublist
      ((((d.registry.after event).store).proposalsOf id).filterMap autoEntry)
    rw [hstore, proposalsOf_settle]
    cases hauto : autoRebalanced d.registry event with
    | none =>
      rw [entriesOf_after_of_none hauto]
      split
      next hsame =>
        subst hsame
        exact hcounted.trans hsub
      · exact hcounted
    | some entry =>
      obtain ⟨_, settlement', -, hsection', hportfolio, hentry⟩ :=
        hd.recorded_step hdistinct hunused hauto
      obtain rfl := Write.settle.inj (Except.ok.inj (hsection.symm.trans hsection'))
      obtain ⟨request, proposalId, sleeveId, context, -, -, hcall, -⟩ := autoRebalanced_cases hauto
      have happend := happend ⟨_, request, proposalId, sleeveId, context, hcall⟩
      rw [entriesOf_after, hauto]
      split
      next hsame =>
        subst hsame
        rw [happend, filterMap_append]
        refine append hcounted ?_
        simp [hentry, hportfolio]
      next hother =>
        have hskip : entry.portfolioId ≠ id := by
          rw [← hportfolio]
          exact fun he => hother he.symm
        simpa [hskip] using hcounted

theorem Booked.step (hd : d.Booked) {r' : Registry} (hstep : d.registry.Step event r') :
    (d.after event).Booked := by
  have hinv : (d.registry.after event).Inv := hstep.next ▸ hd.inv.step hstep
  have hold := hd.rows_after event
  cases hsection : event.call.lockedSection event.reads d.registry.store with
  | error =>
    have hstore : (d.registry.after event).store = d.registry.store := by
      unfold Registry.after
      rw [hsection]
    exact hd.quiet hinv (by simp [hsection]) hstore hold hd.counted
  | ok write =>
    have hstore : (d.registry.after event).store = d.registry.store.write write := by
      unfold Registry.after
      rw [hsection]
    have hpermitted := lockedSection_permitted hd.inv hstep.distinct hstep.unused hsection
    cases hwrite : hpermitted with
    | unchanged =>
      exact hd.quiet hinv (by simp [hsection]) hstore hold hd.counted
    | created plan _ _ hid =>
      refine hd.quiet hinv (by simp [hsection]) hstore hold ?_
      intro id portfolio (hget : (d.registry.store.apply plan).portfolios.get? id = some portfolio)
      rw [portfolios_apply, Dict.get?_set] at hget
      split at hget
      next hsame =>
        -- a new portfolio has no record: its id was not handed out before
        have hnil : d.entriesOf id = [] := by
          unfold entriesOf
          rw [map_eq_nil_iff, filter_eq_nil_iff]
          intro entry hentry he
          rw [decide_eq_true_eq] at he
          exact hstep.unused _ (hsame ▸ hid) (he ▸ (hd.recorded entry hentry).1)
        rw [hnil]
        exact nil_sublist _
      · exact hd.counted id portfolio hget
    | applied _ before =>
      refine hd.quiet hinv (by simp [hsection]) hstore hold ?_
      intro id portfolio hafter
      obtain ⟨before, hbefore⟩ := hd.inv.present hpermitted (by simp) hafter
      exact hd.counted id before hbefore
    | settled =>
      exact hd.settles hstep.distinct hstep.unused hinv hsection
    | expired now =>
      refine hd.quiet hinv (by simp [hsection]) hstore ?_ ?_
      · intro id row (hrow : row ∈ (d.registry.store.expireProposals now).proposalsOf id)
        rw [proposalsOf_expire] at hrow
        obtain ⟨old, hmem, rfl⟩ := mem_map.mp hrow
        have hfacts := hold id old hmem
        unfold expired
        split
        · exact hfacts
        · exact hfacts
      · intro id portfolio hget
        have hrows : ((d.registry.store.expireProposals now).proposalsOf id).filterMap autoEntry =
            (d.registry.store.proposalsOf id).filterMap autoEntry := by
          rw [proposalsOf_expire, filterMap_map]
          exact filterMap_congr fun row _ => autoEntry_expired now row
        show (d.entriesOf id).Sublist
          (((d.registry.store.expireProposals now).proposalsOf id).filterMap autoEntry)
        rw [hrows]
        exact hd.counted id portfolio hget
    | deleted other =>
      refine hd.quiet hinv (by simp [hsection]) hstore ?_ ?_
      · intro id row (hrow : row ∈ (d.registry.store.delete other).proposalsOf id)
        rw [proposalsOf_delete] at hrow
        split at hrow
        · cases hrow
        · exact hold id row hrow
      · intro id portfolio hget
        obtain ⟨before, hbefore⟩ := hd.inv.present hpermitted (by simp) hget
        have hne : id ≠ other := by
          rintro rfl
          have hget : (d.registry.store.portfolios.erase id).get? id = some portfolio := hget
          rw [Dict.get?_erase_self] at hget
          cases hget
        show (d.entriesOf id).Sublist
          (((d.registry.store.delete other).proposalsOf id).filterMap autoEntry)
        rw [proposalsOf_delete, if_neg hne]
        exact hd.counted id before hbefore

theorem booked_initial (h : d.Initial) : d.Booked := by
  obtain rfl := h
  refine ⟨reachable_inv (.start rfl), ?_, by simp, ?_⟩
  · intro id row hrow
    exact absurd hrow (by simp [newRegistry, PortfolioStore.empty, proposalsOf])
  · intro id portfolio hget
    exact absurd hget (by simp [newRegistry, PortfolioStore.empty])

/-! ## Every week -/

theorem movedInWeek_eq (d : Diary) (id : Uuid) (start : Time) :
    d.movedInWeek id start =
      (((d.entriesOf id).filter (fun entry => start ≤ entry.1 ∧
        entry.1 ≤ start + rebalanceBudgetWindow)).map Prod.snd).sum := by
  unfold movedInWeek entriesOf
  rw [filter_map, map_map, filter_filter]
  congr 2
  refine filter_congr fun entry _ => ?_
  simp only [Function.comp_apply, Bool.decide_and, Bool.and_assoc]
  rw [Bool.and_comm (decide (entry.portfolioId = id)), Bool.and_assoc]

variable {id : Uuid}

/-- The trailing week of the stored rows covers every recorded week that ends in it. -/
theorem Booked.movedInWeek_le (hd : d.Booked) {portfolio : Portfolio}
    (hget : d.registry.store.portfolios.get? id = some portfolio) {start now : Time}
    (hwindow : now ≤ start + rebalanceBudgetWindow) :
    d.movedInWeek id start ≤ autoMovedSince (d.registry.store.proposalsOf id) now := by
  have hcounted := hd.counted id portfolio hget
  have hrow : ∀ entry ∈ (d.registry.store.proposalsOf id).filterMap autoEntry, 0 ≤ entry.2 := by
    intro entry hentry
    obtain ⟨row, hmem, hauto⟩ := mem_filterMap.mp hentry
    obtain ⟨-, hauto⟩ := of_ite_ne_else hauto nofun
    split at hauto
    next moved decidedAt hmoved hdecided =>
      rw [← Option.some.inj hauto]
      exact (hd.rows id row hmem).2.2 moved hmoved
    · cases hauto
  rw [movedInWeek_eq, autoMovedSince_eq]
  have hlate : ((d.entriesOf id).filter (fun entry => start ≤ entry.1 ∧
      entry.1 ≤ start + rebalanceBudgetWindow)).Sublist
      ((d.entriesOf id).filter (fun entry => now - rebalanceBudgetWindow ≤ entry.1)) := by
    refine monotone_filter_right _ fun entry hentry => ?_
    rw [decide_eq_true_eq] at hentry ⊢
    linarith
  refine ((hlate.trans (hcounted.filter _)).map Prod.snd).sum_le_sum fun weight hweight => ?_
  obtain ⟨entry, hentry, rfl⟩ := mem_map.mp hweight
  exact hrow entry (mem_filter.mp hentry).1

theorem Booked.week_step (hd : d.Booked) (hbudget : d.Budgeted id budget) {r' : Registry}
    (hstep : d.registry.Step event r') (hweek : ∀ start, d.movedInWeek id start ≤ budget.val)
    (start : Time) : (d.after event).movedInWeek id start ≤ budget.val := by
  rw [movedInWeek_eq, entriesOf_after, filter_append, map_append, sum_append, ← movedInWeek_eq]
  cases hauto : autoRebalanced d.registry event with
  | none => simpa using hweek start
  | some entry =>
    obtain ⟨before, _, hrecorded, -⟩ := hd.recorded_step hstep.distinct hstep.unused hauto
    by_cases hid : entry.portfolioId = id
    · by_cases hin : start ≤ entry.occurredAt ∧ entry.occurredAt ≤ start + rebalanceBudgetWindow
      · have hpresent := hrecorded.present
        have hfits := hrecorded.fits
        rw [hid] at hpresent hfits
        rw [hbudget before hpresent] at hfits
        have hcovered := hd.movedInWeek_le hpresent hin.2
        have hold := hweek start
        have hnew : d.movedInWeek id start + entry.moved ≤ budget.val := by
          rcases le_max_iff.mp hfits with hzero | hrest
          · linarith
          · linarith
        simpa [hid, hin] using hnew
      · simpa [hid, hin] using hweek start
    · simpa [hid] using hweek start

theorem reachable_booked (h : Reachable Initial (Step id budget) d) :
    d.Booked ∧ d.Budgeted id budget ∧ ∀ start, d.movedInWeek id start ≤ budget.val := by
  refine h.invariant (fun d => d.Booked ∧ d.Budgeted id budget ∧
    ∀ start, d.movedInWeek id start ≤ budget.val) ?_ ?_
  · intro d hd
    refine ⟨booked_initial hd, ?_, ?_⟩
    · obtain rfl := hd
      intro portfolio hget
      exact absurd hget (by simp [newRegistry, PortfolioStore.empty])
    · obtain rfl := hd
      intro start
      exact (weightFraction_pos budget.property).le
  · rintro d event d' ⟨hd, hbudget, hweek⟩ hstep
    refine ⟨hstep.next ▸ hd.step hstep.section_, hstep.constant, fun start => ?_⟩
    rw [hstep.next]
    exact hd.week_step hbudget hstep.section_ hweek start

end Diary

/-- Under a constant budget the auto-applied rebalances of every closed seven-day window move at
most the budget; none is auto-applied on a live portfolio or without `may_rebalance`. -/
theorem auto_rebalances_within_budget {id : Uuid} {budget : WeeklyChangeFractionText} {d : Diary}
    (h : Reachable Diary.Initial (Diary.Step id budget) d) :
    (∀ start, d.movedInWeek id start ≤ budget.val) ∧
      ∀ entry ∈ d.rebalances, entry.mode = .paper ∧ entry.mayRebalance = true := by
  obtain ⟨hbooked, -, hweek⟩ := Diary.reachable_booked h
  exact ⟨hweek, fun entry hentry => (hbooked.recorded entry hentry).2.2⟩

def tenthAWeek : WeeklyChangeFractionText := ({} : ManagerPermissions).maxWeightChangePerWeek

def createdManaged : StoreEvent :=
  ⟨.create
    { coreRequest with
      manager := { permissions := { mayRebalance := true, maxWeightChangePerWeek := tenthAWeek } } }
    ⟨.operator, .api, 0⟩ 1 [2], usdcReads⟩

def rebalanceSubmitted : StoreEvent :=
  ⟨.createProposal 1
    ⟨1, .rebalance { weights := [⟨2, ⟨11 / 20, by decide +kernel⟩⟩] }, "Trim the trend sleeve."⟩ 3 4
    ⟨.manager, .api, 60000000⟩, usdcReads⟩

def rebalancedDiary : Diary :=
  ((⟨newRegistry, []⟩ : Diary).after createdManaged).after rebalanceSubmitted

theorem budgeted_of_map {id : Uuid}
    (h : (d.registry.store.portfolios.get? id).map (·.manager.permissions.maxWeightChangePerWeek)
      = some budget) : d.Budgeted id budget := by
  intro portfolio hget
  rw [hget] at h
  exact Option.some.inj h

theorem auto_rebalances_within_budget_rebalanced :
    rebalancedDiary.rebalances.map (·.moved) = [1 / 20] ∧
      (∀ start, rebalancedDiary.movedInWeek 1 start ≤ 1 / 10) ∧
      ∀ entry ∈ rebalancedDiary.rebalances, entry.mode = .paper ∧ entry.mayRebalance = true := by
  have hstart : Reachable Diary.Initial (Diary.Step 1 tenthAWeek) ⟨newRegistry, []⟩ := .start rfl
  have hcreated : Diary.Step 1 tenthAWeek ⟨newRegistry, []⟩ createdManaged
      ((⟨newRegistry, []⟩ : Diary).after createdManaged) :=
    ⟨⟨by decide, by simp [newRegistry], rfl⟩, budgeted_of_map (by decide +kernel), rfl⟩
  have hrebalanced : Diary.Step 1 tenthAWeek ((⟨newRegistry, []⟩ : Diary).after createdManaged)
      rebalanceSubmitted rebalancedDiary := by
    refine ⟨⟨by decide, ?_, rfl⟩, budgeted_of_map (by decide +kernel), rfl⟩
    show ∀ id ∈ rebalanceSubmitted.call.minted, id ∉ (newRegistry.after createdManaged).minted
    rw [minted_after]
    simp [rebalanceSubmitted, createdManaged, newRegistry, StoreCall.minted]
  obtain ⟨hweek, hgate⟩ := auto_rebalances_within_budget ((hstart.next hcreated).next hrebalanced)
  exact ⟨by decide +kernel, hweek, hgate⟩

end Thytrader.Portfolios
