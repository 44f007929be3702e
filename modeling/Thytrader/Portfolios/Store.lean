import Thytrader.Lib.Transition
import Thytrader.Portfolios.Proposals
import Mathlib.Data.List.Sort

/-!
# The in-memory portfolio store

`portfolios/store_memory.py`. Every call that changes a portfolio or a proposal reads, decides and
writes under the store's lock, and nothing else writes these, so its locked section is one step.
Before the lock a call only reads strategies, or refuses.

A call answers `Outcome Write`: the write its section makes, or the failure that leaves
the store as it was. `InMemoryPortfolioStore` reads strategies on every join; the
strategy store may answer differently each time, so a call carries the answers it got
(`Reads`). Ids minted with `uuid7` are arguments of the call.

Left out: the backtest jobs, the runtime state, and `_require_not_deployed` with
`_require_sleeve_not_deployed`, which can only refuse.
-/

namespace Thytrader.Portfolios

open Lib

/-! ## Strategies -/

/-- `StrategyNotFoundError`, or any other `StrategyLibraryError`. -/
inductive StrategyLibraryError where
  | notFound
  | unavailable
  deriving DecidableEq, Repr

/-- The facts of a `StrategyRecord` that a sleeve reads. -/
structure StrategyRecord where
  name : String
  productId : Option String
  timeframe : Option String

/-- `strategies.get`: the record stored under the id. -/
abbrev Library := Uuid → Except StrategyLibraryError StrategyRecord

def sleeveStrategyFromRecord (strategyId : Uuid) (record : StrategyRecord) : SleeveStrategy :=
  ⟨strategyId, record.name, record.productId, record.timeframe⟩

def namedStrategy (library : Library) (strategyId : Uuid) : Outcome SleeveStrategy :=
  match library strategyId with
  | .ok record => .ok (sleeveStrategyFromRecord strategyId record)
  | .error .notFound => .error (.strategyNotFound "Strategy was not found.")
  | .error .unavailable => .error .strategyLibrary

/-- `_strategy_facts`: nothing when the proposal names no strategy. -/
def strategyFacts (library : Library) (strategyId : Option Uuid) : Outcome (Option SleeveStrategy) :=
  match strategyId with
  | none => .ok none
  | some strategyId => do return some (← namedStrategy library strategyId)

/-- `_strategy`: a placeholder when the strategy cannot be read. -/
def joinedStrategy (library : Library) (strategyId : Uuid) : SleeveStrategy :=
  match library strategyId with
  | .ok record => sleeveStrategyFromRecord strategyId record
  | .error _ => ⟨strategyId, "(deleted strategy)", none, none⟩

/-- What the strategy store answered one call: before the lock, and while it was held. -/
structure Reads where
  asked : Library
  joined : Library

/-! ## State -/

/-- `InMemoryPortfolioStore`. -/
structure PortfolioStore where
  portfolios : Dict Uuid Portfolio
  sleeves : Dict Uuid (List Sleeve)
  journal : Dict Uuid (List JournalEntry)
  proposals : Dict Uuid (List Proposal)

namespace PortfolioStore

def empty : PortfolioStore := ⟨Dict.empty, Dict.empty, Dict.empty, Dict.empty⟩

/-- `self._sleeves.get(portfolio_id, ())`. -/
def sleevesOf (store : PortfolioStore) (portfolioId : Uuid) : List Sleeve :=
  (store.sleeves.get? portfolioId).getD []

/-- `self._proposals.get(portfolio_id, [])`. -/
def proposalsOf (store : PortfolioStore) (portfolioId : Uuid) : List Proposal :=
  (store.proposals.get? portfolioId).getD []

/-- `self._journal.setdefault(portfolio_id, []).extend(entries)`. -/
def extendJournal (store : PortfolioStore) (portfolioId : Uuid) (entries : List JournalEntry) :
    PortfolioStore :=
  { store with
    journal := store.journal.set portfolioId ((store.journal.get? portfolioId).getD [] ++ entries) }

def apply (store : PortfolioStore) (plan : MutationPlan) : PortfolioStore :=
  extendJournal { store with
    portfolios := store.portfolios.set plan.portfolio.portfolioId plan.portfolio
    sleeves := store.sleeves.set plan.portfolio.portfolioId plan.sleeves }
    plan.portfolio.portfolioId plan.journal

def upsert (rows : List Proposal) (proposal : Proposal) : List Proposal :=
  match rows with
  | [] => [proposal]
  | row :: rest =>
    if row.proposalId = proposal.proposalId then proposal :: rest else row :: upsert rest proposal

/-- `_settle`: upsert the proposal, append its journal, then apply its plan. -/
def settle (store : PortfolioStore) (settlement : ProposalSettlement) : PortfolioStore :=
  let proposal := settlement.proposal
  let written := extendJournal { store with
    proposals := store.proposals.set proposal.portfolioId
      (upsert (store.proposalsOf proposal.portfolioId) proposal) }
    proposal.portfolioId settlement.journal
  match settlement.plan with
  | none => written
  | some plan => written.apply plan

/-- One row of `expire_proposals`. -/
def expired (now : Time) (proposal : Proposal) : Proposal :=
  if proposal.status = .pending ∧ proposal.expiresAt ≤ now then
    { proposal with status := .expired, decidedAt := some now, decidedBy := some .system }
  else proposal

def expireProposals (store : PortfolioStore) (now : Time) : PortfolioStore :=
  { store with proposals := store.proposals.mapValues (fun rows => rows.map (expired now)) }

def delete (store : PortfolioStore) (portfolioId : Uuid) : PortfolioStore where
  portfolios := store.portfolios.erase portfolioId
  sleeves := store.sleeves.erase portfolioId
  journal := store.journal.erase portfolioId
  proposals := store.proposals.erase portfolioId

/-- `self._portfolios.get(portfolio_id)`, or the not-found failure. -/
def portfolio (store : PortfolioStore) (portfolioId : Uuid) : Outcome Portfolio :=
  match store.portfolios.get? portfolioId with
  | some portfolio => .ok portfolio
  | none => .error (.notFound "Portfolio was not found.")

def aggregate (store : PortfolioStore) (library : Library) (portfolio : Portfolio) :
    PortfolioAggregate where
  portfolio := portfolio
  sleeves := (store.sleevesOf portfolio.portfolioId).map (fun sleeve =>
    ⟨sleeve, joinedStrategy library sleeve.strategyId⟩)

def findProposal (store : PortfolioStore) (portfolioId proposalId : Uuid) : Outcome Proposal :=
  match (store.proposalsOf portfolioId).find? (fun row => row.proposalId = proposalId) with
  | some proposal => .ok proposal
  | none => .error (.proposalNotFound "Proposal was not found.")

end PortfolioStore

/-- A row `_auto_moved_since` counts, and the weight it moved. -/
def autoMoved (since : Time) (row : Proposal) : Option Decimal :=
  if row.kind = .rebalance ∧ row.autoApplied = true ∧ row.status = .applied then
    match row.weightMoved, row.decidedAt with
    | some moved, some decidedAt => if since ≤ decidedAt then some moved else none
    | _, _ => none
  else none

def autoMovedSince (rows : List Proposal) (now : Time) : Decimal :=
  (rows.filterMap (autoMoved (now - rebalanceBudgetWindow))).sum

/-! ## Calls -/

/-- The `settle` callbacks the manager passes to `settle_proposal`. -/
inductive Settler where
  | approve (note : Option String) (context : MutationContext) (sleeveId : Uuid)
  | approveRuntime (note : Option String) (context : MutationContext)
  | decline (note : Option String) (context : MutationContext)
  | fail (code message : String) (context : MutationContext)
  | autoApply (context : MutationContext)

def Settler.settlement (settler : Settler) (current : PortfolioAggregate) (stored : Proposal)
    (strategy : Option SleeveStrategy) : Outcome ProposalSettlement :=
  match settler with
  | .approve note context sleeveId => approval current stored strategy note context sleeveId
  | .approveRuntime note context => closing current stored .applied context note
  | .decline note context => closing current stored .declined context note
  | .fail code message context => failure current stored code message context
  | .autoApply context => autoApplied current stored context

/-- The store calls that take the lock. -/
inductive StoreCall where
  | create (request : PortfolioCreateRequest) (context : MutationContext) (portfolioId : Uuid)
      (sleeveIds : List Uuid)
  | update (portfolioId : Uuid) (request : PortfolioUpdateRequest) (context : MutationContext)
  | addSleeve (portfolioId : Uuid) (request : SleeveAddRequest) (context : MutationContext)
      (sleeveId : Uuid)
  | addSleeves (portfolioId : Uuid) (request : SleevesAddRequest) (context : MutationContext)
      (sleeveIds : List Uuid)
  | updateSleeve (portfolioId sleeveId : Uuid) (request : SleeveUpdateRequest)
      (context : MutationContext)
  | removeSleeve (portfolioId sleeveId : Uuid) (expectedRevision : Nat) (context : MutationContext)
  | setWeights (portfolioId : Uuid) (request : SetWeightsRequest) (context : MutationContext)
  | delete (portfolioId : Uuid) (expectedRevision : Nat)
  | createProposal (portfolioId : Uuid) (request : ProposalSubmitRequest) (proposalId : Uuid)
      (sleeveId : Uuid) (context : MutationContext)
  | settleProposal (portfolioId proposalId : Uuid) (strategyId : Option Uuid) (settler : Settler)
  | expireProposals (now : Time)

/-- What a locked section writes. -/
inductive Write where
  | unchanged
  | create (plan : MutationPlan)
  | apply (plan : MutationPlan)
  | settle (settlement : ProposalSettlement)
  | expire (now : Time)
  | delete (portfolioId : Uuid)

/-- `_mutate`'s `if plan is not None: self._apply(plan)`. -/
def Write.ofPlan : Option MutationPlan → Write
  | none => .unchanged
  | some plan => .apply plan

def PortfolioStore.write (store : PortfolioStore) : Write → PortfolioStore
  | .unchanged => store
  | .create plan => store.apply plan
  | .apply plan => store.apply plan
  | .settle settlement => store.settle settlement
  | .expire now => store.expireProposals now
  | .delete portfolioId => store.delete portfolioId

/-- `tuple(sorted(uuid7(...) for _ in sleeves))`: a batch takes its ids in ascending order. -/
def sortedIds (ids : List Uuid) : List Uuid := ids.insertionSort (fun a b => a.toNat ≤ b.toNat)

def StoreCall.lockedSection (call : StoreCall) (reads : Reads) (store : PortfolioStore) : Outcome Write :=
  match call with
  | .create request context portfolioId sleeveIds => do
    let strategies ← request.sleeves.mapM (fun item => namedStrategy reads.asked item.strategyId)
    let plan ← planCreate request portfolioId context strategies (sortedIds sleeveIds)
    return .create plan
  | .update portfolioId request context => do
    let portfolio ← store.portfolio portfolioId
    let plan ← planUpdate (store.aggregate reads.joined portfolio) request context
    return .ofPlan plan
  | .addSleeve portfolioId request context sleeveId => do
    let strategy ← namedStrategy reads.asked request.strategyId
    let portfolio ← store.portfolio portfolioId
    let plan ← planAddSleeve (store.aggregate reads.joined portfolio) strategy request sleeveId context
    return .apply plan
  | .addSleeves portfolioId request context sleeveIds => do
    let strategies ← request.sleeves.mapM (fun item => namedStrategy reads.asked item.strategyId)
    let portfolio ← store.portfolio portfolioId
    let plan ← planAddSleeves (store.aggregate reads.joined portfolio) strategies request
      (sortedIds sleeveIds) context
    return .apply plan
  | .updateSleeve portfolioId sleeveId request context => do
    let portfolio ← store.portfolio portfolioId
    let plan ← planUpdateSleeve (store.aggregate reads.joined portfolio) sleeveId request context
    return .ofPlan plan
  | .removeSleeve portfolioId sleeveId expectedRevision context => do
    let portfolio ← store.portfolio portfolioId
    let plan ← planRemoveSleeve (store.aggregate reads.joined portfolio) sleeveId
      (some expectedRevision) context
    return .apply plan
  | .setWeights portfolioId request context => do
    let portfolio ← store.portfolio portfolioId
    let plan ← planSetWeights (store.aggregate reads.joined portfolio) request context
    return .ofPlan plan
  | .delete portfolioId expectedRevision => do
    let portfolio ← store.portfolio portfolioId
    requireRevision portfolio expectedRevision
    return .delete portfolioId
  | .createProposal portfolioId request proposalId sleeveId context => do
    let strategy ← strategyFacts reads.asked request.change.strategyId
    let portfolio ← store.portfolio portfolioId
    let moved := autoMovedSince (store.proposalsOf portfolioId) context.occurredAt
    let settlement ← submission (store.aggregate reads.joined portfolio) request moved strategy
      proposalId sleeveId context
    return .settle settlement
  | .settleProposal portfolioId proposalId strategyId settler => do
    let strategy ← strategyFacts reads.asked strategyId
    let portfolio ← store.portfolio portfolioId
    let proposal ← store.findProposal portfolioId proposalId
    let settlement ← settler.settlement (store.aggregate reads.joined portfolio) proposal strategy
    return .settle settlement
  | .expireProposals now => .ok (.expire now)

end Thytrader.Portfolios
