import Thytrader.Portfolios.Store

/-!
# Portfolio invariants over every run of the store

A `Registry` is the store with what its history has to say: every id minted so far and,
for each portfolio, how many plans were applied since it was created. A step is one
locked section of any caller; a section that raises writes nothing. Ids come from
`uuid7`, which never repeats one, so a step mints ids no earlier step minted.

`Kept` is the invariant of one portfolio (`portfolio_invariants`).
-/

namespace Thytrader.Portfolios

open Lib PortfolioStore List Dict Function

variable {ids : List Uuid} {current : PortfolioAggregate}

/-! ## Runs -/

/-- One caller's locked section and what the strategy store answered it. -/
structure StoreEvent where
  call : StoreCall
  reads : Reads

/-- The ids a callback mints. -/
def Settler.minted : Settler → List Uuid
  | .approve _ _ sleeveId => [sleeveId]
  | _ => []

def StoreCall.minted : StoreCall → List Uuid
  | .create _ _ portfolioId sleeveIds => portfolioId :: sleeveIds
  | .addSleeve _ _ _ sleeveId => [sleeveId]
  | .addSleeves _ _ _ sleeveIds => sleeveIds
  | .createProposal _ _ proposalId sleeveId _ => [proposalId, sleeveId]
  | .settleProposal _ _ _ settler => settler.minted
  | _ => []

def Write.plan? : Write → Option MutationPlan
  | .apply plan => some plan
  | .settle settlement => settlement.plan
  | _ => none

def Write.count (write : Write) (applied : Uuid → Nat) : Uuid → Nat :=
  match write with
  | .create plan => update applied plan.portfolio.portfolioId 0
  | _ =>
    match write.plan? with
    | none => applied
    | some plan =>
      update applied plan.portfolio.portfolioId (applied plan.portfolio.portfolioId + 1)

/-- The store and its history. -/
structure Registry where
  store : PortfolioStore
  minted : List Uuid
  applied : Uuid → Nat

namespace Registry

/-- A new store. -/
def Initial (r : Registry) : Prop := r = ⟨PortfolioStore.empty, [], fun _ => 0⟩

def after (r : Registry) (event : StoreEvent) : Registry :=
  match event.call.lockedSection event.reads r.store with
  | .ok write =>
    ⟨r.store.write write, event.call.minted ++ r.minted, write.count r.applied⟩
  | .error _ => { r with minted := event.call.minted ++ r.minted }

/-- One step: a section whose ids no earlier one minted. -/
structure Step (r : Registry) (event : StoreEvent) (r' : Registry) : Prop where
  distinct : event.call.minted.Nodup
  unused : ∀ id ∈ event.call.minted, id ∉ r.minted
  next : r' = r.after event

/-- Every id a section minted is handed out, also when it raised. -/
theorem minted_after (r : Registry) (event : StoreEvent) :
    (r.after event).minted = event.call.minted ++ r.minted := by
  unfold after
  split
  · rfl
  · rfl

/-- A stored portfolio, as the applied plans left it. -/
structure Kept (r : Registry) (id : Uuid) (portfolio : Portfolio) : Prop where
  portfolioId : portfolio.portfolioId = id
  sound : Sound portfolio (r.store.sleevesOf id)
  revision : portfolio.revision = 1 + r.applied id
  minted : id ∈ r.minted
  sleeveIds : ∀ sleeve ∈ r.store.sleevesOf id, sleeve.sleeveId ∈ r.minted

def Inv (r : Registry) : Prop :=
  ∀ id portfolio, r.store.portfolios.get? id = some portfolio → r.Kept id portfolio

end Registry

/-! ## Reading the store -/

theorem rows_aggregate (store : PortfolioStore) (library : Library) (portfolio : Portfolio) :
    (store.aggregate library portfolio).rows = store.sleevesOf portfolio.portfolioId := by
  rw [PortfolioAggregate.rows, aggregate, map_map]
  exact map_id' _

variable {store : PortfolioStore} {id : Uuid} {portfolio : Portfolio}

theorem portfolio_eq_ok
    (h : store.portfolio id = .ok portfolio) : store.portfolios.get? id = some portfolio := by
  unfold PortfolioStore.portfolio at h
  split at h
  next found hfound =>
    cases h
    exact hfound
  · cases h

/-- A section that reads its portfolio goes on with the one stored. -/
theorem portfolio_bind {α : Type} {next : Portfolio → Outcome α} {written : α}
    (h : store.portfolio id >>= next = .ok written) :
    ∃ before, store.portfolios.get? id = some before ∧ next before = .ok written := by
  obtain ⟨before, hbefore, h⟩ := bind_eq_ok h
  exact ⟨before, portfolio_eq_ok hbefore, h⟩

theorem namedStrategies_ids {library : Library} {items : List SleeveBatchItem}
    {strategies : List SleeveStrategy}
    (h : items.mapM (fun item => namedStrategy library item.strategyId) = .ok strategies) :
    strategies.map (·.strategyId) = items.map (·.strategyId) := by
  induction items generalizing strategies with
  | nil =>
    cases h
    rfl
  | cons item _ ih =>
    rw [mapM_cons] at h
    obtain ⟨strategy, hstrategy, h⟩ := bind_eq_ok h
    obtain ⟨rest, hrest, rfl⟩ := bind_pure_ok h
    have hid : strategy.strategyId = item.strategyId := by
      unfold namedStrategy at hstrategy
      split at hstrategy
      · rw [← Except.ok.inj hstrategy, sleeveStrategyFromRecord]
      · cases hstrategy
      · cases hstrategy
    rw [map_cons, map_cons, hid, ih hrest]

theorem sortedIds_perm (ids : List Uuid) : (sortedIds ids).Perm ids :=
  perm_insertionSort _ ids

section

variable {portfolio : Portfolio} {r : Registry} {id : Uuid} (h : r.Kept id portfolio)
include h

theorem Registry.Kept.freshIds (hdistinct : ids.Nodup) (hunused : ∀ id ∈ ids, id ∉ r.minted)
    (library : Library) : FreshIds (r.store.aggregate library portfolio).rows ids := by
  refine ⟨hdistinct, fun minted hminted hmem => hunused minted hminted ?_⟩
  rw [rows_aggregate, h.portfolioId] at hmem
  obtain ⟨sleeve, hsleeve, rfl⟩ := mem_map.mp hmem
  exact h.sleeveIds sleeve hsleeve

theorem Registry.Kept.soundAggregate (library : Library) :
    Sound portfolio (r.store.aggregate library portfolio).rows := by
  rw [rows_aggregate, h.portfolioId]
  exact h.sound

end

/-! ## What a section may write -/

section

variable {r : Registry} {call : StoreCall} {reads : Reads} {write : Write} {plan : MutationPlan}
  {context : MutationContext} {strategy : Option SleeveStrategy} {settlement : ProposalSettlement}

theorem submission_plan {request : ProposalSubmitRequest} {moved : Decimal}
    {proposalId sleeveId : Uuid}
    (h : submission current request moved strategy proposalId sleeveId context = .ok settlement)
    (hplan : settlement.plan = some plan) :
    planChange current request.change strategy context proposalId sleeveId = .ok (some plan) := by
  obtain ⟨_, -, h⟩ := bind_eq_ok h
  obtain ⟨planned, hplanned, h⟩ := bind_eq_ok h
  obtain ⟨requirement, -, rfl⟩ := bind_pure_ok h
  obtain ⟨-, hplan⟩ := of_ite_ne_else hplan nofun
  rw [hplanned, hplan]

variable {stored : Proposal}

theorem failure_plan {code message : String}
    (h : failure current stored code message context = .ok settlement) :
    settlement.plan = none := by
  obtain ⟨_, -, h⟩ := bind_eq_ok h
  rw [← Except.ok.inj h]

theorem settlement_plan {settler : Settler}
    (h : settler.settlement current stored strategy = .ok settlement)
    (hplan : settlement.plan = some plan) :
    ∃ note context sleeveId, settler = .approve note context sleeveId ∧
      planChange current stored.change strategy context stored.proposalId sleeveId =
        .ok (some plan) := by
  cases settler with
  | approve note context sleeveId =>
    refine ⟨note, context, sleeveId, rfl, ?_⟩
    obtain ⟨_, -, h⟩ := bind_eq_ok h
    generalize planChange current stored.change strategy context stored.proposalId sleeveId = planned
      at h
    match planned with
    | .error error =>
      dsimp only [settlePlanned] at h
      split at h
      · rw [failure_plan h] at hplan; cases hplan
      · cases h
    | .ok none =>
      rw [failure_plan h] at hplan
      cases hplan
    | .ok (some found) =>
      cases h
      rw [show found = plan from Option.some.inj hplan]
  | approveRuntime | decline | autoApply =>
    obtain ⟨_, -, h⟩ := bind_eq_ok h
    rw [← Except.ok.inj h] at hplan
    cases hplan
  | fail =>
    rw [failure_plan h] at hplan
    cases hplan

/-- What a section may write. -/
inductive Permitted (r : Registry) (call : StoreCall) (reads : Reads) : Write → Prop where
  | unchanged : Permitted r call reads .unchanged
  | created (plan : MutationPlan) (hsound : Sound plan.portfolio plan.sleeves)
      (hrevision : plan.portfolio.revision = 1) (hid : plan.portfolio.portfolioId ∈ call.minted)
      (hknown : ∀ sleeve ∈ plan.sleeves, sleeve.sleeveId ∈ call.minted) :
      Permitted r call reads (.create plan)
  | applied (id : Uuid) (before : Portfolio) (plan : MutationPlan)
      (hget : r.store.portfolios.get? id = some before)
      (hkeeps : Keeps (r.store.aggregate reads.joined before) call.minted plan) :
      Permitted r call reads (.apply plan)
  | settled (id : Uuid) (before : Portfolio) (settlement : ProposalSettlement)
      (hget : r.store.portfolios.get? id = some before)
      (hkeeps : ∀ plan, settlement.plan = some plan →
        Keeps (r.store.aggregate reads.joined before) call.minted plan) :
      Permitted r call reads (.settle settlement)
  | expired (now : Time) : Permitted r call reads (.expire now)
  | deleted (id : Uuid) : Permitted r call reads (.delete id)

theorem permitted_ofPlan {before : Portfolio} {planned : Option MutationPlan}
    (hget : r.store.portfolios.get? id = some before)
    (hkeeps : ∀ plan, planned = some plan → Keeps (r.store.aggregate reads.joined before)
      call.minted plan) :
    Permitted r call reads (.ofPlan planned) := by
  cases planned with
  | none => exact .unchanged
  | some plan => exact .applied id before plan hget (hkeeps plan rfl)

/-- A plan that mints no ids keeps the rules whatever its call mints. -/
theorem Keeps.mono {ids' : List Uuid} (h : Keeps current ids plan) (hsub : ids ⊆ ids') :
    Keeps current ids' plan :=
  ⟨h.advances, h.sound, fun sleeve hsleeve => mem_append.mpr
    ((mem_append.mp (h.known sleeve hsleeve)).imp_right (fun hid => hsub hid))⟩

theorem lockedSection_permitted (hinv : r.Inv) (hdistinct : call.minted.Nodup)
    (hunused : ∀ id ∈ call.minted, id ∉ r.minted)
    (h : call.lockedSection reads r.store = .ok write) : Permitted r call reads write := by
  cases call with
  | create request _ _ sleeveIds =>
    obtain ⟨strategies, hstrategies, h⟩ := bind_eq_ok h
    obtain ⟨planned, hplanned, rfl⟩ := bind_pure_ok h
    have hperm := sortedIds_perm sleeveIds
    have hdistinct := nodup_cons.mp hdistinct
    obtain ⟨hportfolio, hsound, hknown⟩ := planCreate_sound hplanned
      (hperm.nodup_iff.mpr hdistinct.2)
      (by rw [namedStrategies_ids hstrategies]; exact request.requireDistinctStrategies)
    refine .created planned hsound (by rw [hportfolio]; rfl)
      (by rw [hportfolio]; exact mem_cons_self) fun sleeve hsleeve => ?_
    have hmem := mem_map_of_mem (f := (·.sleeveId)) hsleeve
    rw [hknown, hperm.mem_iff] at hmem
    exact mem_cons_of_mem _ hmem
  | update =>
    obtain ⟨before, hget, h⟩ := portfolio_bind h
    obtain ⟨planned, hplanned, rfl⟩ := bind_pure_ok h
    refine permitted_ofPlan hget ?_
    rintro plan rfl
    exact planUpdate_keeps hplanned ((hinv _ _ hget).soundAggregate _)
  | addSleeve =>
    obtain ⟨strategy, -, h⟩ := bind_eq_ok h
    obtain ⟨before, hget, h⟩ := portfolio_bind h
    obtain ⟨planned, hplanned, rfl⟩ := bind_pure_ok h
    exact .applied _ before planned hget
      (planAddSleeve_keeps hplanned ((hinv _ _ hget).soundAggregate _)
        ((hinv _ _ hget).freshIds hdistinct hunused _))
  | addSleeves _ request _ sleeveIds =>
    obtain ⟨strategies, hstrategies, h⟩ := bind_eq_ok h
    obtain ⟨before, hget, h⟩ := portfolio_bind h
    obtain ⟨planned, hplanned, rfl⟩ := bind_pure_ok h
    have hperm := sortedIds_perm sleeveIds
    have hkeeps := planAddSleeves_keeps hplanned ((hinv _ _ hget).soundAggregate _)
      ((hinv _ _ hget).freshIds (hperm.nodup_iff.mpr hdistinct)
        (fun id hid => hunused id (hperm.mem_iff.mp hid)) _)
      (by rw [namedStrategies_ids hstrategies]; exact request.requireDistinctStrategies)
    exact .applied _ before planned hget (hkeeps.mono hperm.subset)
  | updateSleeve =>
    obtain ⟨before, hget, h⟩ := portfolio_bind h
    obtain ⟨planned, hplanned, rfl⟩ := bind_pure_ok h
    refine permitted_ofPlan hget ?_
    rintro plan rfl
    exact planUpdateSleeve_keeps hplanned ((hinv _ _ hget).soundAggregate _)
  | removeSleeve =>
    obtain ⟨before, hget, h⟩ := portfolio_bind h
    obtain ⟨planned, hplanned, rfl⟩ := bind_pure_ok h
    exact .applied _ before planned hget
      (planRemoveSleeve_keeps hplanned ((hinv _ _ hget).soundAggregate _))
  | setWeights =>
    obtain ⟨before, hget, h⟩ := portfolio_bind h
    obtain ⟨planned, hplanned, rfl⟩ := bind_pure_ok h
    refine permitted_ofPlan hget ?_
    rintro plan rfl
    exact planSetWeights_keeps hplanned ((hinv _ _ hget).soundAggregate _)
  | delete portfolioId =>
    obtain ⟨_, -, h⟩ := bind_eq_ok h
    obtain ⟨_, -, rfl⟩ := bind_pure_ok h
    exact .deleted portfolioId
  | createProposal _ _ proposalId sleeveId =>
    obtain ⟨strategy, -, h⟩ := bind_eq_ok h
    obtain ⟨before, hget, h⟩ := portfolio_bind h
    obtain ⟨settlement, hsettlement, rfl⟩ := bind_pure_ok h
    have hsub : [sleeveId].Sublist [proposalId, sleeveId] := by simp
    refine .settled _ before settlement hget fun plan hplan => ?_
    have hkeeps := planChange_keeps (submission_plan hsettlement hplan)
      ((hinv _ _ hget).soundAggregate _)
      ((hinv _ _ hget).freshIds (hdistinct.sublist hsub)
        (fun id hid => hunused id (hsub.subset hid)) _)
    exact hkeeps.mono hsub.subset
  | settleProposal =>
    obtain ⟨strategy, -, h⟩ := bind_eq_ok h
    obtain ⟨before, hget, h⟩ := portfolio_bind h
    obtain ⟨stored, -, h⟩ := bind_eq_ok h
    obtain ⟨settlement, hsettlement, rfl⟩ := bind_pure_ok h
    refine .settled _ before settlement hget fun plan hplan => ?_
    obtain ⟨note, context, sleeveId, rfl, hchange⟩ := settlement_plan hsettlement hplan
    exact planChange_keeps hchange ((hinv _ _ hget).soundAggregate _)
      ((hinv _ _ hget).freshIds hdistinct hunused _)
  | expireProposals now =>
    cases h
    exact .expired now

end

/-! ## What a write leaves -/

section

variable {store : PortfolioStore} (plan : MutationPlan)

@[simp] theorem portfolios_apply : (store.apply plan).portfolios =
      store.portfolios.set plan.portfolio.portfolioId plan.portfolio := rfl

@[simp] theorem sleeves_apply :
    (store.apply plan).sleeves = store.sleeves.set plan.portfolio.portfolioId plan.sleeves := rfl

theorem sleevesOf_apply (id : Uuid) : (store.apply plan).sleevesOf id =
      if id = plan.portfolio.portfolioId then plan.sleeves else store.sleevesOf id := by
  unfold sleevesOf
  rw [sleeves_apply, get?_set]
  split
  · rfl
  · rfl

variable {settlement : ProposalSettlement}

theorem settle_of_plan (store : PortfolioStore) {plan : MutationPlan}
    (h : settlement.plan = some plan) :
    (store.settle settlement).portfolios = (store.apply plan).portfolios ∧
      (store.settle settlement).sleeves = (store.apply plan).sleeves := by
  unfold settle
  rw [h]
  exact ⟨rfl, rfl⟩

theorem settle_of_none (store : PortfolioStore) (h : settlement.plan = none) :
    (store.settle settlement).portfolios = store.portfolios ∧
      (store.settle settlement).sleeves = store.sleeves := by
  unfold settle
  rw [h]
  exact ⟨rfl, rfl⟩

end

/-! ## One step -/

namespace Registry

variable {r r' : Registry} {id : Uuid}

theorem Inv.same (hinv : r.Inv) (hportfolios : r'.store.portfolios = r.store.portfolios)
    (hsleeves : r'.store.sleeves = r.store.sleeves) (happlied : r'.applied = r.applied)
    (hminted : r.minted ⊆ r'.minted) : r'.Inv := by
  intro id portfolio hget
  rw [hportfolios] at hget
  have hkept := hinv id portfolio hget
  have hrows : r'.store.sleevesOf id = r.store.sleevesOf id := by
    unfold sleevesOf
    rw [hsleeves]
  refine ⟨hkept.portfolioId, hrows ▸ hkept.sound, happlied ▸ hkept.revision,
    hminted hkept.minted, fun sleeve hsleeve => hminted (hkept.sleeveIds sleeve ?_)⟩
  rwa [hrows] at hsleeve

variable {plan : MutationPlan}

theorem Inv.write (hinv : r.Inv)
    (hportfolios : r'.store.portfolios = (r.store.apply plan).portfolios)
    (hsleeves : r'.store.sleeves = (r.store.apply plan).sleeves)
    (happlied : ∀ id, id ≠ plan.portfolio.portfolioId → r'.applied id = r.applied id)
    (hminted : r.minted ⊆ r'.minted) (hid : plan.portfolio.portfolioId ∈ r'.minted)
    (hsound : Sound plan.portfolio plan.sleeves)
    (hrevision : plan.portfolio.revision = 1 + r'.applied plan.portfolio.portfolioId)
    (hknown : ∀ sleeve ∈ plan.sleeves, sleeve.sleeveId ∈ r'.minted) : r'.Inv := by
  intro id portfolio hget
  have hrows : r'.store.sleevesOf id =
      if id = plan.portfolio.portfolioId then plan.sleeves else r.store.sleevesOf id := by
    rw [← sleevesOf_apply, sleevesOf, sleevesOf, hsleeves]
  rw [hportfolios, portfolios_apply, get?_set] at hget
  split at hget
  next hsame =>
    cases hget
    rw [if_pos hsame] at hrows
    subst hsame
    exact ⟨rfl, hrows ▸ hsound, hrevision, hid, by rw [hrows]; exact hknown⟩
  next hother =>
    rw [if_neg hother] at hrows
    have hkept := hinv id portfolio hget
    refine ⟨hkept.portfolioId, hrows ▸ hkept.sound, ?_, hminted hkept.minted, ?_⟩
    · rw [happlied id hother]
      exact hkept.revision
    · intro sleeve hsleeve
      rw [hrows] at hsleeve
      exact hminted (hkept.sleeveIds sleeve hsleeve)

theorem Inv.applyPlan (hinv : r.Inv) {before : Portfolio} {library : Library} {plan : MutationPlan}
    (hget : r.store.portfolios.get? id = some before)
    (hkeeps : Keeps (r.store.aggregate library before) ids plan)
    (hportfolios : r'.store.portfolios = (r.store.apply plan).portfolios)
    (hsleeves : r'.store.sleeves = (r.store.apply plan).sleeves)
    (happlied : r'.applied = update r.applied plan.portfolio.portfolioId (r.applied
      plan.portfolio.portfolioId + 1)) (hminted : r'.minted = ids ++ r.minted) : r'.Inv := by
  have hkept := hinv id before hget
  have hsame : plan.portfolio.portfolioId = id := hkeeps.advances.portfolioId.trans hkept.portfolioId
  have hsub : r.minted ⊆ r'.minted := hminted ▸ subset_append_right ids r.minted
  refine hinv.write hportfolios hsleeves ?_ hsub ?_ hkeeps.sound ?_ ?_
  · intro other hother
    rw [happlied, update_of_ne hother]
  · rw [hsame]
    exact hsub hkept.minted
  · have hrevision : plan.portfolio.revision = before.revision + 1 := hkeeps.advances.revision
    rw [happlied, update_self, hrevision, hkept.revision, hsame]
    omega
  · intro sleeve hsleeve
    have hknown := hkeeps.known sleeve hsleeve
    rw [rows_aggregate, hkept.portfolioId, mem_append] at hknown
    rcases hknown with hold | hnew
    · obtain ⟨row, hrow, heq⟩ := mem_map.mp hold
      rw [← heq]
      exact hsub (hkept.sleeveIds row hrow)
    · rw [hminted]
      exact mem_append_left _ hnew

theorem Inv.step {event : StoreEvent} (hinv : r.Inv) (hstep : r.Step event r') : r'.Inv := by
  obtain ⟨hdistinct, hunused, rfl⟩ := hstep
  have hsub : r.minted ⊆ event.call.minted ++ r.minted := subset_append_right _ _
  unfold after
  split
  next write hsection =>
    cases lockedSection_permitted hinv hdistinct hunused hsection with
    | unchanged | expired => exact hinv.same rfl rfl rfl hsub
    | created plan hsound hrevision hid hknown =>
      refine hinv.write rfl rfl ?_ hsub (mem_append_left _ hid) hsound ?_ ?_
      · intro other hother
        exact update_of_ne hother _ _
      · show plan.portfolio.revision =
          1 + update r.applied plan.portfolio.portfolioId 0 plan.portfolio.portfolioId
        rw [update_self, hrevision]
      · exact fun sleeve hsleeve => mem_append_left _ (hknown sleeve hsleeve)
    | applied _ _ _ hget hkeeps => exact hinv.applyPlan hget hkeeps rfl rfl rfl rfl
    | settled _ _ settlement hget hkeeps =>
      cases hplan : settlement.plan with
      | none =>
        obtain ⟨hportfolios, hsleeves⟩ := settle_of_none r.store hplan
        refine hinv.same hportfolios hsleeves ?_ hsub
        simp only [Write.count, Write.plan?, hplan]
      | some plan =>
        obtain ⟨hportfolios, hsleeves⟩ := settle_of_plan r.store hplan
        refine hinv.applyPlan hget (hkeeps plan hplan) hportfolios hsleeves ?_ rfl
        simp only [Write.count, Write.plan?, hplan]
    | deleted id =>
      intro other portfolio hget
      have hget : (r.store.portfolios.erase id).get? other = some portfolio := hget
      have hne : other ≠ id := by
        rintro rfl
        rw [get?_erase_self] at hget
        cases hget
      rw [get?_erase_ne hne] at hget
      have hkept := hinv other portfolio hget
      have hrows : (r.store.delete id).sleevesOf other = r.store.sleevesOf other := by
        show ((r.store.sleeves.erase id).get? other).getD [] = _
        rw [get?_erase_ne hne]
        rfl
      exact ⟨hkept.portfolioId, hrows ▸ hkept.sound, hkept.revision, hsub hkept.minted,
        fun sleeve hsleeve => hsub (hkept.sleeveIds sleeve (hrows ▸ hsleeve))⟩
  · exact hinv.same rfl rfl rfl hsub

variable {portfolio : Portfolio}

section

variable (hinv : r.Inv) {call : StoreCall} {reads : Reads} {write : Write}
  (hwrite : Permitted r call reads write)
include hinv hwrite

/-- A portfolio a write leaves was created by it, or was there with the same mode and
currency. -/
theorem Inv.carried (h : (r.store.write write).portfolios.get? id = some portfolio) :
    (∃ plan, write = .create plan ∧ id ∈ call.minted) ∨
      ∃ before, r.store.portfolios.get? id = some before ∧ portfolio.mode = before.mode ∧
        portfolio.quoteCurrency = before.quoteCurrency := by
  have hsame : r.store.portfolios.get? id = some portfolio →
      ∃ before, r.store.portfolios.get? id = some before ∧ portfolio.mode = before.mode ∧
        portfolio.quoteCurrency = before.quoteCurrency := fun hget => ⟨portfolio, hget, rfl, rfl⟩
  -- the next row of a portfolio carries over the mode and currency of the last
  have hplan : ∀ {other : Uuid} {before : Portfolio} {plan : MutationPlan},
      r.store.portfolios.get? other = some before →
      Keeps (r.store.aggregate reads.joined before) call.minted plan →
      (r.store.apply plan).portfolios.get? id = some portfolio →
        ∃ before, r.store.portfolios.get? id = some before ∧ portfolio.mode = before.mode ∧
          portfolio.quoteCurrency = before.quoteCurrency := by
    intro other before plan hget hkeeps h
    rw [portfolios_apply, get?_set] at h
    split at h
    next hid =>
      cases h
      have hother : other = id := by
        rw [hid, hkeeps.advances.portfolioId]
        exact ((hinv other before hget).portfolioId).symm
      exact ⟨before, hother ▸ hget, hkeeps.advances.mode, hkeeps.advances.quoteCurrency⟩
    · exact hsame h
  cases hwrite with
  | unchanged | expired => exact .inr (hsame h)
  | created plan _ _ hid =>
    have h : (r.store.portfolios.set plan.portfolio.portfolioId plan.portfolio).get? id =
      some portfolio := h
    rw [get?_set] at h
    split at h
    next hnew => exact .inl ⟨plan, rfl, hnew ▸ hid⟩
    · exact .inr (hsame h)
  | applied _ _ _ hget hkeeps => exact .inr (hplan hget hkeeps h)
  | settled _ _ settlement hget hkeeps =>
    cases hsettled : settlement.plan with
    | none => exact .inr (hsame ((settle_of_none r.store hsettled).1 ▸ h))
    | some plan =>
      exact .inr (hplan hget (hkeeps plan hsettled) ((settle_of_plan r.store hsettled).1 ▸ h))
  | deleted other =>
    have h : (r.store.portfolios.erase other).get? id = some portfolio := h
    by_cases hne : id = other
    · rw [hne, get?_erase_self] at h
      cases h
    · rw [get?_erase_ne hne] at h
      exact .inr (hsame h)

/-- A write that creates nothing leaves only portfolios that were there. -/
theorem Inv.present (hcreate : ∀ plan, write ≠ .create plan)
    (h : (r.store.write write).portfolios.get? id = some portfolio) :
    ∃ before, r.store.portfolios.get? id = some before := by
  obtain ⟨plan, hplan, -⟩ | ⟨before, hget, -⟩ := hinv.carried hwrite h
  · exact absurd hplan (hcreate plan)
  · exact ⟨before, hget⟩

end

theorem reachable_inv (h : Reachable Initial Step r) : r.Inv := by
  refine h.invariant Inv ?_ (fun _ _ _ hinv hstep => hinv.step hstep)
  rintro s rfl id portfolio hget
  exact absurd hget (by simp [PortfolioStore.empty])

/-! ## What never changes -/

/-- An id that was handed out names, if anything, a portfolio of this mode and currency. -/
structure Fixed (id : Uuid) (mode : PortfolioMode) (quote : MarketData.SpotQuoteCurrency)
    (r : Registry) : Prop where
  minted : id ∈ r.minted
  row : ∀ portfolio, r.store.portfolios.get? id = some portfolio →
    portfolio.mode = mode ∧ portfolio.quoteCurrency = quote

variable {quote : MarketData.SpotQuoteCurrency} {mode : PortfolioMode} (hinv : r.Inv)
  (hfixed : r.Fixed id mode quote)
include hinv hfixed

theorem Fixed.step {event : StoreEvent} (hstep : r.Step event r') : r'.Fixed id mode quote := by
  obtain ⟨hdistinct, hunused, rfl⟩ := hstep
  have hminted : id ∈ event.call.minted ++ r.minted := mem_append_right _ hfixed.minted
  unfold after
  split
  next write hsection =>
    refine ⟨hminted, fun portfolio hafter => ?_⟩
    have hwrite := lockedSection_permitted hinv hdistinct hunused hsection
    obtain ⟨_, -, hnew⟩ | ⟨before, hget, hmode, hquote⟩ := hinv.carried hwrite hafter
    · exact absurd hfixed.minted (hunused id hnew)
    · rw [hmode, hquote]
      exact hfixed.row before hget
  · exact ⟨hminted, hfixed.row⟩

theorem Fixed.run {events : List StoreEvent} (hrun : Run Step r events r') :
    r'.Fixed id mode quote :=
  (hrun.invariant (fun s => s.Inv ∧ s.Fixed id mode quote)
    (fun _ _ _ h hstep => ⟨h.1.step hstep, h.2.step h.1 hstep⟩) ⟨hinv, hfixed⟩).2

end Registry

/-! ## Stale requests -/

def StoreCall.guarded : StoreCall → Option (Uuid × Nat)
  | .update portfolioId request _ => some (portfolioId, request.revision)
  | .addSleeve portfolioId request _ _ => some (portfolioId, request.revision)
  | .addSleeves portfolioId request _ _ => some (portfolioId, request.revision)
  | .updateSleeve portfolioId _ request _ => some (portfolioId, request.revision)
  | .removeSleeve portfolioId _ expectedRevision _ => some (portfolioId, expectedRevision)
  | .setWeights portfolioId request _ => some (portfolioId, request.revision)
  | .delete portfolioId expectedRevision => some (portfolioId, expectedRevision)
  | .createProposal portfolioId request _ _ _ => some (portfolioId, request.revision)
  | _ => none

variable {expected : Nat}

theorem requireRevision_eq_ok {u : Unit}
    (h : requireRevision portfolio expected = .ok u) : portfolio.revision = expected :=
  require_eq_ok h

variable {store : PortfolioStore} {id : Uuid} {write : Write}

/-- A plan that checks the revision first was made at that revision. -/
theorem planned_revision {α : Type} {plan : Portfolio → Unit → Outcome α}
    {next : Portfolio → α → Outcome Write}
    (h : (store.portfolio id >>= fun portfolio =>
      (requireRevision portfolio expected >>= plan portfolio) >>= next portfolio) = .ok write) :
    ∃ portfolio, store.portfolios.get? id = some portfolio ∧ portfolio.revision = expected := by
  obtain ⟨portfolio, hget, h⟩ := portfolio_bind h
  obtain ⟨_, hplan, -⟩ := bind_eq_ok h
  obtain ⟨_, hrevision, -⟩ := bind_eq_ok hplan
  exact ⟨portfolio, hget, requireRevision_eq_ok hrevision⟩

theorem lockedSection_revision {call : StoreCall} {reads : Reads}
    (hguarded : call.guarded = some (id, expected))
    (h : call.lockedSection reads store = .ok write) :
    ∃ portfolio, store.portfolios.get? id = some portfolio ∧ portfolio.revision = expected := by
  cases call with
  | create | settleProposal | expireProposals => exact absurd hguarded (by simp [StoreCall.guarded])
  | update | updateSleeve | removeSleeve | setWeights =>
    cases hguarded
    exact planned_revision h
  | addSleeve | addSleeves | createProposal =>
    cases hguarded
    obtain ⟨_, -, h⟩ := bind_eq_ok h
    exact planned_revision h
  | delete =>
    cases hguarded
    obtain ⟨portfolio, hget, h⟩ := portfolio_bind h
    obtain ⟨_, hrevision, -⟩ := bind_eq_ok h
    exact ⟨portfolio, hget, requireRevision_eq_ok hrevision⟩

/-- The call was planned against a revision its portfolio no longer has. -/
def StoreEvent.Stale (event : StoreEvent) (r : Registry) : Prop :=
  ∃ id expected, event.call.guarded = some (id, expected) ∧
    ∀ portfolio, r.store.portfolios.get? id = some portfolio → portfolio.revision ≠ expected

/-- Weights and reserve are legal and at most 1 together, sleeve ids and strategies are distinct,
the sleeves at most `MAX_SLEEVES`, the revision is 1 plus the plans applied since creation; mode and
quote currency never change; a stale request writes nothing. -/
theorem portfolio_invariants {r : Registry} (h : Reachable Registry.Initial Registry.Step r) :
    (∀ id portfolio, r.store.portfolios.get? id = some portfolio →
      Sound portfolio (r.store.sleevesOf id) ∧ portfolio.revision = 1 + r.applied id) ∧
    (∀ events r', Run Registry.Step r events r' → ∀ id portfolio portfolio',
      r.store.portfolios.get? id = some portfolio →
      r'.store.portfolios.get? id = some portfolio' →
      portfolio'.mode = portfolio.mode ∧ portfolio'.quoteCurrency = portfolio.quoteCurrency) ∧
    (∀ event, event.Stale r → (r.after event).store = r.store) := by
  have hinv := Registry.reachable_inv h
  refine ⟨?_, ?_, ?_⟩
  · intro id portfolio hget
    have hkept := hinv id portfolio hget
    exact ⟨hkept.sound, hkept.revision⟩
  · intro events r' hrun id portfolio portfolio' hget hget'
    have hfixed : r.Fixed id portfolio.mode portfolio.quoteCurrency := by
      refine ⟨(hinv id portfolio hget).minted, fun other hother => ?_⟩
      cases hget.symm.trans hother
      exact ⟨rfl, rfl⟩
    exact (hfixed.run hinv hrun).row portfolio' hget'
  · rintro event ⟨id, expected, hguarded, hstale⟩
    unfold Registry.after
    split
    next write hsection =>
      obtain ⟨portfolio, hget, hrevision⟩ := lockedSection_revision hguarded hsection
      exact absurd hrevision (hstale portfolio hget)
    · rfl

/-- A strategy store that knows every id as the same USDC market. -/
def usdcReads : Reads :=
  ⟨fun _ => .ok ⟨"Trend", some "BTC-USDC", some "1h"⟩,
    fun _ => .ok ⟨"Trend", some "BTC-USDC", some "1h"⟩⟩

def coreRequest : PortfolioCreateRequest where
  name := "Core"
  mode := .paper
  capitalQuote := ⟨1000, by decide +kernel⟩
  sleeves := [{ strategyId := 7, weightFraction := ⟨3 / 5, by decide +kernel⟩ }]

def createdWithSleeve : StoreEvent :=
  ⟨.create { coreRequest with cashReserveFraction := ⟨1 / 5, by decide +kernel⟩ }
    ⟨.operator, .api, 0⟩ 1 [2], usdcReads⟩

/-- A second sleeve that takes the rest. -/
def sleeveAdded : StoreEvent :=
  ⟨.addSleeve 1 { revision := 1, strategyId := 8, weightFraction := ⟨1 / 5, by decide +kernel⟩ }
    ⟨.operator, .api, 5⟩ 3, usdcReads⟩

/-- The same request again: its revision is stale now. -/
def sleeveAddedAgain : StoreEvent :=
  ⟨.addSleeve 1 { revision := 1, strategyId := 9, weightFraction := ⟨1 / 5, by decide +kernel⟩ }
    ⟨.operator, .api, 6⟩ 4, usdcReads⟩

def newRegistry : Registry := ⟨PortfolioStore.empty, [], fun _ => 0⟩

def twoSleeves : Registry := (newRegistry.after createdWithSleeve).after sleeveAdded

theorem portfolio_invariants_twoSleeves :
    (twoSleeves.store.portfolios.get? 1).map (·.revision) = some 2 ∧
      (twoSleeves.store.sleevesOf 1).map (·.weightFraction) = [3 / 5, 1 / 5] ∧
      (∀ id portfolio, twoSleeves.store.portfolios.get? id = some portfolio →
        Sound portfolio (twoSleeves.store.sleevesOf id) ∧
          portfolio.revision = 1 + twoSleeves.applied id) ∧
      (twoSleeves.after sleeveAddedAgain).store = twoSleeves.store := by
  have hcreated : newRegistry.Step createdWithSleeve (newRegistry.after createdWithSleeve) :=
    ⟨by decide, by simp [newRegistry], rfl⟩
  have hadded : (newRegistry.after createdWithSleeve).Step sleeveAdded twoSleeves := by
    refine ⟨by decide, ?_, rfl⟩
    rw [Registry.minted_after]
    simp [sleeveAdded, createdWithSleeve, newRegistry, StoreCall.minted]
  have hstart : Reachable Registry.Initial Registry.Step newRegistry := .start rfl
  have hreachable : Reachable Registry.Initial Registry.Step twoSleeves :=
    (hstart.next hcreated).next hadded
  have hrevision : (twoSleeves.store.portfolios.get? 1).map (·.revision) = some 2 := by
    decide +kernel
  obtain ⟨hsound, -, hstale⟩ := portfolio_invariants hreachable
  refine ⟨hrevision, by decide +kernel, hsound, hstale sleeveAddedAgain ⟨1, 1, rfl, ?_⟩⟩
  intro portfolio hget hone
  rw [hget, Option.map_some, hone] at hrevision
  exact absurd hrevision (by decide)

end Thytrader.Portfolios
