import Thytrader.FleetControl.Executions

/-!
# Every call keeps the lock order

Starts, intents and adoptions beside the executions, and the crowds they make up together.
-/

namespace Thytrader.FleetControl

open Trading Lib Execution MarketData Follows FleetLock

/-- The locks a call holds, with nothing seen of the latch. -/
structure Holding (call : FleetCall) (held : Set FleetLock) (k : Knowledge) : Prop where
  mine : k.call = call
  held : k.held = held
  clear : k.clear = none

/-- Raising or not, the program follows the protocol and ends with the locks it began with. -/
abbrev KeepsHeld {α : Type} (sha256 : String → String) (modeOf : Uuid → DeploymentMode)
    (call : FleetCall) (held : Set FleetLock) (k : Knowledge) (program : FleetProgram α) : Prop :=
  Follows (fleetRegime sha256 modeOf).protocol k program (fun k' _ => Holding call held k')
    (Holding call held)

variable {sha256 : String → String} {modeOf : Uuid → DeploymentMode} {call : FleetCall}
  {held : Set FleetLock} {k : Knowledge}
variable {intent : OrderIntent}

theorem Holding.freed (hmine : k.call = call) (hheld : k.held = insert .latch held)
    (hopen : latch ∉ held) : Holding call held (learned k (.release .latch) ()) := by
  rw [learned_free_latch hopen hheld]
  exact ⟨hmine, rfl, rfl⟩

theorem Holding.row (h : Holding call held k) (id : Uuid) (row : Option Deployment) :
    Holding call held (learned k (.act (.deploymentRow id)) row) := by
  cases row with
  | none => exact h
  | some => exact ⟨h.mine, h.held, h.clear⟩

theorem Holding.latch (h : Holding call held k) (hexempt : ¬ call.Exempt)
    (hrank : ∀ l ∈ held, l.rank < latch.rank) :
    (fleetRegime sha256 modeOf).protocol.require k (.acquire .latch) := by
  refine ⟨h.mine ▸ hexempt, ?_⟩
  rw [h.held]
  exact hrank

/-! ## Starts -/

/-- `create_deployment` checks the latch and inserts within one hold. -/
theorem follows_createDeployment {deployment : Deployment} (h : Holding call held k)
    (hexempt : ¬ call.Exempt) (hrank : ∀ l ∈ held, l.rank < latch.rank)
    (hmode : deployment.mode = modeOf deployment.id) :
    KeepsHeld sha256 modeOf call held k (createDeployment deployment) := by
  have hopen : latch ∉ held := fun hl => absurd (hrank _ hl) (Nat.lt_irrefl _)
  have hheld : insert latch k.held = insert .latch held := by rw [h.held]
  refine Follows.withLock (h.latch hexempt hrank) ?_
  refine perform_bind ⟨fun he => absurd (h.mine ▸ he) hexempt, Set.mem_insert _ _⟩
    (fun allowed _ => ?_)
  cases allowed with
  | error => exact ⟨Set.mem_insert _ _, .freed h.mine hheld hopen⟩
  | ok =>
    refine Follows.perform ⟨fun he => absurd (h.mine ▸ he) hexempt, Set.mem_insert _ _, rfl, hmode⟩
      (fun _ _ => ⟨Set.mem_insert _ _, .freed h.mine hheld hopen⟩)

/-! ## Intents -/

section

variable (h : Holding call held k)
include h

theorem follows_requireFreshKey (key : Option String) :
    KeepsHeld sha256 modeOf call held k (requireFreshKey key) := by
  cases key with
  | none => exact h
  | some =>
    refine perform_bind ⟨fun _ => rfl, trivial⟩ (fun existing _ => ?_)
    split
    · exact h
    · exact h

variable (fence : Option (Uuid × String))

theorem follows_insertLeased (hpurpose : intent.purpose ≠ .entry) :
    KeepsHeld sha256 modeOf call held k (insertLeasedIntent fence intent) := by
  refine perform_bind ⟨fun _ => rfl, fun he => absurd he hpurpose⟩ (fun inserted _ => ?_)
  cases inserted with
  | error | ok => exact h

theorem follows_insertEntry (hexempt : ¬ call.Exempt) (hrank : ∀ l ∈ held, l.rank < latch.rank)
    (fence : Option (Uuid × String)) (intent : OrderIntent) :
    KeepsHeld sha256 modeOf call held k (insertEntry fence intent) := by
  have hopen : latch ∉ held := fun hl => absurd (hrank _ hl) (Nat.lt_irrefl _)
  have hheld : insert latch k.held = insert .latch held := by rw [h.held]
  refine perform_bind ⟨fun _ => rfl, trivial⟩ (fun row hrow => ?_)
  cases row with
  | none => exact h
  | some deployment =>
    have hmode : deployment.mode = modeOf intent.deploymentId := hrow deployment rfl
    have hbooked : Holding call held { k with booked := some intent.deploymentId } :=
      ⟨h.mine, h.held, h.clear⟩
    refine Follows.withLock (hbooked.latch hexempt hrank) ?_
    refine perform_bind ⟨fun he => absurd (h.mine ▸ he) hexempt, Set.mem_insert _ _⟩
      (fun allowed _ => ?_)
    cases allowed with
    | error => exact ⟨Set.mem_insert _ _, .freed h.mine hheld hopen⟩
    | ok value =>
      refine perform_bind ⟨fun _ => rfl, fun _ => ⟨Set.mem_insert _ _, ?_, rfl⟩⟩
        (fun inserted _ => ?_)
      · exact congrArg some hmode
      · cases inserted with
        | error | ok => exact ⟨Set.mem_insert _ _, .freed h.mine hheld hopen⟩

theorem follows_insertIntent (hexempt : intent.purpose = .entry → ¬ call.Exempt)
    (hrank : ∀ l ∈ held, l.rank < latch.rank) :
    KeepsHeld sha256 modeOf call held k (insertIntent fence intent) := by
  refine Follows.bind (follows_requireFreshKey h intent.idempotencyKey) ?_
  intro k' _ hk'
  split
  next hpurpose => exact follows_insertEntry hk' (hexempt hpurpose) hrank fence intent
  next hpurpose => exact follows_insertLeased hk' fence hpurpose

end

theorem awaitedBase_some {deployment : Option Deployment} {lock : FleetLock}
    (h : awaitedBase intent deployment = some lock) :
    intent.purpose = .entry ∧ ∃ mode base, lock = .inventory mode base := by
  unfold awaitedBase at h
  split at h
  · cases h
  next deployment =>
    obtain ⟨hcondition, h⟩ := of_ite_ne_else h nofun
    split at h
    next base _ =>
      cases h
      exact ⟨hcondition.1, _, base, rfl⟩
    · cases h

/-- `save_intent` takes its base's lock first and the latch last. -/
theorem follows_saveIntent (h : Holding call held k) (fence : Option (Uuid × String))
    (hexempt : intent.purpose = .entry → ¬ call.Exempt) (hrank : ∀ l ∈ held, l.rank < latch.rank)
    (halone : intent.purpose = .entry → held = ∅) :
    KeepsHeld sha256 modeOf call held k (saveIntent fence intent) := by
  refine perform_bind ⟨fun _ => rfl, trivial⟩ (fun row _ => ?_)
  have hread := h.row intent.deploymentId row
  change Follows _ (learned k (.act (.deploymentRow intent.deploymentId)) row) _ _ _
  split
  next lock hlock =>
    obtain ⟨hpurpose, mode, base, rfl⟩ := awaitedBase_some hlock
    obtain rfl := halone hpurpose
    have hinside : Holding call {.inventory mode base}
        (learned (learned k (.act (.deploymentRow intent.deploymentId)) row)
          (.acquire (.inventory mode base)) ()) := by
      refine ⟨hread.mine, ?_, hread.clear⟩
      show insert _ (learned k (.act (.deploymentRow intent.deploymentId)) row).held = _
      rw [hread.held, insert_empty_eq]
    have hfree : ∀ k', Holding call {.inventory mode base} k' →
        inventory mode base ∈ k'.held ∧
          Holding call ∅ (learned k' (.release (.inventory mode base)) ()) := by
      intro k' hk'
      refine ⟨hk'.held ▸ rfl, hk'.mine, ?_, ?_⟩
      · show k'.held \ {.inventory mode base} = ∅
        rw [hk'.held, Set.sdiff_self]
      · show (if inventory mode base = .latch then none else k'.clear) = none
        rw [if_neg (by simp), hk'.clear]
    refine Follows.withLock ⟨hread.mine ▸ hexempt hpurpose, ?_⟩ ?_
    · rw [hread.held]
      exact fun _ hl => absurd hl (by simp)
    · refine (follows_insertIntent hinside fence hexempt ?_).mono (fun k' _ => hfree k') hfree
      rintro l rfl
      exact Nat.zero_lt_one
  · exact follows_insertIntent hread fence hexempt hrank

/-! ## Adoptions -/

section

variable (h : Holding call held k) (hexempt : ¬ call.Exempt)
include h hexempt

theorem follows_readBooks (rows : List Deployment) :
    KeepsHeld sha256 modeOf call held k (readBooks rows) := by
  induction rows with
  | nil => exact h
  | cons _ _ ih =>
    refine perform_bind ⟨fun he => absurd (h.mine ▸ he) hexempt, trivial⟩ (fun read _ => ?_)
    cases read with
    | error => exact h
    | ok => exact ih

theorem follows_targetBook (write : AdoptionWrite) :
    KeepsHeld sha256 modeOf call held k (targetBook write) := by
  unfold targetBook
  split
  next created _ =>
    refine perform_bind ⟨fun _ => rfl, trivial⟩ (fun row _ => ?_)
    split
    · exact h.row created.id row
    · exact h.row created.id row
  · refine perform_bind ⟨fun he => absurd (h.mine ▸ he) hexempt, trivial⟩ (fun read _ => ?_)
    cases read with
    | error => exact h
    | ok =>
      change Follows _ k (if _ then _ else _) _ _
      split
      · exact h
      · exact h

theorem follows_writeRecords {calls : List StoreCall} (hcalls : ∀ c ∈ calls, RecordWrite modeOf c) :
    KeepsHeld sha256 modeOf call held k (writeRecords calls) := by
  induction calls with
  | nil => exact h
  | cons c _ ih =>
    refine perform_bind ⟨fun he => absurd (h.mine ▸ he) hexempt,
      .inl (hcalls c List.mem_cons_self)⟩ (fun _ _ => ?_)
    exact ih (fun c hc => hcalls c (List.mem_cons_of_mem _ hc))

end

/-- `adopt_inventory` holds its base's lock throughout, and takes the latch only to start. -/
theorem follows_adoptInventory {write : AdoptionWrite} (h : Holding (.adopt write) ∅ k)
    (hmode : ∀ created, write.newDeployment = some created → created.mode = modeOf created.id) :
    KeepsHeld sha256 modeOf (.adopt write) ∅ k (adoptInventory write) := by
  have hexempt : ¬ (FleetCall.adopt write).Exempt := by
    rintro ⟨fence, intent, hcall, -⟩
    cases hcall
  have hinside : Holding (.adopt write) {.inventory .live write.base}
      (learned k (.acquire (.inventory .live write.base)) ()) := by
    refine ⟨h.mine, ?_, h.clear⟩
    show insert _ k.held = _
    rw [h.held, insert_empty_eq]
  have hrank : ∀ l ∈ ({.inventory .live write.base} : Set FleetLock),
      l.rank < latch.rank := by
    rintro l rfl
    exact Nat.zero_lt_one
  have hfree : ∀ k', Holding (.adopt write) {.inventory .live write.base} k' →
      inventory .live write.base ∈ k'.held ∧
        Holding (.adopt write) ∅ (learned k' (.release (.inventory .live write.base)) ()) := by
    intro k' hk'
    refine ⟨hk'.held ▸ rfl, hk'.mine, ?_, ?_⟩
    · show k'.held \ {.inventory .live write.base} = ∅
      rw [hk'.held, Set.sdiff_self]
    · show (if inventory .live write.base = .latch then none else k'.clear) = none
      rw [if_neg (by simp), hk'.clear]
  have hact : ∀ k', Holding (.adopt write) {.inventory .live write.base} k' → ¬ k'.call.Exempt :=
    fun k' hk' => hk'.mine ▸ hexempt
  refine Follows.withLock ⟨h.mine ▸ hexempt, ?_⟩ ?_
  · rw [h.held]
    exact fun _ hl => absurd hl (by simp)
  refine Follows.mono ?_ (fun k' _ => hfree k') hfree
  refine perform_bind ⟨fun he => absurd he (hact _ hinside), trivial⟩ (fun rows _ => ?_)
  refine Follows.bind (follows_readBooks hinside hexempt _) ?_
  intro k₁ _ hk₁
  refine Follows.bind (follows_targetBook hk₁ hexempt write) ?_
  intro k₂ _ hk₂
  refine perform_bind ⟨fun he => absurd he (hact _ hk₂), trivial⟩
    (fun preparation hpreparation => ?_)
  cases preparation with
  | error => exact hk₂
  | ok prepared =>
    obtain ⟨hpurpose, hwrites⟩ := hpreparation prepared rfl
    change Follows _ k₂ (requireFreshKey write.idempotencyKey >>= _) _ _
    refine Follows.bind (follows_requireFreshKey hk₂ write.idempotencyKey) ?_
    intro k₃ _ hk₃
    have hinsert : KeepsHeld sha256 modeOf (.adopt write) {.inventory .live write.base} k₃
        (insertBook write) := by
      unfold insertBook
      split
      · exact hk₃
      next created hcreated =>
        split
        · exact follows_createDeployment hk₃ hexempt hrank (hmode created hcreated)
        next hrespect =>
          refine Follows.perform ⟨fun he => absurd he (hact _ hk₃), .inr ?_⟩ (fun _ _ => hk₃)
          exact ⟨write, created, hk₃.mine, by simpa using hrespect, hcreated, rfl,
            hmode created hcreated⟩
    refine Follows.bind hinsert ?_
    intro k₄ _ hk₄
    refine Follows.bind (follows_saveIntent hk₄ none (fun _ => hexempt) hrank
      (fun hentry => absurd hentry (by simp [hpurpose]))) ?_
    intro k₅ _ hk₅
    exact follows_writeRecords hk₅ hexempt hwrites

/-! ## Crowds -/

theorem follows_program (call : FleetCall)
    (hinserts : ∀ deployment, call.inserts = some deployment →
      deployment.mode = modeOf deployment.id) :
    Follows (fleetRegime sha256 modeOf).protocol { call, held := ∅ } (call.program sha256)
      (fun k _ => (fleetRegime sha256 modeOf).Free k) (fleetRegime sha256 modeOf).Free := by
  have hstart : Holding call ∅ { call, held := ∅ } := ⟨rfl, rfl, rfl⟩
  have hfree : ∀ k, Holding call ∅ k → (fleetRegime sha256 modeOf).Free k := by
    intro k hk l hl
    have hl' : l ∈ k.held := hl
    rw [hk.held] at hl'
    cases hl'
  have hrank : ∀ l ∈ (∅ : Set FleetLock), l.rank < latch.rank :=
    fun l hl => absurd hl (by simp)
  -- reading or setting the latch holds nothing else
  have hlatched : ∀ op : FleetOp, (∀ fence intent, call ≠ .saveIntent fence intent) →
      (∀ k, latch ∈ k.held → k.call = call → Required sha256 modeOf k (.act op)) →
      Follows (fleetRegime sha256 modeOf).protocol { call, held := ∅ } (latched op)
        (fun k _ => (fleetRegime sha256 modeOf).Free k) (fleetRegime sha256 modeOf).Free := by
    intro op hcall hrequire
    have hexempt : ¬ call.Exempt := fun ⟨fence, intent, he, _⟩ => hcall fence intent he
    exact follows_latched hexempt hrank (hrequire _ (Set.mem_insert _ _) rfl)
      (fun answer _ l hl => absurd hl (Set.notMem_empty l))
  cases call with
  | execute request audited =>
    exact Follows.bind (follows_executeFleet request audited) (fun k _ hk => hk)
  | readInhibition =>
    refine Follows.bind (hlatched .snapshot (by simp) (fun k hk hcall => ⟨?_, hk⟩))
      (fun k _ hk => hk)
    rintro ⟨fence, intent, he, -⟩
    cases (hcall.symm.trans he)
  | inhibit modes now =>
    refine Follows.bind (hlatched (.setModes modes true now) (by simp)
      (fun k hk hcall => ⟨?_, hk⟩)) (fun k _ hk => hk)
    rintro ⟨fence, intent, he, -⟩
    cases (hcall.symm.trans he)
  | release modes now =>
    refine Follows.bind (hlatched (.setModes modes false now) (by simp)
      (fun k hk hcall => ⟨?_, hk⟩)) (fun k _ hk => hk)
    rintro ⟨fence, intent, he, -⟩
    cases (hcall.symm.trans he)
  | createDeployment deployment =>
    have hexempt : ¬ (FleetCall.createDeployment deployment).Exempt := by
      rintro ⟨fence, intent, he, -⟩
      cases he
    exact (follows_createDeployment hstart hexempt hrank (hinserts deployment rfl)).mono
      (fun k _ => hfree k) hfree
  | saveIntent fence =>
    refine (follows_saveIntent hstart fence ?_ hrank (fun _ => rfl)).mono (fun k _ => hfree k) hfree
    rintro hentry ⟨fence', intent', hcall, hpurpose⟩
    obtain ⟨-, rfl⟩ := FleetCall.saveIntent.inj hcall
    exact hpurpose hentry
  | adopt =>
    exact (follows_adoptInventory hstart hinserts).mono (fun k _ => hfree k) hfree

structure FleetInitial (modeOf : Uuid → DeploymentMode)
    (crowd : Crowd FleetState FleetCall FleetLock Failure FleetOp FleetOp.Answer) : Prop where
  tasks : crowd.tasks = []
  owner : ∀ lock, crowd.owner lock = none
  rows : RowsConsistent modeOf crowd.state.store
  operations : crowd.state.operations = Dict.empty
  commands : crowd.state.recordedCommands = []
  changes : crowd.state.latchChanges = []

/-- The crowds any interleaving of the calls can reach. -/
abbrev FleetReachable (sha256 : String → String) (modeOf : Uuid → DeploymentMode) :
    Crowd FleetState FleetCall FleetLock Failure FleetOp FleetOp.Answer → Prop :=
  Reachable (FleetInitial modeOf) (fleetStep sha256 modeOf)

/-- New stores with no call yet. -/
theorem FleetReachable.start (sha256 : String → String) (modeOf : Uuid → DeploymentMode) :
    FleetReachable sha256 modeOf ⟨.start, fun _ => none, []⟩ :=
  Reachable.start ⟨rfl, fun _ => rfl, ⟨fun _ _ h => absurd h (by simp [FleetState.start, MemoryStore.empty]),
    fun _ _ h => absurd h (by simp [FleetState.start, MemoryStore.empty])⟩, rfl, rfl, rfl⟩

variable {crowd crowd' : Crowd FleetState FleetCall FleetLock Failure FleetOp FleetOp.Answer}
  {event : CrowdEvent FleetCall FleetLock FleetOp StoreCall}

theorem kept_step (hkept : (fleetRegime sha256 modeOf).Kept crowd)
    (hstep : fleetStep sha256 modeOf crowd event crowd') :
    (fleetRegime sha256 modeOf).Kept crowd' := by
  cases hstep with
  | start hwelcome =>
    refine hkept.start (fun l hl => absurd hl (by simp [fleetRegime])) ?_
      (follows_program _ hwelcome)
    exact ⟨rfl, fun _ => rfl, hwelcome, fun _ h => absurd h (by simp), fun _ h => absurd h (by simp),
      fun _ h => absurd h (by simp)⟩
  | acquire hat hfree => exact hkept.acquire fleetRegime_sound hat hfree
  | release hat => exact hkept.release fleetRegime_sound hat
  | act hat hexec => exact hkept.act fleetRegime_sound hat hexec
  | abandon hat =>
    refine hkept.abandon hat (fun k s hinv => ?_)
    refine ⟨{ call := k.call, held := ∅ }, fun l hl => absurd hl (by simp [fleetRegime]), ?_⟩
    exact ⟨hinv.mine, fun _ => rfl, hinv.inserts, fun _ h => absurd h (by simp), fun _ h => absurd h (by simp),
      fun _ h => absurd h (by simp)⟩
  | other henv => exact hkept.other fleetRegime_sound henv

theorem fleet_kept (h : FleetReachable sha256 modeOf crowd) :
    (fleetRegime sha256 modeOf).Kept crowd := by
  refine Reachable.invariant (fleetRegime sha256 modeOf).Kept ?_
    (fun _ _ _ hkept hstep => kept_step hkept hstep) h
  intro crowd hinit
  refine ⟨⟨hinit.rows, ?_⟩, ?_, ?_⟩
  · refine ⟨?_, ?_, ?_, ?_, ?_, ?_⟩
    · rw [hinit.operations]
      exact fun _ _ h => absurd h (by simp)
    · rw [hinit.operations]
      exact fun _ _ h => absurd h (by simp)
    · rw [hinit.commands]
      exact List.nodup_nil
    · rw [hinit.commands]
      exact fun _ h => absurd h (by simp)
    · rw [hinit.changes]
      exact List.nodup_nil
    · rw [hinit.changes]
      exact fun _ h => absurd h (by simp)
  · intro lock i howner
    rw [hinit.owner] at howner
    cases howner
  · intro i task htask
    rw [hinit.tasks] at htask
    cases htask

end Thytrader.FleetControl
