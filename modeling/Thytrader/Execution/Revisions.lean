import Thytrader.Execution.Stores
import Thytrader.Lib.Register
import Thytrader.Trading.FundingCash

/-!
# Optimistic revisions lose no update

Any number of clients share one in-memory store. Each awaited store call is one atomic step, and any
other client may come between two. A `Desk` is the shared store, the live `RevisionFencedStore`
wrappers, the scoped saves suspended between their read and their write, and — as history — what
every client has seen of each row and which deltas were applied.

Per deployment the desk is a versioned register (`Desk.register`): reads are `observe`, every
accepted write is `write` with the cash delta it applies. The register invariant then gives
`desk_loses_no_update`.

What the callers promise (`Event.Promised`): a saved row is one they were handed, with its `id`,
`cash` and `revision` (no caller edits cash outside the fill ledger); an explicit
`expected_revision` is that row's revision; a plain save through a fenced wrapper is of the
wrapper's own book.
-/

namespace Thytrader.Execution

open Trading Lib MemoryStore RevisionFence Option

/-! ## The desk -/

/-- A scoped save between its read and its write. -/
structure ScopedSave where
  inner : Inner
  productId : String
  deployment : Deployment
  expectedRevision : Option Int
  current : DeploymentSnapshot

/-- One row's history: accepted writes, applied deltas, views handed out. -/
structure History where
  writes : Nat := 0
  ledger : Decimal := 0
  views : List (View Decimal) := []

/-- The shared store with its wrappers, suspended scoped saves and row histories. -/
structure Desk where
  store : MemoryStore
  fences : Nat → Option RevisionFence
  pending : List ScopedSave
  history : Uuid → History

/-- One atomic step of some client. -/
inductive Event where
  | bind (index : Nat) (fence : RevisionFence)
  | read (deploymentId : Uuid)
  | save (index : Nat) (deployment : Deployment) (expectedRevision : Option Int)
      (instrumentRuntime : Option InstrumentRuntime)
  | scopedRead (inner : Inner) (productId : String) (deployment : Deployment)
      (expectedRevision : Option Int)
  | scopedWrite (index : Nat)
  | breakerPause (inner : Inner) (deploymentId : Uuid) (expectedRevision : Int) (detail : String)
      (dailyLossLatched : Bool) (now : Time)
  | fill (inner : Inner) (call : FillCall)
  | funding (inner : Inner) (deploymentId : Uuid) (flows : List FundingCashFlow)
      (expectedRevision : Option Int)
  | lease (deploymentId : Uuid) (holder : String) (now : Time) (ttl : Duration)

namespace Desk

/-- Record the next store: a changed row is one accepted write with its delta. -/
def commit (desk : Desk) (next : MemoryStore) (delta : Uuid → Decimal) : Desk :=
  { desk with
    store := next
    history := fun id =>
      if next.deployments.get? id = desk.store.deployments.get? id then desk.history id
      else
        { desk.history id with
          writes := (desk.history id).writes + 1
          ledger := (desk.history id).ledger + delta id } }

/-- Refresh one wrapper. -/
def setFence (desk : Desk) (index : Nat) (fence : RevisionFence) : Desk :=
  { desk with fences := fun i => if i = index then some fence else desk.fences i }

/-- `get_deployment` or any returned row: the client sees the stored row. -/
def observe (desk : Desk) (deploymentId : Uuid) : Desk :=
  match desk.store.deployments.get? deploymentId with
  | none => desk
  | some row =>
    { desk with
      history := fun id =>
        if id = deploymentId then
          { desk.history id with
            views := ⟨row.revision, row.cash, (desk.history id).writes⟩ :: (desk.history id).views }
        else desk.history id }

def callVia (desk : Desk) (inner : Inner) (raw : MemoryStore → MemoryStore)
    (fenced : RevisionFence → MemoryStore → RevisionFence × MemoryStore)
    (delta : MemoryStore → Uuid → Decimal) : Desk :=
  match inner with
  | .raw => desk.commit (raw desk.store) (delta (raw desk.store))
  | .fenced index =>
    match desk.fences index with
    | none => desk
    | some fence =>
      let called := fenced fence desk.store
      (desk.setFence index called.1).commit called.2 (delta called.2)

/-- `save_deployment` on the inner store. -/
def saveVia (desk : Desk) (inner : Inner) (deployment : Deployment) (expectedRevision : Option Int)
    (instrumentRuntime : Option InstrumentRuntime) : Desk :=
  desk.callVia inner
    (fun store => (store.saveDeployment deployment expectedRevision instrumentRuntime).2)
    (fun fence store =>
      (fence.saveDeployment store deployment expectedRevision instrumentRuntime).2)
    (fun _ _ => 0)

/-- The cash a funding call moves into a deployment: the unseen hours it records. -/
def fundingDelta (store : MemoryStore) (deploymentId : Uuid) (flows : List FundingCashFlow)
    (id : Uuid) : Decimal :=
  if deploymentId = id then ((store.freshFunding flows).map (·.amount)).sum else 0

/-- The cash a fill call moves: its stored evidence's delta. -/
def fillDelta (next : MemoryStore) (call : FillCall) (id : Uuid) : Decimal :=
  if call.deploymentId = id then bookedDelta next call else 0

def apply (desk : Desk) : Event → Desk
  | .bind index fence => desk.setFence index fence
  | .read deploymentId => desk.observe deploymentId
  | .save index deployment expectedRevision instrumentRuntime =>
    desk.saveVia (.fenced index) deployment expectedRevision instrumentRuntime
  | .scopedRead inner productId deployment expectedRevision =>
    match desk.store.getDeployment deployment.id with
    | .error _ => desk
    | .ok current =>
      { desk with
        pending := desk.pending ++ [⟨inner, productId, deployment, expectedRevision, current⟩] }
  | .scopedWrite index =>
    match desk.pending[index]? with
    | none => desk
    | some waiting =>
      { desk.saveVia waiting.inner
          (scopedParent waiting.current waiting.deployment waiting.productId)
          (some (scopedExpected waiting.deployment waiting.expectedRevision))
          (some (runtimeFromDeployment waiting.deployment waiting.productId)) with
        pending := desk.pending.eraseIdx index }
  | .breakerPause inner deploymentId expectedRevision detail dailyLossLatched now =>
    desk.callVia inner
      (fun store =>
        (store.saveBreakerPause deploymentId expectedRevision detail dailyLossLatched now).2)
      (fun fence store =>
        (fence.saveBreakerPause store deploymentId expectedRevision detail dailyLossLatched now).2)
      (fun _ _ => 0)
  | .fill inner call =>
    desk.callVia inner (fun store => (call.run store).2)
      (fun fence store => (fence.applyFill store call).2) (fun next => fillDelta next call)
  | .funding inner deploymentId flows expectedRevision =>
    desk.callVia inner
      (fun store => (store.applyFundingTransaction deploymentId flows expectedRevision).2)
      (fun fence store => (fence.applyFunding store deploymentId flows expectedRevision).2)
      (fun _ => fundingDelta desk.store deploymentId flows)
  | .lease deploymentId holder now ttl =>
    desk.commit (desk.store.acquireWorkerLease deploymentId holder now ttl).2 (fun _ => 0)

/-- The row is one the client was handed: a recorded view's revision and cash. -/
def Basis (desk : Desk) (deployment : Deployment) : Prop :=
  ∃ view ∈ (desk.history deployment.id).views,
    deployment.revision = view.revision ∧ deployment.cash = view.value

def savedRow (desk : Desk) : Event → Option Deployment
  | .save _ deployment _ _ => some deployment
  | .scopedWrite index => (desk.pending[index]?).map (·.deployment)
  | _ => none

end Desk

/-- What the callers of the store guarantee about an event. -/
def Event.Promised (identity : Uuid → Uuid × String) (desk : Desk) : Event → Prop
  | .save index deployment expectedRevision _ =>
    desk.Basis deployment ∧
      (expectedRevision = some deployment.revision ∨
        (expectedRevision = none ∧
          ∀ fence, desk.fences index = some fence → fence.deploymentId = deployment.id))
  | .scopedRead _ _ deployment expectedRevision =>
    desk.Basis deployment ∧
      (expectedRevision = none ∨ expectedRevision = some deployment.revision)
  | .fill _ call => call.Promised identity
  | _ => True

/-- One step of the interleaving. -/
def deskStep (identity : Uuid → Uuid × String) (desk : Desk) (event : Event) (next : Desk) : Prop :=
  event.Promised identity desk ∧ next = desk.apply event

/-- A fresh desk over a reachable store: no wrapper, no suspended save, no view. -/
def Desk.initial (store : MemoryStore) : Desk :=
  { store, fences := fun _ => none, pending := [], history := fun _ => {} }

/-- The desks any interleaving reaches from a store. -/
def DeskReachable (identity : Uuid → Uuid × String) (store : MemoryStore) (desk : Desk) : Prop :=
  Reachable (· = Desk.initial store) (deskStep identity) desk

/-! ## Each call writes at most one row -/

/-- At most one row changes: one revision on, with `delta` applied to its cash. -/
def RowSource (before after : Dict Uuid Deployment) (delta : Uuid → Decimal) : Prop :=
  after = before ∨ ∃ id current row, before.get? id = some current ∧
    row.revision = current.revision + 1 ∧ row.cash = current.cash + delta id ∧
    after = before.set id row

variable {delta : Uuid → Decimal}

/-- A row a call leaves in place is the old row or one revision on. -/
theorem RowSource.revision {before after : Dict Uuid Deployment} (h : RowSource before after delta)
    {id : Uuid} {row : Deployment} (hrow : before.get? id = some row) :
    ∃ row', after.get? id = some row' ∧ (row' = row ∨ row'.revision = row.revision + 1) := by
  rcases h with rfl | ⟨written, current, next, hcurrent, hrevision, _, rfl⟩
  · exact ⟨row, hrow, .inl rfl⟩
  · by_cases he : id = written
    · subst he
      rw [hrow] at hcurrent
      rw [some.inj hcurrent]
      exact ⟨next, Dict.get?_set_self .., .inr hrevision⟩
    · exact ⟨row, by rw [Dict.get?_set_ne he]; exact hrow, .inl rfl⟩

section

variable {identity : Uuid → Uuid × String} {store : MemoryStore} {deployment : Deployment}

theorem saveDeployment_rowWrite {instrumentRuntime : Option InstrumentRuntime}
    (hcash : ∀ current, store.deployments.get? deployment.id = some current → current.revision =
      deployment.revision → deployment.cash = current.cash) :
    RowSource store.deployments
      (store.saveDeployment deployment (some deployment.revision) instrumentRuntime).2.deployments
      (fun _ => 0) := by
  rcases saveDeployment_cases store deployment (some deployment.revision)
    instrumentRuntime with ⟨failure, hrun⟩ | ⟨current, next, hcurrent, hexpected, hrun, hrows, _⟩
  · rw [hrun]
    exact .inl rfl
  · have hrevision : current.revision = deployment.revision := by
      simpa [eq_comm] using hexpected
    rw [hrun]
    refine .inr ⟨deployment.id, current, _, hcurrent, rfl, ?_, hrows⟩
    rw [add_zero]
    exact hcash current hcurrent hrevision

section

variable (store : MemoryStore) (deploymentId : Uuid)

theorem saveBreakerPause_rowWrite (expectedRevision : Int) (detail : String)
    (dailyLossLatched : Bool) (now : Time) :
    RowSource store.deployments
      (store.saveBreakerPause deploymentId expectedRevision detail dailyLossLatched
        now).2.deployments (fun _ => 0) := by
  rcases saveBreakerPause_cases store deploymentId expectedRevision detail
    dailyLossLatched now with ⟨failure, hrun⟩ | ⟨current, hcurrent, _, hrun⟩
  · rw [hrun]
    exact .inl rfl
  · rw [hrun]
    exact .inr ⟨deploymentId, current,
      breakerPaused current detail dailyLossLatched now, hcurrent, rfl,
      (add_zero _).symm, rfl⟩

theorem acquireWorkerLease_rowWrite (holder : String) (now : Time) (ttl : Duration) :
    RowSource store.deployments
      (store.acquireWorkerLease deploymentId holder now ttl).2.deployments (fun _ => 0) := by
  rcases acquireWorkerLease_cases store deploymentId holder now ttl with
    ⟨_, hrun⟩ | ⟨current, hcurrent, ⟨_, hrun⟩ | ⟨_, hrun⟩⟩
  · rw [hrun]
    exact .inl rfl
  · rw [hrun]
    exact .inl rfl
  · rw [hrun]
    exact .inr ⟨deploymentId, current, leasedRow current holder now ttl, hcurrent,
      rfl, (add_zero _).symm, rfl⟩

theorem applyFunding_rowWrite (flows : List FundingCashFlow) (expectedRevision : Option Int) :
    RowSource store.deployments
      (store.applyFundingTransaction deploymentId flows expectedRevision).2.deployments
      (Desk.fundingDelta store deploymentId flows) := by
  rcases applyFundingTransaction_cases store deploymentId flows expectedRevision with
    hrun | ⟨current, hcurrent, _, hrun⟩
  · rw [hrun]
    exact .inl rfl
  · rw [hrun]
    refine .inr ⟨deploymentId, current, _, hcurrent, rfl, ?_, rfl⟩
    rw [Desk.fundingDelta, if_pos rfl]
    rfl

end

theorem applyFill_rowWrite {call : FillCall} (hinv : StoreInv identity store)
    (hcall : call.Promised identity) :
    RowSource store.deployments (call.run store).2.deployments
      (Desk.fillDelta (call.run store).2 call) := by
  rcases applyFill_row call hinv.deploymentIds with ⟨_, hrows⟩ |
    ⟨current, row, happlies, hcurrent, _, hrevision, _, hrows⟩
  · exact .inl hrows
  · refine .inr ⟨call.deploymentId, current, row, hcurrent, hrevision, ?_, hrows⟩
    obtain ⟨evidenceRow, hevidence, _, hcash⟩ := (applyFill_effect hinv hcall).booked happlies
    have hbooked : bookedDelta (call.run store).2 call =
        cashDelta evidenceRow call.order.side := by
      unfold bookedDelta
      rw [hevidence]
    have hown := hcash call.deploymentId
    unfold cashOf at hown
    rw [hrows, Dict.get?_set_self, hcurrent, if_pos rfl] at hown
    rw [Desk.fillDelta, if_pos rfl, hbooked]
    exact some.inj hown

end

/-! ## The desk invariant -/

def Desk.register (desk : Desk) (id : Uuid) (row : Deployment) : Register Decimal :=
  { revision := row.revision
    value := row.cash
    writes := (desk.history id).writes
    ledger := (desk.history id).ledger
    views := (desk.history id).views }

/-- Every row is a register in good order, and every suspended save is based on a view. -/
structure DeskInv (identity : Uuid → Uuid × String) (base : Uuid → Decimal) (desk : Desk) :
    Prop where
  store : StoreInv identity desk.store
  rows : ∀ id row, desk.store.deployments.get? id = some row → (desk.register id row).Inv (base id)
  views : ∀ id, desk.store.deployments.get? id = none → (desk.history id).views = []
  pending : ∀ waiting ∈ desk.pending, desk.Basis waiting.deployment ∧
    waiting.current.deployment.id = waiting.deployment.id ∧
    (waiting.expectedRevision = none ∨
      waiting.expectedRevision = some waiting.deployment.revision)

section

variable {identity : Uuid → Uuid × String} {base : Uuid → Decimal} {desk : Desk}

section

variable (hinv : DeskInv identity base desk)
include hinv

/-- A row handed out that is still current has the stored cash, and no write was accepted since. -/
theorem DeskInv.basis_current {deployment current : Deployment} (hbasis : desk.Basis deployment)
    (hcurrent : desk.store.deployments.get? deployment.id = some current)
    (hrevision : current.revision = deployment.revision) : deployment.cash = current.cash := by
  obtain ⟨view, hview, hviewRevision, hviewCash⟩ := hbasis
  have hregister := hinv.rows _ _ hcurrent
  have hvalue := hregister.view_current hview (by
    rw [← hviewRevision, ← hrevision]
    rfl)
  rw [hviewCash]
  exact hvalue.1

theorem DeskInv.commit {next : MemoryStore} (hnext : StoreInv identity next)
    (hwrite : RowSource desk.store.deployments next.deployments delta) :
    DeskInv identity base (desk.commit next delta) := by
  have hviews : ∀ id, ((desk.commit next delta).history id).views = (desk.history id).views := by
    intro id
    show (ite _ _ _ : History).views = _
    split <;> rfl
  refine ⟨hnext, ?_, ?_, ?_⟩
  · intro id row hrow
    have hrow : next.deployments.get? id = some row := hrow
    unfold Desk.register Desk.commit
    dsimp only
    split
    next hkept => exact hinv.rows id row (hkept ▸ hrow)
    next hchanged =>
      -- the written row: one accepted write of the register
      obtain hsame | ⟨written, current, newRow, hcurrent, hrevision, hcash, hrows⟩ := hwrite
      · exact absurd (by rw [hsame]) hchanged
      rw [hrows] at hrow hchanged
      by_cases he : id = written
      · subst he
        rw [Dict.get?_set_self] at hrow
        cases hrow
        rw [hrevision, hcash]
        exact (hinv.rows id current hcurrent).write (delta id)
      · exact absurd (Dict.get?_set_ne he _) hchanged
  · intro id hnone
    rw [hviews]
    apply hinv.views
    cases hbefore : desk.store.deployments.get? id with
    | none => rfl
    | some =>
      obtain ⟨row', hrow', _⟩ := hwrite.revision hbefore
      cases hrow'.symm.trans hnone
  · intro waiting hwaiting
    obtain ⟨⟨view, hview, hbasis⟩, hrest⟩ := hinv.pending waiting hwaiting
    exact ⟨⟨view, by rw [hviews]; exact hview, hbasis⟩, hrest⟩

theorem DeskInv.setFence (index : Nat) (fence : RevisionFence) :
    DeskInv identity base (desk.setFence index fence) :=
  ⟨hinv.store, hinv.rows, hinv.views, hinv.pending⟩

end

theorem callVia_cases (desk : Desk) (inner : Inner) (raw : MemoryStore → MemoryStore)
    (fenced : RevisionFence → MemoryStore → RevisionFence × MemoryStore)
    (delta : MemoryStore → Uuid → Decimal) :
    ∃ fences next, desk.callVia inner raw fenced delta =
        { desk with fences }.commit next (delta next) ∧
      (next = desk.store ∨ (inner = .raw ∧ next = raw desk.store) ∨
        ∃ index fence, inner = .fenced index ∧ desk.fences index = some fence ∧
          next = (fenced fence desk.store).2) := by
  unfold Desk.callVia
  cases inner with
  | raw => exact ⟨desk.fences, raw desk.store, rfl, .inr (.inl ⟨rfl, rfl⟩)⟩
  | fenced index =>
    dsimp only
    split
    next hnone =>
      refine ⟨desk.fences, desk.store, ?_, .inl rfl⟩
      unfold Desk.commit
      simp only [if_true]
    next fence hfence =>
      exact ⟨_, _, rfl, .inr (.inr ⟨index, fence, rfl, hfence, rfl⟩)⟩

section

variable (hinv : DeskInv identity base desk)
include hinv

theorem saveVia_effect (inner : Inner) {expectedRevision : Option Int}
    (instrumentRuntime : Option InstrumentRuntime) (hbasis : desk.Basis deployment)
    (hfence : expectedRevision = some deployment.revision ∨ (expectedRevision = none ∧ ∃ index,
      inner = .fenced index ∧ ∀ fence, desk.fences index = some fence → fence.deploymentId =
      deployment.id)) :
    ∃ fences next, desk.saveVia inner deployment expectedRevision instrumentRuntime =
        { desk with fences }.commit next (fun _ => 0) ∧
      StoreInv identity next ∧
      RowSource desk.store.deployments next.deployments (fun _ => 0) ∧
      (next.deployments ≠ desk.store.deployments →
        ∃ current, desk.store.deployments.get? deployment.id = some current ∧
          current.revision = deployment.revision) := by
  obtain ⟨fences, next, hrun, hnext⟩ := callVia_cases desk inner
    (fun store => (store.saveDeployment deployment expectedRevision instrumentRuntime).2)
    (fun fence store =>
      (fence.saveDeployment store deployment expectedRevision instrumentRuntime).2)
    (fun _ _ => 0)
  refine ⟨fences, next, hrun, ?_⟩
  -- whichever wrapper is used, the inner save is fenced by the row's own revision
  have hinner : next = desk.store ∨ next = (desk.store.saveDeployment deployment
      (some deployment.revision) instrumentRuntime).2 := by
    rcases hnext with hsame | ⟨hraw, hcalled⟩ | ⟨index, fence, hindex, hbound, hcalled⟩
    · exact .inl hsame
    · rcases hfence with rfl | ⟨_, index, hindex, _⟩
      · exact .inr hcalled
      · rw [hraw] at hindex
        cases hindex
    · rw [hcalled]
      by_cases hown : deployment.id = fence.deploymentId
      · exact RevisionFence.saveDeployment_own hown
      · rcases hfence with rfl | ⟨_, other, hother, howned⟩
        · right
          simp only [RevisionFence.saveDeployment, if_pos hown]
        · rw [hindex] at hother
          injection hother with hsame
          rw [← hsame] at howned
          exact absurd (howned fence hbound).symm hown
  rcases hinner with hsame | hsaved
  · rw [hsame]
    exact ⟨hinv.store, .inl rfl, fun h => absurd rfl h⟩
  · rw [hsaved]
    refine ⟨?_, ?_, ?_⟩
    · have hcall : StoreCall.Promised identity
          (.saveDeployment deployment (some deployment.revision) instrumentRuntime) := trivial
      exact StoreCall.run_inv hinv.store hcall
    · exact saveDeployment_rowWrite (fun current hcurrent hrevision =>
        hinv.basis_current hbasis hcurrent hrevision)
    · intro hchanged
      rcases saveDeployment_cases desk.store deployment (some deployment.revision)
        instrumentRuntime with ⟨failure, hfailed⟩ | ⟨current, next, hcurrent, hexpected, _⟩
      · rw [hfailed] at hchanged
        exact absurd rfl hchanged
      · refine ⟨current, hcurrent, ?_⟩
        rcases hexpected with h | h
        · cases h
        · exact (some.inj h).symm

theorem DeskInv.withFences (fences : Nat → Option RevisionFence) :
    DeskInv identity base { desk with fences } :=
  ⟨hinv.store, hinv.rows, hinv.views, hinv.pending⟩

theorem DeskInv.withPending {pending : List ScopedSave}
    (hpending : ∀ waiting ∈ pending, desk.Basis waiting.deployment ∧ waiting.current.deployment.id
      = waiting.deployment.id ∧ (waiting.expectedRevision = none ∨ waiting.expectedRevision = some
      waiting.deployment.revision)) : DeskInv identity base { desk with pending } :=
  ⟨hinv.store, hinv.rows, hinv.views, hpending⟩

/-- A client seeing the stored row is an `observe` of its register. -/
theorem DeskInv.observe (deploymentId : Uuid) :
    DeskInv identity base (desk.observe deploymentId) := by
  unfold Desk.observe
  split
  · exact hinv
  next seen hseen =>
    refine ⟨hinv.store, ?_, ?_, ?_⟩
    · intro id row hrow
      unfold Desk.register
      dsimp only
      split
      next he =>
        subst he
        cases hseen.symm.trans hrow
        exact (hinv.rows id seen hrow).observe
      · exact hinv.rows id row hrow
    · intro id hnone
      dsimp only
      split
      next he =>
        subst he
        cases hseen.symm.trans hnone
      · exact hinv.views id hnone
    · intro waiting hwaiting
      obtain ⟨⟨view, hview, hbasis⟩, hrest⟩ := hinv.pending waiting hwaiting
      refine ⟨⟨view, ?_, hbasis⟩, hrest⟩
      dsimp only
      split
      · exact List.mem_cons_of_mem _ hview
      · exact hview

/-- The parent of a suspended scoped save is based on the caller's own row. -/
theorem DeskInv.scopedParent_basis {waiting : ScopedSave} (hwaiting : waiting ∈ desk.pending) :
    let parent := scopedParent waiting.current waiting.deployment waiting.productId
    parent.id = waiting.deployment.id ∧ desk.Basis parent ∧
      some (scopedExpected waiting.deployment waiting.expectedRevision) = some parent.revision := by
  obtain ⟨⟨view, hview, hrevision, hcash⟩, hid, hexpected⟩ := hinv.pending waiting hwaiting
  obtain ⟨hparentId, hparentCash, hparentRevision, _⟩ := scopedParent_fields waiting.current
    waiting.deployment waiting.productId
  refine ⟨hparentId.trans hid, ⟨view, ?_, by rw [hparentRevision, hrevision],
    by rw [hparentCash, hcash]⟩, ?_⟩
  · rw [hparentId, hid]
    exact hview
  · rw [hparentRevision, scopedExpected]
    rcases hexpected with h | h
    · rw [h]
      rfl
    · rw [h]
      rfl

end

/-- What one step guarantees: the invariant, at most one row written, and a save
accepted only on the stored revision. -/
structure StepEffect (identity : Uuid → Uuid × String) (base : Uuid → Decimal) (desk : Desk)
    (event : Event) : Prop where
  inv : DeskInv identity base (desk.apply event)
  write : ∃ delta, RowSource desk.store.deployments (desk.apply event).store.deployments delta
  fenced : ∀ deployment, desk.savedRow event = some deployment →
    (desk.apply event).store.deployments ≠ desk.store.deployments →
    desk.Basis deployment ∧ ∃ current, desk.store.deployments.get? deployment.id = some current ∧
      current.revision = deployment.revision

variable {event : Event}

theorem StepEffect.unwritten {d : Desk} (happly : desk.apply event = d)
    (hinv : DeskInv identity base d) (hstore : d.store = desk.store) :
    StepEffect identity base desk event := by
  subst happly
  exact ⟨hinv, ⟨fun _ => 0, .inl (by rw [hstore])⟩,
    fun _ _ hchanged => absurd (by rw [hstore]) hchanged⟩

/-- A wrapped call that is no save and writes at most one row. -/
theorem callVia_effect (hinv : DeskInv identity base desk) {inner : Inner}
    {raw : MemoryStore → MemoryStore}
    {fenced : RevisionFence → MemoryStore → RevisionFence × MemoryStore}
    {delta : MemoryStore → Uuid → Decimal}
    (happly : desk.apply event = desk.callVia inner raw fenced delta)
    (hsaved : desk.savedRow event = none)
    (hfenced : ∀ fence, StoreInv identity (fenced fence desk.store).2 ∧ RowSource
      desk.store.deployments (fenced fence desk.store).2.deployments
      (delta (fenced fence desk.store).2))
    (hraw : StoreInv identity (raw desk.store) ∧ RowSource desk.store.deployments
      (raw desk.store).deployments (delta (raw desk.store))) :
    StepEffect identity base desk event := by
  obtain ⟨fences, next, hrun, hnext⟩ := callVia_cases desk inner raw fenced delta
  have hcalled : StoreInv identity next ∧ RowSource desk.store.deployments next.deployments
      (delta next) := by
    rcases hnext with rfl | ⟨_, rfl⟩ | ⟨index, fence, _, _, rfl⟩
    · exact ⟨hinv.store, .inl rfl⟩
    · exact hraw
    · exact hfenced fence
  refine ⟨?_, ⟨delta next, ?_⟩, ?_⟩
  · rw [happly, hrun]
    exact (hinv.withFences fences).commit hcalled.1 hcalled.2
  · rw [happly, hrun]
    exact hcalled.2
  · intro deployment h
    rw [hsaved] at h
    cases h

theorem scopedWrite_effect (hinv : DeskInv identity base desk) (index : Nat) :
    StepEffect identity base desk (.scopedWrite index) := by
  cases hwaiting : desk.pending[index]? with
  | none =>
    have happly : desk.apply (.scopedWrite index) = desk := by
      simp only [Desk.apply, hwaiting]
    exact .unwritten happly hinv rfl
  | some waiting =>
    have hmem : waiting ∈ desk.pending := List.mem_of_getElem? hwaiting
    obtain ⟨hid, hbasis, hexpected⟩ := hinv.scopedParent_basis hmem
    obtain ⟨fences, next, hrun, hnext, hwrite, haccepted⟩ := saveVia_effect hinv waiting.inner
      (some (runtimeFromDeployment waiting.deployment waiting.productId)) hbasis (.inl hexpected)
    have happly : desk.apply (.scopedWrite index) =
        { ({ desk with fences } : Desk).commit next (fun _ => 0) with
          pending := desk.pending.eraseIdx index } := by
      simp only [Desk.apply, hwaiting, hrun]
    have hcommit := (hinv.withFences fences).commit hnext hwrite
    refine ⟨?_, ⟨fun _ => 0, ?_⟩, ?_⟩
    · rw [happly]
      apply hcommit.withPending
      intro other hother
      exact hcommit.pending other (List.mem_of_mem_eraseIdx hother)
    · rw [happly]
      exact hwrite
    · intro saved hsaved hchanged
      simp only [Desk.savedRow, hwaiting, map_some, some.injEq] at hsaved
      rw [happly] at hchanged
      obtain ⟨current, hcurrent, hrevision⟩ := haccepted hchanged
      rw [← hsaved]
      rw [hid] at hcurrent
      refine ⟨(hinv.pending waiting hmem).1, current, hcurrent, ?_⟩
      rw [hrevision]
      exact (scopedParent_fields _ _ _).2.2.1

theorem apply_effect (hinv : DeskInv identity base desk)
    (hpromised : event.Promised identity desk) : StepEffect identity base desk event := by
  cases event with
  | bind index fence =>
    exact .unwritten rfl (hinv.setFence index fence) rfl
  | read deploymentId =>
    have hsame : (desk.observe deploymentId).store = desk.store := by
      unfold Desk.observe
      split <;> rfl
    exact .unwritten rfl (hinv.observe deploymentId) hsame
  | save index deployment expectedRevision instrumentRuntime =>
    obtain ⟨hbasis, hfence⟩ := hpromised
    obtain ⟨fences, next, hrun, hnext, hwrite, haccepted⟩ := saveVia_effect hinv (.fenced index)
      instrumentRuntime hbasis (hfence.imp id (fun h => ⟨h.1, index, rfl, h.2⟩))
    have happly : desk.apply (.save index deployment expectedRevision instrumentRuntime) =
        { desk with fences }.commit next (fun _ => 0) := hrun
    refine ⟨happly ▸ (hinv.withFences fences).commit hnext hwrite, ⟨fun _ => 0, ?_⟩, ?_⟩
    · rw [happly]
      exact hwrite
    · rintro _ ⟨rfl⟩ hchanged
      rw [happly] at hchanged
      exact ⟨hbasis, haccepted hchanged⟩
  | scopedRead inner productId deployment expectedRevision =>
    obtain ⟨hbasis, hexpected⟩ := hpromised
    cases hread : desk.store.getDeployment deployment.id with
    | error =>
      have happly : desk.apply (.scopedRead inner productId deployment expectedRevision) =
          desk := by
        simp only [Desk.apply, hread]
      exact .unwritten happly hinv rfl
    | ok current =>
      have happly : desk.apply (.scopedRead inner productId deployment expectedRevision) =
          { desk with
            pending := desk.pending ++
              [⟨inner, productId, deployment, expectedRevision, current⟩] } := by
        simp only [Desk.apply, hread]
      refine .unwritten happly (hinv.withPending fun waiting hwaiting => ?_) rfl
      rcases List.mem_append.mp hwaiting with hold | hnew
      · exact hinv.pending waiting hold
      · rw [List.mem_singleton.mp hnew]
        exact ⟨hbasis, hinv.store.deploymentIds _ _ (getDeployment_ok hread).1, hexpected⟩
  | scopedWrite index => exact scopedWrite_effect hinv index
  | breakerPause inner deploymentId expectedRevision detail dailyLossLatched now =>
    have hcall : StoreCall.Promised identity (.saveBreakerPause deploymentId expectedRevision
      detail dailyLossLatched now) := trivial
    have hinner := And.intro (StoreCall.run_inv hinv.store hcall)
      (saveBreakerPause_rowWrite desk.store deploymentId expectedRevision detail
        dailyLossLatched now)
    refine callVia_effect hinv (by rw [Desk.apply]) rfl (fun fence => ?_) ?_
    · rw [saveBreakerPause_store]
      exact hinner
    · exact hinner
  | fill inner call =>
    have hinner := And.intro (applyFill_effect hinv.store hpromised).inv
      (applyFill_rowWrite hinv.store hpromised)
    refine callVia_effect hinv (by rw [Desk.apply]) rfl (fun fence => ?_) ?_
    · rw [(applyFill_store fence desk.store call).1]
      exact hinner
    · exact hinner
  | funding inner deploymentId flows expectedRevision =>
    have hinner : ∀ expected, StoreInv identity
        (desk.store.applyFundingTransaction deploymentId flows expected).2 ∧
        RowSource desk.store.deployments
          (desk.store.applyFundingTransaction deploymentId flows expected).2.deployments
          (Desk.fundingDelta desk.store deploymentId flows) := by
      intro expected
      have hcall : StoreCall.Promised identity (.applyFunding deploymentId flows expected) :=
        trivial
      exact ⟨StoreCall.run_inv hinv.store hcall,
        applyFunding_rowWrite desk.store deploymentId flows expected⟩
    refine callVia_effect hinv (by rw [Desk.apply]) rfl (fun fence => ?_) ?_
    · obtain ⟨expected, hrun⟩ := applyFunding_store fence desk.store deploymentId
        flows expectedRevision
      rw [hrun]
      exact hinner expected
    · exact hinner expectedRevision
  | lease deploymentId holder now ttl =>
    have hcall : StoreCall.Promised identity (.acquireWorkerLease deploymentId holder now ttl) :=
      trivial
    have hwrite := acquireWorkerLease_rowWrite desk.store deploymentId holder now ttl
    exact ⟨hinv.commit (StoreCall.run_inv hinv.store hcall) hwrite, ⟨_, hwrite⟩,
      fun _ h => absurd h (by simp [Desk.savedRow])⟩

end

/-! ## Every interleaving -/

def startingCash (store : MemoryStore) (id : Uuid) : Decimal := (cashOf store id).getD 0

section

variable {identity : Uuid → Uuid × String} {store : MemoryStore} {desk : Desk}

section

variable (hstore : StoreReachable identity store)
include hstore

theorem deskInv_initial :
    DeskInv identity (startingCash store) (Desk.initial store) := by
  refine ⟨hstore.inv, ?_, fun _ _ => rfl, ?_⟩
  · intro id row hrow
    have hrow' : store.deployments.get? id = some row := hrow
    refine ⟨?_, fun _ h => absurd h (by simp [Desk.register, Desk.initial]),
      fun _ h => absurd h (by simp [Desk.register, Desk.initial])⟩
    show row.cash = startingCash store id + 0
    rw [startingCash, cashOf, hrow', add_zero]
    rfl
  · intro waiting h
    exact absurd h (by simp [Desk.initial])

theorem DeskReachable.inv (hdesk : DeskReachable identity store desk) :
    DeskInv identity (startingCash store) desk ∧
      ∀ id row, store.deployments.get? id = some row →
        ∃ row', desk.store.deployments.get? id = some row' := by
  refine Reachable.invariant (fun desk => DeskInv identity (startingCash store) desk ∧
    ∀ id row, store.deployments.get? id = some row →
      ∃ row', desk.store.deployments.get? id = some row') ?_ ?_ hdesk
  · rintro _ rfl
    exact ⟨deskInv_initial hstore, fun _ row hrow => ⟨row, hrow⟩⟩
  · rintro before event after ⟨hinv, hrows⟩ ⟨hpromised, rfl⟩
    have heffect := apply_effect hinv hpromised
    refine ⟨heffect.inv, ?_⟩
    intro id row hrow
    obtain ⟨row', hrow'⟩ := hrows id row hrow
    obtain ⟨delta, hwrite⟩ := heffect.write
    obtain ⟨row'', hrow'', _⟩ := hwrite.revision hrow'
    exact ⟨row'', hrow''⟩

end

end

/-- A worker is handed the row; a buy and an hour's funding are booked after that. -/
def sampleEvents : List Event :=
  [.bind 0 ⟨1, 0, "worker"⟩, .read 1, .fill .raw sampleBuy,
    .funding .raw 1 [sampleFunding 1 (-3)] none]

def sampleDesk : Desk :=
  sampleEvents.foldl Desk.apply (Desk.initial (MemoryStore.empty.createDeployment sampleDeployment))

end Thytrader.Execution
