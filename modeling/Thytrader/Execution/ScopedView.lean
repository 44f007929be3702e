import Thytrader.Execution.Stores
import Thytrader.Trading.Isolation
import Thytrader.Trading.RowWrites

/-!
# The view of a shared deployment through one product

`InstrumentScopedStore` of `trading/overlay.py` over the in-memory store: reading overlays one
product's runtime, position, orders, intents and fills on the shared row, saving merges the
product's runtime back into it.

Where a runtime is read from depends on which rows exist: the primary product of a book whose
rows are all its own is read from the deployment row, every other product from its runtime row.
The first save through another product switches the primary's source, and nothing else.
-/

namespace Thytrader.Execution

open Trading Lib List MemoryStore

/-! ## The scoped store -/

/-- `InstrumentScopedStore.get_deployment`. -/
def scopedGet (store : MemoryStore) (productId : String) (deploymentId : Uuid) :
    Result DeploymentSnapshot :=
  (store.getDeployment deploymentId).map (fun snapshot => overlaySnapshot snapshot productId)

/-- `InstrumentScopedStore.save_deployment`, without a runtime from an outer scope. -/
def scopedSave (store : MemoryStore) (productId : String) (deployment : Deployment)
    (expectedRevision : Option Int) : Result Deployment × MemoryStore :=
  match store.getDeployment deployment.id with
  | .error failure => (.error failure, store)
  | .ok current =>
    match store.saveDeployment (scopedParent current deployment productId)
        (some (scopedExpected deployment expectedRevision))
        (some (runtimeFromDeployment deployment productId)) with
    | (.ok saved, next) => (.ok (deployment.withRevision saved.revision), next)
    | (.error failure, next) => (.error failure, next)

def stampProduct (order : Order) (productId : String) : Order :=
  if order.productId = "" then { order with productId } else order

/-- `InstrumentScopedStore.apply_fill_transaction`. -/
def scopedFill (store : MemoryStore) (productId : String) (call : FillCall) :
    Result (Bool × DeploymentSnapshot) × MemoryStore :=
  match { call with order := stampProduct call.order productId }.run store with
  | (.ok (applied, snapshot), next) => (.ok (applied, overlaySnapshot snapshot productId), next)
  | (.error failure, next) => (.error failure, next)

/-- What one product sees of the deployment. -/
structure ProductView where
  runtime : InstrumentRuntime
  position : Option Position
  orders : List Order
  intents : List OrderIntent
  fills : List Fill
  deriving DecidableEq

/-- The view through one product, as `overlay_snapshot` returns it. -/
def productView (snapshot : DeploymentSnapshot) (productId : String) : ProductView :=
  let view := overlaySnapshot snapshot productId
  { runtime := runtimeFromDeployment view.deployment productId
    position := view.position
    orders := view.orders
    intents := view.intents
    fills := view.fills }

/-! ## Runtime rows -/

def flatRuntime (productId : String) : InstrumentRuntime := { productId, phase := .flat }

section

variable {store : MemoryStore} {deploymentId : Uuid} {snapshot : DeploymentSnapshot}

variable (hkeyed : RuntimesKeyed store) (hread : RuntimesRead store deploymentId snapshot)
include hkeyed hread

/-- Searching the rows of a read is looking up the stored row. -/
theorem find_runtime (productId : String) :
    snapshot.instrumentRuntimes.find? (fun item => item.productId = productId) =
      store.instrumentRuntimes.get? (deploymentId, productId) := by
  cases hfound : snapshot.instrumentRuntimes.find? (fun item => item.productId = productId) with
  | none =>
    cases hrow : store.instrumentRuntimes.get? (deploymentId, productId) with
    | none => rfl
    | some runtime =>
      obtain rfl : productId = runtime.productId := hkeyed _ _ hrow
      exact absurd (decide_eq_true rfl) (find?_eq_none.mp hfound runtime ((hread runtime).mpr hrow))
  | some runtime =>
    have hproduct := find?_some hfound
    have hrow := (hread runtime).mp (mem_of_find?_eq_some hfound)
    rw [of_decide_eq_true hproduct] at hrow
    exact hrow.symm

/-- The rows are all the primary's exactly when no other product has one. -/
theorem mirrors_iff :
    mirrorsPrimaryRuntime snapshot.deployment snapshot.instrumentRuntimes = true ↔
      ∀ productId, productId ≠ snapshot.deployment.productId →
        store.instrumentRuntimes.get? (deploymentId, productId) = none := by
  unfold mirrorsPrimaryRuntime
  rw [all_eq_true]
  constructor
  · intro h productId hne
    cases hrow : store.instrumentRuntimes.get? (deploymentId, productId) with
    | none => rfl
    | some runtime =>
      obtain rfl : productId = runtime.productId := hkeyed _ _ hrow
      exact absurd (of_decide_eq_true (h runtime ((hread runtime).mpr hrow))) hne
  · intro h runtime hmem
    by_contra hne
    have hrow := (hread runtime).mp hmem
    rw [h runtime.productId (by simpa using hne)] at hrow
    cases hrow

theorem productView_runtime (productId : String) :
    (productView snapshot productId).runtime =
      if productId = snapshot.deployment.productId ∧
          mirrorsPrimaryRuntime snapshot.deployment snapshot.instrumentRuntimes = true then
        runtimeFromDeployment snapshot.deployment productId
      else (store.instrumentRuntimes.get? (deploymentId, productId)).getD
        (flatRuntime productId) := by
  have hown : (runtimeFor snapshot productId).productId = productId := by
    unfold runtimeFor
    dsimp only
    split
    · rfl
    · split
      next item hfound => simpa using find?_some hfound
      · rfl
  have hview : (productView snapshot productId).runtime = runtimeFor snapshot productId := by
    show ({ (runtimeFor snapshot productId) with productId := productId } : InstrumentRuntime) = _
    generalize runtimeFor snapshot productId = runtime at hown
    subst hown
    rfl
  rw [hview]
  unfold runtimeFor
  rw [find_runtime hkeyed hread]
  dsimp only
  split
  · rfl
  · cases store.instrumentRuntimes.get? (deploymentId, productId) with
    | none | some => rfl

end

variable {runtime : InstrumentRuntime}

/-! ## An accepted save -/

section

variable {store next : MemoryStore} {productId : String} {deployment result : Deployment}
  {expectedRevision : Option Int}

theorem scopedSave_ok (hkeyed : DeploymentsKeyed store)
    (h : scopedSave store productId deployment expectedRevision = (.ok result, next)) :
    ∃ before, store.getDeployment deployment.id = .ok before ∧
      scopedExpected deployment expectedRevision = before.deployment.revision ∧
      next = { store with
        deployments := store.deployments.set deployment.id
          ((scopedParent before deployment productId).withRevision (before.deployment.revision + 1))
        instrumentRuntimes := store.instrumentRuntimes.set (deployment.id, productId)
          (runtimeFromDeployment deployment productId) } := by
  unfold scopedSave at h
  split at h
  · cases (congrArg Prod.fst h)
  next before hbefore =>
    have hrow := (getDeployment_ok hbefore).1
    have hid : (scopedParent before deployment productId).id = deployment.id :=
      (scopedParent_fields before deployment productId).1.trans (hkeyed _ _ hrow)
    refine ⟨before, hbefore, ?_⟩
    unfold saveDeployment at h
    rw [if_neg (by simp), hid, hrow] at h
    dsimp only at h
    split at h
    next saved final hsaved =>
      split at hsaved
      · cases (congrArg Prod.fst hsaved)
      next hrevision =>
        have hexpected : scopedExpected deployment expectedRevision =
            before.deployment.revision := by
          by_contra hne
          exact hrevision ⟨rfl, by simpa using hne⟩
        refine ⟨hexpected, ?_⟩
        obtain ⟨-, hfinal⟩ := Prod.mk.inj hsaved
        cases h
        rw [← hfinal]
        unfold putDeployment
        rw [show ((scopedParent before deployment productId).withRevision
          (before.deployment.revision + 1)).id = deployment.id from hid]
        rfl
    · cases (congrArg Prod.fst h)

theorem scopedParent_productId (before : DeploymentSnapshot) (deployment : Deployment)
    (productId : String) :
    (scopedParent before deployment productId).productId = before.deployment.productId := by
  unfold scopedParent
  split
  · rfl
  · rfl

/-- The evidence a view shows, apart from the runtime. -/
structure SameEvidenceView (before after : DeploymentSnapshot) : Prop where
  productId : after.deployment.productId = before.deployment.productId
  position : after.position = before.position
  positions : after.positions = before.positions
  orders : after.orders = before.orders
  intents : after.intents = before.intents
  fills : after.fills = before.fills

variable {before : DeploymentSnapshot}

theorem SameEvidenceView.view {after : DeploymentSnapshot} (h : SameEvidenceView before after)
    {productId : String}
    (hruntime : (productView after productId).runtime = (productView before productId).runtime) :
    productView after productId = productView before productId := by
  have hbooks : snapshotPositions after = snapshotPositions before := by
    unfold snapshotPositions
    rw [h.positions, h.position]
  have hresolved : ∀ product, resolvedProductId product after.deployment =
      resolvedProductId product before.deployment := by
    intro product
    unfold resolvedProductId
    rw [h.productId]
  have horders : ordersFor after productId = ordersFor before productId := by
    unfold ordersFor
    simp only [h.orders, hresolved]
  have hposition : positionFor after productId = positionFor before productId := by
    unfold positionFor
    simp only [hbooks, hresolved]
  have hintents : intentsFor after productId = intentsFor before productId := by
    unfold intentsFor
    simp only [h.intents, hresolved]
  have hfills : fillsFor after productId = fillsFor before productId := by
    unfold fillsFor
    rw [horders, h.fills]
  have hparts : ∀ snapshot, productView snapshot productId =
      { runtime := (productView snapshot productId).runtime
        position := positionFor snapshot productId
        orders := ordersFor snapshot productId
        intents := intentsFor snapshot productId
        fills := fillsFor snapshot productId } := fun _ => rfl
  rw [hparts after, hparts before, hruntime, hposition, horders, hintents, hfills]

theorem scopedSave_read {deploymentId : Uuid} {parent : Deployment} {key : Uuid × String}
    (hbefore : store.getDeployment deploymentId = .ok before)
    (hproduct : parent.productId = before.deployment.productId) (hnext : next = { store with
      deployments := store.deployments.set deploymentId parent
      instrumentRuntimes := store.instrumentRuntimes.set key runtime }) :
    ∃ after, next.getDeployment deploymentId = .ok after ∧ after.deployment = parent ∧
      SameEvidenceView before after := by
  have hrow : next.deployments.get? deploymentId = some parent := by
    rw [hnext]
    exact Dict.get?_set_self ..
  unfold getDeployment at hbefore ⊢
  rw [hrow]
  split at hbefore
  · cases hbefore
  next row hstored =>
    cases hbefore
    refine ⟨_, rfl, rfl, ?_⟩
    subst hnext
    exact ⟨hproduct, by dsimp only; rw [hproduct], rfl, rfl, rfl, rfl⟩

end

/-- An accepted save through a product, with the reads around it. -/
structure Accepted (store next : MemoryStore) (productId : String) (deployment : Deployment)
    (before after : DeploymentSnapshot) : Prop where
  keyed : RuntimesKeyed store
  nextKeyed : RuntimesKeyed next
  read : store.getDeployment deployment.id = .ok before
  reread : next.getDeployment deployment.id = .ok after
  row : after.deployment =
    (scopedParent before deployment productId).withRevision (before.deployment.revision + 1)
  rows : ∀ other, next.instrumentRuntimes.get? (deployment.id, other) =
    if other = productId then some (runtimeFromDeployment deployment productId)
    else store.instrumentRuntimes.get? (deployment.id, other)
  evidence : SameEvidenceView before after

variable {store next : MemoryStore} {productId : String} {deployment result : Deployment}
  {expectedRevision : Option Int} {before after : DeploymentSnapshot}

theorem accepted_of_save (hkeyed : RuntimesKeyed store) (hrows : DeploymentsKeyed store)
    (h : scopedSave store productId deployment expectedRevision = (.ok result, next)) :
    ∃ before after, Accepted store next productId deployment before after := by
  obtain ⟨before, hbefore, -, hnext⟩ := scopedSave_ok hrows h
  have hproduct : ((scopedParent before deployment productId).withRevision
      (before.deployment.revision + 1)).productId = before.deployment.productId :=
    scopedParent_productId before deployment productId
  obtain ⟨after, hafter, hrow, hsame⟩ := scopedSave_read hbefore hproduct hnext
  have hget : ∀ key, next.instrumentRuntimes.get? key =
      if key = (deployment.id, productId) then some (runtimeFromDeployment deployment productId)
      else store.instrumentRuntimes.get? key := by
    intro key
    rw [hnext]
    exact Dict.get?_set ..
  refine ⟨before, after, hkeyed, ?_, hbefore, hafter, hrow, ?_, hsame⟩
  · intro key runtime hruntime
    rw [hget] at hruntime
    split at hruntime
    next hkey =>
      cases hruntime
      rw [hkey]
      rfl
    · exact hkeyed key runtime hruntime
  · intro other
    rw [hget]
    by_cases hsame : other = productId
    · rw [if_pos (by rw [hsame]), if_pos hsame]
    · rw [if_neg (by simpa using hsame), if_neg hsame]

/-- The primary owns its runtime afterwards exactly when it did and was the one saved. -/
theorem Accepted.mirrors (h : Accepted store next productId deployment before after) :
    mirrorsPrimaryRuntime after.deployment after.instrumentRuntimes = true ↔
      productId = before.deployment.productId ∧
        mirrorsPrimaryRuntime before.deployment before.instrumentRuntimes = true := by
  rw [mirrors_iff h.nextKeyed (h.nextKeyed.read h.reread), mirrors_iff h.keyed (h.keyed.read h.read),
    h.evidence.productId]
  constructor
  · intro hnone
    constructor
    · by_contra hne
      have hrow := hnone productId hne
      rw [h.rows, if_pos rfl] at hrow
      cases hrow
    · intro other hother
      have hrow := hnone other hother
      rw [h.rows] at hrow
      obtain ⟨-, hrow⟩ := of_ite_ne hrow nofun
      exact hrow
  · intro hboth other hother
    rw [h.rows, if_neg (by rw [hboth.1]; exact hother)]
    exact hboth.2 other hother

theorem aggregatePhase_merged_own {rows : List InstrumentRuntime}
    (h : ∀ item ∈ rows, item.productId = runtime.productId) :
    aggregatePhase (mergedRuntimes rows runtime) = runtime.phase := by
  rw [← aggregatePhase_single runtime]
  apply aggregatePhase_congr
  intro item
  have hreplaced : ∀ found, found ∈ rows.map
      (fun item => if item.productId = runtime.productId then runtime else item) →
      found = runtime := by
    intro found hfound
    obtain ⟨old, hold, rfl⟩ := mem_map.mp hfound
    rw [if_pos (h old hold)]
  unfold mergedRuntimes
  rw [mem_singleton]
  split
  next hany =>
    constructor
    · exact hreplaced item
    · intro hitem
      obtain ⟨old, hold, -⟩ := any_eq_true.mp hany
      exact mem_map.mpr ⟨old, hold, by rw [if_pos (h old hold), hitem]⟩
  · rw [mem_append, mem_singleton]
    constructor
    · intro hitem
      obtain hitem | hitem := hitem
      · exact hreplaced item hitem
      · exact hitem
    · exact .inr

theorem Accepted.put_get (h : Accepted store next productId deployment before after) :
    (productView after productId).runtime = runtimeFromDeployment deployment productId := by
  rw [productView_runtime h.nextKeyed (h.nextKeyed.read h.reread)]
  split
  next hown =>
    obtain ⟨hprimary, hmirrors⟩ := h.mirrors.mp hown.2
    have hphase : aggregatePhase (mergedRuntimes before.instrumentRuntimes
        (runtimeFromDeployment deployment productId)) = deployment.phase := by
      refine aggregatePhase_merged_own ?_
      intro item hitem
      exact (of_decide_eq_true (all_eq_true.mp hmirrors item hitem)).trans hprimary.symm
    rw [h.row]
    unfold scopedParent
    rw [if_pos ⟨hprimary, hmirrors⟩, hphase]
    rfl
  · rw [h.rows, if_pos rfl, Option.getD_some]

/-- The other products' views, once the primary's two sources agree. -/
def InSync (store : MemoryStore) (snapshot : DeploymentSnapshot) : Prop :=
  mirrorsPrimaryRuntime snapshot.deployment snapshot.instrumentRuntimes = true →
    (store.instrumentRuntimes.get? (snapshot.deployment.id, snapshot.deployment.productId)).getD
        (flatRuntime snapshot.deployment.productId) =
      runtimeFromDeployment snapshot.deployment snapshot.deployment.productId

section

variable (h : Accepted store next productId deployment before after)
include h

/-- A save through one product leaves the others alone, unless the primary's runtime moves from the
deployment row to another runtime row. -/
theorem Accepted.put_other
    (hid : before.deployment.id = deployment.id) (hsync : InSync store before) {other : String}
    (hne : other ≠ productId) : productView after other = productView before other := by
  refine h.evidence.view ?_
  rw [productView_runtime h.nextKeyed (h.nextKeyed.read h.reread),
    productView_runtime h.keyed (h.keyed.read h.read), h.rows, if_neg hne, h.evidence.productId]
  by_cases hprimary : other = before.deployment.productId
  · have hmoved : ¬ mirrorsPrimaryRuntime after.deployment after.instrumentRuntimes = true := by
      intro hmirrors
      exact hne (hprimary.trans (h.mirrors.mp hmirrors).1.symm)
    rw [if_neg (fun hboth => hmoved hboth.2)]
    split
    next hboth =>
      have hagree := hsync hboth.2
      rw [hid, ← hprimary] at hagree
      exact hagree
    · rfl
  · rw [if_neg (fun hboth => hprimary hboth.1), if_neg (fun hboth => hprimary hboth.1)]

/-- The rows an accepted save aggregates are the rows read afterwards. -/
theorem Accepted.mem_merged (item : InstrumentRuntime) :
    item ∈ mergedRuntimes before.instrumentRuntimes (runtimeFromDeployment deployment productId) ↔
      next.instrumentRuntimes.get? (deployment.id, item.productId) = some item := by
  have hread := h.keyed.read h.read
  have hown : (runtimeFromDeployment deployment productId).productId = productId := rfl
  have hreplaced : item ∈ before.instrumentRuntimes.map (fun row =>
      if row.productId = (runtimeFromDeployment deployment productId).productId then
        runtimeFromDeployment deployment productId else row) ↔
      (∃ row ∈ before.instrumentRuntimes, row.productId = productId) ∧
        item = runtimeFromDeployment deployment productId ∨
      item ∈ before.instrumentRuntimes ∧ item.productId ≠ productId := by
    rw [mem_map]
    constructor
    · intro hmem
      obtain ⟨row, hrow, rfl⟩ := hmem
      split
      next hsame => exact .inl ⟨⟨row, hrow, hsame⟩, rfl⟩
      next hsame => exact .inr ⟨hrow, hsame⟩
    · intro hmem
      obtain ⟨⟨row, hrow, hsame⟩, rfl⟩ | ⟨hrow, hsame⟩ := hmem
      · exact ⟨row, hrow, if_pos hsame⟩
      · exact ⟨item, hrow, if_neg hsame⟩
  have hmerged : item ∈ mergedRuntimes before.instrumentRuntimes
      (runtimeFromDeployment deployment productId) ↔
      item = runtimeFromDeployment deployment productId ∨
        item ∈ before.instrumentRuntimes ∧ item.productId ≠ productId := by
    unfold mergedRuntimes
    split
    next hany =>
      obtain ⟨row, hrow, hsame⟩ := any_eq_true.mp hany
      rw [hreplaced]
      refine or_congr_left ⟨fun hboth => hboth.2, fun hitem => ⟨⟨row, hrow, ?_⟩, hitem⟩⟩
      exact of_decide_eq_true hsame
    next hnone =>
      rw [mem_append, mem_singleton, hreplaced]
      constructor
      · intro hmem
        obtain (⟨-, hitem⟩ | hother) | hitem := hmem
        · exact .inl hitem
        · exact .inr hother
        · exact .inl hitem
      · intro hmem
        obtain hitem | hother := hmem
        · exact .inr hitem
        · exact .inl (.inr hother)
  rw [hmerged, h.rows]
  constructor
  · intro hmem
    obtain rfl | ⟨hrow, hsame⟩ := hmem
    · rw [if_pos hown]
    · rw [if_neg hsame]
      exact (hread item).mp hrow
  · intro hrow
    split at hrow
    · exact .inl (Option.some.inj hrow).symm
    next hsame => exact .inr ⟨(hread item).mpr hrow, hsame⟩

end

theorem aggregatePhase_of_phases {first second : List InstrumentRuntime}
    (h : ∀ phase, phase ≠ .flat →
      ((∃ item ∈ first, item.phase = phase) ↔ ∃ item ∈ second, item.phase = phase)) :
    aggregatePhase first = aggregatePhase second := by
  have hany : ∀ phase, phase ≠ RuntimePhase.flat →
      first.any (fun item => item.phase = phase) = second.any (fun item => item.phase = phase) := by
    intro phase hphase
    rw [Bool.eq_iff_iff, any_eq_true, any_eq_true]
    simpa using h phase hphase
  unfold aggregatePhase
  rw [hany .open (by simp), hany .pendingExit (by simp), hany .pendingEntry (by simp)]

theorem Accepted.phase (h : Accepted store next productId deployment before after)
    {products : List String} (hproduct : productId ∈ products)
    (hwithin : ∀ other runtime,
      store.instrumentRuntimes.get? (deployment.id, other) = some runtime → other ∈ products) :
    after.deployment.phase =
      aggregatePhase (products.map (fun other => (productView after other).runtime)) := by
  have hstored : after.deployment.phase = aggregatePhase
      (mergedRuntimes before.instrumentRuntimes (runtimeFromDeployment deployment productId)) := by
    rw [h.row]
    unfold scopedParent
    split
    · rfl
    · rfl
  -- a runtime row is what its own product is viewed with
  have hshown : ∀ other runtime,
      next.instrumentRuntimes.get? (deployment.id, other) = some runtime →
        (productView after other).runtime = runtime := by
    intro other runtime hrow
    by_cases hsame : other = productId
    · subst hsame
      rw [h.rows, if_pos rfl] at hrow
      rw [h.put_get]
      exact Option.some.inj hrow
    · rw [productView_runtime h.nextKeyed (h.nextKeyed.read h.reread), if_neg, hrow,
        Option.getD_some]
      intro hboth
      obtain ⟨hprimary, -⟩ := h.mirrors.mp hboth.2
      exact hsame (hboth.1.trans (h.evidence.productId.trans hprimary.symm))
  rw [hstored]
  apply aggregatePhase_of_phases
  intro phase hphase
  constructor
  · intro hitem
    obtain ⟨item, hmem, hitemPhase⟩ := hitem
    have hrow := (h.mem_merged item).mp hmem
    have hlisted : item.productId ∈ products := by
      rw [h.rows] at hrow
      split at hrow
      next hsame => exact hsame ▸ hproduct
      · exact hwithin _ _ hrow
    refine ⟨_, mem_map.mpr ⟨item.productId, hlisted, rfl⟩, ?_⟩
    rw [hshown _ _ hrow, hitemPhase]
  · intro hitem
    obtain ⟨item, hmem, hitemPhase⟩ := hitem
    obtain ⟨other, -, rfl⟩ := mem_map.mp hmem
    cases hrow : next.instrumentRuntimes.get? (deployment.id, other) with
    | some runtime =>
      have hkey : other = runtime.productId := h.nextKeyed _ _ hrow
      rw [hshown other runtime hrow] at hitemPhase
      exact ⟨runtime, (h.mem_merged runtime).mpr (by rw [← hkey]; exact hrow), hitemPhase⟩
    | none =>
      -- a product without a row is flat, and the saved one has a row
      rw [productView_runtime h.nextKeyed (h.nextKeyed.read h.reread), hrow] at hitemPhase
      split at hitemPhase
      next hboth =>
        obtain ⟨hprimary, -⟩ := h.mirrors.mp hboth.2
        rw [hboth.1, h.evidence.productId, ← hprimary, h.rows, if_pos rfl] at hrow
        cases hrow
      · exact absurd hitemPhase.symm hphase

end Thytrader.Execution
