import Thytrader.Execution.ScopedView

/-!
# The product views as lenses

A multi-product deployment is created and then written only through its products'
`InstrumentScopedStore`s. In every store such a run reaches, a save through one product is read back
by it, leaves the other products' views alone and stores their aggregate phase, exactly when the
primary's runtime row and the deployment row say the same while the primary is the only product with
a runtime row (`scoped_views_lawful_iff`). A fill on the primary writes its runtime row and not the
deployment row's runtime fields, and ends that agreement.
-/

namespace Thytrader.Execution

open Trading Lib MemoryStore List

variable {deployment : Deployment} {expectedRevision : Option Int}

/-! ## Scoped runs -/

/-- A write through one product's scoped store. -/
inductive ScopedCall where
  | saveDeployment (productId : String) (deployment : Deployment) (expectedRevision : Option Int)
  | applyFill (productId : String) (call : FillCall)
  | saveIntent (productId : String) (fence : Option (Uuid × String)) (intent : OrderIntent)
  | saveOrder (productId : String) (order : Order)
  | saveFill (fill : Fill)
  | savePosition (productId : String) (position : Option Position) (deploymentId : Uuid)
  | saveInstrumentRuntime (runtime : InstrumentRuntime) (deploymentId : Uuid)

def stampIntent (intent : OrderIntent) (productId : String) : OrderIntent :=
  if intent.productId = "" then { intent with productId } else intent

def stampPosition (position : Position) (productId : String) : Position :=
  if position.productId = "" then { position with productId } else position

def ScopedCall.run (call : ScopedCall) (store : MemoryStore) : MemoryStore :=
  match call with
  | .saveDeployment productId deployment expectedRevision =>
    (scopedSave store productId deployment expectedRevision).2
  | .applyFill productId call => (scopedFill store productId call).2
  | .saveIntent productId fence intent =>
    (store.insertLeasedIntent fence (stampIntent intent productId)).2
  | .saveOrder productId order => (store.saveOrder (stampProduct order productId)).2
  | .saveFill fill => (store.saveFill fill).2
  | .savePosition productId position deploymentId =>
    store.savePosition (position.map (fun book => stampPosition book productId)) deploymentId
      (some productId)
  | .saveInstrumentRuntime runtime deploymentId => store.saveInstrumentRuntime runtime deploymentId

def ScopedCall.Within (products : List String) : ScopedCall → Prop
  | .saveDeployment productId _ _ => productId ∈ products
  | .applyFill productId call => (stampProduct call.order productId).productId ∈ products
  | .saveInstrumentRuntime runtime _ => runtime.productId ∈ products
  | _ => True

/-- One write through a product of the deployment. -/
def scopedStep (products : List String) (store : MemoryStore) (call : ScopedCall)
    (next : MemoryStore) : Prop :=
  call.Within products ∧ next = call.run store

/-- The stores reached from one created deployment by its products' scoped writes. -/
def ScopedReachable (products : List String) (created : Deployment) (store : MemoryStore) : Prop :=
  Reachable (· = MemoryStore.empty.createDeployment created) (scopedStep products) store

structure ScopedInv (products : List String) (created : Deployment) (store : MemoryStore) :
    Prop where
  keyed : RuntimesKeyed store
  rows : DeploymentsKeyed store
  within : ∀ key runtime, store.instrumentRuntimes.get? key = some runtime → key.2 ∈ products
  primary : ∀ id row, store.deployments.get? id = some row → row.productId = created.productId
  stored : ∃ row, store.deployments.get? created.id = some row

variable {deploymentId : Uuid}

section

variable {products : List String} {created : Deployment} {store next : MemoryStore}

section

variable (h : ScopedInv products created store)
include h

theorem ScopedInv.frame (hruntimes : next.instrumentRuntimes = store.instrumentRuntimes)
    (hdeployments : next.deployments = store.deployments) : ScopedInv products created next := by
  obtain ⟨hkeyed, hrows, hwithin, hprimary, hstored⟩ := h
  rw [← hruntimes] at hwithin
  rw [← hdeployments] at hprimary hstored
  refine ⟨?_, ?_, hwithin, hprimary, hstored⟩
  · unfold RuntimesKeyed
    rw [hruntimes]
    exact hkeyed
  · unfold DeploymentsKeyed
    rw [hdeployments]
    exact hrows

theorem ScopedInv.setRuntime {runtime : InstrumentRuntime}
    (hproduct : runtime.productId ∈ products)
    (hruntimes : next.instrumentRuntimes = store.instrumentRuntimes.set (deploymentId,
      runtime.productId) runtime) (hdeployments : next.deployments = store.deployments) :
    ScopedInv products created next := by
  refine ⟨Dict.forall_set hruntimes rfl h.keyed, ?_, Dict.forall_set hruntimes hproduct h.within,
    ?_, ?_⟩
  · unfold DeploymentsKeyed
    rw [hdeployments]
    exact h.rows
  · rw [hdeployments]
    exact h.primary
  · rw [hdeployments]
    exact h.stored

theorem ScopedInv.setRow {row : Deployment} (hrow : row.productId = created.productId)
    (hruntimes : next.instrumentRuntimes = store.instrumentRuntimes)
    (hdeployments : next.deployments = store.deployments.set row.id row) :
    ScopedInv products created next := by
  refine ⟨?_, Dict.forall_set hdeployments rfl h.rows, ?_,
    Dict.forall_set hdeployments hrow h.primary, ?_⟩
  · unfold RuntimesKeyed
    rw [hruntimes]
    exact h.keyed
  · rw [hruntimes]
    exact h.within
  · obtain ⟨stored, hstored⟩ := h.stored
    rw [hdeployments, Dict.get?_set]
    split
    · exact ⟨row, rfl⟩
    · exact ⟨stored, hstored⟩

end

variable {productId : String}

/-- A scoped save that is not accepted writes nothing. -/
theorem scopedSave_error {failure : Failure}
    (h : scopedSave store productId deployment expectedRevision = (.error failure, next)) :
    next = store := by
  unfold scopedSave at h
  split at h
  · exact (Prod.mk.inj h).2.symm
  next before hbefore =>
    split at h
    · cases (congrArg Prod.fst h)
    next hsaved =>
      cases h
      rcases saveDeployment_cases store (scopedParent before deployment productId)
        (some (scopedExpected deployment expectedRevision))
        (some (runtimeFromDeployment deployment productId)) with
        ⟨_, hrun⟩ | ⟨_, _, _, _, hrun, _, _⟩
      · rw [hrun] at hsaved
        exact (Prod.mk.inj hsaved).2.symm
      · rw [hrun] at hsaved
        cases (congrArg Prod.fst hsaved)

theorem ScopedInv.save (h : ScopedInv products created store) (hproduct : productId ∈ products)
    (deployment : Deployment) (expectedRevision : Option Int) :
    ScopedInv products created (scopedSave store productId deployment expectedRevision).2 := by
  cases hrun : scopedSave store productId deployment expectedRevision with
  | mk result =>
    cases result with
    | error =>
      rw [scopedSave_error hrun]
      exact h
    | ok =>
      obtain ⟨before, hbefore, -, hnext⟩ := scopedSave_ok h.rows hrun
      have hrow := (getDeployment_ok hbefore).1
      have hid : ((scopedParent before deployment productId).withRevision
          (before.deployment.revision + 1)).id = deployment.id :=
        (scopedParent_fields before deployment productId).1.trans (h.rows _ _ hrow)
      have hruntime : ScopedInv products created { store with
          instrumentRuntimes := store.instrumentRuntimes.set (deployment.id, productId)
            (runtimeFromDeployment deployment productId) } :=
        ScopedInv.setRuntime h (show (runtimeFromDeployment deployment productId).productId ∈
          products from hproduct) rfl rfl
      refine hruntime.setRow ?_ (by rw [hnext]) (by rw [hnext, hid])
      exact (scopedParent_productId before deployment productId).trans (h.primary _ _ hrow)

theorem FillCall.run_runtimes (call : FillCall) (store : MemoryStore) :
    (call.run store).2.instrumentRuntimes = store.instrumentRuntimes ∨
      ∃ snapshot projected : DeploymentSnapshot, store.getDeployment call.deploymentId = .ok snapshot ∧
        projected.instrumentRuntimes = projectedRuntimes snapshot projected.deployment
          (resolvedProductId call.order.productId snapshot.deployment) ∧
        (call.run store).2.instrumentRuntimes = projected.instrumentRuntimes.foldl
          (fun rows runtime => rows.set (call.deploymentId, runtime.productId) runtime)
          store.instrumentRuntimes := by
  obtain ⟨-, hevidence, -⟩ := recordEvidence_books store call.fill
  have hleft := call.run_leaves store
  generalize (call.run store).2 = next at hleft ⊢
  cases hleft with
  | untouched => exact .inl rfl
  | recorded => exact .inl hevidence
  | @projected snapshot projected stamped hsnapshot hpending hprojected =>
    obtain ⟨-, hruntimes, -⟩ := writeProjection_books (store.recordEvidence call.fill)
      call.deploymentId snapshot projected call.fill stamped call.order
    refine .inr ⟨snapshot, projected, hsnapshot,
      (projectFillEconomics_spec hprojected).runtimes, ?_⟩
    rw [hruntimes, hevidence]

section

variable (h : ScopedInv products created store) (hprimary : created.productId ∈ products)
include h hprimary

variable {call : FillCall}

theorem ScopedInv.fillRuntimes (hproduct : call.order.productId ∈ products) :
    ScopedInv products created
      { store with instrumentRuntimes := (call.run store).2.instrumentRuntimes } := by
  obtain hsame | ⟨snapshot, projected, hread, hlist, hset⟩ := FillCall.run_runtimes call store
  · exact h.frame hsame rfl
  · refine ⟨?_, h.rows, ?_, h.primary, h.stored⟩
    · intro key runtime hget
      rw [hset] at hget
      exact keyed_foldl_runtimes h.keyed key runtime hget
    · intro key runtime hget
      rw [hset] at hget
      obtain hmem | ⟨hstored, -⟩ := Dict.mem_of_get?_foldl_set (fun runtime : InstrumentRuntime =>
        (call.deploymentId, runtime.productId)) hget
      · rw [keyed_foldl_runtimes h.keyed key runtime hget]
        rw [hlist, projectedRuntimes] at hmem
        split at hmem
        · cases hmem
        · obtain hsibling | hown := mem_append.mp hmem
          · -- a sibling keeps the row it had
            have hrow := (h.keyed.read hread runtime).mp (mem_filter.mp hsibling).1
            exact h.within _ _ hrow
          · obtain rfl := mem_singleton.mp hown
            unfold resolvedProductId orBlank
            split
            · rw [h.primary _ _ (getDeployment_ok hread).1]
              exact hprimary
            · exact hproduct
      · exact h.within key runtime hstored

theorem ScopedInv.fill (hproduct : call.order.productId ∈ products) :
    ScopedInv products created (call.run store).2 := by
  have hruntimes := h.fillRuntimes hprimary hproduct
  obtain hsame | ⟨row, hset, hsource⟩ := FillCall.run_rows h.rows call
  · exact hruntimes.frame rfl hsame
  · refine hruntimes.setRow ?_ rfl hset
    cases hsource with
    | rewritten hstored hbook => exact hbook.productId.trans (h.primary _ _ hstored)

theorem ScopedInv.step {call : ScopedCall} (hcall : call.Within products) :
    ScopedInv products created (call.run store) := by
  cases call with
  | saveDeployment _ deployment expectedRevision =>
    exact h.save hcall deployment expectedRevision
  | applyFill productId call =>
    have hstore : (scopedFill store productId call).2 =
        (FillCall.run { call with order := stampProduct call.order productId } store).2 := by
      unfold scopedFill
      split
      next hrun => rw [hrun]
      next hrun => rw [hrun]
    show ScopedInv products created (scopedFill store productId call).2
    rw [hstore]
    exact h.fill hprimary hcall
  | saveIntent productId fence intent =>
    obtain ⟨failure, hrun⟩ | ⟨-, hrun⟩ := insertLeasedIntent_cases store fence
      (stampIntent intent productId)
    · simp only [ScopedCall.run, hrun]
      exact h
    · simp only [ScopedCall.run, hrun]
      exact h.frame rfl rfl
  | saveOrder =>
    exact h.frame (replaceOrder_books store _).1 (replaceOrder_frame store _).2
  | saveFill =>
    simp only [ScopedCall.run, saveFill]
    split
    · exact h
    · exact h.frame rfl rfl
  | savePosition _ position =>
    cases position with
    | none | some => exact h.frame rfl rfl
  | saveInstrumentRuntime => exact h.setRuntime hcall rfl rfl

end

theorem ScopedInv.start (products : List String) (created : Deployment) :
    ScopedInv products created (MemoryStore.empty.createDeployment created) := by
  have hrow : ∀ id row,
      (MemoryStore.empty.createDeployment created).deployments.get? id = some row →
        id = created.id ∧ row = created := by
    intro id row hget
    unfold createDeployment putDeployment at hget
    rw [Dict.get?_set] at hget
    split at hget
    next hid => exact ⟨hid, (Option.some.inj hget).symm⟩
    · exact absurd hget (by simp [MemoryStore.empty])
  refine ⟨?_, ?_, ?_, ?_, created, Dict.get?_set_self ..⟩
  · intro key runtime hget
    cases hget
  · intro id row hget
    obtain ⟨rfl, rfl⟩ := hrow id row hget
    rfl
  · intro key runtime hget
    cases hget
  · intro id row hget
    rw [(hrow id row hget).2]

theorem ScopedReachable.inv (h : ScopedReachable products created store)
    (hprimary : created.productId ∈ products) : ScopedInv products created store := by
  refine Reachable.invariant (ScopedInv products created) ?_ ?_ h
  · intro start hstart
    rw [hstart]
    exact ScopedInv.start products created
  · intro before call next hinv hstep
    rw [hstep.2]
    exact hinv.step hprimary hstep.1

end

/-! ## The laws -/

structure LensLaws (products : List String) (store : MemoryStore) (deploymentId : Uuid) :
    Prop where
  /-- An accepted save is read back through its product, kept from the others and summed up in
  the stored phase. -/
  put : ∀ productId ∈ products, ∀ deployment expectedRevision result next,
    deployment.id = deploymentId →
    scopedSave store productId deployment expectedRevision = (.ok result, next) →
    ∃ before after, store.getDeployment deploymentId = .ok before ∧
      next.getDeployment deploymentId = .ok after ∧
      (productView after productId).runtime = runtimeFromDeployment deployment productId ∧
      (∀ other ∈ products, other ≠ productId → productView after other = productView before other) ∧
      after.deployment.phase =
        aggregatePhase (products.map (fun other => (productView after other).runtime))
  /-- Saving a view as it was read is accepted and shows nothing new. -/
  unchanged : ∀ productId ∈ products, ∀ view,
    scopedGet store productId deploymentId = .ok view →
    ∃ result next before after,
      scopedSave store productId view.deployment none = (.ok result, next) ∧
      store.getDeployment deploymentId = .ok before ∧
      next.getDeployment deploymentId = .ok after ∧
      ∀ other ∈ products, productView after other = productView before other
  /-- A save based on another revision is refused and writes nothing. -/
  stale : ∀ productId ∈ products, ∀ deployment expectedRevision before,
    deployment.id = deploymentId → store.getDeployment deploymentId = .ok before →
    scopedExpected deployment expectedRevision ≠ before.deployment.revision →
    scopedSave store productId deployment expectedRevision = (.error revisionConflict, store)

section

variable {products : List String} {created : Deployment} {store : MemoryStore}
  {before : DeploymentSnapshot} {productId : String}

section

variable (hrows : DeploymentsKeyed store) (hbefore : store.getDeployment deployment.id = .ok before)
include hrows hbefore

/-- A save is accepted exactly when it is based on the stored revision. -/
theorem scopedSave_cases :
    (scopedExpected deployment expectedRevision = before.deployment.revision →
      ∃ result next, scopedSave store productId deployment expectedRevision =
        (.ok result, next)) ∧
    (scopedExpected deployment expectedRevision ≠ before.deployment.revision →
      scopedSave store productId deployment expectedRevision =
        (.error revisionConflict, store)) := by
  have hrow := (getDeployment_ok hbefore).1
  have hid : (scopedParent before deployment productId).id = deployment.id :=
    (scopedParent_fields before deployment productId).1.trans (hrows _ _ hrow)
  unfold scopedSave saveDeployment
  rw [hbefore]
  dsimp only
  rw [if_neg (by simp), hid, hrow]
  dsimp only
  constructor
  · intro hexpected
    rw [if_neg (by rw [hexpected]; simp)]
    exact ⟨_, _, rfl⟩
  · intro hexpected
    rw [if_pos ⟨rfl, by simpa using hexpected⟩]

end

/-- The row of a view is the shared row under its own id and revision. -/
theorem scopedGet_ok {view : DeploymentSnapshot}
    (h : scopedGet store productId deploymentId = .ok view) :
    ∃ before, store.getDeployment deploymentId = .ok before ∧
      view = overlaySnapshot before productId := by
  unfold scopedGet at h
  cases hread : store.getDeployment deploymentId with
  | error =>
    rw [hread] at h
    exact absurd h (by simp [Except.map])
  | ok before =>
    rw [hread] at h
    exact ⟨before, rfl, (Except.ok.inj h).symm⟩

variable (hinv : ScopedInv products created store)
include hinv

/-- Saving a view as read is accepted, and its product reads the same afterwards. -/
theorem save_view (hbefore : store.getDeployment created.id = .ok before) (productId : String) :
    ∃ result next after,
      scopedSave store productId (overlaySnapshot before productId).deployment none =
        (.ok result, next) ∧
      Accepted store next productId (overlaySnapshot before productId).deployment before after ∧
      productView after productId = productView before productId := by
  have hid : before.deployment.id = created.id :=
    hinv.rows _ _ (getDeployment_ok hbefore).1
  have hread : store.getDeployment (overlaySnapshot before productId).deployment.id =
      .ok before := by
    show store.getDeployment before.deployment.id = .ok before
    rw [hid]
    exact hbefore
  have hexpected : scopedExpected (overlaySnapshot before productId).deployment none =
      before.deployment.revision := rfl
  obtain ⟨result, next, hsave⟩ : ∃ result next,
      scopedSave store productId (overlaySnapshot before productId).deployment none =
        (.ok result, next) := (scopedSave_cases hinv.rows hread).1 hexpected
  obtain ⟨found, after, haccepted⟩ := accepted_of_save hinv.keyed hinv.rows hsave
  obtain rfl : before = found := by
    rw [haccepted.read] at hread
    exact (Except.ok.inj hread).symm
  exact ⟨result, next, after, hsave, haccepted, haccepted.evidence.view haccepted.put_get⟩

/-- The laws hold while the primary's two sources agree. -/
theorem lensLaws_of_inSync
    (hsync : ∀ snapshot, store.getDeployment created.id = .ok snapshot → InSync store snapshot) :
    LensLaws products store created.id := by
  refine ⟨?_, ?_, ?_⟩
  · intro productId hproduct deployment expectedRevision result next hid hsave
    obtain ⟨before, after, haccepted⟩ := accepted_of_save hinv.keyed hinv.rows hsave
    have hread := haccepted.read
    have hreread := haccepted.reread
    have hown : before.deployment.id = deployment.id :=
      hinv.rows _ _ (getDeployment_ok hread).1
    rw [hid] at hread hreread
    refine ⟨before, after, hread, hreread, haccepted.put_get, ?_, ?_⟩
    · intro other _ hne
      exact haccepted.put_other hown (hsync before hread) hne
    · exact haccepted.phase hproduct (fun other runtime hrow => hinv.within _ _ hrow)
  · intro productId hproduct view hview
    obtain ⟨before, hread, rfl⟩ := scopedGet_ok hview
    have hid : before.deployment.id = created.id :=
      hinv.rows _ _ (getDeployment_ok hread).1
    obtain ⟨result, next, after, hsave, haccepted, hsame⟩ := save_view hinv hread productId
    have hreread : next.getDeployment before.deployment.id = .ok after := haccepted.reread
    rw [hid] at hreread
    refine ⟨result, next, before, after, hsave, hread, hreread, ?_⟩
    intro other _
    by_cases hother : other = productId
    · rw [hother]
      exact hsame
    · exact haccepted.put_other rfl (hsync before hread) hother
  · intro productId _ deployment expectedRevision before hid hread hexpected
    rw [← hid] at hread
    exact (scopedSave_cases hinv.rows hread).2 hexpected

/-- Under the laws the primary's two sources agree: saving another product's view as read moves the
primary's view between them. -/
theorem inSync_of_lensLaws (hprimary : created.productId ∈ products)
    (hmulti : ∃ other ∈ products, other ≠ created.productId)
    (hlaws : LensLaws products store created.id)
    (hread : store.getDeployment created.id = .ok before) : InSync store before := by
  intro hmirrors
  obtain ⟨other, hother, hne⟩ := hmulti
  have hrow := (getDeployment_ok hread).1
  have hproduct : before.deployment.productId = created.productId := hinv.primary _ _ hrow
  have hid : before.deployment.id = created.id := hinv.rows _ _ hrow
  obtain ⟨result, next, after, hsave, haccepted, -⟩ := save_view hinv hread other
  obtain ⟨found, reread, hfound, hreread, -, hkept, -⟩ := hlaws.put other hother
    (overlaySnapshot before other).deployment none result next hid hsave
  obtain rfl : before = found := by
    rw [hread] at hfound
    exact Except.ok.inj hfound
  obtain rfl : after = reread := by
    have hafter : next.getDeployment before.deployment.id = .ok after := haccepted.reread
    rw [hid, hreread] at hafter
    exact (Except.ok.inj hafter).symm
  have hsame := congrArg ProductView.runtime (hkept created.productId hprimary (Ne.symm hne))
  have hmoved : ¬ mirrorsPrimaryRuntime after.deployment after.instrumentRuntimes = true := by
    intro h
    exact hne ((haccepted.mirrors.mp h).1.trans hproduct)
  rw [productView_runtime haccepted.nextKeyed (haccepted.nextKeyed.read haccepted.reread),
    if_neg (fun hboth => hmoved hboth.2), haccepted.rows, if_neg (Ne.symm hne),
    productView_runtime haccepted.keyed (haccepted.keyed.read haccepted.read),
    if_pos ⟨hproduct.symm, hmirrors⟩] at hsame
  rw [hproduct]
  exact hsame

end

section

variable {products : List String} {created : Deployment}

/-- The views of a multi-product deployment are lenses in exactly the reached stores where a sole
runtime row of the primary says what the deployment row says. -/
theorem scoped_views_lawful_iff {store : MemoryStore}
    (hreach : ScopedReachable products created store) (hprimary : created.productId ∈ products)
    (hmulti : ∃ other ∈ products, other ≠ created.productId) :
    LensLaws products store created.id ↔
      ∀ snapshot, store.getDeployment created.id = .ok snapshot → InSync store snapshot := by
  have hinv := hreach.inv hprimary
  constructor
  · intro hlaws snapshot hread
    exact inSync_of_lensLaws hinv hprimary hmulti hlaws hread
  · exact lensLaws_of_inSync hinv

theorem ScopedReachable.calls {calls : List ScopedCall} (h : ∀ call ∈ calls, call.Within products) :
    ScopedReachable products created
      (calls.foldl (fun store call => call.run store)
        (MemoryStore.empty.createDeployment created)) := by
  have hrun : ∀ store, ScopedReachable products created store →
      ScopedReachable products created (calls.foldl (fun store call => call.run store) store) := by
    induction calls with
    | nil =>
      intro store hstore
      exact hstore
    | cons call _ ih =>
      intro store hstore
      refine ih (fun later hlater => h later (mem_cons_of_mem _ hlater)) _ ?_
      exact hstore.next ⟨h call mem_cons_self, rfl⟩
  exact hrun _ (Reachable.start rfl)

end

def flatPair : Deployment :=
  { sampleDeployment with phase := .flat, pendingStopPrice := none }

def waitingPair : List ScopedCall :=
  [.saveDeployment "BTC-USD"
    { flatPair with phase := .pendingEntry, pendingStopPrice := some 90 } none]

def pairStore (calls : List ScopedCall) : MemoryStore :=
  calls.foldl (fun store call => call.run store) (MemoryStore.empty.createDeployment flatPair)

/-- The pair's read, with the row it was created from as a default. -/
def pairRead (store : MemoryStore) : DeploymentSnapshot :=
  match store.getDeployment 1 with
  | .ok snapshot => snapshot
  | .error _ => { deployment := flatPair }

def shownStop (store : MemoryStore) : Option Decimal :=
  (productView (pairRead store) "BTC-USD").runtime.pendingStopPrice

def savedEther (store : MemoryStore) : MemoryStore :=
  (scopedSave store "ETH-USD" (overlaySnapshot (pairRead store) "ETH-USD").deployment none).2

theorem pairRead_ok {store : MemoryStore} {snapshot : DeploymentSnapshot}
    (h : store.getDeployment 1 = .ok snapshot) : pairRead store = snapshot := by
  unfold pairRead
  rw [h]

/-- While the entry waits the pair's views are lenses, and BTC keeps its stop when ETH saves. -/
theorem scoped_views_lawful_waiting :
    LensLaws ["BTC-USD", "ETH-USD"] (pairStore waitingPair) 1 ∧
      shownStop (pairStore waitingPair) = some 90 ∧
      shownStop (savedEther (pairStore waitingPair)) = some 90 := by
  have hreach : ScopedReachable ["BTC-USD", "ETH-USD"] flatPair (pairStore waitingPair) := by
    refine ScopedReachable.calls ?_
    intro call hcall
    obtain rfl := mem_singleton.mp hcall
    exact mem_cons_self
  refine ⟨?_, by decide +kernel, by decide +kernel⟩
  refine (scoped_views_lawful_iff hreach mem_cons_self ⟨"ETH-USD", by simp, by decide⟩).mpr ?_
  intro snapshot hsnapshot _
  rw [← pairRead_ok hsnapshot]
  decide +kernel

/-- Once the entry fills they are not: the fill clears the stop of BTC's runtime row only, and ETH's
first save turns BTC's stop from 90 to none. -/
theorem entry_fill_splits_views :
    let store := pairStore (waitingPair ++ [.applyFill "BTC-USD" sampleEntryFill])
    ScopedReachable ["BTC-USD", "ETH-USD"] flatPair store ∧
      ¬ LensLaws ["BTC-USD", "ETH-USD"] store 1 ∧
      shownStop store = some 90 ∧ shownStop (savedEther store) = none := by
  intro store
  have hreach : ScopedReachable ["BTC-USD", "ETH-USD"] flatPair store := by
    refine ScopedReachable.calls ?_
    intro call hcall
    obtain rfl | hfill := mem_cons.mp hcall
    · exact mem_cons_self
    · obtain rfl := mem_singleton.mp hfill
      show (stampProduct sampleEntryFill.order "BTC-USD").productId ∈ _
      decide
  refine ⟨hreach, ?_, by decide +kernel, by decide +kernel⟩
  intro hlaws
  have hinv := hreach.inv (by decide)
  obtain ⟨row, hrow⟩ := hinv.stored
  obtain ⟨snapshot, hsnapshot, -⟩ := getDeployment_of_row hrow
  have hsync := inSync_of_lensLaws hinv mem_cons_self ⟨"ETH-USD", by simp, by decide⟩ hlaws
    hsnapshot
  rw [← pairRead_ok hsnapshot] at hsync
  exact absurd (hsync (by decide +kernel)) (by decide +kernel)

end Thytrader.Execution
