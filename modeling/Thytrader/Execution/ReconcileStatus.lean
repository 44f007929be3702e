import Thytrader.Execution.Reconcile

/-!
# Reconciliation and the operator's status

A reconcile run reads the book, awaits the venue, and writes rows computed from what it read. An
operator may change the status between any two of its awaits, and two kinds of writes can undo that:
an unfenced fault or cleared fault can carry a status read before the change; and
`_retain_reconcile_supervision` restores the status the run started from even over a STOPPED row
(`retain_unstops`).

`reconcile_status_not_relaxed` is the complement: without these, no step of the run unstops a book
or moves a paused one to RUNNING. Fill transactions and product-scoped saves need no condition: the
first compute the status inside the store, the second are fenced by the row's revision.
-/

namespace Thytrader.Execution

open Trading Lib MemoryStore List Option Guarded

variable {current : DeploymentSnapshot} {walk : Walk}

/-! ## What the run has seen -/

/-- One row as the run saw it. -/
structure Glimpse where
  id : Uuid
  revision : Int
  status : DeploymentStatus
  deriving DecidableEq

def glimpse (row : Deployment) : Glimpse := ⟨row.id, row.revision, row.status⟩

/-- The run has seen this snapshot's row. -/
def Knows (k : List Glimpse) (snapshot : DeploymentSnapshot) : Prop :=
  glimpse snapshot.deployment ∈ k

/-- What a deployment save may write, given what the run has seen. -/
def SaveAllowed (k : List Glimpse) (site : SaveSite) (row : Deployment) : Prop :=
  match site with
  | .fault => ∃ seen ∈ k, seen.id = row.id ∧ seen.revision = row.revision ∧
      row.status = if seen.status = .stopped then .stopped else .paused
  | .retain startedStatus => row.status ≠ .running ∧ (startedStatus = .stopped → row.status = .stopped)
  | .clear => glimpse row ∈ k

/-- What the awaits teach: the rows the store returned. -/
def learned (k : List Glimpse) (op : Op) (answer : op.Answer) : List Glimpse :=
  match op, answer with
  | .getDeployment _, .ok snapshot => glimpse snapshot.deployment :: k
  | .applyFill _ _ _ _ _, .ok (_, snapshot) => glimpse snapshot.deployment :: k
  | _, _ => k

/-- The run's own rules: a save writes what it may, fenced by nothing or by its row. -/
def discipline : Discipline Op Op.Answer (List Glimpse) where
  require k op :=
    match op with
    | .saveDeployment site row expectedRevision _ =>
      SaveAllowed k site row ∧ (expectedRevision = none ∨
        (site = .fault ∧ expectedRevision = some row.revision))
    | _ => True
  answers op answer :=
    match op, answer with
    | .getDeployment id, .ok snapshot => snapshot.deployment.id = id
    | _, _ => True
  learn := learned

theorem learned_subset (k : List Glimpse) (op : Op) (answer : op.Answer) :
    k ⊆ learned k op answer := by
  unfold learned
  split
  · exact subset_cons_self ..
  · exact subset_cons_self ..
  · exact List.Subset.refl k

variable {site : SaveSite} {snapshot : DeploymentSnapshot} {store next : MemoryStore}

section

variable {α : Type} {k : List Glimpse}

theorem guarded_grows {p : Reconcile α} {post : List Glimpse → α → Prop}
    (h : Guarded discipline k p post) :
    Guarded discipline k p (fun k' value => k ⊆ k' ∧ post k' value) :=
  keep (fun k' => k ⊆ k')
    (fun k' op answer _ hk => List.Subset.trans hk (learned_subset k' op answer)) (List.Subset.refl k) h

theorem utcNow_guarded : Guarded discipline k utcNow (fun k' _ => k' = k) :=
  ⟨trivial, fun _ _ => rfl⟩

theorem uuid7_guarded : Guarded discipline k uuid7 (fun k' _ => k' = k) :=
  ⟨trivial, fun _ _ => rfl⟩

theorem readDeployment_guarded (id : Uuid) :
    Guarded discipline k (StoreView.readDeployment id)
      (fun k' snapshot => Knows k' snapshot ∧ snapshot.deployment.id = id) := by
  refine ⟨trivial, fun answer hanswer => ?_⟩
  cases answer with
  | error => exact trivial
  | ok => exact ⟨mem_cons_self .., hanswer⟩

variable (view : StoreView)

theorem getDeployment_guarded (id : Uuid) :
    Guarded discipline k (view.getDeployment id) Knows := by
  refine bind (readDeployment_guarded id) (fun k' snapshot hknows => ?_)
  cases view with
  | shared | product => exact hknows.1

theorem saveFault_guarded {row : Deployment}
    (hsite : view = .shared ∨ site = .fault) (hrow : SaveAllowed k site row) :
    Guarded discipline k (view.saveDeployment site row) (fun _ _ => True) := by
  cases view with
  | shared =>
    refine ⟨⟨hrow, .inl rfl⟩, fun answer _ => ?_⟩
    cases answer with
    | error | ok => exact trivial
  | product productId =>
    have hfault : site = .fault := by
      rcases hsite with hview | hfault
      · cases hview
      · exact hfault
    subst hfault
    refine bind (guarded_grows (readDeployment_guarded row.id))
      (fun k' current hknows => ?_)
    obtain ⟨hsub, hknows, hid⟩ := hknows
    obtain ⟨hparentId, _, hparentRevision, hparentStatus⟩ :=
      scopedParent_fields current row productId
    obtain ⟨seen, hseen, hseenId, hseenRevision, hstatus⟩ := hrow
    refine bind (m := fun _ _ => True) ⟨⟨⟨seen, hsub hseen, ?_, ?_, ?_⟩, .inr ⟨rfl, ?_⟩⟩,
      fun answer _ => ?_⟩ (fun _ _ _ => trivial)
    · rw [hparentId, hid, hseenId]
    · rw [hparentRevision, hseenRevision]
    · rw [hparentStatus, hstatus]
    · rw [hparentRevision]
      rfl
    · cases answer with
      | error | ok => exact trivial

theorem ingestFill_guarded (snapshot : DeploymentSnapshot) (fill : Fill)
    (order : Order) (cooldownBars : Int) :
    Guarded discipline k (view.ingestFill snapshot fill order cooldownBars) Knows := by
  refine bind (m := fun k' applied => Knows k' applied.2)
    ⟨trivial, fun answer _ => ?_⟩ (fun k' applied hknows => ?_)
  · cases answer with
    | error => exact trivial
    | ok => exact mem_cons_self ..
  · cases view with
    | shared | product => exact hknows

variable (cooldownBars : Int)

theorem replayFills_guarded (fills : List Fill) (hknows : Knows k current) :
    Guarded discipline k (replayFills cooldownBars current fills) Knows := by
  induction fills generalizing k current with
  | nil => exact hknows
  | cons fill _ ih =>
    unfold replayFills
    split
    · exact ih hknows
    next order _ =>
      split
      · exact ih hknows
      · exact bind (ingestFill_guarded .shared current fill order cooldownBars)
          (fun k' updated hupdated => ih hupdated)

/-! ## Faults and retention -/

/-- The row of a fault carries the fault status of a row the run has seen. -/
theorem saveAllowed_fault (hknows : Knows k snapshot) (now : Time) (detail : String) :
    SaveAllowed k .fault (withRuntime snapshot.deployment now
      { status := some (faultStatus snapshot.deployment), mismatchDetail := some detail }) :=
  ⟨_, hknows, rfl, rfl, rfl⟩

theorem recordReconcileFault_guarded (detail : String) (hknows : Knows k snapshot) :
    Guarded discipline k (recordReconcileFault view snapshot detail) Knows := by
  refine bind utcNow_guarded (fun k' now hk => ?_)
  subst hk
  refine bind
    (saveFault_guarded view (.inr rfl) (saveAllowed_fault hknows now detail)) (fun k' _ _ => ?_)
  exact getDeployment_guarded view snapshot.deployment.id

variable (order : Order)

theorem pauseUnconfirmedSubmit_guarded (hknows : Knows k snapshot) :
    Guarded discipline k (pauseUnconfirmedSubmit view snapshot order) Knows := by
  refine bind utcNow_guarded (fun k' now hk => ?_)
  subst hk
  refine bind
    (saveFault_guarded view (.inr rfl) (saveAllowed_fault hknows now _)) (fun k' _ _ => ?_)
  exact getDeployment_guarded view order.deploymentId

theorem retainedStatus_spec {started current : DeploymentStatus} {firstFault : Option String}
    (h : ¬ (started = .running ∧ firstFault = none)) :
    retainedStatus started current firstFault ≠ .running ∧
      (started = .stopped → retainedStatus started current firstFault = .stopped) := by
  cases started with
  | stopped => exact ⟨by simp [retainedStatus], fun _ => rfl⟩
  | paused => exact ⟨by simp [retainedStatus], fun hstopped => absurd hstopped (by simp)⟩
  | running =>
    refine ⟨?_, fun hstopped => absurd hstopped (by simp)⟩
    have hfault : firstFault.isSome = true := by
      cases firstFault with
      | none => exact absurd ⟨rfl, rfl⟩ h
      | some => rfl
    simp [retainedStatus, hfault]

theorem retain_guarded (startedStatus : DeploymentStatus)
    (startedDetail firstFault : Option String) (hknows : Knows k snapshot) :
    Guarded discipline k
      (retainReconcileSupervision snapshot startedStatus startedDetail firstFault) Knows := by
  unfold retainReconcileSupervision
  dsimp only
  generalize (if firstFault.isSome = true then firstFault else startedDetail) = detail
  split
  · exact hknows
  · split
    · exact hknows
    next hretain =>
      refine bind utcNow_guarded (fun k' now hk => ?_)
      refine bind (saveFault_guarded .shared (.inl rfl) ?_) (fun k' _ _ => ?_)
      · exact retainedStatus_spec hretain
      · exact getDeployment_guarded .shared snapshot.deployment.id

theorem clearConfirmedReadFault_guarded (hknows : Knows k snapshot) :
    Guarded discipline k (clearConfirmedReadFault snapshot) Knows := by
  refine bind utcNow_guarded (fun k' now hk => ?_)
  subst hk
  refine bind (saveFault_guarded .shared (.inl rfl) ?_) (fun k' _ _ => ?_)
  · exact hknows
  · exact getDeployment_guarded .shared snapshot.deployment.id

/-! ## Venue reads

No venue read writes a deployment row; what is known before one is known after it. -/

/-- An await that is no deployment save and teaches no row. -/
theorem quiet_guarded (op : Op) (hop : discipline.require k op)
    (hlearn : ∀ answer, learned k op answer = k) :
    Guarded discipline k (.perform op .done : Reconcile op.Answer) (fun k' _ => k' = k) :=
  ⟨hop, fun answer _ => hlearn answer⟩

variable (broker : ReadBroker)

theorem getOrder_guarded (venueOrderId clientOrderId : String) :
    Guarded discipline k (broker.getOrder venueOrderId clientOrderId) (fun k' _ => k' = k) := by
  refine bind (quiet_guarded (.getOrder venueOrderId clientOrderId) trivial
    (fun _ => rfl)) (fun k' answer hk => ?_)
  split
  · exact hk
  · exact hk
  next result plan =>
    dsimp only
    split
    next listing product _ _ =>
      split
      · refine bind (quiet_guarded (.listFills product venueOrderId) trivial
          (fun _ => rfl)) (fun k'' fills hk' => ?_)
        cases fills with
        | none | some => exact hk'.trans hk
      · exact hk
    · exact hk

theorem listFills_guarded (productId orderId : String) :
    Guarded discipline k (broker.listFills productId orderId) (fun k' _ => k' = k) := by
  unfold ReadBroker.listFills
  split
  · exact bind (quiet_guarded (.listFills productId orderId) trivial (fun _ => rfl))
      (fun k' fills hk => hk)
  next plan _ =>
    split
    · exact rfl
    · split
      · exact rfl
      · refine bind (quiet_guarded (.listFills productId orderId) trivial
          (fun _ => rfl)) (fun k' fills hk => ?_)
        cases fills with
        | none | some => exact hk

theorem readVenueOrder_guarded (walk : Walk) (order : Order) (productId : String) :
    Guarded discipline k (readVenueOrder walk order productId) (fun k' _ => k' = k) := by
  unfold readVenueOrder
  split
  · refine bind (quiet_guarded (.findOrder order.clientOrderId productId order.createdAt)
      trivial (fun _ => rfl)) (fun k' found hk => ?_)
    cases found with
    | none | some => exact hk
  · exact bind (getOrder_guarded walk.broker _ order.clientOrderId) (fun k' answer hk => hk)

theorem saveOrder_guarded :
    Guarded discipline k (view.saveOrder order) (fun k' _ => k' = k) :=
  quiet_guarded (.saveOrder (view.stampOrder order)) trivial (fun _ => rfl)

theorem markReadFailed_guarded :
    Guarded discipline k (markReadFailed view order) (fun k' _ => k' = k) := by
  refine bind utcNow_guarded (fun k' now hk => ?_)
  subst hk
  exact saveOrder_guarded view _

theorem listWatchedFrom_guarded (snapshot : DeploymentSnapshot) (productId : Option String)
    (orders : List Order) (plan : Plan) :
    Guarded discipline k (listWatchedFrom snapshot productId plan orders) (fun k' _ => k' = k) := by
  induction orders generalizing k plan with
  | nil => exact rfl
  | cons order _ ih =>
    unfold listWatchedFrom
    split
    · exact ih plan
    next venueOrderId _ =>
      split
      · exact ih plan
      · refine bind (quiet_guarded (.listFills (orderProduct order productId
          snapshot.deployment) venueOrderId) trivial (fun _ => rfl)) (fun k' fills hk => ?_)
        subst hk
        cases fills with
        | none | some => exact ih _

/-! ## One order, and the walk -/

section

variable (view : StoreView) (order : Order)

theorem ingestFills_guarded (cooldownBars : Int) (fills : List Fill) (known : List String)
    (hknows : Knows k current) :
    Guarded discipline k (ingestFills view order cooldownBars current known fills)
      (fun k' result => Knows k' result.1) := by
  induction fills generalizing k current known with
  | nil => exact hknows
  | cons remote _ ih =>
    unfold ingestFills
    split
    · exact ih known hknows
    · refine bind utcNow_guarded (fun k' _ _ => ?_)
      refine bind uuid7_guarded (fun k' id _ => ?_)
      exact bind (ingestFill_guarded view current (localFill id order remote) order
        cooldownBars) (fun k' updated hupdated => ih _ hupdated)

theorem settleCanceled_guarded (hknows : Knows k current) :
    Guarded discipline k (settleCanceled view current order) Knows := by
  unfold settleCanceled
  dsimp only
  split
  · exact hknows
  · split
    · exact hknows
    · split
      · exact hknows
      · refine bind (getDeployment_guarded view _) (fun k' fresh hfresh => ?_)
        split
        · exact hfresh
        next stored _ =>
          split
          · exact hfresh
          · split
            · exact hfresh
            · refine bind (saveOrder_guarded view _) (fun k' _ _ => ?_)
              exact getDeployment_guarded view _

/-- A recorded fault ends one order's step with a row the run has seen. -/
theorem faultedWalk_guarded (detail : String) (broker : ReadBroker) (known : List String)
    (hknows : Knows k snapshot) :
    Guarded discipline k
      (do
        let faulted ← recordReconcileFault view snapshot detail
        return ({ snapshot := faulted, broker, known } : Walk))
      (fun k' walk => Knows k' walk.snapshot) :=
  bind (recordReconcileFault_guarded view detail hknows) (fun _ _ hfaulted => hfaulted)

theorem applyVenueRead_guarded (result : SubmitResult) (productId : String) (cooldownBars : Int)
    (hknows : Knows k walk.snapshot) :
    Guarded discipline k (applyVenueRead view walk order result productId cooldownBars)
      (fun k' walk => Knows k' walk.snapshot) := by
  unfold applyVenueRead
  dsimp only
  split
  · exact faultedWalk_guarded view _ walk.broker walk.known hknows
  · have hreceipt : Guarded discipline k
        (receiptTime walk.snapshot.deployment.mode result.status) (fun k' _ => k' = k) := by
      unfold receiptTime
      split
      · exact bind utcNow_guarded (fun k' now hk => hk)
      · exact rfl
    refine bind hreceipt (fun k' observedAt hk => ?_)
    subst hk
    refine bind utcNow_guarded (fun k' now hk => ?_)
    subst hk
    refine bind (saveOrder_guarded view _) (fun k' _ hk => ?_)
    subst hk
    refine bind (listFills_guarded walk.broker productId _) (fun k' listed hk => ?_)
    subst hk
    obtain ⟨listed, broker⟩ := listed
    cases listed with
    | none =>
      refine bind (markReadFailed_guarded view _) (fun k' _ hk => ?_)
      subst hk
      exact faultedWalk_guarded view _ broker walk.known hknows
    | some remoteFills =>
      dsimp only
      split
      · exact faultedWalk_guarded view _ broker walk.known hknows
      · refine bind (ingestFills_guarded view _ cooldownBars remoteFills walk.known hknows)
          (fun k' ingested hcurrent => ?_)
        obtain ⟨current, known⟩ := ingested
        split
        · exact faultedWalk_guarded view _ broker known hcurrent
        · split
          · exact faultedWalk_guarded view _ broker known hcurrent
          · exact bind (settleCanceled_guarded view _ hcurrent)
              (fun k' settled hsettled => hsettled)

theorem reconcileOneOrder_guarded (productId : String) (cooldownBars : Int) (read : Bool)
    (hknows : Knows k walk.snapshot) :
    Guarded discipline k (reconcileOneOrder view walk order productId cooldownBars read)
      (fun k' walk => Knows k' walk.snapshot) := by
  unfold reconcileOneOrder
  split
  · split
    · exact hknows
    · exact faultedWalk_guarded view _ walk.broker walk.known hknows
  · split
    · split
      · exact hknows
      · split
        · exact faultedWalk_guarded view _ walk.broker walk.known hknows
        · exact hknows
    · unfold reconcileVenueOrder
      split
      · exact hknows
      · refine bind (readVenueOrder_guarded walk order productId) (fun k' answer hk => ?_)
        subst hk
        obtain ⟨answer, broker⟩ := answer
        match answer with
        | none =>
          refine bind (markReadFailed_guarded view order) (fun k' _ hk => ?_)
          subst hk
          exact faultedWalk_guarded view _ broker walk.known hknows
        | some none =>
          exact bind (pauseUnconfirmedSubmit_guarded view order hknows)
            (fun k' paused hpaused => hpaused)
        | some (some result) =>
          have hbroker : Knows k' ({ walk with broker } : Walk).snapshot := hknows
          exact applyVenueRead_guarded view order result productId cooldownBars hbroker

end

theorem knows_overlay (productId : String) (hknows : Knows k snapshot) :
    Knows k (overlaySnapshot snapshot productId) := hknows

theorem walkOrders_guarded (started : Started) (productId : Option String) (cooldownBars : Int)
    (applied : List Uuid) (orders : List Order) (firstFault : Option String)
    (hknows : Knows k walk.snapshot) :
    Guarded discipline k (walkOrders started productId cooldownBars applied walk firstFault orders)
      (fun k' result => Knows k' result.1.snapshot) := by
  induction orders generalizing k walk firstFault with
  | nil => exact hknows
  | cons _ _ ih =>
    refine bind (reconcileOneOrder_guarded _ _ _ cooldownBars _
      (knows_overlay _ hknows)) (fun k' scope _ => ?_)
    refine bind (getDeployment_guarded .shared _) (fun k' refreshed hrefreshed => ?_)
    exact bind (retain_guarded started.status started.detail _ hrefreshed)
      (fun k' retained hretained => ih _ hretained)

theorem applyNewFills_guarded (deploymentId : Uuid) (productId : Option String) (cooldownBars : Int)
    (fills : List (Fill × Order)) (hknows : Knows k current) :
    Guarded discipline k (applyNewFills deploymentId productId cooldownBars current fills)
      Knows := by
  induction fills generalizing k current with
  | nil => exact hknows
  | cons _ _ ih =>
    refine bind utcNow_guarded (fun k' _ _ => ?_)
    refine bind uuid7_guarded (fun k' id _ => ?_)
    refine bind (ingestFill_guarded _ _ _ _ cooldownBars) (fun k' _ _ => ?_)
    exact bind (getDeployment_guarded .shared deploymentId)
      (fun k' refreshed hrefreshed => ih hrefreshed)

variable (productId : Option String)

theorem applyNewFillsInExecutionOrder_guarded (cooldownBars : Int) (hknows : Knows k snapshot) :
    Guarded discipline k (applyNewFillsInExecutionOrder snapshot broker productId cooldownBars)
      (fun k' result => Knows k' result.1) := by
  unfold applyNewFillsInExecutionOrder
  split
  · exact hknows
  · refine bind (listWatchedFrom_guarded snapshot productId _ _) (fun k' listed hk => ?_)
    subst hk
    exact bind (applyNewFills_guarded _ productId cooldownBars _ hknows)
      (fun k' current hcurrent => hcurrent)

theorem importChildren_guarded (primary : Deployment) (productId : Option String)
    (cooldownBars : Int) (orders : List Order) (broker : ReadBroker) (knownVenues : List String)
    (firstFault : Option String) (hknows : Knows k current) :
    Guarded discipline k (importChildren primary productId cooldownBars current broker knownVenues
      firstFault orders) (fun k' result => Knows k' result.1) := by
  induction orders generalizing k current broker knownVenues firstFault with
  | nil => exact hknows
  | cons _ _ ih =>
    unfold importChildren
    split
    · exact ih broker knownVenues firstFault hknows
    next childId _ =>
      refine bind utcNow_guarded (fun k' _ _ => ?_)
      refine bind uuid7_guarded (fun k' id _ => ?_)
      refine bind utcNow_guarded (fun k' createdAt _ => ?_)
      refine bind utcNow_guarded (fun k' updatedAt _ => ?_)
      refine bind (saveOrder_guarded .shared _) (fun k' _ _ => ?_)
      refine bind (getDeployment_guarded .shared _) (fun k' imported himported => ?_)
      refine bind (reconcileOneOrder_guarded _ _ _ cooldownBars _
        (knows_overlay _ himported)) (fun k' scope _ => ?_)
      exact bind (getDeployment_guarded .shared _)
        (fun k' refreshed hrefreshed => ih _ _ _ hrefreshed)

theorem importAttachedChildren_guarded (cooldownBars : Int) (hknows : Knows k snapshot) :
    Guarded discipline k (importAttachedChildren snapshot broker productId cooldownBars)
      (fun k' result => Knows k' result.1) := by
  refine bind (importChildren_guarded snapshot.deployment productId cooldownBars
    snapshot.orders broker _ none hknows) (fun k' result hcurrent => ?_)
  obtain ⟨current, broker, firstFault⟩ := result
  exact bind (retain_guarded snapshot.deployment.status _ firstFault hcurrent)
    (fun k' retained hretained => hretained)

theorem replayAndFault_guarded (hknows : Knows k snapshot) :
    Guarded discipline k (replayAndFault snapshot cooldownBars) Knows := by
  refine bind (replayFills_guarded cooldownBars _ hknows) (fun k' replayed hreplayed => ?_)
  have hproject : ∀ k'' settled, Knows k'' settled → Guarded discipline k''
      (if settled.deployment.status = .running ∧ unprojectedInventoryProducts settled ≠ [] then
        recordReconcileFault .shared settled "Applied fills contain unprojected inventory."
      else pure settled) Knows := by
    intro k'' settled hsettled
    split
    · exact recordReconcileFault_guarded .shared _ hsettled
    · exact hsettled
  split
  · exact bind (recordReconcileFault_guarded .shared _ hreplayed) hproject
  · exact bind (pure hreplayed) hproject

/-- Every deployment row the run saves is computed from a row it has seen. -/
theorem reconcileOpenOrders_guarded (cooldownBars : Int) (hknows : Knows k snapshot) :
    Guarded discipline k (reconcileOpenOrders snapshot broker productId cooldownBars) Knows := by
  refine bind (replayAndFault_guarded cooldownBars hknows) (fun k' unread hunread => ?_)
  refine bind (applyNewFillsInExecutionOrder_guarded broker productId cooldownBars hunread)
    (fun k' result hcurrent => ?_)
  obtain ⟨current, broker, applied⟩ := result
  refine bind (retain_guarded _ _ _ hcurrent) (fun k' retained hretained => ?_)
  have hwalk : Knows k' ({ snapshot := retained
                           broker
                           known := current.fills.map (·.venueFillId) } : Walk).snapshot :=
    hretained
  refine bind (walkOrders_guarded _ productId cooldownBars applied _ _ hwalk)
    (fun k' result _ => ?_)
  obtain ⟨walk, firstFault⟩ := result
  refine bind (getDeployment_guarded .shared _) (fun k' children hchildren => ?_)
  refine bind (importAttachedChildren_guarded walk.broker productId cooldownBars hchildren)
    (fun k' result _ => ?_)
  refine bind (getDeployment_guarded .shared _) (fun k' refreshed hrefreshed => ?_)
  refine bind (retain_guarded _ _ _ hrefreshed) (fun k' final hfinal => ?_)
  generalize (if broker.paper = true ∧ retained.deployment.mode ≠ .paper then none
    else some (unread.orders.map (·.id))) = walked
  split
  · refine bind (guarded_grows (readDeployment_guarded _)) (fun k' accounting hread => ?_)
    have hknown : Knows k' final := hread.1 hfinal
    split
    · exact clearConfirmedReadFault_guarded hknown
    · exact hknown
  · exact hfinal

end

/-! ## What the seen rows say about the store -/

def RowsOwn (store : MemoryStore) : Prop :=
  ∀ id row, store.deployments.get? id = some row → row.id = id

/-- No row is lost, and a row that was written carries a later revision. -/
structure Advances (before after : MemoryStore) : Prop where
  own : RowsOwn after
  rows : ∀ id row, before.deployments.get? id = some row →
    ∃ next, after.deployments.get? id = some next ∧ (next = row ∨ row.revision < next.revision)

variable {before after : MemoryStore}

theorem Advances.of_rows (hown : RowsOwn before)
    (h : after.deployments = before.deployments) : Advances before after := by
  refine ⟨?_, fun id row hrow => ⟨row, by rw [h]; exact hrow, .inl rfl⟩⟩
  intro id row hrow
  rw [h] at hrow
  exact hown id row hrow

section

variable {row : Deployment} {id : Uuid} {before after : MemoryStore}
  (h : after.deployments = before.deployments.set id row) (hown : RowsOwn before)
  (hid : row.id = id)
include h hown hid

theorem Advances.of_set
    (hrevision : ∀ current, before.deployments.get? id = some current → current.revision <
      row.revision) : Advances before after := by
  refine ⟨Dict.forall_set h hid hown, fun other current hcurrent => ?_⟩
  rw [h, Dict.get?_set]
  split
  next hother =>
    rw [hother] at hcurrent
    exact ⟨row, rfl, .inr (hrevision current hcurrent)⟩
  · exact ⟨current, hcurrent, .inl rfl⟩

theorem Advances.of_write {current : Deployment}
    (hcurrent : before.deployments.get? id = some current)
    (hrevision : row.revision = current.revision + 1) : Advances before after := by
  refine Advances.of_set h hown hid (fun other hother => ?_)
  rw [hcurrent] at hother
  rw [← Option.some.inj hother, hrevision]
  exact lt_add_one current.revision

end

/-- A row the run has seen: not ahead of the store, and current at the stored revision. -/
def Current (store : MemoryStore) (seen : Glimpse) : Prop :=
  ∃ row, store.deployments.get? seen.id = some row ∧ seen.revision ≤ row.revision ∧
    (seen.revision = row.revision → seen.status = row.status)

theorem Current.advances {seen : Glimpse} (h : Current before seen)
    (hadvances : Advances before after) : Current after seen := by
  obtain ⟨row, hrow, hle, hstatus⟩ := h
  obtain ⟨next, hnext, hsame | hlater⟩ := hadvances.rows seen.id row hrow
  · rw [← hsame] at hle hstatus
    exact ⟨next, hnext, hle, hstatus⟩
  · exact ⟨next, hnext, by omega, fun heq => by omega⟩

theorem current_of_read (hown : RowsOwn store) {id : Uuid}
    (h : store.getDeployment id = .ok snapshot) :
    Current store (glimpse snapshot.deployment) := by
  have hrow := (getDeployment_ok h).1
  refine ⟨snapshot.deployment, ?_, le_refl _, fun _ => rfl⟩
  rw [show (glimpse snapshot.deployment).id = id from hown id _ hrow]
  exact hrow

/-- What the run knows is true of the store. -/
def SeenInv (k : List Glimpse) (store : MemoryStore) : Prop :=
  RowsOwn store ∧ ∀ seen ∈ k, Current store seen

theorem SeenInv.advances {k : List Glimpse} (h : SeenInv k before)
    (hadvances : Advances before after) : SeenInv k after :=
  ⟨hadvances.own, fun seen hseen => (h.2 seen hseen).advances hadvances⟩

/-! ## Other clients -/

/-- Another client's store call; a new deployment takes a fresh id. -/
def otherCall (store : MemoryStore) (call : StoreCall) (next : MemoryStore) : Prop :=
  (∀ deployment, call = .createDeployment deployment →
    store.deployments.get? deployment.id = none) ∧ next = call.run store

theorem otherCall_advances {call : StoreCall} (hown : RowsOwn store)
    (h : otherCall store call next) : Advances store next := by
  obtain ⟨hfresh, rfl⟩ := h
  have hleft := call.run_leaves store
  generalize call.run store = next at hleft ⊢
  cases hleft with
  | created deployment =>
    refine Advances.of_set rfl hown rfl (fun current hcurrent => ?_)
    rw [hfresh deployment rfl] at hcurrent
    cases hcurrent
  | saved hcurrent _ _ hrows => exact Advances.of_write hrows hown rfl hcurrent rfl
  | paused hcurrent | leased hcurrent | funded hcurrent =>
    have hid := hown _ _ hcurrent
    exact Advances.of_write rfl hown hid hcurrent rfl
  | restored order => exact Advances.of_rows hown (replaceOrder_frame store order).2
  | ordered =>
    exact Advances.of_rows hown (replaceOrder_frame store _).2
  | applied call =>
    rcases applyFill_row call hown with ⟨_, hrows⟩ |
      ⟨current, row, _, hcurrent, hid, hrevision, _, hrows⟩
    · exact Advances.of_rows hown hrows
    · exact Advances.of_write hrows hown hid hcurrent hrevision
  | _ => exact Advances.of_rows hown rfl

/-! ## The run's own steps -/

def statusOf (store : MemoryStore) (id : Uuid) : Option DeploymentStatus :=
  (store.deployments.get? id).map (·.status)

/-- No book is unstopped, and no paused one runs. -/
def NotRelaxed (before after : MemoryStore) : Prop :=
  ∀ id, (statusOf before id = some .stopped → statusOf after id = some .stopped) ∧
    (statusOf before id = some .paused → statusOf after id ≠ some .running)

/-- An unfenced fault or clear finds the revision it was computed from; a retention finds a book
that is not STOPPED unless it restores STOPPED. -/
def heeds (store : MemoryStore) : Op → Bool
  | .saveDeployment site row none _ =>
    (store.deployments.get? row.id).all (fun current =>
      match site with
      | .retain startedStatus => current.status ≠ .stopped ∨ startedStatus = .stopped
      | _ => current.revision = row.revision)
  | _ => true

theorem NotRelaxed.of_rows
    (h : after.deployments = before.deployments) : NotRelaxed before after := by
  intro id
  unfold statusOf
  rw [h]
  exact ⟨fun hstopped => hstopped, fun hpaused => by rw [hpaused]; simp⟩

theorem NotRelaxed.of_set {id : Uuid} {current row : Deployment}
    (h : after.deployments = before.deployments.set id row)
    (hcurrent : before.deployments.get? id = some current)
    (hstopped : current.status = .stopped → row.status = .stopped)
    (hpaused : current.status = .paused → row.status ≠ .running) : NotRelaxed before after := by
  intro other
  unfold statusOf
  rw [h, Dict.get?_set]
  split
  next hother =>
    subst hother
    rw [hcurrent, map_some, map_some]
    refine ⟨fun hs => ?_, fun hp => ?_⟩
    · rw [hstopped (Option.some.inj hs)]
    · intro hrunning
      exact hpaused (Option.some.inj hp) (Option.some.inj hrunning)
  · exact ⟨fun hs => hs, fun hp => by rw [hp]; simp⟩

theorem saveAllowed_not_relaxed {k : List Glimpse} {row current : Deployment}
    {expectedRevision : Option Int} {instrumentRuntime : Option InstrumentRuntime}
    (hinv : SeenInv k store) (hallowed : SaveAllowed k site row)
    (hfence : expectedRevision = none ∨ (site = .fault ∧ expectedRevision = some row.revision))
    (hheeds : heeds store (.saveDeployment site row expectedRevision instrumentRuntime) = true)
    (hcurrent : store.deployments.get? row.id = some current)
    (hexpected : expectedRevision = none ∨ expectedRevision = some current.revision) :
    (current.status = .stopped → row.status = .stopped) ∧
      (current.status = .paused → row.status ≠ .running) := by
  -- a row seen at the stored revision carries the stored status
  have hseen : ∀ seen ∈ k, seen.id = row.id → seen.revision = current.revision →
      seen.status = current.status := by
    intro seen hmem hid hrevision
    obtain ⟨stored, hstored, _, hstatus⟩ := hinv.2 seen hmem
    rw [hid, hcurrent] at hstored
    rw [← Option.some.inj hstored] at hstatus
    exact hstatus hrevision
  cases site with
  | fault =>
    obtain ⟨seen, hmem, hid, hrevision, hstatus⟩ := hallowed
    have hsame : row.revision = current.revision := by
      rcases hfence with hnone | ⟨_, hsome⟩
      · subst hnone
        simp only [heeds, hcurrent, all_some, decide_eq_true_eq] at hheeds
        exact hheeds.symm
      · rcases hexpected with hnone | hequal
        · rw [hnone] at hsome
          cases hsome
        · rw [hequal] at hsome
          exact (Option.some.inj hsome).symm
    rw [hstatus, hseen seen hmem hid (hrevision.trans hsame)]
    refine ⟨fun hs => if_pos hs, fun hp => ?_⟩
    rw [if_neg (by rw [hp]; simp)]
    simp
  | retain =>
    obtain ⟨hrunning, hstarted⟩ := hallowed
    rcases hfence with hnone | ⟨hsite, _⟩
    · subst hnone
      simp only [heeds, hcurrent, all_some, decide_eq_true_eq] at hheeds
      refine ⟨fun hs => ?_, fun _ => hrunning⟩
      rcases hheeds with hnot | hstopped
      · exact absurd hs hnot
      · exact hstarted hstopped
    · cases hsite
  | clear =>
    rcases hfence with hnone | ⟨hsite, _⟩
    · subst hnone
      simp only [heeds, hcurrent, all_some, decide_eq_true_eq] at hheeds
      have hstatus : row.status = current.status := hseen _ hallowed rfl hheeds.symm
      rw [hstatus]
      exact ⟨fun hs => hs, fun hp => by rw [hp]; simp⟩
    · cases hsite

/-- A fill transaction keeps a status or pauses a book that was not stopped. -/
theorem applyFill_not_relaxed (hown : RowsOwn store) (call : FillCall) :
    NotRelaxed store (call.run store).2 := by
  rcases applyFill_row call hown with ⟨_, hrows⟩ | ⟨current, row, _, hcurrent, _, _, hstatus, hrows⟩
  · exact NotRelaxed.of_rows hrows
  · refine NotRelaxed.of_set hrows hcurrent (fun hs => ?_) (fun hp => ?_)
    · rcases hstatus with h | h
      · rw [h, hs]
      · rw [h, faultStatus, if_pos hs]
    · rcases hstatus with h | h
      · rw [h, hp]
        simp
      · rw [h]
        exact faultStatus_ne_running current

theorem applyFill_read {call : FillCall} {applied : Bool}
    (h : (.ok (applied, snapshot), next) = call.run store) :
    next.getDeployment call.deploymentId = .ok snapshot := by
  have houtcome := call.run_outcome store
  rw [← h] at houtcome
  cases houtcome with
  | duplicate hsnapshot => exact hsnapshot
  | projected _ _ _ hread => exact hread

theorem reconcile_sound :
    Guarded.Sound discipline exec otherCall SeenInv (fun store op => heeds store op = true)
      NotRelaxed := by
  have hquiet : ∀ (k : List Glimpse) (store : MemoryStore), SeenInv k store →
      SeenInv k store ∧ NotRelaxed store store :=
    fun k store hinv => ⟨hinv, NotRelaxed.of_rows rfl⟩
  refine ⟨?_, fun k store call next hinv hcall =>
    hinv.advances (otherCall_advances hinv.1 hcall)⟩
  intro k store op answer next hinv hrequire hheeds hexec
  cases op with
  | getDeployment id =>
    obtain ⟨hanswer, rfl⟩ := hexec
    cases answer with
    | error => exact ⟨trivial, hquiet k next hinv⟩
    | ok =>
      have hrow := (getDeployment_ok hanswer.symm).1
      refine ⟨hinv.1 id _ hrow, ⟨hinv.1, fun seen hseen => ?_⟩, NotRelaxed.of_rows rfl⟩
      rcases mem_cons.mp hseen with rfl | hold
      · exact current_of_read hinv.1 hanswer.symm
      · exact hinv.2 seen hold
  | saveDeployment _ row expectedRevision instrumentRuntime =>
    obtain ⟨hallowed, hfence⟩ := hrequire
    refine ⟨trivial, ?_⟩
    have hnext : next = (store.saveDeployment row expectedRevision instrumentRuntime).2 :=
      congrArg Prod.snd hexec
    rcases saveDeployment_cases store row expectedRevision instrumentRuntime with
      ⟨failure, hrun⟩ | ⟨current, saved, hcurrent, hexpected, hrun, hrows, _⟩
    · rw [hrun] at hnext
      rw [hnext]
      exact hquiet k store hinv
    · rw [hrun] at hnext
      rw [hnext]
      obtain ⟨hstopped, hpaused⟩ := saveAllowed_not_relaxed hinv hallowed hfence hheeds hcurrent
        hexpected
      exact ⟨hinv.advances (Advances.of_write hrows hinv.1 rfl hcurrent rfl),
        NotRelaxed.of_set hrows hcurrent hstopped hpaused⟩
  | saveOrder order =>
    have hnext : next = (store.saveOrder order).2 := congrArg Prod.snd hexec
    have hrows : next.deployments = store.deployments := by
      rw [hnext]
      exact (replaceOrder_frame store _).2
    exact ⟨trivial, hinv.advances (Advances.of_rows hinv.1 hrows), NotRelaxed.of_rows hrows⟩
  | applyFill deploymentId fill order cooldownBars timeframe =>
    obtain ⟨now, after, hrun⟩ := hexec
    let call : FillCall := ⟨deploymentId, fill, order, cooldownBars, timeframe, now, after⟩
    have hnext : next = (call.run store).2 := congrArg Prod.snd hrun
    have hcall : otherCall store (.applyFill call) next := ⟨fun _ h => absurd h (by simp), hnext⟩
    have hadvances : Advances store next := otherCall_advances hinv.1 hcall
    refine ⟨trivial, ?_, by rw [hnext]; exact applyFill_not_relaxed hinv.1 call⟩
    have hold := hinv.advances hadvances
    cases answer with
    | error => exact hold
    | ok result =>
      obtain ⟨applied, snapshot⟩ := result
      have hran : (.ok (applied, snapshot), next) = call.run store := hrun
      refine ⟨hold.1, fun seen hseen => ?_⟩
      rcases mem_cons.mp hseen with rfl | hmem
      · exact current_of_read hold.1 (applyFill_read hran)
      · exact hold.2 seen hmem
  | getOrder | listFills | findOrder | clock | freshId =>
    obtain rfl : next = store := hexec
    exact ⟨trivial, hquiet k next hinv⟩

/-! ## Every interleaving -/

/-- A run's configuration: the shared store and the rest of the run. -/
abbrev ReconcileConfig := Config MemoryStore Failure Op Op.Answer DeploymentSnapshot

def reconcileStep : ReconcileConfig → Turn Op StoreCall → ReconcileConfig → Prop :=
  Interleave exec otherCall

/-- A step whose unfenced save, if it is one, heeds the stored row. -/
def heedfulStep (c : ReconcileConfig) (turn : Turn Op StoreCall) (c' : ReconcileConfig) : Prop :=
  reconcileStep c turn c' ∧ ∀ op, turn = .own op → heeds c.state op = true

/-- A heedful step in which no other client unstops the book `id`. -/
def undisturbedStep (id : Uuid) (c : ReconcileConfig) (turn : Turn Op StoreCall)
    (c' : ReconcileConfig) : Prop :=
  heedfulStep c turn c' ∧ ∀ call, turn = .other call →
    statusOf c.state id = some .stopped → statusOf c'.state id = some .stopped

/-- In every interleaving of one run with other clients' store calls whose unfenced saves heed the
stored row: no step of the run unstops a book or moves a paused one to RUNNING, and a STOPPED book
stays STOPPED unless another client unstops it. -/
theorem reconcile_status_not_relaxed {store : MemoryStore} {snapshot : DeploymentSnapshot}
    {broker : ReadBroker} {productId : Option String} {cooldownBars : Int} (hown : RowsOwn store)
    (hread : (store.deployments.get? snapshot.deployment.id).map glimpse =
      some (glimpse snapshot.deployment)) {turns : List (Turn Op StoreCall)} {c : ReconcileConfig}
    (hrun : Run heedfulStep
      ⟨store, reconcileOpenOrders snapshot broker productId cooldownBars⟩ turns c) :
    (∀ op c', heedfulStep c (.own op) c' → NotRelaxed c.state c'.state) ∧
    (∀ id later c', Run (undisturbedStep id) c later c' →
      statusOf c.state id = some .stopped → statusOf c'.state id = some .stopped) := by
  let holds := Guarded.Holds discipline SeenInv (fun k snapshot => Knows k snapshot)
    (ε := Failure)
  have hstep : ∀ (a : ReconcileConfig) turn b, holds a → heedfulStep a turn b →
      holds b ∧ ((∃ op, turn = .own op) → NotRelaxed a.state b.state) :=
    fun a turn b ha hab => interleave reconcile_sound ha hab.1 hab.2
  have hstart : holds ⟨store, reconcileOpenOrders snapshot broker productId cooldownBars⟩ := by
    refine ⟨[glimpse snapshot.deployment], ⟨hown, fun seen hseen => ?_⟩,
      reconcileOpenOrders_guarded broker productId cooldownBars (mem_singleton.mpr rfl)⟩
    obtain ⟨row, hrow, hglimpse⟩ := map_eq_some_iff.mp hread
    rw [mem_singleton.mp hseen, ← hglimpse]
    refine ⟨row, ?_, le_refl _, fun _ => rfl⟩
    rw [show (glimpse row).id = snapshot.deployment.id from hown _ row hrow]
    exact hrow
  have hc : holds c := Run.invariant holds (fun a turn b ha hab => (hstep a turn b ha hab).1) hrun
    hstart
  refine ⟨fun op c' hown' => (hstep c _ c' hc hown').2 ⟨op, rfl⟩, ?_⟩
  intro id later c' hlater hstopped
  have hinv := Run.invariant (fun a => holds a ∧ statusOf a.state id = some .stopped) ?_ hlater
    ⟨hc, hstopped⟩
  · exact hinv.2
  · rintro a turn b ⟨ha, hs⟩ ⟨hab, hother⟩
    obtain ⟨hb, hguarantee⟩ := hstep a turn b ha hab
    refine ⟨hb, ?_⟩
    cases turn with
    | own op => exact (hguarantee ⟨op, rfl⟩ id).1 hs
    | other call => exact hother call rfl hs

/-! ## The retention that unstops -/

/-- The next operation with a clock at zero and a venue that does not answer. -/
def answerOf (op : Op) (store : MemoryStore) : op.Answer × MemoryStore :=
  match op with
  | .getDeployment id => (store.getDeployment id, store)
  | .saveDeployment _ row expectedRevision instrumentRuntime =>
    store.saveDeployment row expectedRevision instrumentRuntime
  | .saveOrder order => store.saveOrder order
  | .applyFill deploymentId fill order cooldownBars timeframe =>
    store.applyFillTransaction deploymentId fill order cooldownBars timeframe 0 0
  | .getOrder _ _ => (none, store)
  | .listFills _ _ => (none, store)
  | .findOrder _ _ _ => (none, store)
  | .clock => ((0 : Time), store)
  | .freshId => ((0 : Uuid), store)

theorem exec_answerOf (op : Op) (store : MemoryStore) :
    exec op store (answerOf op store).1 (answerOf op store).2 := by
  cases op with
  | getDeployment => exact ⟨rfl, rfl⟩
  | applyFill => exact ⟨0, 0, rfl⟩
  | _ => exact rfl

/-- One step of the run alone; a finished run stays. -/
def ownStep (c : ReconcileConfig) : ReconcileConfig :=
  match c.program with
  | .perform op next => ⟨(answerOf op c.state).2, next (answerOf op c.state).1⟩
  | _ => c

/-- The run's next save, if it is one, heeds the stored row. -/
def ownHeeds (c : ReconcileConfig) : Bool :=
  match c.program with
  | .perform op _ => heeds c.state op
  | _ => true

/-- The run alone for up to `n` steps. -/
def ownSteps (c : ReconcileConfig) : Nat → ReconcileConfig
  | 0 => c
  | n + 1 => ownSteps (ownStep c) n

theorem ownSteps_run (n : Nat) (c : ReconcileConfig) :
    ∃ turns, Run (fun a turn b => reconcileStep a turn b ∧ ∃ op, turn = .own op) c turns
      (ownSteps c n) := by
  induction n generalizing c with
  | zero => exact ⟨[], .nil c⟩
  | succ _ ih =>
    obtain ⟨turns, hrun⟩ := ih (ownStep c)
    obtain ⟨state, program⟩ := c
    cases program with
    | done | raise => exact ⟨turns, hrun⟩
    | perform op =>
      exact ⟨.own op :: turns, .cons ⟨.own (exec_answerOf op state), op, rfl⟩ hrun⟩

theorem ownSteps_heedful {step : ReconcileConfig → Turn Op StoreCall → ReconcileConfig → Prop}
    (hstep : ∀ a op b, heedfulStep a (.own op) b → step a (.own op) b) (n : Nat) (c : ReconcileConfig)
    (hheeds : ∀ i < n, ownHeeds (ownSteps c i) = true) {rest : List (Turn Op StoreCall)}
    {c' : ReconcileConfig} (hrest : Run step (ownSteps c n) rest c') :
    ∃ turns, Run step c turns c' := by
  induction n generalizing c with
  | zero => exact ⟨rest, hrest⟩
  | succ _ ih =>
    obtain ⟨turns, hrun⟩ := ih (ownStep c) (fun i hi => hheeds (i + 1) (by omega)) hrest
    have hfirst := hheeds 0 (by omega)
    obtain ⟨state, program⟩ := c
    cases program with
    | done | raise => exact ⟨turns, hrun⟩
    | perform op =>
      refine ⟨.own op :: turns, .cons (hstep _ op _ ⟨.own (exec_answerOf op state), ?_⟩) hrun⟩
      intro other hother
      cases hother
      exact hfirst

def restingOrder : Order := { sampleOrder 5 .buy with venueOrderId := some "venue-1" }

def statusBook (status : DeploymentStatus) (mode : DeploymentMode) : Deployment :=
  { sampleDeployment with status, mode }

/-- The sample book with its orders. -/
def statusStore (book : Deployment) (orders : List Order) : MemoryStore :=
  orders.foldl (fun store order => (store.saveOrder order).2) (MemoryStore.empty.createDeployment book)

/-- Its reconciliation; no read of the venue is answered. -/
def statusRun (book : Deployment) (orders : List Order) : ReconcileConfig :=
  ⟨statusStore book orders,
    reconcileOpenOrders { deployment := book, orders } ⟨book.mode = .paper, false, none⟩ none 0⟩

def operatorStop (book : Deployment) : StoreCall :=
  .saveDeployment { book with status := .stopped } none none

/-- What the operator's STOP leaves of a run. -/
def stopped (book : Deployment) (c : ReconcileConfig) : ReconcileConfig :=
  ⟨(operatorStop book).run c.state, c.program⟩

theorem stopped_other (book : Deployment) (c : ReconcileConfig) :
    reconcileStep c (.other (operatorStop book)) (stopped book c) :=
  .other ⟨fun _ h => absurd h (by simp [operatorStop]), rfl⟩

/-- A run from a PAUSED book, with one operator STOP before its first read, leaves the book PAUSED.
-/
theorem retain_unstops :
    let book := statusBook .paused .paper
    let run := statusRun book []
    reconcileStep run (.other (operatorStop book)) (stopped book run) ∧
    statusOf (stopped book run).state 1 = some .stopped ∧
    (∃ turns, Run (fun a turn b => reconcileStep a turn b ∧ ∃ op, turn = .own op) (stopped book run)
      turns (ownSteps (stopped book run) 5)) ∧
    statusOf (ownSteps (stopped book run) 5).state 1 = some .paused :=
  ⟨stopped_other _ _, by decide +kernel, ownSteps_run 5 _, by decide +kernel⟩

def runningBook : Deployment := statusBook .running .live

/-- The read of the order fails and the book is paused for it. -/
def pausedRun : ReconcileConfig := ownSteps (statusRun runningBook [restingOrder]) 7

/-- A run that started from a RUNNING book leaves a STOP that comes after its pause. -/
theorem reconcile_status_not_relaxed_running :
    let late := stopped runningBook pausedRun
    statusOf pausedRun.state 1 = some .paused ∧
    ∃ turns, Run (undisturbedStep 1) late turns (ownSteps late 5) ∧
      statusOf (ownSteps late 5).state 1 = some .stopped := by
  have hrow : (statusStore runningBook [restingOrder]).deployments =
      Dict.empty.set 1 runningBook := rfl
  have hown : RowsOwn (statusStore runningBook [restingOrder]) := by
    intro id row h
    rw [hrow, Dict.get?_set] at h
    obtain ⟨hid, h⟩ := of_ite_ne_else h nofun
    rw [← Option.some.inj h, hid]
    rfl
  have hread : ((statusStore runningBook [restingOrder]).deployments.get? 1).map glimpse =
      some (glimpse runningBook) := by decide +kernel
  obtain ⟨before, hbefore⟩ := ownSteps_heedful (fun _ _ _ h => h) 7
    (statusRun runningBook [restingOrder]) (by decide +kernel)
    (.cons ⟨stopped_other runningBook _, fun _ h => absurd h (by simp)⟩ (.nil _))
  obtain ⟨later, hlater⟩ := @ownSteps_heedful (undisturbedStep 1)
    (fun _ _ _ h => ⟨h, fun _ h => absurd h (by simp)⟩) 5 (stopped runningBook pausedRun)
    (by decide +kernel) _ _ (.nil _)
  obtain ⟨_, hstays⟩ := reconcile_status_not_relaxed hown hread hbefore
  exact ⟨by decide +kernel, later, hlater, hstays 1 later _ hlater (by decide +kernel)⟩

end Thytrader.Execution
