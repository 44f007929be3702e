import Thytrader.Trading.FillCash

/-!
# Isolation of a fill

`apply_fill_transaction` reads the whole deployment, projects one product's view of it and merges
the result back. It may write one deployment row, one product's position and runtime row, one order
and one fill (`applyFill_isolated`). The frame is stated on the read side (`Untouched`). Sibling
runtimes are written again, each with the row the store already holds.

Beside the promises of `FillCash`, orders need an owner: an order id and a client order
id (which carries its deployment's id) belong to one deployment. The store finds the
order to replace by its client id alone.
-/

namespace Thytrader.Trading

open Lib MemoryStore List Dict Reachable

/-! ## Order ownership -/

/-- Which deployment an order id and a client order id belong to. -/
structure OrderOwner where
  byId : Uuid → Uuid
  byClientId : String → Uuid

/-- The order carries its owner's ids. -/
structure Order.OwnedBy (owner : OrderOwner) (order : Order) : Prop where
  id : owner.byId order.id = order.deploymentId
  clientId : owner.byClientId order.clientOrderId = order.deploymentId

def StoreCall.OwnsOrders (owner : OrderOwner) : StoreCall → Prop
  | .restoreOrder order => order.OwnedBy owner
  | .saveOrder order => order.OwnedBy owner
  | .applyFill call => call.order.OwnedBy owner
  | _ => True

/-- One store call by a caller that keeps every promise. -/
def ownedStep (identity : Uuid → Uuid × String) (owner : OrderOwner) (store : MemoryStore)
    (call : StoreCall) (next : MemoryStore) : Prop :=
  storeStep identity store call next ∧ call.OwnsOrders owner

def OwnedReachable (identity : Uuid → Uuid × String) (owner : OrderOwner) (store : MemoryStore) :
    Prop :=
  Reachable (· = MemoryStore.empty) (ownedStep identity owner) store

structure RowsKeyed (owner : OrderOwner) (store : MemoryStore) : Prop where
  runtimes : ∀ key runtime, store.instrumentRuntimes.get? key = some runtime →
    key.2 = runtime.productId
  orderIds : ∀ id order, store.orders.get? id = some order → order.id = id ∧ order.OwnedBy owner

variable {identity : Uuid → Uuid × String} {owner : OrderOwner} {store : MemoryStore}
  {order : Order}

theorem Order.OwnedBy.withCancelTime (h : order.OwnedBy owner)
    (previous : Option Order) : (withCancelTime order previous).OwnedBy owner := ⟨h.id, h.clientId⟩

theorem replaceOrder_orders (hkeyed : RowsKeyed owner store) (horder : order.OwnedBy owner) :
    ∀ id found, (store.replaceOrder order).orders.get? id = some found →
      found.id = id ∧ found.OwnedBy owner := by
  have hset : ∀ rows : Dict Uuid Order,
      (∀ id found, rows.get? id = some found → found.id = id ∧ found.OwnedBy owner) →
      ∀ id found, (rows.set order.id order).get? id = some found →
        found.id = id ∧ found.OwnedBy owner := fun _ => forall_set rfl ⟨rfl, horder⟩
  unfold replaceOrder
  split
  · exact hset _ hkeyed.orderIds
  next existing _ =>
    refine hset _ ?_
    intro id found hfound
    have hmem := (mem_erase_iff.mp (get?_eq_some_iff.mp hfound)).2
    exact hkeyed.orderIds id found (get?_eq_some_iff.mpr hmem)

theorem replaceOrder_books (store : MemoryStore) (order : Order) :
    (store.replaceOrder order).instrumentRuntimes = store.instrumentRuntimes ∧
      (store.replaceOrder order).positions = store.positions := by
  unfold replaceOrder
  split <;> exact ⟨rfl, rfl⟩

variable {deploymentId : Uuid}

theorem keyed_foldl_runtimes {runtimes : List InstrumentRuntime}
    {rows : Dict (Uuid × String) InstrumentRuntime}
    (h : ∀ key runtime, rows.get? key = some runtime → key.2 = runtime.productId) :
    ∀ key runtime, (runtimes.foldl (fun rows runtime =>
      rows.set (deploymentId, runtime.productId) runtime) rows).get? key = some runtime →
      key.2 = runtime.productId := by
  induction runtimes generalizing rows with
  | nil => exact h
  | cons _ _ ih => exact ih (forall_set rfl rfl h)

/-- The store a fill transaction rewrites: its evidence recorded and stamped. -/
def stampedStore (store : MemoryStore) (fill stamped : Fill) : MemoryStore :=
  { store with
    fills := store.fills.set stamped.id stamped
    appliedFillKeys := insert fill.key store.appliedFillKeys }

/-- The order row a fill transaction writes. -/
def filledOrder (store : MemoryStore) (snapshot : DeploymentSnapshot) (fill stamped : Fill)
    (order : Order) : Order :=
  withCancelTime (appliedOrder snapshot fill stamped order)
    (store.orders.values.find? (fun item =>
      item.clientOrderId = (appliedOrder snapshot fill stamped order).clientOrderId))

variable {fill stamped : Fill} {snapshot : DeploymentSnapshot}

theorem filledOrder_owned
    (h : order.OwnedBy owner) : (filledOrder store snapshot fill stamped order).OwnedBy owner :=
  ⟨h.id, h.clientId⟩

theorem writeProjection_books (store : MemoryStore) (deploymentId : Uuid)
    (snapshot projected : DeploymentSnapshot) (fill stamped : Fill) (order : Order) :
    let written := store.writeProjection deploymentId snapshot projected fill stamped order
    let key := (deploymentId, orBlank order.productId projected.deployment.productId)
    written.orders = ((stampedStore store fill stamped).replaceOrder
        (filledOrder store snapshot fill stamped order)).orders ∧
      written.instrumentRuntimes = projected.instrumentRuntimes.foldl
        (fun rows runtime => rows.set (deploymentId, runtime.productId) runtime)
        store.instrumentRuntimes ∧
      (written.positions = store.positions ∨ written.positions = store.positions.erase key ∨
        ∃ position, written.positions = store.positions.set key position) := by
  obtain ⟨hruntimes, hpositions⟩ := replaceOrder_books (stampedStore store fill stamped)
    (filledOrder store snapshot fill stamped order)
  refine ⟨rfl, ?_, ?_⟩
  · show List.foldl _ _ _ = _
    exact congrArg (List.foldl _ · _) hruntimes
  · replace hpositions : ((stampedStore store fill stamped).replaceOrder
        (filledOrder store snapshot fill stamped order)).positions = store.positions := hpositions
    rw [← hpositions]
    unfold writeProjection
    split
    next position _ => exact .inr (.inr ⟨position, rfl⟩)
    · split
      · exact .inr (.inl rfl)
      · exact .inl rfl

variable {runtime : InstrumentRuntime} {after : MemoryStore}

section

variable (h : RowsKeyed owner store)
include h

variable {next : MemoryStore}

theorem RowsKeyed.frame (hruntimes : next.instrumentRuntimes = store.instrumentRuntimes)
    (horders : next.orders = store.orders) : RowsKeyed owner next := by
  refine ⟨?_, ?_⟩
  · rw [hruntimes]
    exact h.runtimes
  · rw [horders]
    exact h.orderIds

theorem RowsKeyed.setRuntime
    (hruntimes : next.instrumentRuntimes = store.instrumentRuntimes.set (deploymentId,
      runtime.productId) runtime) (horders : next.orders = store.orders) :
    RowsKeyed owner next :=
  ⟨forall_set hruntimes rfl h.runtimes, by rw [horders]; exact h.orderIds⟩

theorem mirrorRuntime_keyed (saved : Deployment) : RowsKeyed owner (store.mirrorRuntime saved) := by
  unfold mirrorRuntime
  dsimp only
  split
  · have hproduct : (runtimeFromDeployment saved saved.productId).productId = saved.productId := rfl
    exact h.setRuntime (by rw [hproduct]) rfl
  · exact h

theorem saveDeployment_keyed (deployment : Deployment) (expectedRevision : Option Int)
    (instrumentRuntime : Option InstrumentRuntime) :
    RowsKeyed owner (store.saveDeployment deployment expectedRevision instrumentRuntime).2 := by
  unfold saveDeployment
  split
  · exact h
  · split
    · exact h
    next current _ =>
      split
      · exact h
      · cases instrumentRuntime with
        | some => exact h.setRuntime rfl rfl
        | none =>
          have hwritten : RowsKeyed owner (store.putDeployment
              (deployment.withRevision (current.revision + 1))) := h.frame rfl rfl
          exact mirrorRuntime_keyed hwritten _

variable {snapshot projected : DeploymentSnapshot} {order : Order}

theorem writeProjection_keyed (horder : order.OwnedBy owner) :
    RowsKeyed owner (store.writeProjection deploymentId snapshot projected fill stamped order) := by
  obtain ⟨horders, hruntimes, -⟩ := writeProjection_books store deploymentId snapshot projected
    fill stamped order
  refine ⟨?_, ?_⟩
  · rw [hruntimes]
    exact keyed_foldl_runtimes h.runtimes
  · rw [horders]
    exact replaceOrder_orders (show RowsKeyed owner (stampedStore store fill stamped) from
      h.frame rfl rfl) (filledOrder_owned horder)

theorem StoreCall.run_keyed {call : StoreCall} (hcall : call.OwnsOrders owner) :
    RowsKeyed owner (call.run store) := by
  have hleft := call.run_leaves store
  generalize call.run store = next at hleft ⊢
  cases hleft with
  | refused => exact h
  | @saved deployment _ expectedRevision instrumentRuntime _ _ _ hrun _ _ =>
    have hsaved := saveDeployment_keyed h deployment expectedRevision instrumentRuntime
    rw [hrun] at hsaved
    exact hsaved
  | restored order =>
    exact ⟨by rw [(replaceOrder_books store order).1]; exact h.runtimes,
      replaceOrder_orders h hcall⟩
  | ordered =>
    exact ⟨by rw [(replaceOrder_books store _).1]; exact h.runtimes,
      replaceOrder_orders h (Order.OwnedBy.withCancelTime hcall _)⟩
  | runtime => exact h.setRuntime rfl rfl
  | applied call =>
    obtain ⟨horders, hruntimes, -⟩ := recordEvidence_books store call.fill
    have hfilled := call.run_leaves store
    generalize (call.run store).2 = next at hfilled ⊢
    cases hfilled with
    | untouched => exact h
    | recorded => exact h.frame hruntimes horders
    | projected => exact writeProjection_keyed (h.frame hruntimes horders) hcall
  | _ => exact h.frame rfl rfl

end

theorem OwnedReachable.storeReachable (h : OwnedReachable identity owner store) :
    StoreReachable identity store := by
  induction h with
  | start hempty => exact start hempty
  | next _ hstep ih => exact ih.next hstep.1

theorem OwnedReachable.keyed (h : OwnedReachable identity owner store) : RowsKeyed owner store := by
  refine invariant (RowsKeyed owner) ?_ ?_ h
  · rintro _ rfl
    exact ⟨by simp [MemoryStore.empty], by simp [MemoryStore.empty]⟩
  · rintro before call after hkeyed ⟨⟨-, rfl⟩, howns⟩
    exact StoreCall.run_keyed hkeyed howns

/-! ## The deployments a call does not name -/

/-- Everything the store holds of one deployment is where it was. -/
structure Untouched (before after : MemoryStore) (id : Uuid) : Prop where
  deployment : after.deployments.get? id = before.deployments.get? id
  positions : after.positions.entries.filter (fun entry => entry.1.1 = id) =
    before.positions.entries.filter (fun entry => entry.1.1 = id)
  runtimes : after.instrumentRuntimes.entries.filter (fun entry => entry.1.1 = id) =
    before.instrumentRuntimes.entries.filter (fun entry => entry.1.1 = id)
  orders : after.orders.values.filter (fun order => order.deploymentId = id) =
    before.orders.values.filter (fun order => order.deploymentId = id)
  fills : after.fills.values.filter (fun fill => fill.deploymentId = id) =
    before.fills.values.filter (fun fill => fill.deploymentId = id)
  intents : after.intents = before.intents
  funding : after.funding = before.funding

theorem Untouched.getDeployment {id : Uuid} (h : Untouched store after id) :
    after.getDeployment id = store.getDeployment id := by
  unfold MemoryStore.getDeployment
  rw [h.deployment, h.positions, h.runtimes, h.orders, h.fills, h.intents, h.funding]

theorem Untouched.refl (store : MemoryStore) (id : Uuid) : Untouched store store id :=
  ⟨rfl, rfl, rfl, rfl, rfl, rfl, rfl⟩

theorem Untouched.trans {middle : MemoryStore} {id : Uuid} (h : Untouched store middle id)
    (h' : Untouched middle after id) : Untouched store after id :=
  ⟨h'.deployment.trans h.deployment, h'.positions.trans h.positions,
    h'.runtimes.trans h.runtimes, h'.orders.trans h.orders, h'.fills.trans h.fills,
    h'.intents.trans h.intents, h'.funding.trans h.funding⟩

section

variable {id deploymentId : Uuid} (hne : id ≠ deploymentId)

include hne

section

variable {fill : Fill} (hinv : StoreInv identity store) (howner : fill.deploymentId = deploymentId)
  (hid : identity fill.id = fill.key)
include hinv howner hid

theorem fills_filter_set :
    (store.fills.set fill.id fill).values.filter (fun fill => fill.deploymentId = id) =
      store.fills.values.filter (fun fill => fill.deploymentId = id) := by
  rw [values_filter, values_filter, filter_set]
  · simp [howner, hne.symm]
  · intro found hfound
    -- the row under this id names the same venue fill
    have hkey : found.key = fill.key := (hinv.fillIds _ _ hfound).2.symm.trans hid
    have hsame : found.deploymentId = deploymentId := (congrArg Prod.fst hkey).trans howner
    simp [hsame, hne.symm]

theorem recordEvidence_untouched : Untouched store (store.recordEvidence fill) id := by
  unfold recordEvidence
  split
  · exact Untouched.refl store id
  · exact ⟨rfl, rfl, rfl, rfl, fills_filter_set hne hinv howner hid, rfl, rfl⟩

end

theorem replaceOrder_filter (hkeyed : RowsKeyed owner store) (howned : order.OwnedBy owner)
    (hdeployment : order.deploymentId = deploymentId) :
    (store.replaceOrder order).orders.values.filter (fun order => order.deploymentId = id) =
      store.orders.values.filter (fun order => order.deploymentId = id) := by
  -- whatever row either id names belongs to the order's own deployment
  have hown : ∀ key found, store.orders.get? key = some found →
      key = order.id ∨ found.clientOrderId = order.clientOrderId →
      found.deploymentId = deploymentId := by
    intro key found hfound hsame
    obtain ⟨hid, hfoundOwned⟩ := hkeyed.orderIds key found hfound
    rw [← hdeployment]
    rcases hsame with rfl | hclient
    · rw [← hfoundOwned.id, hid, howned.id]
    · rw [← hfoundOwned.clientId, hclient, howned.clientId]
  have hset : ∀ rows : Dict Uuid Order,
      (∀ found, rows.get? order.id = some found → found.deploymentId = deploymentId) →
      (rows.set order.id order).entries.filter (fun entry => entry.2.deploymentId = id) =
        rows.entries.filter (fun entry => entry.2.deploymentId = id) := by
    intro rows hrows
    rw [filter_set]
    · simp [hdeployment, hne.symm]
    · intro found hfound
      simp [hrows found hfound, hne.symm]
  unfold replaceOrder
  split
  · rw [values_filter, values_filter,
      hset _ (fun found hfound => hown order.id found hfound (.inl rfl))]
  next existing hexisting =>
    have hclient : existing.clientOrderId = order.clientOrderId := by
      simpa using find?_some hexisting
    rw [values_filter, values_filter, hset, filter_erase]
    · intro found hfound
      obtain ⟨key, hkey⟩ := mem_values_iff.mp (mem_of_find?_eq_some hexisting)
      obtain ⟨hid, -⟩ := hkeyed.orderIds key existing hkey
      rw [hid, hkey] at hfound
      cases hfound
      simp [hown key existing hkey (.inr hclient), hne.symm]
    · intro found hfound
      have hmem := (mem_erase_iff.mp (get?_eq_some_iff.mp hfound)).2
      exact hown order.id found (get?_eq_some_iff.mpr hmem) (.inl rfl)

theorem runtimes_filter_foldl (runtimes : List InstrumentRuntime)
    (rows : Dict (Uuid × String) InstrumentRuntime) :
    (runtimes.foldl (fun rows runtime => rows.set (deploymentId, runtime.productId) runtime)
      rows).entries.filter (fun entry => entry.1.1 = id) =
      rows.entries.filter (fun entry => entry.1.1 = id) := by
  induction runtimes generalizing rows with
  | nil => rfl
  | cons _ _ ih =>
    rw [foldl_cons, ih, filter_set]
    · simp [hne.symm]
    · intro _ _
      simp [hne.symm]

theorem writeProjection_untouched (hinv : StoreInv identity store) (hkeyed : RowsKeyed owner store)
    (hrow : (fillProjectionDeployment snapshot projected).id = deploymentId)
    (howned : order.OwnedBy owner) (horder : order.deploymentId = deploymentId)
    (hstamped : stamped.deploymentId = deploymentId) (hid : identity stamped.id = stamped.key) :
    Untouched store
      (store.writeProjection deploymentId snapshot projected fill stamped order) id := by
  obtain ⟨hdeployments, hfills, -, hintents, hfunding⟩ := writeProjection_fields store
    deploymentId snapshot projected fill stamped order
  obtain ⟨horders, hruntimes, hpositions⟩ := writeProjection_books store deploymentId snapshot
    projected fill stamped order
  refine ⟨?_, ?_, ?_, ?_, ?_, hintents, hfunding⟩
  · rw [hdeployments, hrow, get?_set_ne hne]
  · rcases hpositions with hkept | herased | ⟨position, hset⟩
    · rw [hkept]
    · rw [herased, filter_erase]
      simp [hne.symm]
    · rw [hset, filter_set]
      · simp [hne.symm]
      · intro _ _
        simp [hne.symm]
  · rw [hruntimes]
    exact runtimes_filter_foldl hne projected.instrumentRuntimes store.instrumentRuntimes
  · rw [horders]
    have hstored : RowsKeyed owner (stampedStore store fill stamped) := hkeyed.frame rfl rfl
    exact replaceOrder_filter hne hstored (filledOrder_owned howned) horder
  · rw [hfills]
    exact fills_filter_set hne hinv hstamped hid

end

/-! ## Everything a promised call can do -/

/-- A promised call on a well-formed store: nothing, an evidence row, or one projection
written back. -/
theorem applyFill_cases {call : FillCall} (hinv : StoreInv identity store)
    (hcall : call.Promised identity) :
    (call.applies store = false ∧
      ((call.run store).2 = store ∨ (call.run store).2 = store.recordEvidence call.fill)) ∨
    ∃ snapshot projected source stamped,
      call.applies store = true ∧ store.getDeployment call.deploymentId = .ok snapshot ∧
      snapshot.deployment.id = call.deploymentId ∧
      Economics snapshot projected source stamped call.order call.now ∧
      stamped.key = call.fill.key ∧ identity stamped.id = stamped.key ∧
      (call.run store).2 = (store.recordEvidence call.fill).writeProjection call.deploymentId
        snapshot projected call.fill stamped call.order := by
  have houtcome := call.run_outcome store
  unfold FillCall.applies
  generalize call.run store = result at houtcome ⊢
  cases houtcome with
  | missing | duplicate => exact .inl ⟨rfl, .inl rfl⟩
  | refused => exact .inl ⟨rfl, .inr rfl⟩
  | @projected snapshot projected _ stamped hsnapshot _ hprojected =>
    rw [existing_eq_evidence hcall hsnapshot] at hprojected
    have hspec := projectFillEconomics_spec hprojected
    obtain ⟨hrecorded, -, -, hown⟩ := recordEvidence_effect hinv hcall.identified
    obtain ⟨hsource, hkey⟩ := (evidence_eq_some_iff hrecorded).mp hown
    obtain ⟨at_, hstamped⟩ := hspec.stamp
    have hrow := hinv.deploymentIds _ _ (getDeployment_ok hsnapshot).1
    refine .inr ⟨snapshot, projected, _, stamped, rfl, hsnapshot, hrow, hspec, ?_, ?_, rfl⟩
    · rw [hstamped]
      exact hkey
    · rw [hstamped]
      exact (hrecorded.fillIds _ _ hsource).2

/-! ## Inside the named deployment -/

def productBooks (snapshot : DeploymentSnapshot) : List InstrumentRuntime :=
  if snapshot.instrumentRuntimes = [] then
    [runtimeFromDeployment snapshot.deployment snapshot.deployment.productId]
  else snapshot.instrumentRuntimes

/-- The aggregate depends on which rows there are, not on their order. -/
theorem aggregatePhase_congr {first second : List InstrumentRuntime}
    (h : ∀ item, item ∈ first ↔ item ∈ second) : aggregatePhase first = aggregatePhase second := by
  have hany : ∀ phase : RuntimePhase,
      first.any (fun item => item.phase = phase) = second.any (fun item => item.phase = phase) := by
    intro phase
    rw [Bool.eq_iff_iff, any_eq_true, any_eq_true]
    exact exists_congr fun item => and_congr_left' (h item)
  unfold aggregatePhase
  rw [hany, hany, hany]

theorem aggregatePhase_single (runtime : InstrumentRuntime) :
    aggregatePhase [runtime] = runtime.phase := by
  unfold aggregatePhase
  cases h : runtime.phase <;> simp [h]

section

variable {deploymentId : Uuid} {snapshot : DeploymentSnapshot}

/-- The runtime rows of a snapshot are the stored ones, each under its own product. -/
def RuntimesRead (store : MemoryStore) (deploymentId : Uuid) (snapshot : DeploymentSnapshot) :
    Prop :=
  ∀ runtime, runtime ∈ snapshot.instrumentRuntimes ↔
    store.instrumentRuntimes.get? (deploymentId, runtime.productId) = some runtime

/-- Every runtime row is under its own product. -/
def RuntimesKeyed (store : MemoryStore) : Prop :=
  ∀ key runtime, store.instrumentRuntimes.get? key = some runtime → key.2 = runtime.productId

theorem RuntimesKeyed.read (hkeyed : RuntimesKeyed store)
    (hsnapshot : store.getDeployment deploymentId = .ok snapshot) :
    RuntimesRead store deploymentId snapshot := by
  intro runtime
  have hrows : snapshot.instrumentRuntimes = (store.instrumentRuntimes.entries.filter
      (fun entry => entry.1.1 = deploymentId)).map Prod.snd := by
    unfold getDeployment at hsnapshot
    split at hsnapshot
    · cases hsnapshot
    · rw [← Except.ok.inj hsnapshot]
  rw [hrows, mem_map, get?_eq_some_iff]
  constructor
  · rintro ⟨⟨⟨id, product⟩, found⟩, hmem, rfl⟩
    obtain ⟨hentry, hid⟩ := mem_filter.mp hmem
    obtain rfl : id = deploymentId := by simpa using hid
    have hproduct : product = found.productId :=
      hkeyed _ _ (get?_eq_some_iff.mpr hentry)
    rw [← hproduct]
    exact hentry
  · intro hentry
    exact ⟨_, mem_filter.mpr ⟨hentry, by simp⟩, rfl⟩

theorem RowsKeyed.runtimesRead (hkeyed : RowsKeyed owner store)
    (hsnapshot : store.getDeployment deploymentId = .ok snapshot) :
    RuntimesRead store deploymentId snapshot :=
  RuntimesKeyed.read hkeyed.runtimes hsnapshot

variable {projected : DeploymentSnapshot} {source fill stamped : Fill} {order : Order} {now : Time}

section

variable (hread : RuntimesRead store deploymentId snapshot)
  (hspec : Economics snapshot projected source stamped order now)
include hread hspec

theorem projected_sibling (hmem : runtime ∈ projected.instrumentRuntimes)
    (hne : runtime.productId ≠ resolvedProductId order.productId snapshot.deployment) :
    store.instrumentRuntimes.get? (deploymentId, runtime.productId) = some runtime := by
  rw [hspec.runtimes, projectedRuntimes] at hmem
  split at hmem
  · cases hmem
  · rcases mem_append.mp hmem with hsibling | hown
    · exact (hread runtime).mp (mem_filter.mp hsibling).1
    · obtain rfl := mem_singleton.mp hown
      exact absurd rfl hne

theorem writeProjection_siblings (fill : Fill) {product : String}
    (hne : product ≠ resolvedProductId order.productId snapshot.deployment) :
    let written := store.writeProjection deploymentId snapshot projected fill stamped order
    written.positions.get? (deploymentId, product) =
        store.positions.get? (deploymentId, product) ∧
      written.instrumentRuntimes.get? (deploymentId, product) =
        store.instrumentRuntimes.get? (deploymentId, product) := by
  obtain ⟨-, hruntimes, hpositions⟩ := writeProjection_books store deploymentId snapshot
    projected fill stamped order
  rw [hspec.row.productId] at hpositions
  have hkey : (deploymentId, product) ≠
      (deploymentId, orBlank order.productId snapshot.deployment.productId) :=
    fun he => hne (congrArg Prod.snd he)
  refine ⟨?_, ?_⟩
  · rcases hpositions with hkept | herased | ⟨position, hset⟩
    · rw [hkept]
    · rw [herased, get?_erase_ne hkey]
    · rw [hset, get?_set_ne hkey]
  · rw [hruntimes]
    apply get?_foldl_set_of_stored
    intro runtime hmem he
    obtain rfl : runtime.productId = product := congrArg Prod.snd he
    exact projected_sibling hread hspec hmem hne

/-- After a multi-book call the stored runtime rows are the projected ones. -/
theorem writeProjection_runtimes (hmulti : snapshot.instrumentRuntimes ≠ []) (runtime : InstrumentRuntime) :
    (store.writeProjection deploymentId snapshot projected fill stamped
        order).instrumentRuntimes.get? (deploymentId, runtime.productId) = some runtime ↔
      runtime ∈ projected.instrumentRuntimes := by
  obtain ⟨-, hruntimes, -⟩ := writeProjection_books store deploymentId snapshot
    projected fill stamped order
  have hlist := hspec.runtimes
  rw [projectedRuntimes, if_neg hmulti] at hlist
  generalize hproduct : resolvedProductId order.productId snapshot.deployment = product at hlist
  constructor
  · intro hget
    rw [hruntimes] at hget
    rcases mem_of_get?_foldl_set (fun runtime : InstrumentRuntime =>
      (deploymentId, runtime.productId)) hget with hmem | ⟨hstored, hunwritten⟩
    · exact hmem
    · -- an unwritten row would be a sibling the projection keeps
      have hin := (hread runtime).mpr hstored
      have hne : runtime.productId ≠ product := by
        intro he
        refine hunwritten (runtimeFromDeployment projected.deployment product) ?_ ?_
        · rw [hlist]
          simp
        · rw [he]
          rfl
      rw [hlist]
      exact mem_append_left _ (mem_filter.mpr ⟨hin, by simpa using hne⟩)
  · intro hmem
    by_cases hown : runtime.productId = product
    · have hlast : runtime = runtimeFromDeployment projected.deployment product := by
        rw [hlist] at hmem
        rcases mem_append.mp hmem with hsibling | hown'
        · exact absurd hown (by simpa using (mem_filter.mp hsibling).2)
        · exact mem_singleton.mp hown'
      rw [hruntimes, hlist, foldl_append, hlast]
      exact get?_set_self _ _ _
    · rw [(writeProjection_siblings hread hspec fill (by rw [hproduct]; exact hown)).2]
      exact projected_sibling hread hspec hmem (by rw [hproduct]; exact hown)

theorem writeProjection_phase (hkeyed : RowsKeyed owner store) (horder : order.OwnedBy owner)
    {after : DeploymentSnapshot}
    (hafter : (store.writeProjection deploymentId snapshot projected fill stamped
      order).getDeployment deploymentId = .ok after)
    (hrow : after.deployment.phase = (fillProjectionDeployment snapshot projected).phase) :
    after.deployment.phase = aggregatePhase (productBooks after) := by
  have hwritten : RowsKeyed owner
      (store.writeProjection deploymentId snapshot projected fill stamped order) :=
    writeProjection_keyed hkeyed horder
  unfold productBooks
  split
  next hnone =>
    rw [aggregatePhase_single]
    rfl
  next hrows =>
    -- a call adds no runtime row to a deployment without any
    have hmulti : snapshot.instrumentRuntimes ≠ [] := by
      intro hnone
      obtain ⟨runtime, hmem⟩ := exists_mem_of_ne_nil _ hrows
      have hget := (hwritten.runtimesRead hafter runtime).mp hmem
      obtain ⟨-, hruntimes, -⟩ := writeProjection_books store deploymentId snapshot projected
        fill stamped order
      rw [hruntimes, hspec.runtimes, projectedRuntimes, if_pos hnone, foldl_nil,
        ← hread runtime, hnone] at hget
      cases hget
    have hprojected : projected.instrumentRuntimes ≠ [] := by
      rw [hspec.runtimes, projectedRuntimes, if_neg hmulti]
      simp
    rw [hrow, fillProjectionDeployment, if_neg hprojected]
    refine aggregatePhase_congr fun runtime => ?_
    rw [hwritten.runtimesRead hafter, writeProjection_runtimes hread hspec hmulti]

end

end

/-! ## One fill, one book -/

/-- The parent row of a multi-book deployment with another row's shared fields: its
scheduling fields stay. -/
def Deployment.withShared (before after : Deployment) : Deployment :=
  { before with
    cash := after.cash
    status := after.status
    mismatchDetail := after.mismatchDetail
    futuresDeriskPending := after.futuresDeriskPending
    futuresFlatConfirmationAfter := after.futuresFlatConfirmationAfter
    phase := after.phase
    updatedAt := after.updatedAt
    revision := after.revision }

section

variable {call : FillCall}

theorem applyFill_untouched (hinv : StoreInv identity store) (hkeyed : RowsKeyed owner store)
    (hcall : call.Promised identity) (howned : call.order.OwnedBy owner)
    (horder : call.order.deploymentId = call.deploymentId) {other : Uuid}
    (hne : other ≠ call.deploymentId) : Untouched store (call.run store).2 other := by
  have hevidence : Untouched store (store.recordEvidence call.fill) other :=
    recordEvidence_untouched hne hinv hcall.owner hcall.identified
  rcases applyFill_cases hinv hcall with ⟨-, hrun | hrun⟩ |
    ⟨snapshot, projected, source, stamped, -, -, hid, hspec, hkey, hidentity, hrun⟩
  · rw [hrun]
    exact Untouched.refl store other
  · rw [hrun]
    exact hevidence
  · obtain ⟨horders, hruntimes, -⟩ := recordEvidence_books store call.fill
    have hrow := (fillProjectionDeployment_fields hspec).1.trans hid
    have howner : stamped.deploymentId = call.deploymentId :=
      (congrArg Prod.fst hkey).trans hcall.owner
    rw [hrun]
    exact hevidence.trans (writeProjection_untouched hne
      (recordEvidence_effect hinv hcall.identified).1 (hkeyed.frame hruntimes horders) hrow howned
      horder howner hidentity)

/-- What an unapplied call leaves of its own deployment's books. -/
theorem recordEvidence_own (fill : Fill)
    (hsnapshot : store.getDeployment deploymentId = .ok snapshot) :
    ∃ after, (store.recordEvidence fill).getDeployment deploymentId = .ok after ∧
      after.deployment = snapshot.deployment ∧
      after.instrumentRuntimes = snapshot.instrumentRuntimes := by
  obtain ⟨-, hruntimes, -⟩ := recordEvidence_books store fill
  have hrow := (getDeployment_ok hsnapshot).1
  unfold getDeployment at hsnapshot ⊢
  rw [recordEvidence_rows, hruntimes, hrow]
  rw [hrow] at hsnapshot
  refine ⟨_, rfl, rfl, ?_⟩
  rw [← Except.ok.inj hsnapshot]

theorem applyFill_unapplied (hinv : StoreInv identity store) (hcall : call.Promised identity)
    (hidle : call.applies store = false) :
    (call.run store).2.positions = store.positions ∧
      (call.run store).2.instrumentRuntimes = store.instrumentRuntimes ∧
      ∀ snapshot, store.getDeployment call.deploymentId = .ok snapshot →
        ∃ after, (call.run store).2.getDeployment call.deploymentId = .ok after ∧
          after.deployment = snapshot.deployment ∧
          after.instrumentRuntimes = snapshot.instrumentRuntimes := by
  rcases applyFill_cases hinv hcall with ⟨-, hrun | hrun⟩ | ⟨_, _, _, _, happlies, -⟩
  · rw [hrun]
    exact ⟨rfl, rfl, fun snapshot hsnapshot => ⟨snapshot, hsnapshot, rfl, rfl⟩⟩
  · obtain ⟨-, hruntimes, hpositions, -⟩ := recordEvidence_books store call.fill
    rw [hrun]
    exact ⟨hpositions, hruntimes, fun _ => recordEvidence_own call.fill⟩
  · rw [hidle] at happlies
    cases happlies

/-- A call leaves every other deployment's snapshot. In its own the other products' positions and
runtime rows stay, a multi-book row keeps everything but its shared fields, and an applied fill
leaves the row at its books' aggregate phase; a call that applies nothing leaves the phase. -/
theorem applyFill_isolated (hreach : OwnedReachable identity owner store)
    (hcall : call.Promised identity) (howned : call.order.OwnedBy owner)
    (horder : call.order.deploymentId = call.deploymentId) :
    (∀ other, other ≠ call.deploymentId →
      (call.run store).2.getDeployment other = store.getDeployment other) ∧
    ∀ snapshot, store.getDeployment call.deploymentId = .ok snapshot →
      (∀ product, product ≠ resolvedProductId call.order.productId snapshot.deployment →
        (call.run store).2.positions.get? (call.deploymentId, product) =
            store.positions.get? (call.deploymentId, product) ∧
          (call.run store).2.instrumentRuntimes.get? (call.deploymentId, product) =
            store.instrumentRuntimes.get? (call.deploymentId, product)) ∧
      ∃ after, (call.run store).2.getDeployment call.deploymentId = .ok after ∧
        (snapshot.instrumentRuntimes ≠ [] →
          after.deployment = snapshot.deployment.withShared after.deployment) ∧
        (call.applies store = true → after.deployment.phase = aggregatePhase (productBooks after)) ∧
        (call.applies store = false → after.deployment.phase = snapshot.deployment.phase ∧
          productBooks after = productBooks snapshot) := by
  have hinv := hreach.storeReachable.inv
  have hkeyed := hreach.keyed
  refine ⟨fun other hne =>
    (applyFill_untouched hinv hkeyed hcall howned horder hne).getDeployment, ?_⟩
  intro snapshot hsnapshot
  cases happlies : call.applies store with
  | false =>
    obtain ⟨hpositions, hruntimes, hown⟩ := applyFill_unapplied hinv hcall happlies
    obtain ⟨after, hafter, hrow, hbooks⟩ := hown snapshot hsnapshot
    refine ⟨?_, after, hafter, ?_, by simp, ?_⟩
    · intro product _
      rw [hpositions, hruntimes]
      exact ⟨rfl, rfl⟩
    · intro _
      rw [hrow]
      rfl
    · intro _
      unfold productBooks
      rw [hrow, hbooks]
      exact ⟨rfl, rfl⟩
  | true =>
    rcases applyFill_cases hinv hcall with ⟨hidle, -⟩ |
      ⟨read, projected, source, stamped, -, hread, hid, hspec, -, -, hrun⟩
    · rw [happlies] at hidle
      cases hidle
    obtain rfl : read = snapshot := Except.ok.inj (hread.symm.trans hsnapshot)
    obtain ⟨horders, hruntimes, hpositions, -⟩ := recordEvidence_books store call.fill
    have hrecorded : RowsKeyed owner (store.recordEvidence call.fill) :=
      hkeyed.frame hruntimes horders
    have hbooks : RuntimesRead (store.recordEvidence call.fill) call.deploymentId read := by
      have hstored := hkeyed.runtimesRead hsnapshot
      unfold RuntimesRead at hstored ⊢
      rw [hruntimes]
      exact hstored
    obtain ⟨hdeployments, -⟩ := writeProjection_fields
      (store.recordEvidence call.fill) call.deploymentId read projected call.fill stamped call.order
    rw [(fillProjectionDeployment_fields hspec).1, hid] at hdeployments
    obtain ⟨after, hafter, hrow⟩ := getDeployment_of_row
      (show Dict.get? _ call.deploymentId = _ by rw [hdeployments, get?_set_self])
    rw [hrun]
    refine ⟨?_, after, hafter, ?_, ?_, by simp⟩
    · intro product hne
      obtain ⟨hposition, hruntime⟩ := writeProjection_siblings hbooks hspec call.fill hne
      rw [hposition, hruntime, hpositions, hruntimes]
      exact ⟨rfl, rfl⟩
    · intro hmulti
      have hprojected : projected.instrumentRuntimes ≠ [] := by
        rw [hspec.runtimes, projectedRuntimes, if_neg hmulti]
        simp
      rw [hrow, fillProjectionDeployment, if_neg hprojected]
      rfl
    · intro _
      exact writeProjection_phase hbooks hspec hrecorded howned hafter (by rw [hrow]; rfl)

end

/-! ### A two-product deployment beside another one -/

theorem OwnedReachable.calls {calls : List StoreCall} (h : OwnedReachable identity owner store)
    (hcalls : ∀ call ∈ calls, call.Promised identity ∧ call.OwnsOrders owner) :
    OwnedReachable identity owner (calls.foldl (fun store call => call.run store) store) := by
  induction calls generalizing store with
  | nil => exact h
  | cons call _ ih =>
    obtain ⟨hpromised, howns⟩ := hcalls call (by simp)
    exact ih (next h ⟨⟨hpromised, rfl⟩, howns⟩) fun other hother =>
      hcalls other (by simp [hother])

def sampleOwner : OrderOwner :=
  { byId := fun id => if id = 5 then 1 else 2
    byClientId := fun clientId => if clientId = "entry" then 1 else 2 }

def sampleBitcoinBook : Position :=
  { deploymentId := 1
    quantity := 1
    entryPrice := 100
    stopPrice := 90
    targetPrice := none
    enteredBar := 0
    updatedAt := 0
    productId := "BTC-USD" }

def sampleTwoBooks : MemoryStore :=
  List.foldl (fun store call => StoreCall.run call store) MemoryStore.empty
    [.createDeployment sampleDeployment,
      .createDeployment { sampleDeployment with id := 2 },
      .saveInstrumentRuntime { productId := "BTC-USD", phase := .pendingExit } 1,
      .saveInstrumentRuntime
        { productId := "ETH-USD", phase := .pendingEntry, pendingStopPrice := some 95 } 1,
      .savePosition (some sampleBitcoinBook) 1 none]

def sampleEntryFill : FillCall :=
  { deploymentId := 1
    fill := sampleFill 10 "v1" 2
    order := sampleOrder 5 .buy
    now := 7
    after := 7 }

def sampleEtherFill : FillCall :=
  { sampleEntryFill with order := { sampleOrder 5 .buy with productId := "ETH-USD" } }

def phaseAgrees (read : Result DeploymentSnapshot) : Bool :=
  match read with
  | .ok snapshot => snapshot.deployment.phase = aggregatePhase (productBooks snapshot)
  | .error _ => true

/-- The ETH fill applies: deployment 2 and the BTC books stay, the row turns `OPEN`. -/
theorem applyFill_isolated_twoBooks :
    sampleEtherFill.applies sampleTwoBooks = true ∧
    (sampleEtherFill.run sampleTwoBooks).2.getDeployment 2 = sampleTwoBooks.getDeployment 2 ∧
    (sampleEtherFill.run sampleTwoBooks).2.positions.get? (1, "BTC-USD") = some sampleBitcoinBook ∧
    (sampleEtherFill.run sampleTwoBooks).2.instrumentRuntimes.get? (1, "BTC-USD") =
      some { productId := "BTC-USD", phase := .pendingExit } ∧
    ((sampleEtherFill.run sampleTwoBooks).2.deployments.get? 1).map (·.phase) = some .open := by
  have hreach : OwnedReachable sampleIdentity sampleOwner sampleTwoBooks := by
    refine OwnedReachable.calls (start rfl) ?_
    intro call hcall
    simp only [mem_cons, not_mem_nil, or_false] at hcall
    rcases hcall with rfl | rfl | rfl | rfl | rfl <;> exact ⟨trivial, trivial⟩
  have hcall : sampleEtherFill.Promised sampleIdentity := ⟨rfl, rfl, rfl⟩
  obtain ⟨hothers, hown⟩ := applyFill_isolated hreach hcall ⟨rfl, rfl⟩ rfl
  obtain ⟨snapshot, hsnapshot, hrow⟩ := getDeployment_of_row
    (show sampleTwoBooks.deployments.get? 1 = some sampleDeployment from rfl)
  obtain ⟨hsiblings, -⟩ := hown snapshot hsnapshot
  obtain ⟨hposition, hruntime⟩ := hsiblings "BTC-USD" (by rw [hrow]; decide +kernel)
  refine ⟨by decide +kernel, hothers 2 (by decide), ?_, ?_, by decide +kernel⟩
  · exact hposition.trans rfl
  · exact hruntime.trans rfl

def sampleSavedApart : MemoryStore :=
  List.foldl (fun store call => StoreCall.run call store) MemoryStore.empty
    [.createDeployment sampleDeployment,
      .applyFill sampleEntryFill,
      .saveInstrumentRuntime { productId := "BTC-USD", phase := .flat } 1]

/-- The venue reports the entry again: the duplicate applies nothing, and the row stays
`OPEN` over a `FLAT` book. -/
theorem applyFill_duplicate_keeps_phase :
    OwnedReachable sampleIdentity sampleOwner sampleSavedApart ∧
    sampleEntryFill.Promised sampleIdentity ∧
    sampleEntryFill.order.OwnedBy sampleOwner ∧
    sampleEntryFill.order.deploymentId = sampleEntryFill.deploymentId ∧
    phaseAgrees ((sampleEntryFill.run sampleSavedApart).2.getDeployment 1) = false := by
  refine ⟨?_, ⟨rfl, rfl, rfl⟩, ⟨rfl, rfl⟩, rfl, by decide +kernel⟩
  refine OwnedReachable.calls (start rfl) ?_
  intro call hcall
  simp only [mem_cons, not_mem_nil, or_false] at hcall
  rcases hcall with rfl | rfl | rfl
  · exact ⟨trivial, trivial⟩
  · exact ⟨⟨rfl, rfl, rfl⟩, ⟨rfl, rfl⟩⟩
  · exact ⟨trivial, trivial⟩

end Thytrader.Trading
