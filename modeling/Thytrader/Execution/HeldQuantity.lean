import Thytrader.Execution.FuturesPaper
import Thytrader.Trading.FundingCash
import Thytrader.Trading.RowWrites

/-!
# The quantity held before an instant, under store calls

`held_quantity_before` sums the applied fills of a product by their stamps. Between two reads of
it a store call can save orders, rewrite the row and apply fills; it changes the sum only by
applying a fill stamped before the instant (`heldAt_kept`).
-/

namespace Thytrader.Execution

open Trading MarketData Lib MemoryStore List Dict

variable {book : PaperBook}

/-- A paper perpetual book: its bars, and the fixed facts of its funding hours. -/
structure PaperBook where
  id : Uuid
  productId : String
  interval : CandleInterval
  rate : Time → Decimal
  mark : Time → Decimal

/-! ## The held quantity of a store -/

/-- `held_quantity_before` of the book's snapshot. -/
def heldAt (store : MemoryStore) (book : PaperBook) (instant : Time) : Decimal :=
  match store.getDeployment book.id with
  | .ok snapshot => heldQuantityBefore snapshot book.productId instant
  | .error _ => 0

def earlyApplied (deploymentId : Uuid) (instant : Time) (fill : Fill) : Bool :=
  fill.deploymentId = deploymentId ∧ fill.economicsAppliedAt ≠ none ∧ fill.filledAt < instant

theorem quantityBefore_perm {first second : List (Time × Decimal)} (h : first.Perm second)
    (instant : Time) : quantityBefore first instant = quantityBefore second instant := by
  exact ((h.filter _).map _).sum_eq

theorem heldQuantityBefore_eq (snapshot : DeploymentSnapshot) (productId : String)
    (instant : Time) :
    heldQuantityBefore snapshot productId instant =
      (((snapshot.fills.filter (fun fill =>
          fill.economicsAppliedAt ≠ none ∧ fill.filledAt < instant)).filterMap
        (signedFill snapshot productId)).map Prod.snd).sum := by
  unfold heldQuantityBefore signedFills
  rw [quantityBefore_perm (perm_insertionSort _ _)]
  unfold quantityBefore
  induction snapshot.fills with
  | nil => rfl
  | cons fill _ ih =>
    cases hsigned : signedFill snapshot productId fill with
    | none =>
      rw [filterMap_cons_none hsigned, ih, filter_cons]
      split
      · rw [filterMap_cons_none hsigned]
      · rfl
    | some event =>
      have hevent : fill.economicsAppliedAt ≠ none ∧ event.1 = fill.filledAt := by
        unfold signedFill at hsigned
        split at hsigned
        · cases hsigned
        · obtain ⟨happlied, hsigned⟩ := of_ite_ne hsigned nofun
          obtain ⟨-, hsigned⟩ := of_ite_ne hsigned nofun
          cases hsigned
          exact ⟨happlied, rfl⟩
      rw [filterMap_cons_some hsigned, filter_cons, filter_cons]
      by_cases hearly : fill.filledAt < instant
      · rw [if_pos (by simpa [hevent.2] using hearly),
          if_pos (by simpa [hearly] using hevent.1), filterMap_cons_some hsigned,
          map_cons, map_cons, sum_cons, sum_cons, ih]
      · rw [if_neg (by simpa [hevent.2] using hearly), if_neg (by simp [hearly]), ih]

/-! ## Orders -/

/-- What a fill reads of its order. -/
def orderKey (order : Order) : Uuid × OrderSide × String :=
  (order.deploymentId, order.side, order.productId)

/-- Every stored order is under its own id. -/
def OrdersKeyed (store : MemoryStore) : Prop :=
  ∀ id order, store.orders.get? id = some order → order.id = id

/-- The book's view of an order id is the stored order, when it is the book's. -/
theorem lastOrder_eq {store : MemoryStore} (hkeyed : OrdersKeyed store) (deploymentId orderId : Uuid) :
    lastOrder? (store.orders.values.filter (fun order => order.deploymentId = deploymentId))
        orderId =
      (store.orders.get? orderId).filter (fun order => order.deploymentId = deploymentId) := by
  have hmem : ∀ order, order ∈ (store.orders.values.filter
      (fun order => order.deploymentId = deploymentId)).reverse ∧ order.id = orderId ↔
      store.orders.get? orderId = some order ∧ order.deploymentId = deploymentId := by
    intro order
    rw [mem_reverse, mem_filter, mem_values_iff, decide_eq_true_eq]
    constructor
    · intro h
      obtain ⟨⟨⟨id, hid⟩, hown⟩, rfl⟩ := h
      rw [hkeyed id order hid]
      exact ⟨hid, hown⟩
    · intro h
      exact ⟨⟨⟨orderId, h.1⟩, h.2⟩, hkeyed orderId order h.1⟩
  unfold lastOrder?
  cases hfound : List.find? (fun order => decide (order.id = orderId))
      (store.orders.values.filter (fun order => order.deploymentId = deploymentId)).reverse with
  | none =>
    cases hstored : store.orders.get? orderId with
    | none => rfl
    | some order =>
      rw [Option.filter_some, if_neg]
      intro hown
      have hlisted := (hmem order).mpr ⟨hstored, of_decide_eq_true hown⟩
      exact find?_eq_none.mp hfound order hlisted.1 (decide_eq_true hlisted.2)
  | some order =>
    have hid := find?_some hfound
    obtain ⟨hstored, hown⟩ := (hmem order).mp ⟨mem_of_find?_eq_some hfound, of_decide_eq_true hid⟩
    rw [hstored, Option.filter_some, if_pos (decide_eq_true hown)]

theorem signedFill_congr {first second : DeploymentSnapshot} {productId : String} {fill : Fill}
    (hproduct : second.deployment.productId = first.deployment.productId)
    (horder : (lastOrder? second.orders fill.orderId).map orderKey =
      (lastOrder? first.orders fill.orderId).map orderKey) :
    signedFill second productId fill = signedFill first productId fill := by
  unfold signedFill
  cases hfirst : lastOrder? first.orders fill.orderId with
  | none =>
    rw [hfirst] at horder
    rw [Option.map_eq_none_iff.mp horder]
  | some order =>
    rw [hfirst] at horder
    obtain ⟨other, hother, hkey⟩ := Option.map_eq_some_iff.mp horder
    obtain ⟨-, hside, hordered⟩ : other.deploymentId = order.deploymentId ∧
        other.side = order.side ∧ other.productId = order.productId := by
      simpa [orderKey] using hkey
    rw [hother]
    dsimp only
    unfold resolvedProductId
    rw [hside, hordered, hproduct]

/-! ## What the callers promise -/

/-- A saved order is a stored one with the same key, or a new one no applied fill refers to. -/
structure OrderKept (store : MemoryStore) (order : Order) : Prop where
  same : ∀ stored, store.orders.get? order.id = some stored → orderKey order = orderKey stored
  fresh : store.orders.get? order.id = none →
    ∀ fill ∈ store.fills.values, fill.economicsAppliedAt ≠ none → fill.orderId ≠ order.id
  client : ∀ stored ∈ store.orders.values,
    stored.clientOrderId = order.clientOrderId → stored.id = order.id

def appliedRow (store : MemoryStore) (call : FillCall) : Fill :=
  (evidence store call.fill.key).getD call.fill

/-- What the callers promise: the row keeps its product and mode, fills are stamped with bar starts,
only the settle cycle charges funding. -/
def PaperBook.Promised (book : PaperBook) (store : MemoryStore) : StoreCall → Prop
  | .createDeployment deployment => deployment.id = book.id →
      deployment.productId = book.productId ∧ deployment.mode = .paper
  | .saveDeployment deployment _ _ => deployment.id = book.id →
      deployment.productId = book.productId ∧ deployment.mode = .paper
  | .restoreOrder order => OrderKept store order
  | .saveOrder order => OrderKept store order
  | .saveFill fill => fill.economicsAppliedAt = none
  | .applyFill call => OrderKept store call.order ∧
      (call.deploymentId = book.id → book.interval.duration ∣ (appliedRow store call).filledAt)
  | .applyFunding deploymentId _ _ => deploymentId ≠ book.id
  | _ => True

/-- No fill is recorded with a stamp before an hour already charged. -/
def PaperBook.InOrder (book : PaperBook) (store : MemoryStore) : StoreCall → Prop
  | .applyFill call => call.deploymentId = book.id →
      ∀ hour flow, store.funding.get? (book.id, book.productId, hour) = some flow →
        hour ≤ (appliedRow store call).filledAt
  | _ => True

/-! ## Fills -/

variable {identity : Uuid → Uuid × String} {store : MemoryStore}

theorem appliedRow_owner {call : FillCall} (hinv : StoreInv identity store)
    (hcall : call.Promised identity) :
    (appliedRow store call).deploymentId = call.deploymentId := by
  unfold appliedRow
  cases hrow : evidence store call.fill.key with
  | none => exact hcall.owner
  | some =>
    have hkey := ((evidence_eq_some_iff hinv).mp hrow).2
    exact (congrArg Prod.fst hkey).trans hcall.owner

variable {keep : Fill → Bool} {call : StoreCall} {order : Order} {next : MemoryStore}

/-- Setting a row is invisible to a filter that keeps neither it nor the row it replaces. -/
theorem filter_values_set {fills : Dict Uuid Fill} {row : Fill} (hnew : keep row = false)
    (hold : ∀ old, fills.get? row.id = some old → keep old = false) :
    (fills.set row.id row).values.filter keep = fills.values.filter keep := by
  rw [values_filter, values_filter,
    filter_set (p := fun entry => keep entry.2) hnew hold]

/-- A venue fill without evidence has a free id. -/
theorem fills_absent (hinv : StoreInv identity store) {fill : Fill}
    (hid : identity fill.id = fill.key) (hnew : fill.key ∉ store.fillKeys) :
    store.fills.get? fill.id = none := by
  cases hrow : store.fills.get? fill.id with
  | none => rfl
  | some row =>
    refine absurd ((hinv.fillKeys fill.key).mpr ⟨fill.id, row, hrow, ?_⟩) hnew
    rw [← (hinv.fillIds _ _ hrow).2, hid]

theorem applyFill_filter {call : FillCall} (hinv : StoreInv identity store)
    (hcall : call.Promised identity)
    (hpending : ∀ fill, fill.economicsAppliedAt = none → keep fill = false)
    (hrow : ∀ at_, keep { appliedRow store call with economicsAppliedAt := some at_ } = false) :
    (call.run store).2.fills.values.filter keep = store.fills.values.filter keep := by
  have hrecorded : (store.recordEvidence call.fill).fills.values.filter keep =
      store.fills.values.filter keep := by
    unfold recordEvidence
    split
    · rfl
    next hnew =>
      refine filter_values_set (hpending _ hcall.unstamped) ?_
      intro old hold
      exact absurd ((fills_absent hinv hcall.identified hnew).symm.trans hold) (by simp)
  have hleft := call.run_leaves store
  generalize (call.run store).2 = next at hleft ⊢
  cases hleft with
  | untouched => rfl
  | recorded => exact hrecorded
  | @projected snapshot projected stamped hsnapshot hunapplied hprojected =>
    rw [existing_eq_evidence hcall hsnapshot] at hunapplied hprojected
    obtain ⟨at_, hstamped⟩ := (projectFillEconomics_spec hprojected).stamp
    obtain ⟨-, hfills, -⟩ := writeProjection_fields
      (store.recordEvidence call.fill) call.deploymentId snapshot projected call.fill stamped
      call.order
    obtain ⟨hrecordedInv, -, -, hown⟩ := recordEvidence_effect hinv hcall.identified
    rw [hfills, ← hrecorded]
    refine filter_values_set (by rw [hstamped]; exact hrow at_) ?_
    -- the stamped row replaces its own evidence, which was not applied
    intro old hold
    have hevidence := (evidence_eq_some_iff hrecordedInv).mp hown
    rw [hstamped] at hold
    cases hevidence.1.symm.trans hold
    refine hpending _ ?_
    cases hexisting : evidence store call.fill.key with
    | none => exact hcall.unstamped
    | some existing => exact hunapplied existing hexisting

theorem call_filter (hinv : StoreInv identity store) (hcall : call.Promised identity)
    (hbook : book.Promised store call)
    (hpending : ∀ fill, fill.economicsAppliedAt = none → keep fill = false)
    (hrow : ∀ filled, call = .applyFill filled → ∀ at_, keep { appliedRow store filled with
      economicsAppliedAt := some at_ } = false) :
    (call.run store).fills.values.filter keep = store.fills.values.filter keep := by
  have hleft := call.run_leaves store
  generalize call.run store = next at hleft ⊢
  cases hleft with
  | saved _ _ _ _ hsame => rw [hsame.fills]
  | restored order => rw [(replaceOrder_frame store order).1.fills]
  | ordered => rw [(replaceOrder_frame store _).1.fills]
  | filled _ hnew =>
    refine filter_values_set (hpending _ hbook) ?_
    intro old hold
    exact absurd ((fills_absent hinv hcall hnew).symm.trans hold) (by simp)
  | applied filled => exact applyFill_filter hinv hcall hpending (hrow filled rfl)
  | _ => rfl

/-! ## Orders under a call -/

theorem replacedOrders_get (hclient : ∀ stored ∈ store.orders.values,
      stored.clientOrderId = order.clientOrderId → stored.id = order.id) (orderId : Uuid) :
    (store.replaceOrder order).orders.get? orderId =
      if orderId = order.id then some order else store.orders.get? orderId := by
  unfold replaceOrder
  split
  · exact get?_set ..
  next existing hfound =>
    have hid : existing.id = order.id := by
      refine hclient existing (mem_of_find?_eq_some hfound) ?_
      simpa using find?_some hfound
    rw [get?_set, hid]
    split
    · rfl
    next hne => rw [get?_erase_ne hne]

def KeepsKeys (store next : MemoryStore) : Prop :=
  ∀ fill ∈ store.fills.values, fill.economicsAppliedAt ≠ none →
    (next.orders.get? fill.orderId).map orderKey = (store.orders.get? fill.orderId).map orderKey

theorem KeepsKeys.of_same (h : next.orders = store.orders) : KeepsKeys store next := by
  intro fill _ _
  rw [h]

theorem OrderKept.keepsKeys {stored : Order} (h : OrderKept store order)
    (hid : stored.id = order.id) (hkey : orderKey stored = orderKey order)
    (horders : ∀ orderId, next.orders.get? orderId =
      if orderId = stored.id then some stored else store.orders.get? orderId) :
    KeepsKeys store next := by
  intro fill hfill happlied
  rw [horders, hid]
  split
  next hsame =>
    rw [hsame]
    cases hold : store.orders.get? order.id with
    | none => exact absurd hsame (h.fresh hold fill hfill happlied)
    | some old => rw [Option.map_some, Option.map_some, hkey, h.same old hold]
  · rfl

/-- Rewriting an order's progress keeps its id, its client id and its key. -/
structure SameOrder (before after : Order) : Prop where
  id : after.id = before.id
  client : after.clientOrderId = before.clientOrderId
  key : orderKey after = orderKey before

theorem sameOrder_withCancelTime (order : Order) (existing : Option Order) :
    SameOrder order (withCancelTime order existing) :=
  ⟨rfl, rfl, rfl⟩

theorem replacedOrders_congr {first second : MemoryStore} (h : first.orders = second.orders)
    (order : Order) : (first.replaceOrder order).orders = (second.replaceOrder order).orders := by
  unfold replaceOrder
  rw [h]
  split
  · rfl
  · rfl

theorem writeProjection_orders (store : MemoryStore) (deploymentId : Uuid)
    (snapshot projected : DeploymentSnapshot) (fill stamped : Fill) (order : Order) :
    (store.writeProjection deploymentId snapshot projected fill stamped order).orders =
      (store.replaceOrder (withCancelTime (appliedOrder snapshot fill stamped order)
        (store.orders.values.find?
          (fun item => item.clientOrderId = order.clientOrderId)))).orders := by
  have hstored : ({ store with
      fills := store.fills.set stamped.id stamped
      appliedFillKeys := insert fill.key store.appliedFillKeys } : MemoryStore).orders =
        store.orders := rfl
  exact replacedOrders_congr hstored _

theorem OrderKept.replaced {stored : Order} (hkeyed : OrdersKeyed store) (h : OrderKept store order)
    (hsame : SameOrder order stored) (horders : next.orders = (store.replaceOrder stored).orders) :
    OrdersKeyed next ∧ KeepsKeys store next := by
  have hget : ∀ orderId, next.orders.get? orderId =
      if orderId = stored.id then some stored else store.orders.get? orderId := by
    intro orderId
    rw [horders]
    refine replacedOrders_get ?_ orderId
    intro other hother hclient
    rw [hsame.id]
    exact h.client other hother (hclient.trans hsame.client)
  refine ⟨?_, h.keepsKeys hsame.id hsame.key hget⟩
  intro id found hfound
  rw [hget] at hfound
  split at hfound
  next hid =>
    cases hfound
    exact hid.symm
  · exact hkeyed id found hfound

theorem call_orders (hkeyed : OrdersKeyed store) (hbook : book.Promised store call) :
    OrdersKeyed (call.run store) ∧ KeepsKeys store (call.run store) := by
  have hidle : ∀ next : MemoryStore, next.orders = store.orders →
      OrdersKeyed next ∧ KeepsKeys store next := by
    intro next hsame
    refine ⟨?_, .of_same hsame⟩
    unfold OrdersKeyed
    rw [hsame]
    exact hkeyed
  have hleft := call.run_leaves store
  generalize call.run store = next at hleft ⊢
  cases hleft with
  | saved _ _ hrun =>
    exact hidle _ ((congrArg (·.2.orders) hrun).symm.trans (saveDeployment_orders _ _ _ _))
  | restored => exact OrderKept.replaced hkeyed hbook ⟨rfl, rfl, rfl⟩ rfl
  | ordered order existing =>
    exact OrderKept.replaced hkeyed hbook (sameOrder_withCancelTime order existing) rfl
  | applied filled =>
    have hrecorded := (recordEvidence_books store filled.fill).1
    have hfilled := filled.run_leaves store
    generalize (filled.run store).2 = next at hfilled ⊢
    cases hfilled with
    | untouched => exact hidle _ rfl
    | recorded => exact hidle _ hrecorded
    | @projected snapshot projected stamped =>
      have hsame := sameOrder_withCancelTime
        (appliedOrder snapshot filled.fill stamped filled.order)
        ((store.recordEvidence filled.fill).orders.values.find?
          (fun item => item.clientOrderId = filled.order.clientOrderId))
      refine OrderKept.replaced hkeyed hbook.1 ⟨hsame.id, hsame.client, hsame.key⟩ ?_
      rw [writeProjection_orders]
      exact replacedOrders_congr hrecorded _
  | _ => exact hidle _ rfl

/-! ## The book under a call -/

def BookRow (book : PaperBook) (store : MemoryStore) : Prop :=
  ∀ row, store.deployments.get? book.id = some row →
    row.productId = book.productId ∧ row.mode = .paper

theorem call_row (hkeyed : DeploymentsKeyed store) (hbook : book.Promised store call)
    (hrow : BookRow book store) :
    BookRow book (call.run store) ∧ (store.deployments.get? book.id ≠ none →
      (call.run store).deployments.get? book.id ≠ none) := by
  rcases call.run_rows hkeyed with hsame | ⟨row, hset, hwrite⟩
  · unfold BookRow
    rw [hsame]
    exact ⟨hrow, id⟩
  · have hwritten : row.id = book.id → row.productId = book.productId ∧ row.mode = .paper := by
      intro hid
      cases hwrite with
      | created => exact hbook hid
      | saved _ _ hsaved =>
        subst hsaved
        exact hbook hid
      | @rewritten _ current hcurrent hsame =>
        rw [hid] at hcurrent
        obtain ⟨hproduct, hmode⟩ := hrow current hcurrent
        exact ⟨hsame.productId.trans hproduct, hsame.mode.trans hmode⟩
    constructor
    · intro found hfound
      obtain ⟨hid, rfl⟩ | ⟨-, hfound⟩ := get?_set_cases hset hfound
      · exact hwritten hid.symm
      · exact hrow found hfound
    · intro hstored
      rw [hset, get?_set]
      split
      · simp
      · exact hstored

/-- The key decides whether an order is the book's. -/
theorem filter_map_orderKey {first second : Option Order} (deploymentId : Uuid)
    (h : second.map orderKey = first.map orderKey) :
    (second.filter (fun order => order.deploymentId = deploymentId)).map orderKey =
      (first.filter (fun order => order.deploymentId = deploymentId)).map orderKey := by
  cases first with
  | none =>
    rw [Option.map_eq_none_iff.mp h]
  | some order =>
    obtain ⟨other, rfl, hkey⟩ := Option.map_eq_some_iff.mp h
    have howner : other.deploymentId = order.deploymentId := congrArg Prod.fst hkey
    rw [Option.filter_some, Option.filter_some, howner]
    split
    · rw [Option.map_some, Option.map_some, hkey]
    · rfl

theorem snapshot_early {snapshot : DeploymentSnapshot} {deploymentId : Uuid}
    (h : store.getDeployment deploymentId = .ok snapshot) (instant : Time) :
    snapshot.fills.filter (fun fill => fill.economicsAppliedAt ≠ none ∧ fill.filledAt < instant) =
      store.fills.values.filter (earlyApplied deploymentId instant) := by
  rw [(getDeployment_ok h).2, filter_filter]
  apply filter_congr
  intro fill _
  unfold earlyApplied
  by_cases hown : fill.deploymentId = deploymentId
  · simp [hown]
  · simp [hown]

theorem heldAt_congr (hkeyed : OrdersKeyed store) (hnextKeyed : OrdersKeyed next)
    (hrow : BookRow book store) (hnextRow : BookRow book next)
    (hstored : store.deployments.get? book.id ≠ none)
    (hnextStored : next.deployments.get? book.id ≠ none) {instant : Time}
    (hfills : next.fills.values.filter (earlyApplied book.id instant) = store.fills.values.filter
      (earlyApplied book.id instant)) (hkeys : KeepsKeys store next) :
    heldAt next book instant = heldAt store book instant := by
  obtain ⟨before, hbefore⟩ := Option.ne_none_iff_exists'.mp hstored
  obtain ⟨after, hafter⟩ := Option.ne_none_iff_exists'.mp hnextStored
  obtain ⟨first, hfirst, hfirstRow⟩ := getDeployment_of_row hbefore
  obtain ⟨second, hsecond, hsecondRow⟩ := getDeployment_of_row hafter
  unfold heldAt
  rw [hfirst, hsecond]
  dsimp only
  rw [heldQuantityBefore_eq, heldQuantityBefore_eq, snapshot_early hfirst, snapshot_early hsecond,
    hfills]
  congr 2
  apply filterMap_congr
  intro fill hfill
  obtain ⟨hmem, hearly⟩ := mem_filter.mp hfill
  have happlied : fill.economicsAppliedAt ≠ none := (of_decide_eq_true hearly).2.1
  apply signedFill_congr
  · rw [hfirstRow, hsecondRow, (hrow before hbefore).1, (hnextRow after hafter).1]
  · rw [(getDeployment_records hfirst).1, (getDeployment_records hsecond).1,
      lastOrder_eq hkeyed, lastOrder_eq hnextKeyed]
    exact filter_map_orderKey book.id (hkeys fill hmem happlied)

theorem heldAt_kept (hinv : StoreInv identity store) (hkeyed : OrdersKeyed store)
    (hrow : BookRow book store) (hstored : store.deployments.get? book.id ≠ none)
    (hcall : call.Promised identity) (hbook : book.Promised store call) {instant : Time}
    (hstamp : ∀ filled, call = .applyFill filled → filled.deploymentId = book.id → instant ≤
      (appliedRow store filled).filledAt) :
    heldAt (call.run store) book instant = heldAt store book instant := by
  obtain ⟨hnextRow, hnextStored⟩ := call_row hinv.deploymentIds hbook hrow
  obtain ⟨hnextKeyed, hkeys⟩ := call_orders hkeyed hbook
  refine heldAt_congr hkeyed hnextKeyed hrow hnextRow hstored (hnextStored hstored) ?_ hkeys
  refine call_filter hinv hcall hbook ?_ ?_
  · intro fill hpending
    simp [earlyApplied, hpending]
  · intro filled hfilled at_
    by_cases hown : (appliedRow store filled).deploymentId = book.id
    · have hlate : instant ≤ (appliedRow store filled).filledAt := by
        refine hstamp filled hfilled ?_
        subst hfilled
        rw [← hown, appliedRow_owner hinv hcall]
      simp [earlyApplied, hlate]
    · simp [earlyApplied, hown]

end Thytrader.Execution
