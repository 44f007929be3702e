import Thytrader.Execution.HeldQuantity

/-!
# Terminal timestamps

Every write of an order row goes through `with_cancel_time` with the stored row of its client
order id, in `save_order` as in the progress update of a fill. A stored cancel time or settlement
therefore stays (`terminal_stamps_sticky`).
-/

namespace Thytrader.Execution

open Trading Lib MemoryStore List Dict

variable {store next : MemoryStore} {clientOrderId : String}

/-- The row a write finds for its client order id. -/
def storedOrder (clientOrderId : String) (store : MemoryStore) : Option Order :=
  store.orders.values.find? (fun item => item.clientOrderId = clientOrderId)

/-- A client order id has one row. -/
structure OneRow (clientOrderId : String) (store : MemoryStore) : Prop where
  keyed : OrdersKeyed store
  single : ∀ first ∈ store.orders.values, ∀ second ∈ store.orders.values,
    first.clientOrderId = clientOrderId → second.clientOrderId = clientOrderId → first = second

theorem OneRow.stored (h : OneRow clientOrderId store) {order : Order}
    (horder : order ∈ store.orders.values) (hclient : order.clientOrderId = clientOrderId) :
    storedOrder clientOrderId store = some order := by
  cases hfound : storedOrder clientOrderId store with
  | none => exact absurd hclient (by simpa using find?_eq_none.mp hfound order horder)
  | some found =>
    have hfoundClient : found.clientOrderId = clientOrderId := by simpa using find?_some hfound
    rw [h.single found (mem_of_find?_eq_some hfound) order horder hfoundClient hclient]

theorem OneRow.replaced (h : OneRow clientOrderId store) {order : Order}
    (hclient : order.clientOrderId = clientOrderId)
    (horders : next.orders = (store.replaceOrder order).orders) :
    OneRow clientOrderId next ∧ storedOrder clientOrderId next = some order := by
  have hget (id : Uuid) (row : Order) (hrow : next.orders.get? id = some row) :
      (id = order.id ∧ row = order) ∨
        (store.orders.get? id = some row ∧ row.clientOrderId ≠ clientOrderId) := by
    unfold replaceOrder at horders
    split at horders
    next hnone =>
      obtain hnew | ⟨-, hrow⟩ := get?_set_cases horders hrow
      · exact .inl hnew
      · refine .inr ⟨hrow, fun hsame => ?_⟩
        exact find?_eq_none.mp hnone row (mem_values_iff.mpr ⟨id, hrow⟩)
          (by simp [hsame, hclient])
    next existing hfound =>
      obtain hnew | ⟨-, hrow⟩ := get?_set_cases horders hrow
      · exact .inl hnew
      · obtain ⟨hother, hrow⟩ := mem_erase_iff.mp (get?_eq_some_iff.mp hrow)
        have hrow := get?_eq_some_iff.mpr hrow
        refine .inr ⟨hrow, fun hsame => hother ?_⟩
        have hexisting : existing.clientOrderId = clientOrderId := by
          simpa [hclient] using find?_some hfound
        rw [← h.single row (mem_values_iff.mpr ⟨id, hrow⟩) existing
          (mem_of_find?_eq_some hfound) hsame hexisting, h.keyed id row hrow]
  have hone : OneRow clientOrderId next := by
    refine ⟨fun id row hrow => ?_, fun first hfirst second hsecond hsame hsame' => ?_⟩
    · obtain ⟨rfl, rfl⟩ | ⟨hold, -⟩ := hget id row hrow
      · rfl
      · exact h.keyed id row hold
    · obtain ⟨id, hfirst⟩ := mem_values_iff.mp hfirst
      obtain ⟨id', hsecond⟩ := mem_values_iff.mp hsecond
      obtain ⟨-, rfl⟩ := (hget id first hfirst).resolve_right (fun hold => hold.2 hsame)
      obtain ⟨-, rfl⟩ := (hget id' second hsecond).resolve_right (fun hold => hold.2 hsame')
      rfl
  refine ⟨hone, hone.stored (mem_values_iff.mpr ⟨order.id, ?_⟩) hclient⟩
  rw [horders]
  unfold replaceOrder
  split <;> exact get?_set_self ..

/-- A write of one order row. -/
inductive OrderWrite where
  | save (order : Order)
  | fill (call : FillCall)

def OrderWrite.order : OrderWrite → Order
  | .save order => order
  | .fill call => call.order

def OrderWrite.run (store : MemoryStore) : OrderWrite → MemoryStore
  | .save order => (store.saveOrder order).2
  | .fill call => (call.run store).2

/-- A stored terminal time stays. -/
def StampsKept (before after : Option Order) : Prop :=
  ∀ time, (before.bind (·.canceledAt) = some time → after.bind (·.canceledAt) = some time) ∧
    (before.bind (·.settledAt) = some time → after.bind (·.settledAt) = some time)

theorem stampsKept_withCancelTime (order : Order) (stored : Option Order) :
    StampsKept stored (some (withCancelTime order stored)) :=
  fun time => ⟨fun htime => by simp [withCancelTime, htime],
    fun htime => by simp [withCancelTime, htime]⟩

/-- A write leaves the orders, or replaces the row of its client order id by the merged one. -/
theorem OrderWrite.run_orders (store : MemoryStore) (write : OrderWrite) :
    (write.run store).orders = store.orders ∨
      ∃ order, order.clientOrderId = write.order.clientOrderId ∧
        (write.run store).orders = (store.replaceOrder
          (withCancelTime order (storedOrder write.order.clientOrderId store))).orders := by
  cases write with
  | save order => exact .inr ⟨order, rfl, rfl⟩
  | fill call =>
    have hrecorded := (recordEvidence_books store call.fill).1
    have hleft := call.run_leaves store
    rw [OrderWrite.run]
    generalize (call.run store).2 = next at hleft
    cases hleft with
    | untouched => exact .inl rfl
    | recorded => exact .inl hrecorded
    | @projected snapshot projected stamped =>
      refine .inr ⟨appliedOrder snapshot call.fill stamped call.order, rfl, ?_⟩
      rw [writeProjection_orders, hrecorded]
      exact replacedOrders_congr hrecorded _

section

variable (h : OneRow clientOrderId store)
include h

theorem OrderWrite.run_kept (write : OrderWrite)
    (hclient : write.order.clientOrderId = clientOrderId) :
    OneRow clientOrderId (write.run store) ∧
      StampsKept (storedOrder clientOrderId store) (storedOrder clientOrderId (write.run store)) := by
  obtain hsame | ⟨order, horder, horders⟩ := write.run_orders store
  · unfold storedOrder
    rw [hsame]
    refine ⟨⟨fun id row hrow => h.keyed id row (hsame ▸ hrow), ?_⟩, fun _ => ⟨id, id⟩⟩
    rw [hsame]
    exact h.single
  · rw [hclient] at horder horders
    obtain ⟨hone, hstored⟩ := @OneRow.replaced store _ _ h (withCancelTime order _) horder horders
    rw [hstored]
    exact ⟨hone, stampsKept_withCancelTime order _⟩

theorem runWrites_kept {writes : List OrderWrite}
    (hclient : ∀ write ∈ writes, write.order.clientOrderId = clientOrderId) :
    OneRow clientOrderId (writes.foldl OrderWrite.run store) ∧
      StampsKept (storedOrder clientOrderId store)
        (storedOrder clientOrderId (writes.foldl OrderWrite.run store)) := by
  induction writes generalizing store with
  | nil => exact ⟨h, fun _ => ⟨id, id⟩⟩
  | cons write rest ih =>
    obtain ⟨hfirst, hrest⟩ := forall_mem_cons.mp hclient
    obtain ⟨hone, hkept⟩ := write.run_kept h hfirst
    obtain ⟨hlast, hlater⟩ := ih hone hrest
    exact ⟨hlast, fun time => ⟨(hlater time).1 ∘ (hkept time).1, (hlater time).2 ∘ (hkept time).2⟩⟩

/-- Whatever time is stored after some writes, the later ones leave it. -/
theorem terminal_stamps_sticky (earlier later : List OrderWrite)
    (hclient : ∀ write ∈ earlier ++ later, write.order.clientOrderId = clientOrderId) :
    StampsKept (storedOrder clientOrderId (earlier.foldl OrderWrite.run store))
      (storedOrder clientOrderId ((earlier ++ later).foldl OrderWrite.run store)) := by
  obtain ⟨hearlier, hlater⟩ := forall_mem_append.mp hclient
  rw [foldl_append]
  exact (runWrites_kept (runWrites_kept h hearlier).1 hlater).2

end

def canceledEntry : Order := { sampleOrder 5 .buy with status := .canceled, updatedAt := 3 }

/-- A canceled order is saved open, without its cancel time. -/
theorem reopened_keeps_cancel :
    StampsKept (storedOrder "entry" ([OrderWrite.save canceledEntry].foldl OrderWrite.run .empty))
      (storedOrder "entry" (([OrderWrite.save canceledEntry] ++
        [OrderWrite.save (sampleOrder 5 .buy)]).foldl OrderWrite.run .empty)) := by
  have hempty : OneRow "entry" MemoryStore.empty := by
    refine ⟨fun id row hrow => ?_, fun row hrow => ?_⟩
    · have hnone : MemoryStore.empty.orders.get? id = none := rfl
      cases hnone.symm.trans hrow
    · cases hrow
  exact terminal_stamps_sticky hempty _ _ (by decide)

end Thytrader.Execution
