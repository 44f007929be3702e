import Thytrader.Trading.FillCash

/-!
# Order progress and applied evidence

`apply_fill_transaction` projects the evidence row that is stored for a venue fill, and advances
the order by the quantity of the fill it was called with. The two differ when evidence was recorded
first and the venue reports the fill again with another quantity. The status, too, is the caller's:
the order row is rewritten from the order passed in, and only marked filled.

`FillCall.Consistent` is what a call needs for its order row to agree with the applied evidence
(`progress_agrees_along_run`).
-/

namespace Thytrader.Trading

open Lib MemoryStore Reachable

/-- What one stored fill adds to the applied quantity of an order. -/
def appliedPart (deploymentId orderId : Uuid) (fill : Fill) : Decimal :=
  if fill.deploymentId = deploymentId ∧ fill.orderId = orderId ∧ fill.economicsAppliedAt ≠ none then
    fill.quantity
  else 0

def appliedTotal (store : MemoryStore) (deploymentId orderId : Uuid) : Decimal :=
  (store.fills.values.map (appliedPart deploymentId orderId)).sum

/-- Filled exactly when its progress says so, unless it ended another way. -/
def Order.Agrees (order : Order) : Prop :=
  order.status = .canceled ∨ order.status = .rejected ∨
    (order.status = .filled ↔ order.quantity ≤ order.filledQuantity)

/-- The stored order agrees with the fills applied for it. -/
def ProgressAgrees (store : MemoryStore) (deploymentId orderId : Uuid) : Prop :=
  ∀ order, store.orders.get? orderId = some order →
    appliedTotal store deploymentId orderId ≤ order.filledQuantity ∧ order.Agrees

/-- The evidence a call projects. -/
def FillCall.evidence (call : FillCall) (store : MemoryStore) : Fill :=
  (Trading.evidence store call.fill.key).getD call.fill

/-- The quantity a call adds to the applied fills of its order. -/
def FillCall.part (call : FillCall) (store : MemoryStore) : Decimal :=
  if (call.evidence store).orderId = call.order.id then (call.evidence store).quantity else 0

/-- The stored evidence is no larger than the call's fill, or the order covers it; and the order's
status agrees with its progress, unless the fill completes it. -/
def FillCall.Consistent (call : FillCall) (store : MemoryStore) : Prop :=
  let applied := appliedTotal store call.deploymentId call.order.id
  (call.part store ≤ call.fill.quantity ∨
      applied + call.part store ≤ call.order.filledQuantity) ∧
    (call.order.quantity ≤ applied + call.fill.quantity ∨ call.order.Agrees)

/-! ## Totals -/

theorem appliedFillQuantity_eq {store : MemoryStore} {deploymentId : Uuid}
    {snapshot : DeploymentSnapshot} (h : store.getDeployment deploymentId = .ok snapshot)
    (orderId : Uuid) :
    appliedFillQuantity snapshot orderId = appliedTotal store deploymentId orderId := by
  unfold appliedFillQuantity appliedTotal
  rw [(getDeployment_ok h).2, List.filter_filter]
  induction store.fills.values with
  | nil => rfl
  | cons fill _ ih =>
    rw [List.filter_cons, List.map_cons, List.sum_cons, ← ih]
    unfold appliedPart
    by_cases howner : fill.deploymentId = deploymentId
    · simp only [howner, decide_true, Bool.and_true, true_and, decide_eq_true_eq]
      split
      · rw [List.map_cons, List.sum_cons]
      · rw [zero_add]
    · simp [howner]

theorem appliedTotal_set {store next : MemoryStore} {fill : Fill}
    (hfills : next.fills = store.fills.set fill.id fill)
    (hold : ∀ row, store.fills.get? fill.id = some row → row.economicsAppliedAt = none)
    (deploymentId orderId : Uuid) :
    appliedTotal next deploymentId orderId =
      appliedTotal store deploymentId orderId + appliedPart deploymentId orderId fill := by
  have hsum := Dict.sum_values_set (appliedPart deploymentId orderId) store.fills fill.id fill
  have hpart : ((store.fills.get? fill.id).map (appliedPart deploymentId orderId)).getD 0 = 0 := by
    cases hrow : store.fills.get? fill.id with
    | none => rfl
    | some row => simp [appliedPart, hold row hrow]
  rw [hpart, add_zero] at hsum
  unfold appliedTotal
  rw [hfills, hsum]

theorem appliedPart_unstamped {fill : Fill} (h : fill.economicsAppliedAt = none)
    (deploymentId orderId : Uuid) : appliedPart deploymentId orderId fill = 0 := by
  simp [appliedPart, h]

section

variable {identity : Uuid → Uuid × String} {store : MemoryStore} {call : FillCall} {fill : Fill}

section

variable (hinv : StoreInv identity store) (hid : identity fill.id = fill.key)
include hinv hid

/-- A row under a fill's id is the row of its venue fill. -/
theorem get?_fill_of_new (hnew : fill.key ∉ store.fillKeys) : store.fills.get? fill.id = none := by
  by_contra hrow
  obtain ⟨row, hrow⟩ := Option.ne_none_iff_exists'.mp hrow
  refine hnew ((hinv.fillKeys fill.key).mpr ⟨fill.id, row, hrow, ?_⟩)
  rw [← (hinv.fillIds fill.id row hrow).2, hid]

theorem appliedTotal_record
    (hunstamped : fill.economicsAppliedAt = none) (deploymentId orderId : Uuid) :
    appliedTotal (store.recordEvidence fill) deploymentId orderId =
      appliedTotal store deploymentId orderId := by
  unfold recordEvidence
  split
  · rfl
  next hnew =>
    have hnone := get?_fill_of_new hinv hid hnew
    rw [appliedTotal_set rfl (by simp [hnone]), appliedPart_unstamped hunstamped, add_zero]

end

theorem replaceOrder_get? (order : Order) :
    (store.replaceOrder order).orders.get? order.id = some order := by
  unfold replaceOrder
  split
  · exact Dict.get?_set_self _ _ _
  · exact Dict.get?_set_self _ _ _

/-- What a projected call leaves. -/
def FillCall.written (call : FillCall) (store : MemoryStore)
    (snapshot projected : DeploymentSnapshot) (stamped : Fill) : MemoryStore :=
  (store.recordEvidence call.fill).writeProjection call.deploymentId snapshot projected call.fill
    stamped call.order

section

variable {snapshot projected : DeploymentSnapshot} {stamped : Fill}
  (hinv : StoreInv identity store) (hcall : call.Promised identity)
  (hsnapshot : store.getDeployment call.deploymentId = .ok snapshot)
  (hpending : ¬ EconomicsApplied store call.fill.key)
  (hprojected : projectFillEconomics snapshot (call.evidence store) call.order call.cooldownBars
    call.timeframe call.now call.after = .ok (projected, stamped))
include hinv hcall hsnapshot hpending hprojected

theorem projected_progress :
    let written := call.written store snapshot projected stamped
    let applied := appliedTotal store call.deploymentId call.order.id
    appliedTotal written call.deploymentId call.order.id = applied + call.part store ∧
      ∃ order, written.orders.get? call.order.id = some order ∧
        order.quantity = call.order.quantity ∧
        order.filledQuantity = max call.order.filledQuantity (applied + call.fill.quantity) ∧
        order.status =
          if call.order.quantity ≤ applied + call.fill.quantity then .filled
          else call.order.status := by
  obtain ⟨at_, hstamped⟩ := (projectFillEconomics_spec hprojected).stamp
  obtain ⟨hrecorded, -, -, hown⟩ := recordEvidence_effect hinv hcall.identified
  obtain ⟨-, hfills, -⟩ := writeProjection_fields (store.recordEvidence call.fill)
    call.deploymentId snapshot projected call.fill stamped call.order
  have hsource := (evidence_eq_some_iff hrecorded).mp hown
  change (store.recordEvidence call.fill).fills.get? (call.evidence store).id =
    some (call.evidence store) ∧ (call.evidence store).key = _ at hsource
  have hunstamped : (call.evidence store).economicsAppliedAt = none := by
    unfold FillCall.evidence
    cases hrow : evidence store call.fill.key with
    | none => exact hcall.unstamped
    | some row => exact not_not.mp fun happlied => hpending ⟨row, hrow, happlied⟩
  have hid : stamped.id = (call.evidence store).id := by rw [hstamped]
  constructor
  · unfold FillCall.written
    rw [appliedTotal_set hfills, appliedTotal_record hinv hcall.identified hcall.unstamped]
    · have howner : (call.evidence store).deploymentId = call.deploymentId :=
        (congrArg Prod.fst hsource.2).trans hcall.owner
      rw [hstamped]
      simp only [appliedPart, FillCall.part, howner, true_and, ne_eq, reduceCtorEq, not_false_eq_true,
        and_true]
    · intro row hrow
      rw [hid, hsource.1] at hrow
      rw [← Option.some.inj hrow, hunstamped]
  · refine ⟨_, replaceOrder_get? (withCancelTime (appliedOrder snapshot call.fill stamped
      call.order) _), rfl, ?_, ?_⟩
    · show max _ (appliedFillQuantity snapshot call.order.id + _) = _
      rw [appliedFillQuantity_eq hsnapshot]
    · show (if _ ≤ appliedFillQuantity snapshot call.order.id + _ then _ else _) = _
      rw [appliedFillQuantity_eq hsnapshot]

/-- A projected call leaves its order in agreement exactly when it was consistent. -/
theorem progress_projected_iff :
    ProgressAgrees (call.written store snapshot projected stamped) call.deploymentId call.order.id ↔
      call.Consistent store := by
  obtain ⟨htotal, order, horder, hquantity, hfilled, hstatus⟩ :=
    projected_progress hinv hcall hsnapshot hpending hprojected
  have honly : ProgressAgrees (call.written store snapshot projected stamped) call.deploymentId
      call.order.id ↔ appliedTotal store call.deploymentId call.order.id + call.part store ≤
        order.filledQuantity ∧ order.Agrees := by
    rw [← htotal]
    refine ⟨fun h => h order horder, fun h other hother => ?_⟩
    cases horder.symm.trans hother
    exact h
  rw [honly, hfilled, le_max_iff, add_le_add_iff_left, or_comm]
  refine and_congr_right fun _ => ?_
  unfold Order.Agrees
  rw [hstatus, hquantity, hfilled, le_max_iff]
  split
  next hcomplete => simp [hcomplete]
  next hopen => simp [hopen]

end

/-- One call about an order: it fills it, or records evidence before that. -/
def progressStep (identity : Uuid → Uuid × String) (deploymentId orderId : Uuid)
    (before : MemoryStore) (call : StoreCall) (after : MemoryStore) : Prop :=
  storeStep identity before call after ∧
    match call with
    | .saveFill fill => fill.economicsAppliedAt = none
    | .applyFill call => call.deploymentId = deploymentId ∧ call.order.id = orderId ∧
        (¬ EconomicsApplied before call.fill.key → call.Consistent before)
    | _ => False

/-- Evidence alone moves no order and applies nothing. -/
theorem ProgressAgrees.recorded {deploymentId orderId : Uuid}
    (h : ProgressAgrees store deploymentId orderId) (hinv : StoreInv identity store)
    (hid : identity fill.id = fill.key) (hunstamped : fill.economicsAppliedAt = none) :
    ProgressAgrees (store.recordEvidence fill) deploymentId orderId := by
  intro order horder
  rw [appliedTotal_record hinv hid hunstamped]
  refine h order ?_
  unfold recordEvidence at horder
  split at horder
  · exact horder
  · exact horder

theorem saveFill_unstamped (h : fill.economicsAppliedAt = none) :
    (store.saveFill fill).2 = store.recordEvidence fill := by
  unfold saveFill recordEvidence
  simp only [h, ne_eq, not_true_eq_false, if_false]
  split
  · rfl
  · rfl

theorem ProgressAgrees.applyFill (hinv : StoreInv identity store) (hcall : call.Promised identity)
    (hconsistent : ¬ EconomicsApplied store call.fill.key → call.Consistent store)
    (h : ProgressAgrees store call.deploymentId call.order.id) :
    ProgressAgrees (call.run store).2 call.deploymentId call.order.id := by
  have hleft := call.run_leaves store
  generalize (call.run store).2 = next at hleft ⊢
  cases hleft with
  | untouched => exact h
  | recorded => exact h.recorded hinv hcall.identified hcall.unstamped
  | projected hsnapshot hnone hprojected =>
    rw [existing_eq_evidence hcall hsnapshot] at hnone hprojected
    have hpending : ¬ EconomicsApplied store call.fill.key := by
      rintro ⟨row, hrow, happlied⟩
      exact happlied (hnone row hrow)
    exact (progress_projected_iff hinv hcall hsnapshot hpending hprojected).mpr
      (hconsistent hpending)

end

/-- Over every sequence of consistent fill transactions for an order, with evidence recorded in
between, the order agrees with its applied fills. -/
theorem progress_agrees_along_run (identity : Uuid → Uuid × String) (deploymentId orderId : Uuid)
    (store : MemoryStore)
    (h : Reachable (fun start => StoreReachable identity start ∧
      ProgressAgrees start deploymentId orderId) (progressStep identity deploymentId orderId) store) :
    ProgressAgrees store deploymentId orderId := by
  refine (invariant (fun store => StoreInv identity store ∧
    ProgressAgrees store deploymentId orderId) ?_ ?_ h).2
  · rintro start ⟨hreach, hagrees⟩
    exact ⟨hreach.inv, hagrees⟩
  · rintro before call after ⟨hinv, hagrees⟩ ⟨⟨hpromised, rfl⟩, hstep⟩
    refine ⟨StoreCall.run_inv hinv hpromised, ?_⟩
    cases call with
    | saveFill fill =>
      rw [show StoreCall.run (.saveFill fill) before = _ from saveFill_unstamped hstep]
      exact hagrees.recorded hinv hpromised hstep
    | applyFill =>
      obtain ⟨rfl, rfl, hconsistent⟩ := hstep
      exact hagrees.applyFill hinv hpromised hconsistent
    | _ => exact absurd hstep id

def sampleBook : MemoryStore := MemoryStore.empty.createDeployment sampleDeployment

/-- Order 5 is called with a fill of the venue id "v1". -/
def observedFill (id : Uuid) (quantity : Decimal) : FillCall :=
  { deploymentId := 1, fill := sampleFill id "v1" quantity, order := sampleOrder 5 .buy, now := 7,
    after := 7 }

theorem progress_agrees_along_run_filled :
    ProgressAgrees ((observedFill 10 2).run sampleBook).2 1 5 := by
  have hbook : StoreReachable sampleIdentity sampleBook :=
    next (e := .createDeployment sampleDeployment) (start rfl) ⟨trivial, rfl⟩
  have hconsistent : (observedFill 10 2).Consistent sampleBook :=
    ⟨.inl (by decide +kernel), .inr (.inr (.inr (by decide +kernel)))⟩
  exact progress_agrees_along_run sampleIdentity 1 5 _
    (next (e := .applyFill (observedFill 10 2))
      (start ⟨hbook, fun order horder => by cases horder⟩)
      ⟨⟨⟨rfl, rfl, rfl⟩, rfl⟩, rfl, rfl, fun _ => hconsistent⟩)

/-- Evidence of 2 is recorded, then the same venue fill comes with 1: 2 are applied to an order
whose progress says 1. -/
theorem smaller_replay_understates :
    StoreReachable sampleIdentity (sampleBook.saveFill (sampleFill 10 "v1" 2)).2 ∧
      (observedFill 11 1).Promised sampleIdentity ∧
      appliedTotal ((observedFill 11 1).run (sampleBook.saveFill (sampleFill 10 "v1" 2)).2).2 1 5 = 2 ∧
      (((observedFill 11 1).run (sampleBook.saveFill (sampleFill 10 "v1" 2)).2).2.orders.get? 5).map
        (·.filledQuantity) = some 1 ∧
      ¬ ProgressAgrees ((observedFill 11 1).run (sampleBook.saveFill (sampleFill 10 "v1" 2)).2).2
        1 5 := by
  have htotal : appliedTotal ((observedFill 11 1).run
      (sampleBook.saveFill (sampleFill 10 "v1" 2)).2).2 1 5 = 2 := by decide +kernel
  have hfilled : (((observedFill 11 1).run
      (sampleBook.saveFill (sampleFill 10 "v1" 2)).2).2.orders.get? 5).map (·.filledQuantity) =
        some 1 := by decide +kernel
  refine ⟨next (e := .saveFill (sampleFill 10 "v1" 2))
    (next (e := .createDeployment sampleDeployment) (start rfl) ⟨trivial, rfl⟩)
    ⟨rfl, rfl⟩, ⟨rfl, rfl, rfl⟩, htotal, hfilled, ?_⟩
  intro hagrees
  obtain ⟨order, horder, hquantity⟩ := Option.map_eq_some_iff.mp hfilled
  have hcovered := (hagrees order horder).1
  rw [htotal, hquantity] at hcovered
  exact absurd hcovered (by decide)

end Thytrader.Trading
