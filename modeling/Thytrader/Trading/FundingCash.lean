import Thytrader.Trading.FillCash

/-!
# Funding charged once

`apply_funding_transaction` filters the hours of a call against the recorded ones, sums what is left
into cash and records each hour under its key. Against the store the filter is enough: an hour
recorded before is never charged again, whatever fills move cash in between
(`runMoney_charges_once`). Inside one call it is not: two flows of one unrecorded hour both pass the
filter, both are summed, and the second record replaces the first. The Postgres store inserts hour
by hour and charges such a pair once.
-/

namespace Thytrader.Trading

open Lib MemoryStore List FundingCashFlow Reachable

/-- The identity of a funding hour: `(deployment_id, product_id, funding_time)`. -/
def FundingCashFlow.key (flow : FundingCashFlow) : Uuid × String × Time :=
  (flow.deploymentId, flow.productId, flow.fundingTime)

def recordedFunding (store : MemoryStore) (deploymentId : Uuid) : Decimal :=
  ((store.funding.values.filter (fun flow => flow.deploymentId = deploymentId)).map (·.amount)).sum

/-- Every recorded flow sits under its own hour. -/
def FundingKeyed (store : MemoryStore) : Prop :=
  ∀ entry ∈ store.funding.entries, entry.1 = entry.2.key

/-- The hours of a call that are charged are distinct. -/
def DistinctHours (store : MemoryStore) (flows : List FundingCashFlow) : Prop :=
  ((store.freshFunding flows).map key).Nodup

instance (store : MemoryStore) (flows : List FundingCashFlow) :
    Decidable (DistinctHours store flows) :=
  inferInstanceAs (Decidable (List.Nodup _))

variable {identity : Uuid → Uuid × String} {store : MemoryStore}

/-! ## Recorded hours -/

/-- Under its own keys, no hour is recorded twice. -/
theorem FundingKeyed.nodup (h : FundingKeyed store) :
    (store.funding.values.map key).Nodup := by
  have hkeys : store.funding.values.map key =
      store.funding.entries.map Prod.fst := by
    rw [Dict.values, map_map]
    exact map_congr_left (fun entry hentry => (h entry hentry).symm)
  rw [hkeys]
  exact store.funding.nodup

variable {next : MemoryStore} {flows : List FundingCashFlow}

theorem FundingKeyed.frame (h : FundingKeyed store) (hfunding : next.funding = store.funding) :
    FundingKeyed next := by
  unfold FundingKeyed
  rw [hfunding]
  exact h

/-- A charged hour is not recorded yet. -/
theorem fresh_absent {flow : FundingCashFlow} (h : flow ∈ store.freshFunding flows) :
    store.funding.get? flow.key = none := by
  have habsent : store.funding.contains flow.key = false :=
    of_decide_eq_true (mem_filter.mp h).2
  exact Option.isNone_iff_eq_none.mp (Option.isSome_eq_false_iff.mp habsent)

/-- Recording flows keeps every one under its own hour. -/
theorem keyed_foldl_set {rows : List FundingCashFlow} {d : Dict (Uuid × String × Time) FundingCashFlow}
    (h : ∀ entry ∈ d.entries, entry.1 = entry.2.key) :
    ∀ entry ∈ (rows.foldl (fun d flow => d.set flow.key flow) d).entries,
      entry.1 = entry.2.key := by
  induction rows generalizing d with
  | nil => exact h
  | cons _ _ ih =>
    refine ih ?_
    intro entry hentry
    rcases Dict.mem_set_iff.mp hentry with rfl | ⟨-, hold⟩
    · rfl
    · exact h entry hold

theorem StoreCall.run_fundingKeyed {call : StoreCall} (h : FundingKeyed store) :
    FundingKeyed (call.run store) := by
  have hleft := call.run_leaves store
  generalize call.run store = next at hleft ⊢
  cases hleft with
  | refused | created => exact h
  | saved _ _ _ _ hsame => exact h.frame hsame.funding
  | restored order => exact h.frame (replaceOrder_frame store order).1.funding
  | ordered => exact h.frame (replaceOrder_frame store _).1.funding
  | applied call => exact h.frame (call.run_frame store).2
  | funded => exact keyed_foldl_set h
  | _ => exact h.frame rfl

theorem StoreReachable.fundingKeyed (h : StoreReachable identity store) : FundingKeyed store := by
  refine invariant FundingKeyed ?_ ?_ h
  · rintro _ rfl entry hentry
    exact absurd hentry (by simp [MemoryStore.empty, Dict.empty])
  · rintro before call after hkeyed ⟨-, rfl⟩
    exact StoreCall.run_fundingKeyed hkeyed

/-! ## One funding call -/

/-- Recording distinct fresh hours adds exactly their amounts. -/
theorem recordedFunding_foldl {fresh : List FundingCashFlow} (hnodup : (fresh.map key).Nodup)
    (habsent : ∀ flow ∈ fresh, store.funding.get? flow.key = none)
    (hfunding : next.funding = fresh.foldl (fun rows flow => rows.set flow.key flow) store.funding)
    (id : Uuid) :
    recordedFunding next id = recordedFunding store id +
      ((fresh.filter (fun flow => flow.deploymentId = id)).map (·.amount)).sum := by
  have hvalues : next.funding.values = store.funding.values ++ fresh := by
    rw [hfunding, Dict.values, Dict.entries_foldl_set_of_absent _ hnodup habsent, map_append,
      map_map]
    simp [Dict.values, Function.comp_def]
  unfold recordedFunding
  rw [hvalues, filter_append, map_append, sum_append]

/-- A funding call with distinct fresh hours moves into each deployment's cash what it adds to the
recorded amounts. -/
theorem applyFunding_cash {deploymentId : Uuid} {expectedRevision : Option Int}
    (hdistinct : DistinctHours store flows) (id : Uuid) :
    cashOf (store.applyFundingTransaction deploymentId flows expectedRevision).2 id =
      (cashOf store id).map (fun cash => cash +
        (recordedFunding (store.applyFundingTransaction deploymentId flows expectedRevision).2 id -
          recordedFunding store id)) := by
  rcases applyFundingTransaction_cases store deploymentId flows expectedRevision with
    hrun | ⟨current, hcurrent, ⟨-, hown⟩, hrun⟩
  · rw [hrun]
    simp
  · rw [recordedFunding_foldl hdistinct (fun _ => fresh_absent) (by rw [hrun]; rfl) id, hrun]
    simp only [cashOf, Dict.get?_set]
    by_cases he : id = deploymentId
    · have hall : (store.freshFunding flows).filter (fun flow => flow.deploymentId = id) =
          store.freshFunding flows := by
        rw [filter_eq_self]
        intro flow hflow
        rw [decide_eq_true_eq, hown flow hflow, he]
      rw [if_pos he, hall, he, hcurrent]
      simp only [Option.map_some, fundedRow, add_sub_cancel_left]
    · have hnone : (store.freshFunding flows).filter (fun flow => flow.deploymentId = id) = [] := by
        rw [filter_eq_nil_iff]
        intro flow hflow
        rw [decide_eq_true_eq, hown flow hflow]
        exact Ne.symm he
      rw [if_neg he, hnone]
      simp [Function.comp_def]

/-! ## Sequences of funding and fill calls -/

/-- A call that moves cash: funding hours, or a fill. -/
inductive MoneyCall where
  | funding (deploymentId : Uuid) (flows : List FundingCashFlow) (expectedRevision : Option Int)
  | fill (call : FillCall)

/-- The store after a call, whether it returned or raised. -/
def MoneyCall.run (call : MoneyCall) (store : MemoryStore) : MemoryStore :=
  match call with
  | .funding deploymentId flows expectedRevision =>
    (store.applyFundingTransaction deploymentId flows expectedRevision).2
  | .fill call => (call.run store).2

def MoneyCall.Promised (identity : Uuid → Uuid × String) : MoneyCall → Prop
  | .funding _ _ _ => True
  | .fill call => call.Promised identity

def MoneyCall.Distinct (store : MemoryStore) : MoneyCall → Prop
  | .funding _ flows _ => DistinctHours store flows
  | .fill _ => True

def MoneyCall.booked (store : MemoryStore) (id : Uuid) : MoneyCall → Decimal
  | .funding _ _ _ => 0
  | .fill call =>
    if call.applies store ∧ call.deploymentId = id then bookedDelta (call.run store).2 call else 0

def runMoney (store : MemoryStore) : List MoneyCall → MemoryStore
  | [] => store
  | call :: rest => runMoney (call.run store) rest

/-- What the applied fills of a sequence book for a deployment. -/
def fillsBooked (store : MemoryStore) (id : Uuid) : List MoneyCall → Decimal
  | [] => 0
  | call :: rest => call.booked store id + fillsBooked (call.run store) id rest

def RepeatsNoHour (store : MemoryStore) : List MoneyCall → Prop
  | [] => True
  | call :: rest => call.Distinct store ∧ RepeatsNoHour (call.run store) rest

variable {call : MoneyCall}

theorem MoneyCall.run_cash (hinv : StoreInv identity store) (hcall : call.Promised identity)
    (hdistinct : call.Distinct store) (id : Uuid) :
    cashOf (call.run store) id = (cashOf store id).map (fun cash => cash +
      (recordedFunding (call.run store) id - recordedFunding store id) + call.booked store id) := by
  cases call with
  | funding =>
    simp only [MoneyCall.run, MoneyCall.booked, add_zero]
    exact applyFunding_cash hdistinct id
  | fill call =>
    have hsame : recordedFunding (call.run store).2 id = recordedFunding store id := by
      unfold recordedFunding
      rw [(call.run_frame store).2]
    have heffect := applyFill_effect hinv hcall
    simp only [MoneyCall.run, MoneyCall.booked, hsame, sub_self, add_zero]
    cases happlies : call.applies store with
    | false =>
      rw [(heffect.unapplied happlies).2 id]
      simp
    | true =>
      obtain ⟨row, hrow, -, hbooked⟩ := heffect.booked happlies
      rw [hbooked id]
      simp only [bookedDelta, hrow, true_and]

theorem MoneyCall.run_reachable (h : StoreReachable identity store)
    (hcall : call.Promised identity) : StoreReachable identity (call.run store) := by
  cases call with
  | funding deploymentId flows expectedRevision =>
    exact next (e := .applyFunding deploymentId flows expectedRevision) h ⟨trivial, rfl⟩
  | fill call => exact next (e := .applyFill call) h ⟨hcall, rfl⟩

def sampleFunding (fundingTime : Time) (amount : Decimal) : FundingCashFlow :=
  { deploymentId := 1
    productId := "BTC-USD"
    fundingTime
    signedQuantity := 1
    markPrice := 100
    rate := 1 / 100
    amount
    appliedAt := fundingTime }

/-- A buy of two at 100 for a fee of 1. -/
def sampleBuy : FillCall :=
  { deploymentId := 1
    fill := sampleFill 10 "v1" 2
    order := sampleOrder 5 .buy
    now := 7
    after := 7 }

/-- Two hours, the buy, and a replay of the second hour with a third one. -/
def sampleMoneyCalls : List MoneyCall :=
  [.funding 1 [sampleFunding 1 (-3), sampleFunding 2 (-4)] none, .fill sampleBuy,
    .funding 1 [sampleFunding 2 (-4), sampleFunding 3 (-5)] none]

end Thytrader.Trading
