import Thytrader.Backtest.Kernel
import Thytrader.Execution.HeldQuantity

/-!
# Paper funding and the moment the worker looks

A settle cycle charges an hour with the quantity held before it at that moment and never revisits
it, so the charge agrees with the final fills as long as no fill is recorded with a stamp before an
hour already charged (`PaperBook.InOrder`, `paper_funding_charges_held`). A paper fill is stamped
with the start of its bar and recorded after the bar closed: a cycle inside the bar charges its
hours too early.
-/

namespace Thytrader.Execution

open Trading MarketData Lib MemoryStore List Dict PaperBook Reachable

/-! ## Runs of one book -/

/-- A reading quotes the true rates and closes. -/
structure PaperBook.Faithful (book : PaperBook) (reading : FundingReading) : Prop where
  rates : ∀ record ∈ reading.records, record.settled = true →
    record.rate = book.rate record.fundingTime
  closes : ∀ start close, reading.closes start = some close → close = book.mark (start + hourLength)

/-- What happens to a book: a store call, or a settle cycle with what it can read. -/
inductive BookEvent where
  | call (call : StoreCall)
  | settle (reading : FundingReading) (now : Time)

def settleCycle (exact : ExactDecimals) (store : MemoryStore) (deploymentId : Uuid)
    (reading : FundingReading) (now : Time) : MemoryStore :=
  match store.getDeployment deploymentId with
  | .ok snapshot => (settleFunding exact store snapshot reading now).2
  | .error _ => store

/-- One event of the book, fills in order with the charges. -/
def PaperBook.step (book : PaperBook) (identity : Uuid → Uuid × String) (exact : ExactDecimals)
    (store : MemoryStore) (event : BookEvent) (next : MemoryStore) : Prop :=
  match event with
  | .call call => call.Promised identity ∧ book.Promised store call ∧ book.InOrder store call ∧
      next = call.run store
  | .settle reading now => book.Faithful reading ∧
      next = settleCycle exact store book.id reading now

def PaperBook.charge (book : PaperBook) (store : MemoryStore) (hour : Time) :
    Option FundingCashFlow :=
  store.funding.get? (book.id, book.productId, hour)

/-- What every run keeps: each charge is the one the fills imply now. -/
structure BookInv (book : PaperBook) (identity : Uuid → Uuid × String) (store : MemoryStore) :
    Prop where
  inv : StoreInv identity store
  orders : OrdersKeyed store
  funding : FundingKeyed store
  row : BookRow book store
  stored : ∀ hour flow, book.charge store hour = some flow → store.deployments.get? book.id ≠ none
  charged : ∀ hour flow, book.charge store hour = some flow →
    hourLength ∣ hour ∧ heldAt store book hour ≠ 0 ∧
      flow.amount = -heldAt store book hour * book.mark hour * book.rate hour
  grid : ∀ fill ∈ store.fills.values, fill.deploymentId = book.id →
    fill.economicsAppliedAt ≠ none → book.interval.duration ∣ fill.filledAt

variable {hour : Time}

section

variable {book : PaperBook} {identity : Uuid → Uuid × String} {store : MemoryStore}

theorem bookInv_empty : BookInv book identity MemoryStore.empty where
  inv := storeInv_empty
  orders := by
    intro id order h
    exact absurd h (by simp [MemoryStore.empty])
  funding := by
    intro entry hentry
    exact absurd hentry (by simp [MemoryStore.empty, Dict.empty])
  row := by
    intro row h
    exact absurd h (by simp [MemoryStore.empty])
  stored := by
    intro hour flow h
    exact absurd h (by simp [charge, MemoryStore.empty])
  charged := by
    intro hour flow h
    exact absurd h (by simp [charge, MemoryStore.empty])
  grid := by
    intro fill h
    exact absurd h (by simp [MemoryStore.empty, Dict.empty, Dict.values])

theorem call_charge {call : StoreCall} (hbook : book.Promised store call) (hour : Time) :
    book.charge (call.run store) hour = book.charge store hour := by
  unfold charge
  have hleft := call.run_leaves store
  generalize call.run store = next at hleft ⊢
  cases hleft with
  | saved _ _ _ _ hsame => rw [hsame.funding]
  | restored order => rw [(replaceOrder_frame store order).1.funding]
  | ordered => rw [(replaceOrder_frame store _).1.funding]
  | applied filled => rw [(filled.run_frame store).2]
  | funded _ hown =>
    refine get?_foldl_set_of_stored FundingCashFlow.key ?_
    intro flow hflow hkey
    -- the fresh flows are all the caller's own
    exact absurd ((hown flow hflow).symm.trans (congrArg Prod.fst hkey)) hbook
  | _ => rfl

theorem call_grid {call : StoreCall} (hinv : BookInv book identity store)
    (hcall : call.Promised identity) (hbook : book.Promised store call) :
    ∀ fill ∈ (call.run store).fills.values, fill.deploymentId = book.id →
      fill.economicsAppliedAt ≠ none → book.interval.duration ∣ fill.filledAt := by
  -- the fills off the grid are a filter, empty before and unchanged by the call
  have hkept : (call.run store).fills.values.filter (fun fill => fill.deploymentId = book.id ∧
      fill.economicsAppliedAt ≠ none ∧ ¬ book.interval.duration ∣ fill.filledAt) =
      store.fills.values.filter (fun fill => fill.deploymentId = book.id ∧
        fill.economicsAppliedAt ≠ none ∧ ¬ book.interval.duration ∣ fill.filledAt) := by
    refine call_filter hinv.inv hcall hbook ?_ ?_
    · intro fill hpending
      simp [hpending]
    · intro filled hfilled at_
      by_cases hown : (appliedRow store filled).deploymentId = book.id
      · subst hfilled
        have howner := (appliedRow_owner hinv.inv hcall).symm.trans hown
        simp [hbook.2 howner]
      · simp [hown]
  intro fill hfill hown happlied
  by_contra hoff
  have hmem : fill ∈ (call.run store).fills.values.filter (fun fill =>
      fill.deploymentId = book.id ∧ fill.economicsAppliedAt ≠ none ∧
        ¬ book.interval.duration ∣ fill.filledAt) :=
    mem_filter.mpr ⟨hfill, decide_eq_true ⟨hown, happlied, hoff⟩⟩
  rw [hkept] at hmem
  exact hoff (hinv.grid fill (mem_of_mem_filter hmem) hown happlied)

theorem BookInv.call {call : StoreCall} (hinv : BookInv book identity store)
    (hcall : call.Promised identity) (hbook : book.Promised store call)
    (horder : book.InOrder store call) : BookInv book identity (call.run store) := by
  obtain ⟨hrow, hstored⟩ := call_row hinv.inv.deploymentIds hbook hinv.row
  refine ⟨StoreCall.run_inv hinv.inv hcall, (call_orders hinv.orders hbook).1,
    StoreCall.run_fundingKeyed hinv.funding, hrow, ?_, ?_, call_grid hinv hcall hbook⟩
  · intro hour flow hflow
    rw [call_charge hbook] at hflow
    exact hstored (hinv.stored hour flow hflow)
  · intro hour flow hflow
    rw [call_charge hbook] at hflow
    rw [heldAt_kept hinv.inv hinv.orders hinv.row (hinv.stored hour flow hflow) hcall hbook]
    · exact hinv.charged hour flow hflow
    · intro filled hfilled hown
      subst hfilled
      exact horder hown hour flow hflow

variable {reading : FundingReading} {flow : FundingCashFlow} {exact : ExactDecimals}

theorem PaperBook.Faithful.read (h : book.Faithful reading) {now : Time}
    (haligned : hourLength ∣ hour) {rate mark : Decimal}
    (hrate : settledRate reading.records hour = some rate)
    (hmark : hourMark reading.closes now hour = some mark) :
    rate = book.rate hour ∧ mark = book.mark hour := by
  constructor
  · unfold settledRate at hrate
    obtain ⟨record, hrecord, rfl⟩ := Option.map_eq_some_iff.mp hrate
    have hfound := find?_some hrecord
    simp only [decide_eq_true_eq] at hfound
    have hmem := mem_reverse.mp (mem_of_find?_eq_some hrecord)
    rw [h.rates record hmem hfound.1, hfound.2]
  · unfold hourMark at hmark
    rw [entryBarBucket_hour haligned] at hmark
    obtain ⟨-, hmark⟩ := of_ite_ne_else hmark nofun
    have hclose := h.closes _ _ hmark
    rw [sub_add_cancel] at hclose
    exact hclose

theorem charge_key (hkeyed : FundingKeyed store) (h : book.charge store hour = some flow) :
    flow.key = (book.id, book.productId, hour) :=
  (hkeyed _ (get?_eq_some_iff.mp h)).symm

theorem applied_charge {flows : List FundingCashFlow}
    (h : book.charge (store.applyFundingTransaction book.id flows none).2 hour = some flow) :
    book.charge store hour = some flow ∨ flow ∈ flows := by
  rcases applyFundingTransaction_cases store book.id flows none with
    hrun | ⟨current, _, _, hrun⟩
  · rw [hrun] at h
    exact .inl h
  · unfold charge at h ⊢
    rw [hrun] at h
    rcases mem_of_get?_foldl_set FundingCashFlow.key h with hmem | ⟨hold, -⟩
    · exact .inr (mem_of_mem_filter hmem)
    · exact .inl hold

theorem applied_frame (hrow : BookRow book store) (hstored : store.deployments.get? book.id ≠ none)
    (flows : List FundingCashFlow) :
    let next := (store.applyFundingTransaction book.id flows none).2
    next.fills = store.fills ∧ next.orders = store.orders ∧ BookRow book next ∧
      next.deployments.get? book.id ≠ none := by
  rcases applyFundingTransaction_cases store book.id flows none with
    hrun | ⟨current, hcurrent, _, hrun⟩
  · rw [hrun]
    exact ⟨rfl, rfl, hrow, hstored⟩
  · rw [hrun]
    have hset : ∀ rows, (store.deployments.set book.id rows).get? book.id = some rows :=
      fun rows => get?_set_self ..
    refine ⟨rfl, rfl, ?_, ?_⟩
    · intro row hfound
      obtain rfl := Option.some.inj ((hset _).symm.trans hfound)
      exact hrow current hcurrent
    · show (store.deployments.set book.id _).get? book.id ≠ none
      simp

theorem BookInv.settle (hinv : BookInv book identity store) (hreading : book.Faithful reading)
    (exact : ExactDecimals) (now : Time) :
    BookInv book identity (settleCycle exact store book.id reading now) := by
  unfold settleCycle
  split
  next snapshot hsnapshot =>
    have hstoredRow := (getDeployment_ok hsnapshot).1
    have hid : snapshot.deployment.id = book.id := hinv.inv.deploymentIds _ _ hstoredRow
    obtain ⟨hproduct, -⟩ := hinv.row _ hstoredRow
    have hstored : store.deployments.get? book.id ≠ none := by
      rw [hstoredRow]
      simp
    rcases settleFunding_cases exact store snapshot reading now with hidle | hrun
    · rw [hidle]
      exact hinv
    · rw [hrun, hid]
      generalize hflows : (fundingFlows exact snapshot (settledRate reading.records)
        (hourMark reading.closes now) now
        (fundingHoursHeld snapshot snapshot.deployment.productId now)).1 = flows
      obtain ⟨hfills, horders, hrow, hnextStored⟩ := applied_frame hinv.row hstored flows
      have hkeyed : FundingKeyed (store.applyFundingTransaction book.id flows none).2 :=
        @StoreCall.run_fundingKeyed store (.applyFunding book.id flows none) hinv.funding
      have horderKeyed : OrdersKeyed (store.applyFundingTransaction book.id flows none).2 := by
        unfold OrdersKeyed
        rw [horders]
        exact hinv.orders
      have hheld : ∀ instant, heldAt (store.applyFundingTransaction book.id flows none).2 book
          instant = heldAt store book instant := by
        intro instant
        exact heldAt_congr hinv.orders horderKeyed hinv.row hrow hstored hnextStored
          (by rw [hfills]) (.of_same horders)
      refine ⟨@StoreCall.run_inv identity store (.applyFunding book.id flows none) hinv.inv trivial,
        horderKeyed, hkeyed, hrow, fun _ _ _ => hnextStored, ?_, by rw [hfills]; exact hinv.grid⟩
      intro hour flow hflow
      rw [hheld]
      rcases applied_charge hflow with hold | hnew
      · exact hinv.charged hour flow hold
      · rw [← hflows] at hnew
        obtain ⟨due, hdue, rate, mark, hrate, hmark, rfl⟩ := mem_fundingFlows hnew
        obtain rfl : due = hour :=
          congrArg (fun key : Uuid × String × Time => key.2.2) (charge_key hkeyed hflow)
        rw [hproduct] at hdue
        obtain ⟨haligned, -, hne, -⟩ := (mem_fundingHoursHeld_iff snapshot _ now).mp hdue
        obtain ⟨rfl, rfl⟩ := hreading.read haligned hrate hmark
        have hat : heldAt store book due = heldQuantityBefore snapshot book.productId due := by
          unfold heldAt
          rw [hsnapshot]
        rw [hat]
        refine ⟨haligned, hne, ?_⟩
        show -heldQuantityBefore snapshot snapshot.deployment.productId due * _ * _ = _
        rw [hproduct]
  · exact hinv

theorem BookInv.step {event : BookEvent} {next : MemoryStore} (hinv : BookInv book identity store)
    (h : book.step identity exact store event next) :
    BookInv book identity next := by
  cases event with
  | call call =>
    obtain ⟨hcall, hbook, horder, rfl⟩ := h
    exact hinv.call hcall hbook horder
  | settle _ now =>
    obtain ⟨hreading, rfl⟩ := h
    exact hinv.settle hreading exact now

theorem bookInv_reachable (h : Reachable (· = MemoryStore.empty) (book.step identity exact) store) :
    BookInv book identity store := by
  refine invariant (BookInv book identity) ?_ ?_ h
  · intro start hstart
    subst hstart
    exact bookInv_empty
  · intro before event after hinv hstep
    exact hinv.step hstep

end

/-! ## Settled hours -/

section

variable {book : PaperBook} {identity : Uuid → Uuid × String} {store : MemoryStore}
  {snapshot : DeploymentSnapshot}

theorem mem_chargedHours_iff (hkeyed : FundingKeyed store)
    (hsnapshot : store.getDeployment book.id = .ok snapshot) :
    hour ∈ chargedHours snapshot book.productId ↔ (book.charge store hour).isSome = true := by
  unfold chargedHours
  rw [(getDeployment_records hsnapshot).2, mem_map]
  constructor
  · intro h
    obtain ⟨flow, hflow, rfl⟩ := h
    obtain ⟨hlisted, hproduct⟩ := mem_filter.mp hflow
    rw [mem_insertionSort, mem_filter, mem_values_iff] at hlisted
    obtain ⟨⟨key, hkey⟩, hown⟩ := hlisted
    have hflowKey : key = flow.key := hkeyed _ (get?_eq_some_iff.mp hkey)
    have hsame : flow.key = (book.id, book.productId, flow.fundingTime) := by
      unfold FundingCashFlow.key
      rw [of_decide_eq_true hown, of_decide_eq_true hproduct]
    unfold charge
    rw [← hsame, ← hflowKey, hkey]
    rfl
  · intro h
    obtain ⟨flow, hflow⟩ := Option.isSome_iff_exists.mp h
    have hkey := charge_key hkeyed hflow
    have hown : flow.deploymentId = book.id := congrArg Prod.fst hkey
    have hproduct : flow.productId = book.productId :=
      congrArg (fun key : Uuid × String × Time => key.2.1) hkey
    refine ⟨flow, mem_filter.mpr ⟨?_, decide_eq_true hproduct⟩,
      congrArg (fun key : Uuid × String × Time => key.2.2) hkey⟩
    rw [mem_insertionSort, mem_filter, mem_values_iff]
    exact ⟨⟨_, hflow⟩, decide_eq_true hown⟩

/-- Once no hour up to the horizon is due, each one is charged as the fills imply. -/
theorem BookInv.settled (hinv : BookInv book identity store)
    (hsnapshot : store.getDeployment book.id = .ok snapshot) {horizon : Time}
    (hdone : fundingHoursHeld snapshot book.productId horizon = []) (haligned : hourLength ∣ hour)
    (hle : hour ≤ horizon) :
    (book.charge store hour).map (·.amount) =
      if heldQuantityBefore snapshot book.productId hour = 0 then none
      else some (-heldQuantityBefore snapshot book.productId hour * book.mark hour *
        book.rate hour) := by
  have hat : heldAt store book hour = heldQuantityBefore snapshot book.productId hour := by
    unfold heldAt
    rw [hsnapshot]
  cases hcharge : book.charge store hour with
  | none =>
    rw [if_pos]
    · rfl
    · -- an uncharged hour at which something was held would still be due
      by_contra hne
      have hdue : hour ∈ fundingHoursHeld snapshot book.productId horizon := by
        refine (mem_fundingHoursHeld_iff snapshot _ horizon).mpr ⟨haligned, hle, hne, ?_⟩
        rw [mem_chargedHours_iff hinv.funding hsnapshot, hcharge]
        simp
      rw [hdone] at hdue
      cases hdue
  | some flow =>
    obtain ⟨-, hne, hamount⟩ := hinv.charged hour flow hcharge
    rw [hat] at hne hamount
    rw [if_neg hne, Option.map_some, hamount]

end

/-! ## The backtest's rule -/

def kernelHours (kernel : Backtest.Book) (start : Time) (bar : Duration) : List Time :=
  if kernel.position.isSome then Evaluation.fundingHours start (start + bar) else []

def kernelQuantity (kernel : Backtest.Book) : Decimal :=
  (kernel.position.map Backtest.signedQuantity).getD 0

theorem chargeFunding_hours {kernel kernel' : Backtest.Book} {candle : Candle}
    {costs : Backtest.Costs} {terms : Backtest.FuturesTerms} {cash cash' : Decimal} {bar : Duration}
    (hterms : costs.futures = some terms) (hperpetual : terms.perpetual = true)
    (h : Backtest.chargeFunding kernel candle costs cash bar = .ok (kernel', cash')) :
    ∃ charges, List.Forall₂ (fun hour charge => ∃ rate, Backtest.fundingRate terms hour = .ok rate ∧
        charge = kernelQuantity kernel * candle.close * rate)
        (kernelHours kernel candle.startsAt bar) charges ∧
      cash' = cash - charges.sum := by
  unfold Backtest.chargeFunding at h
  rw [hterms] at h
  unfold kernelHours kernelQuantity
  cases hposition : kernel.position with
  | none =>
    rw [hposition] at h
    cases h
    exact ⟨[], List.Forall₂.nil, by simp⟩
  | some =>
    rw [hposition] at h
    simp only [hperpetual] at h
    split at h
    next hnone =>
      cases h
      have hempty : Evaluation.fundingHours candle.startsAt (candle.startsAt + bar) = [] := by
        simpa using hnone
      exact ⟨[], by simp [hempty], by simp⟩
    · obtain ⟨charges, hcharges, h⟩ := bind_eq_ok h
      cases h
      refine ⟨charges, ?_, by ring⟩
      refine (mapM_eq_ok hcharges).imp ?_
      intro hour charge hcharge
      obtain ⟨rate, hrate, hvalue⟩ := bind_eq_ok hcharge
      exact ⟨rate, hrate, (Except.ok.inj hvalue).symm⟩

theorem mem_fundingHours_iff {startsAt endsAt : Time} :
    hour ∈ Evaluation.fundingHours startsAt endsAt ↔
      hourLength ∣ hour ∧ startsAt < hour ∧ hour ≤ endsAt := by
  have hpos := hourLength_pos
  have hlength : (60 * minuteLength : Duration) = hourLength := rfl
  unfold Evaluation.fundingHours
  rw [hlength, mem_map]
  constructor
  · intro h
    obtain ⟨index, hindex, rfl⟩ := h
    rw [mem_range, Int.lt_toNat] at hindex
    refine ⟨dvd_mul_left _ _, ?_, ?_⟩
    · rw [← Int.ediv_lt_iff_lt_mul hpos]
      linarith [Int.natCast_nonneg index]
    · rw [← Int.le_ediv_iff_mul_le hpos]
      linarith [Int.lt_add_one_iff.mp hindex]
  · intro h
    obtain ⟨⟨number, rfl⟩, hafter, hbefore⟩ := h
    have hfirst : startsAt / hourLength < number := by
      rw [Int.ediv_lt_iff_lt_mul hpos, mul_comm]
      exact hafter
    have hlast : number ≤ endsAt / hourLength := by
      rw [Int.le_ediv_iff_mul_le hpos, mul_comm]
      exact hbefore
    have hindex : 0 ≤ number - (startsAt / hourLength + 1) := by linarith [Int.add_one_le_iff.mpr hfirst]
    refine ⟨(number - (startsAt / hourLength + 1)).toNat, ?_, ?_⟩
    · rw [mem_range, Int.lt_toNat, Int.toNat_of_nonneg hindex]
      linarith
    · rw [Int.toNat_of_nonneg hindex]
      ring

section

variable {book : PaperBook} {identity : Uuid → Uuid × String} {store : MemoryStore}
  {snapshot : DeploymentSnapshot}

theorem BookInv.held_bar (hinv : BookInv book identity store)
    (hsnapshot : store.getDeployment book.id = .ok snapshot) {start : Time}
    (hstart : book.interval.duration ∣ start) (hafter : start < hour)
    (hbefore : hour ≤ start + book.interval.duration) :
    heldQuantityBefore snapshot book.productId hour =
      heldQuantityBefore snapshot book.productId (start + book.interval.duration) := by
  rw [heldQuantityBefore_eq, heldQuantityBefore_eq]
  congr 3
  apply filter_congr
  intro fill hfill
  rw [(getDeployment_ok hsnapshot).2] at hfill
  obtain ⟨hmem, hown⟩ := mem_filter.mp hfill
  by_cases happlied : fill.economicsAppliedAt = none
  · simp [happlied]
  · -- a stamp is a bar start, so it is before the hour exactly when it is not after `start`
    have hgrid := hinv.grid fill hmem (of_decide_eq_true hown) happlied
    have hsame : fill.filledAt < hour ↔ fill.filledAt < start + book.interval.duration := by
      constructor
      · intro h
        exact h.trans_le hbefore
      · intro h
        have hle : fill.filledAt ≤ start := by
          obtain ⟨stamp, hstamp⟩ := hgrid
          obtain ⟨bar, hbar⟩ := hstart
          rw [hstamp, hbar] at h ⊢
          refine mul_le_mul_of_nonneg_left ?_ book.interval.duration_pos.le
          have hlt : stamp < bar + 1 := by
            refine lt_of_mul_lt_mul_left ?_ book.interval.duration_pos.le
            linarith [mul_add book.interval.duration bar 1]
          exact Int.lt_add_one_iff.mp hlt
        exact hle.trans_lt hafter
    simp [hsame]

theorem settleCycle_cash (store : MemoryStore) (book : PaperBook) (exact : ExactDecimals)
    (reading : FundingReading) (now : Time) (id : Uuid) :
    cashOf (settleCycle exact store book.id reading now) id =
      (cashOf store id).map (fun cash => cash +
        (recordedFunding (settleCycle exact store book.id reading now) id -
          recordedFunding store id)) := by
  have hidle : cashOf store id =
      (cashOf store id).map (fun cash => cash + (recordedFunding store id -
        recordedFunding store id)) := by simp
  unfold settleCycle
  split
  next snapshot hsnapshot =>
    rcases settleFunding_cases exact store snapshot reading now with hsame | hrun
    · rw [hsame]
      exact hidle
    · rw [hrun]
      refine applyFunding_cash ?_ id
      have hhours := (fundingFlows_hours exact snapshot (settledRate reading.records)
        (hourMark reading.closes now) now _).nodup
          (fundingHoursHeld_nodup snapshot snapshot.deployment.productId now)
      refine List.Nodup.of_map (fun key : Uuid × String × Time => key.2.2) ?_
      rw [map_map]
      exact hhours.sublist (filter_sublist.map _)
  · exact hidle

end

/-- In every run whose fills are recorded in order with the charges: once every hour up to a horizon
is settled, each is charged with the quantity of the final fills, on the backtest's hours, and every
cycle moved into cash what it recorded. -/
theorem paper_funding_charges_held (book : PaperBook) {identity : Uuid → Uuid × String}
    {exact : ExactDecimals} {store : MemoryStore}
    (hrun : Reachable (· = MemoryStore.empty) (book.step identity exact) store) :
    (∀ snapshot horizon, store.getDeployment book.id = .ok snapshot →
      fundingHoursHeld snapshot book.productId horizon = [] →
        (∀ hour, hourLength ∣ hour → hour ≤ horizon →
          (book.charge store hour).map (·.amount) =
            if heldQuantityBefore snapshot book.productId hour = 0 then none
            else some (-heldQuantityBefore snapshot book.productId hour * book.mark hour *
              book.rate hour)) ∧
        ∀ start (kernel : Backtest.Book), book.interval.duration ∣ start →
          (kernel.position.isSome = true ↔ heldQuantityBefore snapshot book.productId
            (start + book.interval.duration) ≠ 0) →
          ∀ hour ∈ Evaluation.fundingHours start (start + book.interval.duration),
            hour ≤ horizon → ((book.charge store hour).isSome = true ↔
              hour ∈ kernelHours kernel start book.interval.duration)) ∧
      ∀ reading now id, cashOf (settleCycle exact store book.id reading now) id =
        (cashOf store id).map (fun cash => cash +
          (recordedFunding (settleCycle exact store book.id reading now) id -
            recordedFunding store id)) := by
  have hinv := bookInv_reachable hrun
  refine ⟨?_, settleCycle_cash store book exact⟩
  intro snapshot horizon hsnapshot hdone
  refine ⟨fun hour => hinv.settled hsnapshot hdone, ?_⟩
  intro start kernel hstart hopen hour hhour hle
  obtain ⟨haligned, hafter, hbefore⟩ := mem_fundingHours_iff.mp hhour
  have hcharge := hinv.settled hsnapshot hdone haligned hle
  rw [hinv.held_bar hsnapshot hstart hafter hbefore] at hcharge
  have hcharged : (book.charge store hour).isSome = true ↔
      heldQuantityBefore snapshot book.productId (start + book.interval.duration) ≠ 0 := by
    rw [← Option.isSome_map (f := (·.amount)), hcharge]
    split
    next hflat => simp [hflat]
    next hheld => simp [hheld]
  rw [hcharged, ← hopen]
  unfold kernelHours
  split
  next hposition => simp [hposition, hhour]
  next hposition => simp [hposition]

/-! ## A four-hour book -/

def perpBook : PaperBook :=
  { id := 1
    productId := "BIP-20DEC30-CDE"
    interval := .fourHours
    rate := fun _ => 1 / 1000
    mark := fun _ => 100 }

def perpRow : Deployment :=
  { sampleDeployment with productId := perpBook.productId, timeframe := some "4h" }

/-- A fill of two contracts. -/
def perpFill (id orderId : Uuid) (venueFillId : String) (filledAt : Time) : Fill :=
  { sampleFill id venueFillId 2 with orderId, filledAt }

/-- The entry of the bar that starts at midnight, recorded when the bar closed. -/
def perpEntry : FillCall :=
  { deploymentId := 1
    fill := perpFill 10 5 "v1" 0
    order := sampleOrder 5 .buy
    now := 4 * hourLength
    after := 4 * hourLength }

/-- The exit of the bar that starts at four, recorded when the bar closed at eight. -/
def perpExit : FillCall :=
  { deploymentId := 1
    fill := perpFill 11 6 "v2" (4 * hourLength)
    order := sampleOrder 6 .sell
    now := 8 * hourLength
    after := 8 * hourLength }

/-- The settled hours up to five o'clock, every close readable. -/
def perpReading : FundingReading :=
  { records := (List.range 6).map (fun (index : Nat) =>
      { fundingTime := index * hourLength, rate := 1 / 1000, settled := true })
    closes := fun _ => some 100 }

def perpExact : ExactDecimals := { flow := fun _ => true, cash := fun _ _ => true }

def perpHeld : MemoryStore := (perpEntry.run (MemoryStore.empty.createDeployment perpRow)).2

/-- The entry and a cycle at half past six. -/
def perpCharged : MemoryStore :=
  settleCycle perpExact perpHeld 1 perpReading (6 * hourLength + 30 * minuteLength)

/-- A reading of settled rows at the fixed rate. -/
theorem perpReading_faithful : perpBook.Faithful perpReading where
  rates := by
    intro record hrecord _
    obtain ⟨-, -, rfl⟩ := mem_map.mp hrecord
    rfl
  closes := by
    intro start close hclose
    exact (Option.some.inj hclose).symm

theorem perpEntry_kept :
    OrderKept (MemoryStore.empty.createDeployment perpRow) perpEntry.order where
  same := by
    intro stored h
    exact absurd h (by simp [createDeployment, putDeployment, MemoryStore.empty])
  fresh := by
    intro _ fill h
    exact absurd h (by simp [createDeployment, putDeployment,
      MemoryStore.empty, Dict.empty, Dict.values])
  client := by
    intro stored h
    exact absurd h (by simp [createDeployment, putDeployment,
      MemoryStore.empty, Dict.empty, Dict.values])

/-- The entry before its bar's hours are charged is in order. -/
theorem perpCharged_reachable :
    Reachable (· = MemoryStore.empty) (perpBook.step sampleIdentity perpExact) perpCharged := by
  have hcreated : Reachable (· = MemoryStore.empty) (perpBook.step sampleIdentity perpExact)
      (MemoryStore.empty.createDeployment perpRow) :=
    next (e := .call (.createDeployment perpRow)) (start rfl)
      ⟨trivial, fun _ => ⟨rfl, rfl⟩, trivial, rfl⟩
  have hheld : Reachable (· = MemoryStore.empty) (perpBook.step sampleIdentity perpExact)
      perpHeld := by
    refine next (e := .call (.applyFill perpEntry)) hcreated
      ⟨⟨rfl, rfl, rfl⟩, ⟨perpEntry_kept, fun _ => dvd_zero _⟩, ?_, rfl⟩
    intro _ hour flow h
    exact absurd h (by simp [createDeployment, putDeployment, MemoryStore.empty])
  exact next (e := .settle perpReading (6 * hourLength + 30 * minuteLength)) hheld
    ⟨perpReading_faithful, rfl⟩

/-- At half past six with no later fill: five o'clock is charged for two contracts. -/
theorem paper_funding_charges_held_perp :
    (perpBook.charge perpCharged (5 * hourLength)).map (·.amount) = some (-1 / 5) := by
  obtain ⟨snapshot, hsnapshot, hdone, hheld⟩ : ∃ snapshot,
      perpCharged.getDeployment perpBook.id = .ok snapshot ∧
        fundingHoursHeld snapshot perpBook.productId (5 * hourLength) = [] ∧
          heldQuantityBefore snapshot perpBook.productId (5 * hourLength) = 2 := by
    cases hread : perpCharged.getDeployment perpBook.id with
    | error =>
      have hstored : (perpCharged.getDeployment perpBook.id).toOption.isSome = true := by
        decide +kernel
      rw [hread] at hstored
      exact absurd hstored (by simp [Except.toOption])
    | ok snapshot =>
      have hread' : (perpCharged.getDeployment perpBook.id).map (fun snapshot =>
          (fundingHoursHeld snapshot perpBook.productId (5 * hourLength),
            heldQuantityBefore snapshot perpBook.productId (5 * hourLength))) = .ok ([], 2) := by
        decide +kernel
      rw [hread] at hread'
      obtain ⟨hdone, hheld⟩ := Prod.mk.inj (Except.ok.inj hread')
      exact ⟨snapshot, rfl, hdone, hheld⟩
  obtain ⟨hcharges, -⟩ := (paper_funding_charges_held perpBook perpCharged_reachable).1 snapshot
    (5 * hourLength) hsnapshot hdone
  rw [hcharges (5 * hourLength) (dvd_mul_left _ _) le_rfl, hheld]
  simp only [perpBook]
  norm_num

/-- The exit of the bar open at half past six is recorded at eight: five o'clock stays charged
although nothing was held then. -/
theorem backdated_exit_overcharges :
    ((perpExit.run perpCharged).2.getDeployment 1).map (fun snapshot =>
        (fundingHoursHeld snapshot perpBook.productId (8 * hourLength),
          heldQuantityBefore snapshot perpBook.productId (5 * hourLength))) = .ok ([], 0) ∧
      (perpBook.charge (perpExit.run perpCharged).2 (5 * hourLength)).map (·.amount) =
        some (-1 / 5) := by
  constructor
  · decide +kernel
  · decide +kernel

end Thytrader.Execution
