import Thytrader.Trading.FuturesBook
import Thytrader.Trading.Memory

/-!
# Settling a futures book's funding

`_settle_funding` of `execution/futures_paper.py`: each cycle charges the due hours in order, up
to the first whose settled rate or hourly mark it cannot read.

Mirroring notes: the rows the observation store returns and the closes the market data service
reports are arguments (`FundingReading`); a read that raises is one that returns nothing. The
`Inexact` traps of a live accrual are the two answers of `ExactDecimals`. The mark timeframe
`"1h"` always parses.
-/

namespace Thytrader.Execution

open Trading

/-- `FundingRateRecord`: one recorded funding hour. -/
structure FundingRateRecord where
  fundingTime : Time
  rate : Decimal
  settled : Bool
  deriving DecidableEq

/-- What one cycle can read: funding rows, and closes of hourly bars by their start. -/
structure FundingReading where
  records : List FundingRateRecord
  closes : Time → Option Decimal

/-- Whether a live accrual fits the decimal context without rounding. -/
structure ExactDecimals where
  flow : FundingCashFlow → Bool
  cash : Deployment → List FundingCashFlow → Bool

/-- `{record.funding_time: record.rate for record in records if record.settled}.get(hour)`. -/
def settledRate (records : List FundingRateRecord) (hour : Time) : Option Decimal :=
  (records.reverse.find? (fun record => record.settled ∧ record.fundingTime = hour)).map (·.rate)

/-- `_hour_marks`, at one hour: the close of the hourly bar that ends there. -/
def hourMark (closes : Time → Option Decimal) (now hour : Time) : Option Decimal := do
  let start ← (entryBarBucket (hour - 1) "1h").toOption
  if start + hourLength ≤ now then closes start else none

def fundingCandidate (exact : ExactDecimals) (snapshot : DeploymentSnapshot) (hour : Time)
    (mark rate : Decimal) (now : Time) : Option FundingCashFlow :=
  let flow := fundingFlow snapshot snapshot.deployment.productId hour mark rate now
  if snapshot.deployment.mode = .paper then some flow
  else if mark ≤ 0 then none
  else if exact.flow flow then some flow
  else none

/-- The loop of `_settle_funding`: the flows to apply, and the overdue hour it stopped at. -/
def fundingFlows (exact : ExactDecimals) (snapshot : DeploymentSnapshot)
    (rates marks : Time → Option Decimal) (now : Time) :
    List Time → List FundingCashFlow × Option Time
  | [] => ([], none)
  | hour :: rest =>
    match rates hour, marks hour with
    | some rate, some mark =>
      match fundingCandidate exact snapshot hour mark rate now with
      | none => ([], some hour)
      | some flow =>
        let later := fundingFlows exact snapshot rates marks now rest
        (flow :: later.1, later.2)
    | _, _ => ([], if fundingOverdue hour now then some hour else none)

def settleFunding (exact : ExactDecimals) (store : MemoryStore) (snapshot : DeploymentSnapshot)
    (reading : FundingReading) (now : Time) :
    Result (DeploymentSnapshot × Option Time) × MemoryStore :=
  let due := fundingHoursHeld snapshot snapshot.deployment.productId now
  let found := fundingFlows exact snapshot (settledRate reading.records)
    (hourMark reading.closes now) now due
  match found.1 with
  | [] => (.ok (snapshot, found.2), store)
  | first :: rest =>
    if snapshot.deployment.mode = .live ∧ exact.cash snapshot.deployment (first :: rest) = false then
      (.ok (snapshot, some first.fundingTime), store)
    else
      match store.applyFundingTransaction snapshot.deployment.id (first :: rest) with
      | (.error failure, next) => (.error failure, next)
      | (.ok (_, refreshed), next) => (.ok (refreshed, found.2), next)

/-! ## What one cycle does -/

variable {exact : ExactDecimals} {store : MemoryStore} {snapshot : DeploymentSnapshot}
  {reading : FundingReading} {now : Time}
variable {flow : FundingCashFlow}

theorem fundingCandidate_eq {hour : Time} {mark rate : Decimal}
    (h : fundingCandidate exact snapshot hour mark rate now = some flow) :
    flow = fundingFlow snapshot snapshot.deployment.productId hour mark rate now := by
  unfold fundingCandidate at h
  split at h
  · exact (Option.some.inj h).symm
  · obtain ⟨-, h⟩ := of_ite_ne h nofun
    obtain ⟨-, h⟩ := of_ite_ne_else h nofun
    exact (Option.some.inj h).symm

theorem mem_fundingFlows {rates marks : Time → Option Decimal} {due : List Time}
    (h : flow ∈ (fundingFlows exact snapshot rates marks now due).1) :
    ∃ hour ∈ due, ∃ rate mark, rates hour = some rate ∧ marks hour = some mark ∧
      flow = fundingFlow snapshot snapshot.deployment.productId hour mark rate now := by
  induction due with
  | nil => exact absurd h (by simp [fundingFlows])
  | cons hour _ ih =>
    unfold fundingFlows at h
    split at h
    next rate mark hrate hmark =>
      split at h
      · cases h
      next found hfound =>
        obtain rfl | hlater := List.mem_cons.mp h
        · exact ⟨hour, by simp, rate, mark, hrate, hmark, fundingCandidate_eq hfound⟩
        · obtain ⟨other, hother, hrest⟩ := ih hlater
          exact ⟨other, by simp [hother], hrest⟩
    · cases h

variable (exact : ExactDecimals)

theorem fundingFlows_hours (snapshot : DeploymentSnapshot) (rates marks : Time → Option Decimal)
    (now : Time) (due : List Time) :
    ((fundingFlows exact snapshot rates marks now due).1.map (·.fundingTime)).Sublist due := by
  induction due with
  | nil => exact List.nil_sublist _
  | cons hour _ ih =>
    unfold fundingFlows
    split
    next rate mark _ _ =>
      split
      · exact List.nil_sublist _
      next flow hflow =>
        rw [List.map_cons, fundingCandidate_eq hflow]
        exact ih.cons_cons hour
    · exact List.nil_sublist _

theorem settleFunding_cases (store : MemoryStore) (snapshot : DeploymentSnapshot)
    (reading : FundingReading) (now : Time) :
    (settleFunding exact store snapshot reading now).2 = store ∨
      (settleFunding exact store snapshot reading now).2 =
        (store.applyFundingTransaction snapshot.deployment.id
          (fundingFlows exact snapshot (settledRate reading.records)
            (hourMark reading.closes now) now
            (fundingHoursHeld snapshot snapshot.deployment.productId now)).1).2 := by
  unfold settleFunding
  dsimp only
  split
  · exact .inl rfl
  next first rest hfound =>
    split
    · exact .inl rfl
    · right
      rw [hfound]
      split
      next hrun => rw [hrun]
      next hrun => rw [hrun]

theorem entryBarBucket_hour {hour : Time} (h : hourLength ∣ hour) :
    entryBarBucket (hour - 1) "1h" = .ok (hour - hourLength) := by
  obtain ⟨number, rfl⟩ := h
  show Except.ok _ = Except.ok _
  rw [MarketData.CandleInterval.alignClosedEnd_eq]
  have hgrid : ∀ hours : Int, ((3600000000 * hours - 1) / 60000000 * 60000000 + 3600000000) /
      3600000000 * 3600000000 - 3600000000 = 3600000000 * hours - 3600000000 := by
    omega
  exact congrArg Except.ok (hgrid number)

end Thytrader.Execution
