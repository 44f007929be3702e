import Thytrader.Trading.Models

/-!
# Entry geometry, economics and trailing stops

`trading/geometry.py`, `trading/economics.py`, `trading/trailing.py` and
`trading/futures_sizing.py`: the pure price and size rules that backtest, paper
and live share. A refusal is an explicit skip reason, a raise is a `Result`.
-/

namespace Thytrader.Trading

/-! ## Rounding -/

/-- The `decimal` rounding modes the code names. -/
inductive Rounding where
  | down
  | halfUp
  | up
  | floor
  deriving DecidableEq, Repr

/-- The magnitude of a value rounded away from zero, toward it, or half up. -/
def roundMagnitude (rounding : Rounding) (magnitude : Decimal) : Int :=
  match rounding with
  | .halfUp => ⌊magnitude + 1 / 2⌋
  | .up => ⌈magnitude⌉
  | _ => ⌊magnitude⌋

/-- `quantize(Decimal("1"), rounding)`. -/
def roundInteger (rounding : Rounding) (value : Decimal) : Int :=
  match rounding with
  | .floor => ⌊value⌋
  | _ =>
    if value < 0 then -roundMagnitude rounding (-value) else roundMagnitude rounding value

def quantizeToIncrement (value increment : Decimal) (rounding : Rounding := .down) :
    Result Decimal :=
  if increment ≤ 0 then .error (.valueError "venue increment must be positive")
  else .ok (roundInteger rounding (value / increment) * increment)

/-- `_snap`: quantize onto a venue increment, or keep the exact price. -/
def snap (value : Decimal) (increment : Option Decimal) (rounding : Rounding) : Result Decimal :=
  match increment with
  | none => .ok value
  | some increment => quantizeToIncrement value increment rounding

/-! ## Entry levels -/

inductive EntrySkipReason where
  | entryPriceNotPositive
  | stopDistanceNotPositive
  | stopNotPositive
  | targetNotPositive
  | stopWithinPriceIncrement
  | targetWithinPriceIncrement
  | netTargetBelowMinimum
  | economicsFeeUnavailable
  | sizingCashUnavailable
  | noOpenPosition
  | insufficientCash
  | notionalBelowMinimum
  | quantityBelowVenueMinimum
  | notionalBelowVenueMinimum
  | belowOneContract
  deriving DecidableEq, Repr

/-- The `StrEnum` value of a skip reason. -/
def EntrySkipReason.value : EntrySkipReason → String
  | entryPriceNotPositive => "entry_price_not_positive"
  | stopDistanceNotPositive => "stop_distance_not_positive"
  | stopNotPositive => "stop_not_positive"
  | targetNotPositive => "target_not_positive"
  | stopWithinPriceIncrement => "stop_within_price_increment"
  | targetWithinPriceIncrement => "target_within_price_increment"
  | netTargetBelowMinimum => "net_target_below_minimum"
  | economicsFeeUnavailable => "economics_fee_unavailable"
  | sizingCashUnavailable => "sizing_cash_unavailable"
  | noOpenPosition => "no_open_position"
  | insufficientCash => "insufficient_cash"
  | notionalBelowMinimum => "notional_below_minimum"
  | quantityBelowVenueMinimum => "quantity_below_venue_minimum"
  | notionalBelowVenueMinimum => "notional_below_venue_minimum"
  | belowOneContract => "below_one_contract"

/-- A value, or the reason the entry is skipped. -/
abbrev OrSkip (α : Type) := Except EntrySkipReason α

structure EntryLevels where
  stopPrice : Decimal
  targetPrice : Option Decimal
  deriving DecidableEq

/-- The long branch of `entry_levels`. -/
def longLevels (entryPrice stopDistance : Decimal) (rewardMultiple priceIncrement : Option Decimal) :
    Result (OrSkip EntryLevels) := do
  let stop ← snap (entryPrice - stopDistance) priceIncrement .down
  if stop ≤ 0 then return .error .stopNotPositive
  match rewardMultiple with
  | none => return .ok ⟨stop, none⟩
  | some multiple =>
    let target ← snap (entryPrice + stopDistance * multiple) priceIncrement .halfUp
    if target ≤ entryPrice then return .error .targetWithinPriceIncrement
    return .ok ⟨stop, some target⟩

/-- The target of the short branch of `entry_levels`. -/
def shortTarget (entryPrice stopDistance : Decimal)
    (rewardMultiple priceIncrement : Option Decimal) : Result (OrSkip (Option Decimal)) := do
  match rewardMultiple with
  | none => return .ok none
  | some multiple =>
    let target ← snap (entryPrice - stopDistance * multiple) priceIncrement .down
    if target ≤ 0 then return .error .targetNotPositive
    return .ok (some target)

/-- The short branch of `entry_levels`. -/
def shortLevels (entryPrice stopDistance : Decimal)
    (rewardMultiple priceIncrement : Option Decimal) : Result (OrSkip EntryLevels) := do
  let stop ← snap (entryPrice + stopDistance) priceIncrement .halfUp
  match ← shortTarget entryPrice stopDistance rewardMultiple priceIncrement with
  | .error reason => return .error reason
  | .ok target =>
    if stop ≤ entryPrice then return .error .stopWithinPriceIncrement
    return .ok ⟨stop, target⟩

/-- `entry_levels`: stop and target of one entry, or why the geometry is illegal. -/
def entryLevels (side : PositionSide) (entryPrice stopDistance : Decimal)
    (rewardMultiple : Option Decimal) (priceIncrement : Option Decimal := none) :
    Result (OrSkip EntryLevels) :=
  if entryPrice ≤ 0 then .ok (.error .entryPriceNotPositive)
  else if stopDistance ≤ 0 then .ok (.error .stopDistanceNotPositive)
  else
    match side with
    | .long => longLevels entryPrice stopDistance rewardMultiple priceIncrement
    | .short => shortLevels entryPrice stopDistance rewardMultiple priceIncrement

/-- A snapped value is the value, or a whole number of positive increments. -/
theorem snap_ok {value snapped : Decimal} {increment : Option Decimal} {rounding : Rounding}
    (h : snap value increment rounding = .ok snapped) :
    (increment = none ∧ snapped = value) ∨ ∃ step, increment = some step ∧ 0 < step ∧
      snapped = roundInteger rounding (value / step) * step := by
  cases increment with
  | none => exact .inl ⟨rfl, (Except.ok.inj h).symm⟩
  | some step =>
    obtain ⟨hstep, h⟩ := of_ite_ne h nofun
    exact .inr ⟨step, rfl, not_le.mp hstep, (Except.ok.inj h).symm⟩

/-! ### The levels before they are snapped -/

def exactLevels (side : PositionSide) (entryPrice stopDistance : Decimal)
    (rewardMultiple : Option Decimal) : EntryLevels :=
  match side with
  | .long => ⟨entryPrice - stopDistance, rewardMultiple.map (entryPrice + stopDistance * ·)⟩
  | .short => ⟨entryPrice + stopDistance, rewardMultiple.map (entryPrice - stopDistance * ·)⟩

/-- The rounding mode of the stop and of the target. -/
def levelRounding : PositionSide → Rounding × Rounding
  | .long => (.down, .halfUp)
  | .short => (.halfUp, .down)

/-- What `entry_levels` has checked of the levels it returns. -/
structure LevelsFound (side : PositionSide) (entryPrice : Decimal) (exact : EntryLevels)
    (increment : Option Decimal) (levels : EntryLevels) : Prop where
  stop : snap exact.stopPrice increment (levelRounding side).1 = .ok levels.stopPrice
  target : (exact.targetPrice = none ∧ levels.targetPrice = none) ∨ ∃ level target,
    exact.targetPrice = some level ∧ levels.targetPrice = some target ∧
      snap level increment (levelRounding side).2 = .ok target
  checked : match side with
    | .long => 0 < levels.stopPrice ∧ ∀ target ∈ levels.targetPrice, entryPrice < target
    | .short => entryPrice < levels.stopPrice ∧ ∀ target ∈ levels.targetPrice, 0 < target

section

variable {side : PositionSide} {entryPrice stopDistance : Decimal}
  {rewardMultiple increment : Option Decimal} {levels : EntryLevels}

theorem LevelsFound.snapped {exact : EntryLevels} {target : Decimal}
    (h : LevelsFound side entryPrice exact increment levels) (htarget : target ∈ levels.targetPrice) :
    ∃ level ∈ exact.targetPrice, snap level increment (levelRounding side).2 = .ok target := by
  obtain ⟨-, hnone⟩ | ⟨level, found, hlevel, hfound, hsnap⟩ := h.target
  · rw [hnone] at htarget
    cases htarget
  · cases hfound.symm.trans htarget
    exact ⟨level, hlevel, hsnap⟩

theorem longLevels_found
    (h : longLevels entryPrice stopDistance rewardMultiple increment = .ok (.ok levels)) :
    LevelsFound .long entryPrice (exactLevels .long entryPrice stopDistance rewardMultiple)
      increment levels := by
  obtain ⟨stop, hstop, h⟩ := bind_eq_ok h
  obtain ⟨hpositive, h⟩ := of_ite_ne h nofun
  cases rewardMultiple with
  | none =>
    cases h
    exact ⟨hstop, .inl ⟨rfl, rfl⟩, not_le.mp hpositive, by simp⟩
  | some =>
    obtain ⟨target, htarget, h⟩ := bind_eq_ok h
    obtain ⟨hbeyond, h⟩ := of_ite_ne h nofun
    cases h
    exact ⟨hstop, .inr ⟨_, target, rfl, rfl, htarget⟩, not_le.mp hpositive,
      by simpa using hbeyond⟩

theorem shortTarget_found {found : Option Decimal}
    (h : shortTarget entryPrice stopDistance rewardMultiple increment = .ok (.ok found)) :
    (rewardMultiple = none ∧ found = none) ∨ ∃ multiple target, rewardMultiple = some multiple ∧
      found = some target ∧ 0 < target ∧
      snap (entryPrice - stopDistance * multiple) increment .down = .ok target := by
  cases rewardMultiple with
  | none => exact .inl ⟨rfl, (Except.ok.inj (Except.ok.inj h)).symm⟩
  | some multiple =>
    obtain ⟨target, htarget, h⟩ := bind_eq_ok h
    obtain ⟨hpositive, h⟩ := of_ite_ne h nofun
    exact .inr ⟨multiple, target, rfl, (Except.ok.inj (Except.ok.inj h)).symm,
      not_le.mp hpositive, htarget⟩

theorem shortLevels_found
    (h : shortLevels entryPrice stopDistance rewardMultiple increment = .ok (.ok levels)) :
    LevelsFound .short entryPrice (exactLevels .short entryPrice stopDistance rewardMultiple)
      increment levels := by
  obtain ⟨stop, hstop, h⟩ := bind_eq_ok h
  obtain ⟨found, hfound, h⟩ := bind_eq_ok h
  cases found with
  | error => cases h
  | ok =>
    obtain ⟨hbeyond, h⟩ := of_ite_ne h nofun
    cases h
    obtain ⟨rfl, rfl⟩ | ⟨multiple, level, rfl, rfl, hpositive, hsnap⟩ := shortTarget_found hfound
    · exact ⟨hstop, .inl ⟨rfl, rfl⟩, not_le.mp hbeyond, by simp⟩
    · exact ⟨hstop, .inr ⟨_, level, rfl, rfl, hsnap⟩, not_le.mp hbeyond, by simpa using hpositive⟩

theorem entryLevels_found
    (h : entryLevels side entryPrice stopDistance rewardMultiple increment = .ok (.ok levels)) :
    0 < entryPrice ∧ 0 < stopDistance ∧ LevelsFound side entryPrice
      (exactLevels side entryPrice stopDistance rewardMultiple) increment levels := by
  obtain ⟨hentry, h⟩ := of_ite_ne h nofun
  obtain ⟨hdistance, h⟩ := of_ite_ne h nofun
  refine ⟨not_le.mp hentry, not_le.mp hdistance, ?_⟩
  cases side with
  | long => exact longLevels_found h
  | short => exact shortLevels_found h

end

/-! ## Economics -/

/-- `net_target_return`: maker-target profit after both fees per unit entry notional. -/
def netTargetReturn (side : PositionSide) (entry target fee : Decimal) : Result Decimal :=
  let gross := match side with
    | .long => target - entry
    | .short => entry - target
  divide (gross - (entry + target) * fee) entry

/-- `target_guard_allows`: an enabled guard requires a known target. -/
def targetGuardAllows (guard : Option Decimal) (side : PositionSide) (entry : Decimal)
    (target : Option Decimal) (fee : Decimal) : Result Bool :=
  match guard, target with
  | none, _ => .ok true
  | some _, none => .ok false
  | some minimum, some target => do
    let net ← netTargetReturn side entry target fee
    return minimum ≤ net

/-! ## Trailing stops -/

structure TrailingStopState where
  stopPrice : Decimal
  trailExtreme : Decimal
  deriving DecidableEq

/-- The candidate stop snapped onto an increment, when there is one. -/
def trailCandidate (candidate : Decimal) (priceIncrement : Option Decimal) : Result Decimal :=
  match priceIncrement with
  | none => .ok candidate
  | some increment => quantizeToIncrement candidate increment

def ratchetedLongStop (currentStop : Decimal) (trailExtreme : Option Decimal) (barHigh : Decimal)
    (atr : Option Decimal) (multiple : Decimal) (priceIncrement : Option Decimal)
    (ratchet : Bool) : Result TrailingStopState :=
  let extreme := match trailExtreme with
    | none => barHigh
    | some extreme => max extreme barHigh
  match atr with
  | none => .ok ⟨currentStop, extreme⟩
  | some atr =>
    if ratchet = false ∨ atr ≤ 0 ∨ multiple ≤ 0 then .ok ⟨currentStop, extreme⟩
    else do
      let candidate ← trailCandidate (extreme - atr * multiple) priceIncrement
      if candidate ≤ 0 then return ⟨currentStop, extreme⟩
      return ⟨max currentStop candidate, extreme⟩

def ratchetedShortStop (currentStop : Decimal) (trailExtreme : Option Decimal) (barLow : Decimal)
    (atr : Option Decimal) (multiple : Decimal) (priceIncrement : Option Decimal)
    (ratchet : Bool) : Result TrailingStopState :=
  let extreme := match trailExtreme with
    | none => barLow
    | some extreme => min extreme barLow
  match atr with
  | none => .ok ⟨currentStop, extreme⟩
  | some atr =>
    if ratchet = false ∨ atr ≤ 0 ∨ multiple ≤ 0 then .ok ⟨currentStop, extreme⟩
    else do
      let candidate ← trailCandidate (extreme + atr * multiple) priceIncrement
      if candidate ≤ 0 then return ⟨currentStop, extreme⟩
      return ⟨min currentStop candidate, extreme⟩

/-! ## Futures sizing -/

structure FuturesMarginTerms where
  contractSize : Decimal
  longRate : Decimal
  shortRate : Decimal
  maintenanceFraction : Decimal
  minBufferFraction : Decimal
  maxLeverage : Decimal
  feePerContract : Decimal
  deriving DecidableEq

namespace FuturesMarginTerms

def initialRate (terms : FuturesMarginTerms) (side : PositionSide) : Decimal :=
  match side with
  | .long => terms.longRate
  | .short => terms.shortRate

/-- `whole_contracts`: round a base quantity down to whole contracts. -/
def wholeContracts (terms : FuturesMarginTerms) (quantity : Decimal) : Result Decimal := do
  let contracts ← divide quantity terms.contractSize
  return ⌊contracts⌋ * terms.contractSize

def maintenance (terms : FuturesMarginTerms) (quantity price : Decimal) (side : PositionSide) :
    Decimal :=
  quantity * price * terms.initialRate side * terms.maintenanceFraction

end FuturesMarginTerms

structure ContractSizingLimits where
  maxQuoteNotional : Decimal
  minQuoteNotional : Decimal
  maxExposureFraction : Decimal

def contractBound (terms : FuturesMarginTerms) (limits : ContractSizingLimits)
    (equity unit fee rate : Decimal) : Result Decimal := do
  let leverage := terms.maxLeverage
  let room := 1 - terms.minBufferFraction
  let exposure := limits.maxExposureFraction
  let byNotional ← divide limits.maxQuoteNotional unit
  let byLeverage ← divide (leverage * equity) (unit + leverage * fee)
  let byBuffer ← divide (room * equity) (unit * rate * terms.maintenanceFraction + room * fee)
  let byExposure ← divide (exposure * equity) (unit * rate + exposure * fee)
  return min (min (min byNotional byLeverage) byBuffer) byExposure

/-- `size_contracts`: whole-contract base quantity, and whether a bound applied. -/
def sizeContracts (terms : FuturesMarginTerms) (limits : ContractSizingLimits) (equity : Decimal)
    (side : PositionSide) (limitPrice requestedNotional makerFeeRate : Decimal) :
    Result (OrSkip (Decimal × Bool)) := do
  if equity ≤ 0 then return .error .insufficientCash
  let unit := limitPrice * terms.contractSize
  if unit ≤ 0 then return .error .entryPriceNotPositive
  let fee := unit * makerFeeRate + terms.feePerContract
  let bound ← contractBound terms limits equity unit fee (terms.initialRate side)
  let requested ← divide requestedNotional unit
  let contracts : Decimal := ⌊min requested bound⌋
  if contracts < 1 then return .error .belowOneContract
  if contracts * unit < limits.minQuoteNotional then return .error .notionalBelowMinimum
  return .ok (contracts * terms.contractSize, decide (bound < requested))

end Thytrader.Trading
