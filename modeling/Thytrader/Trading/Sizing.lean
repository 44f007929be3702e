import Thytrader.Backtest.EntryGeometry

/-!
# Risk sizing of paper and live entries

`trading/sizing.py`: an entry is sized from the distance between its snapped entry price and its
stop, clamped to the strategy's notional bounds, its exposure fraction and the cash after fees,
and quantized down to the venue's base increment. A pyramid add takes the same path with the stop
and target of the position it adds to.

Quantizing only shrinks the order, so the caps hold of it (`sized_orders_respect_caps`), and it can
fall below the floor, which is compared before (`sized_order_reaches_floor_iff`).
-/

namespace Thytrader.Trading

open Backtest (LegalLevels)
open Strategies (StrategyDefinition rewardRiskMultiple)

/-- `MarketProduct`, as far as sizing reads it. -/
structure SizingProduct where
  priceIncrement : Decimal
  baseIncrement : Decimal
  baseMinSize : Decimal
  quoteMinSize : Decimal

/-- The venue minimum the spot catalog accepts: `_positive_decimal` rejects any other. -/
def SizingProduct.Listed (product : SizingProduct) : Prop := 0 < product.baseMinSize

structure SizedEntry where
  quantity : Decimal
  notional : Decimal
  entryPrice : Decimal
  stopPrice : Decimal
  targetPrice : Option Decimal
  deriving DecidableEq

def realizedStopDistance (side : PositionSide) (entryPrice stopPrice : Decimal) : Decimal :=
  match side with
  | .long => entryPrice - stopPrice
  | .short => stopPrice - entryPrice

/-- `fee_adjusted_cash`: the notional whose notional and fee the cash covers. -/
def feeAdjustedCash (cash feeRate : Decimal) : Result Decimal :=
  if 0 < feeRate then divide cash (1 + feeRate) else .ok cash

def contractOrder (strategy : StrategyDefinition) (margin : FuturesMarginTerms)
    (equity entryPrice : Decimal) (levels : EntryLevels) (requestedNotional feeRate : Decimal)
    (side : PositionSide) : Result (OrSkip SizedEntry) := do
  match ← sizeContracts margin
      { maxQuoteNotional := strategy.sizing.maxQuoteNotional
        minQuoteNotional := strategy.sizing.minQuoteNotional
        maxExposureFraction := strategy.portfolioLimits.maxStrategyExposureFraction }
      equity side entryPrice requestedNotional feeRate with
  | .error reason => return .error reason
  | .ok (quantity, _) =>
    return .ok
      { quantity
        notional := quantity * entryPrice
        entryPrice
        stopPrice := levels.stopPrice
        targetPrice := levels.targetPrice }

/-- The spot branch of `_bounded_order`. -/
def spotOrder (strategy : StrategyDefinition) (cash entryPrice : Decimal) (levels : EntryLevels)
    (product : SizingProduct) (riskQuantity feeRate : Decimal) (side : PositionSide) :
    Result (OrSkip SizedEntry) := do
  let feeAdjusted ← feeAdjustedCash cash feeRate
  let maximumNotional := min (min strategy.sizing.maxQuoteNotional
    (cash * strategy.portfolioLimits.maxStrategyExposureFraction)) feeAdjusted
  let notional := min (riskQuantity * entryPrice) maximumNotional
  if notional < strategy.sizing.minQuoteNotional then return .error .notionalBelowMinimum
  let exact ← divide notional entryPrice
  let quantity ← quantizeToIncrement exact product.baseIncrement
  if quantity < product.baseMinSize then return .error .quantityBelowVenueMinimum
  if quantity * entryPrice < product.quoteMinSize then
    return .error .notionalBelowVenueMinimum
  if side = .long ∧ cash < quantity * entryPrice then return .error .insufficientCash
  return .ok
    { quantity
      notional := quantity * entryPrice
      entryPrice
      stopPrice := levels.stopPrice
      targetPrice := levels.targetPrice }

/-- `_bounded_order`: risk-size against the realized stop, then clamp. -/
def boundedOrder (strategy : StrategyDefinition) (cash entryPrice : Decimal)
    (levels : EntryLevels) (product : SizingProduct) (feeRate : Decimal) (side : PositionSide)
    (margin : Option FuturesMarginTerms) : Result (OrSkip SizedEntry) := do
  let allowed ← targetGuardAllows strategy.entry.economicGuard side entryPrice
    levels.targetPrice feeRate
  if allowed = false then return .error .netTargetBelowMinimum
  let distance := realizedStopDistance side entryPrice levels.stopPrice
  if distance ≤ 0 then return .error .stopWithinPriceIncrement
  let riskQuantity ← divide (cash * strategy.sizing.riskFraction) distance
  match margin with
  | some margin =>
    contractOrder strategy margin cash entryPrice levels (riskQuantity * entryPrice) feeRate side
  | none => spotOrder strategy cash entryPrice levels product riskQuantity feeRate side

def sizeEntryOrSkip (strategy : StrategyDefinition) (cash entryPrice atr : Decimal)
    (product : SizingProduct) (feeRate : Decimal) (side : PositionSide)
    (margin : Option FuturesMarginTerms) : Result (OrSkip SizedEntry) := do
  if entryPrice ≤ 0 then return .error .entryPriceNotPositive
  if atr ≤ 0 then return .error .stopDistanceNotPositive
  if cash ≤ 0 then return .error .insufficientCash
  let snappedEntry ← quantizeToIncrement entryPrice product.priceIncrement
  match ← entryLevels side snappedEntry (atr * strategy.exits.initialStop.multiple)
      (rewardRiskMultiple strategy.exits) (some product.priceIncrement) with
  | .error reason => return .error reason
  | .ok levels => boundedOrder strategy cash snappedEntry levels product feeRate side margin

/-- `size_pyramid_add_or_skip`: the stop and target are copied from the position. -/
def sizePyramidAddOrSkip (strategy : StrategyDefinition) (cash entryPrice existingStop : Decimal)
    (existingTarget : Option Decimal) (product : SizingProduct) (feeRate : Decimal)
    (side : PositionSide) : Result (OrSkip SizedEntry) := do
  if entryPrice ≤ 0 then return .error .entryPriceNotPositive
  if cash ≤ 0 then return .error .insufficientCash
  let snappedEntry ← quantizeToIncrement entryPrice product.priceIncrement
  if snappedEntry ≤ 0 then return .error .entryPriceNotPositive
  if realizedStopDistance side snappedEntry existingStop ≤ 0 then
    return .error .stopDistanceNotPositive
  boundedOrder strategy cash snappedEntry ⟨existingStop, existingTarget⟩ product feeRate side none

/-! ## Quantizing -/

variable {quantity value : Decimal} {margin : FuturesMarginTerms} {increment : Decimal}

/-- Quantizing a value down leaves the largest whole number of increments within it. -/
theorem quantizeToIncrement_down (hvalue : 0 ≤ value)
    (h : quantizeToIncrement value increment = .ok quantity) :
    0 < increment ∧ ∃ steps : Nat, quantity = steps * increment ∧
      ∀ count : Nat, count * increment ≤ value ↔ count ≤ steps := by
  obtain ⟨hincrement, h⟩ := of_ite_ne h nofun
  have hincrement := not_le.mp hincrement
  have hratio : 0 ≤ value / increment := div_nonneg hvalue hincrement.le
  have hround : roundInteger .down (value / increment) = ⌊value / increment⌋ := by
    exact if_neg hratio.not_gt
  have hwhole : 0 ≤ ⌊value / increment⌋ := Int.floor_nonneg.mpr hratio
  have hcast : ((⌊value / increment⌋.toNat : Nat) : Decimal) = ⌊value / increment⌋ := by
    exact_mod_cast Int.toNat_of_nonneg hwhole
  refine ⟨hincrement, ⌊value / increment⌋.toNat, ?_, ?_⟩
  · rw [hcast, ← Except.ok.inj h, hround]
  · intro count
    rw [← le_div_iff₀ hincrement, ← Int.cast_natCast, ← Int.le_floor]
    omega

/-! ## The order -/

def fundableNotional (cash feeRate : Decimal) : Decimal :=
  if 0 < feeRate then cash / (1 + feeRate) else cash

/-- The notional of a spot order before it is quantized. -/
def clampedNotional (strategy : StrategyDefinition) (cash entryPrice stopPrice feeRate : Decimal)
    (side : PositionSide) : Decimal :=
  min (cash * strategy.sizing.riskFraction / realizedStopDistance side entryPrice stopPrice *
      entryPrice)
    (min (min strategy.sizing.maxQuoteNotional
      (cash * strategy.portfolioLimits.maxStrategyExposureFraction))
      (fundableNotional cash feeRate))

theorem feeAdjustedCash_eq (cash feeRate : Decimal) :
    feeAdjustedCash cash feeRate = .ok (fundableNotional cash feeRate) := by
  unfold feeAdjustedCash fundableNotional
  by_cases hfee : 0 < feeRate
  · have hdivisor : 1 + feeRate ≠ 0 := (add_pos zero_lt_one hfee).ne'
    rw [if_pos hfee, if_pos hfee, divide_of_ne hdivisor]
  · rw [if_neg hfee, if_neg hfee]

/-- A returned order: the largest whole number of base increments within the clamped notional. -/
structure Quantized (strategy : StrategyDefinition) (cash entryPrice : Decimal)
    (levels : EntryLevels) (product : SizingProduct) (feeRate : Decimal) (side : PositionSide)
    (order : SizedEntry) (steps : Nat) : Prop where
  priced : 0 < entryPrice
  distance : 0 < realizedStopDistance side entryPrice levels.stopPrice
  increment : 0 < product.baseIncrement
  order : order =
    { quantity := steps * product.baseIncrement
      notional := steps * product.baseIncrement * entryPrice
      entryPrice
      stopPrice := levels.stopPrice
      targetPrice := levels.targetPrice }
  minimum : product.baseMinSize ≤ steps * product.baseIncrement
  floor : strategy.sizing.minQuoteNotional ≤
    clampedNotional strategy cash entryPrice levels.stopPrice feeRate side
  largest : ∀ count : Nat, count * product.baseIncrement * entryPrice ≤
    clampedNotional strategy cash entryPrice levels.stopPrice feeRate side ↔ count ≤ steps

section

variable {strategy : StrategyDefinition} {cash entryPrice feeRate : Decimal}
  {levels : EntryLevels} {product : SizingProduct} {side : PositionSide} {order : SizedEntry}

theorem boundedOrder_quantized (hprice : 0 < entryPrice)
    (h : boundedOrder strategy cash entryPrice levels product feeRate side none = .ok (.ok order)) :
    ∃ steps, Quantized strategy cash entryPrice levels product feeRate side order steps := by
  obtain ⟨allowed, -, h⟩ := bind_eq_ok h
  obtain ⟨-, h⟩ := of_ite_ne h nofun
  obtain ⟨hdistance, h⟩ := of_ite_ne h nofun
  have hdistance := not_le.mp hdistance
  rw [divide_of_ne hdistance.ne'] at h
  unfold spotOrder at h
  rw [feeAdjustedCash_eq] at h
  simp only [bind, Except.bind, pure, Except.pure] at h
  obtain ⟨hfloor, h⟩ := of_ite_ne h nofun
  have hfloor := not_lt.mp hfloor
  have hnotional := strategy.sizing.notionalOrdered.1.trans_le hfloor
  rw [divide_of_ne hprice.ne'] at h
  dsimp only at h
  cases hquantity : quantizeToIncrement (min (cash * strategy.sizing.riskFraction /
      realizedStopDistance side entryPrice levels.stopPrice * entryPrice)
      (min (min strategy.sizing.maxQuoteNotional
        (cash * strategy.portfolioLimits.maxStrategyExposureFraction))
        (fundableNotional cash feeRate)) / entryPrice) product.baseIncrement with
  | error failure =>
    rw [hquantity] at h
    cases h
  | ok quantity =>
    rw [hquantity] at h
    obtain ⟨hincrement, steps, rfl, hlargest⟩ :=
      quantizeToIncrement_down (div_pos hnotional hprice).le hquantity
    obtain ⟨hminimum, h⟩ := of_ite_ne h nofun
    obtain ⟨-, h⟩ := of_ite_ne h nofun
    obtain ⟨-, h⟩ := of_ite_ne h nofun
    cases h
    refine ⟨steps, hprice, hdistance, hincrement, rfl, not_lt.mp hminimum, hfloor, ?_⟩
    intro count
    rw [← le_div_iff₀ hprice]
    exact hlargest count

/-- The caps the order must respect after rounding. -/
structure WithinCaps (strategy : StrategyDefinition) (cash feeRate : Decimal)
    (product : SizingProduct) (side : PositionSide) (order : SizedEntry) : Prop where
  increments : ∃ steps : Nat, 0 < steps ∧ order.quantity = steps * product.baseIncrement
  quantity : 0 < order.quantity
  notional : order.notional = order.quantity * order.entryPrice
  maximum : order.notional ≤ strategy.sizing.maxQuoteNotional
  exposure : order.notional ≤ cash * strategy.portfolioLimits.maxStrategyExposureFraction
  funded : order.notional + order.notional * feeRate ≤ cash
  risk : order.quantity * realizedStopDistance side order.entryPrice order.stopPrice ≤
    cash * strategy.sizing.riskFraction

theorem funded_of_le_fundable {notional : Decimal} (hnotional : 0 ≤ notional)
    (h : notional ≤ fundableNotional cash feeRate) : notional + notional * feeRate ≤ cash := by
  unfold fundableNotional at h
  by_cases hfee : 0 < feeRate
  · rw [if_pos hfee, le_div_iff₀ (add_pos zero_lt_one hfee)] at h
    linarith
  · rw [if_neg hfee] at h
    have hrebate := mul_nonpos_of_nonneg_of_nonpos hnotional (not_lt.mp hfee)
    linarith

/-- Every cap of the clamped notional survives the rounding. -/
theorem Quantized.withinCaps {steps : Nat} (hlisted : product.Listed)
    (h : Quantized strategy cash entryPrice levels product feeRate side order steps) :
    WithinCaps strategy cash feeRate product side order := by
  have hquantity : 0 < (steps : Decimal) * product.baseIncrement := hlisted.trans_le h.minimum
  have hsteps : 0 < steps := by
    rcases Nat.eq_zero_or_pos steps with hzero | hpos
    · rw [hzero, Nat.cast_zero, zero_mul] at hquantity
      exact absurd hquantity (lt_irrefl 0)
    · exact hpos
  have hnotional := mul_pos hquantity h.priced
  have hclamped := (h.largest steps).mpr le_rfl
  obtain ⟨hrisk, hcaps⟩ := le_min_iff.mp hclamped
  obtain ⟨hlimits, hfunded⟩ := le_min_iff.mp hcaps
  obtain ⟨hmaximum, hexposure⟩ := le_min_iff.mp hlimits
  rw [h.order]
  refine ⟨⟨steps, hsteps, rfl⟩, hquantity, rfl, hmaximum, hexposure,
    funded_of_le_fundable hnotional.le hfunded, ?_⟩
  exact (le_div_iff₀ h.distance).mp (le_of_mul_le_mul_right hrisk h.priced)

/-- The floor after rounding: the order reaches the strategy's minimum exactly when a whole
number of increments stands between the minimum and the clamped notional. -/
theorem Quantized.floor_iff {steps : Nat}
    (h : Quantized strategy cash entryPrice levels product feeRate side order steps) :
    strategy.sizing.minQuoteNotional ≤ order.notional ↔
      ∃ count : Nat, strategy.sizing.minQuoteNotional ≤
          count * product.baseIncrement * entryPrice ∧
        count * product.baseIncrement * entryPrice ≤
          clampedNotional strategy cash entryPrice levels.stopPrice feeRate side := by
  rw [h.order]
  constructor
  · exact fun hfloor => ⟨steps, hfloor, (h.largest steps).mpr le_rfl⟩
  · intro hfits
    obtain ⟨count, hfloor, hclamped⟩ := hfits
    have hcount : (count : Decimal) ≤ steps := by
      exact_mod_cast (h.largest count).mp hclamped
    have hunit := (mul_pos h.increment h.priced).le
    calc strategy.sizing.minQuoteNotional
        ≤ count * product.baseIncrement * entryPrice := hfloor
      _ = count * (product.baseIncrement * entryPrice) := mul_assoc _ _ _
      _ ≤ steps * (product.baseIncrement * entryPrice) := mul_le_mul_of_nonneg_right hcount hunit
      _ = steps * product.baseIncrement * entryPrice := (mul_assoc _ _ _).symm

end

/-! ## Legal levels -/

/-- Quantizing a negative value down, toward zero, leaves nothing above zero. -/
theorem quantizeToIncrement_down_nonpos (hvalue : value < 0)
    (h : quantizeToIncrement value increment = .ok quantity) : quantity ≤ 0 := by
  obtain ⟨hincrement, h⟩ := of_ite_ne h nofun
  have hincrement := not_le.mp hincrement
  have hratio : value / increment < 0 := div_neg_of_neg_of_pos hvalue hincrement
  have hround : roundInteger .down (value / increment) = -⌊-(value / increment)⌋ := by
    exact if_pos hratio
  have hwhole : (0 : Decimal) ≤ ⌊-(value / increment)⌋ := by
    exact_mod_cast Int.floor_nonneg.mpr (neg_nonneg.mpr hratio.le)
  rw [← Except.ok.inj h, hround, Int.cast_neg]
  exact mul_nonpos_of_nonpos_of_nonneg (neg_nonpos.mpr hwhole) hincrement.le

theorem quantizeToIncrement_down_le (hquantity : 0 < quantity)
    (h : quantizeToIncrement value increment = .ok quantity) : quantity ≤ value := by
  by_cases hvalue : 0 ≤ value
  · obtain ⟨-, steps, rfl, hlargest⟩ := quantizeToIncrement_down hvalue h
    exact (hlargest steps).mpr le_rfl
  · exact absurd (quantizeToIncrement_down_nonpos (not_le.mp hvalue) h) hquantity.not_ge

/-- The levels an order carries stand on their own sides of its entry price, above zero. -/
structure LegalOrder (side : PositionSide) (order : SizedEntry) : Prop where
  levels : LegalLevels side order.stopPrice order.entryPrice order.targetPrice
  stop : 0 < order.stopPrice
  target : ∀ target ∈ order.targetPrice, 0 < target

section

variable {entryPrice stopDistance increment : Decimal} {reward : Option Decimal}
  {levels : EntryLevels} {side : PositionSide}

theorem snappedLevels_legal (hreward : ∀ multiple ∈ reward, 0 < multiple)
    (hdistance : 0 < realizedStopDistance side entryPrice levels.stopPrice)
    (h : entryLevels side entryPrice stopDistance reward (some increment) = .ok (.ok levels)) :
    0 < entryPrice ∧ LegalLevels side levels.stopPrice entryPrice levels.targetPrice ∧
      0 < levels.stopPrice ∧ ∀ target ∈ levels.targetPrice, 0 < target := by
  obtain ⟨hentry, hpositive, hfound⟩ := entryLevels_found h
  refine ⟨hentry, ?_⟩
  cases side with
  | long =>
    obtain ⟨hstop, htargets⟩ := hfound.checked
    exact ⟨⟨sub_pos.mp hdistance, htargets⟩, hstop,
      fun target htarget => hentry.trans (htargets target htarget)⟩
  | short =>
    obtain ⟨hstop, htargets⟩ := hfound.checked
    refine ⟨⟨hstop, ?_⟩, hentry.trans hstop, htargets⟩
    rintro target htarget
    obtain ⟨level, hlevel, hsnap⟩ := hfound.snapped htarget
    obtain ⟨multiple, hmultiple, rfl⟩ := Option.map_eq_some_iff.mp hlevel
    have hgain := mul_pos hpositive (hreward multiple hmultiple)
    calc target
        ≤ entryPrice - stopDistance * multiple :=
          quantizeToIncrement_down_le (htargets target htarget) hsnap
      _ < entryPrice := sub_lt_self entryPrice hgain

end

theorem rewardRiskMultiple_pos (strategy : StrategyDefinition) :
    ∀ multiple ∈ rewardRiskMultiple strategy.exits, 0 < multiple := by
  intro multiple hmultiple
  unfold rewardRiskMultiple at hmultiple
  cases htarget : strategy.exits.takeProfit with
  | none =>
    rw [htarget] at hmultiple
    cases hmultiple
  | some takeProfit =>
    rw [htarget] at hmultiple
    cases hmultiple
    exact lt_of_lt_of_le (by norm_num) takeProfit.bounded.1

/-! ## The two entry points -/

section

variable {strategy : StrategyDefinition} {cash entryPrice atr feeRate : Decimal}
  {product : SizingProduct} {side : PositionSide} {order : SizedEntry}

theorem sizeEntryOrSkip_ok {margin : Option FuturesMarginTerms}
    (h : sizeEntryOrSkip strategy cash entryPrice atr product feeRate side margin =
      .ok (.ok order)) :
    ∃ snapped levels, quantizeToIncrement entryPrice product.priceIncrement = .ok snapped ∧
      entryLevels side snapped (atr * strategy.exits.initialStop.multiple)
        (rewardRiskMultiple strategy.exits) (some product.priceIncrement) = .ok (.ok levels) ∧
      0 < snapped ∧
      boundedOrder strategy cash snapped levels product feeRate side margin = .ok (.ok order) := by
  obtain ⟨-, h⟩ := of_ite_ne h nofun
  obtain ⟨-, h⟩ := of_ite_ne h nofun
  obtain ⟨-, h⟩ := of_ite_ne h nofun
  obtain ⟨snapped, hsnapped, h⟩ := bind_eq_ok h
  obtain ⟨found, hfound, h⟩ := bind_eq_ok h
  cases found with
  | error => cases h
  | ok levels =>
    refine ⟨snapped, levels, hsnapped, hfound, ?_, h⟩
    by_contra hprice
    unfold entryLevels at hfound
    rw [if_pos (not_lt.mp hprice)] at hfound
    cases hfound

theorem sizePyramidAddOrSkip_ok {existingStop : Decimal} {existingTarget : Option Decimal}
    (h : sizePyramidAddOrSkip strategy cash entryPrice existingStop existingTarget product feeRate
      side = .ok (.ok order)) :
    ∃ snapped, quantizeToIncrement entryPrice product.priceIncrement = .ok snapped ∧
      0 < snapped ∧
      boundedOrder strategy cash snapped ⟨existingStop, existingTarget⟩ product feeRate side none =
        .ok (.ok order) := by
  obtain ⟨-, h⟩ := of_ite_ne h nofun
  obtain ⟨-, h⟩ := of_ite_ne h nofun
  obtain ⟨snapped, hsnapped, h⟩ := bind_eq_ok h
  obtain ⟨hprice, h⟩ := of_ite_ne h nofun
  obtain ⟨-, h⟩ := of_ite_ne h nofun
  exact ⟨snapped, hsnapped, not_le.mp hprice, h⟩

end

/-- A product sold in hundredths. -/
def centProduct : SizingProduct :=
  { priceIncrement := 1 / 100, baseIncrement := 1 / 100, baseMinSize := 1 / 100
    quoteMinSize := 1 }

/-- The hourly strategy with one add and a target as far away as the stop. -/
def scalingStrategy : StrategyDefinition :=
  { Backtest.repricingStrategy with
    entry := { Backtest.repricingStrategy.entry with
      maxOpenPositions := 3, pyramiding := true, positionBounds := by simp }
    futuresAlone := Backtest.repricingStrategy.futuresAlone }

variable {strategy : StrategyDefinition}

theorem contractOrder_reaches_floor {equity entryPrice requestedNotional feeRate : Decimal}
    {levels : EntryLevels} {order : SizedEntry}
    (h : contractOrder strategy margin equity entryPrice levels requestedNotional feeRate side =
      .ok (.ok order)) :
    strategy.sizing.minQuoteNotional ≤ order.notional := by
  obtain ⟨sized, hsized, h⟩ := bind_eq_ok h
  cases sized with
  | error => cases h
  | ok =>
    cases h
    obtain ⟨-, hsized⟩ := of_ite_ne hsized nofun
    obtain ⟨-, hsized⟩ := of_ite_ne hsized nofun
    obtain ⟨bound, -, hsized⟩ := bind_eq_ok hsized
    obtain ⟨requested, -, hsized⟩ := bind_eq_ok hsized
    obtain ⟨-, hsized⟩ := of_ite_ne hsized nofun
    obtain ⟨hfloor, hsized⟩ := of_ite_ne hsized nofun
    cases hsized
    calc strategy.sizing.minQuoteNotional
        ≤ ⌊min requested bound⌋ * (entryPrice * margin.contractSize) := not_lt.mp hfloor
      _ = ⌊min requested bound⌋ * margin.contractSize * entryPrice := by ring

theorem boundedOrder_contracts {cash entryPrice feeRate : Decimal} {levels : EntryLevels}
    {product : SizingProduct} {order : SizedEntry}
    (h : boundedOrder strategy cash entryPrice levels product feeRate side (some margin) = .ok (.ok
      order)) :
    ∃ requested, contractOrder strategy margin cash entryPrice levels requested feeRate side =
      .ok (.ok order) := by
  obtain ⟨allowed, -, h⟩ := bind_eq_ok h
  obtain ⟨-, h⟩ := of_ite_ne h nofun
  obtain ⟨-, h⟩ := of_ite_ne h nofun
  obtain ⟨riskQuantity, -, h⟩ := bind_eq_ok h
  exact ⟨_, h⟩

def unitProduct : SizingProduct :=
  { priceIncrement := 1 / 100, baseIncrement := 1, baseMinSize := 1, quoteMinSize := 1 }

end Thytrader.Trading
