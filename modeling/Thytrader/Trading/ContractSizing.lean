import Thytrader.Backtest.Simulation

/-!
# Whole-contract sizing

`trading/futures_sizing.py`: `size_contracts` solves each bound of a futures entry for the number
of contracts, with the entry fee folded into the denominator, takes the least of them and of the
requested count, and rounds down. `Admits` states the bounds as the entry must meet them once its
fee is paid; the result is the largest whole number that does (`sizeContracts_maximal`).
-/

namespace Thytrader.Trading

/-! ## Validated terms -/

/-- What the validators promise of the terms of a futures book. -/
structure FuturesMarginTerms.Validated (terms : FuturesMarginTerms) : Prop where
  contractSize : 0 < terms.contractSize
  longRate : 0 < terms.longRate
  shortRate : 0 < terms.shortRate
  maintenance : 0 < terms.maintenanceFraction
  buffer : 0 ≤ terms.minBufferFraction ∧ terms.minBufferFraction < 1
  leverage : 1 ≤ terms.maxLeverage
  contractFee : 0 ≤ terms.feePerContract

/-- What the strategy's validators promise of its caps. -/
structure ContractSizingLimits.Validated (limits : ContractSizingLimits) : Prop where
  minimum : 0 < limits.minQuoteNotional
  ordered : limits.minQuoteNotional ≤ limits.maxQuoteNotional
  exposure : 0 < limits.maxExposureFraction

theorem FuturesMarginTerms.Validated.rate {terms : FuturesMarginTerms} (h : terms.Validated)
    (side : PositionSide) : 0 < terms.initialRate side := by
  cases side with
  | long => exact h.longRate
  | short => exact h.shortRate

def FuturesMarginTerms.unit (terms : FuturesMarginTerms) (limitPrice : Decimal) : Decimal :=
  limitPrice * terms.contractSize

def FuturesMarginTerms.entryFee (terms : FuturesMarginTerms) (limitPrice makerFeeRate : Decimal) :
    Decimal :=
  terms.unit limitPrice * makerFeeRate + terms.feePerContract

/-- The bounds a number of contracts meets once its fee is paid. -/
structure Admits (terms : FuturesMarginTerms) (limits : ContractSizingLimits) (equity : Decimal)
    (side : PositionSide) (limitPrice makerFeeRate contracts : Decimal) : Prop where
  notional : contracts * terms.unit limitPrice ≤ limits.maxQuoteNotional
  leverage : contracts * terms.unit limitPrice ≤
    terms.maxLeverage * (equity - contracts * terms.entryFee limitPrice makerFeeRate)
  buffer : contracts * terms.unit limitPrice * terms.initialRate side *
      terms.maintenanceFraction ≤
    (1 - terms.minBufferFraction) * (equity - contracts * terms.entryFee limitPrice makerFeeRate)
  exposure : contracts * terms.unit limitPrice * terms.initialRate side ≤
    limits.maxExposureFraction * (equity - contracts * terms.entryFee limitPrice makerFeeRate)

variable {equity : Decimal} {fingerprint : String → Lib.Dict Time Decimal → String}
  {specification : Evaluation.ResearchRunSpecification}
  {fundingRates : Option (Lib.Dict Time Decimal)} {strategy : Strategies.StrategyDefinition}

theorem le_solved_iff {count factor unit fee : Decimal} (h : 0 < unit + factor * fee) :
    count ≤ factor * equity / (unit + factor * fee) ↔
      count * unit ≤ factor * (equity - count * fee) := by
  rw [le_div_iff₀ h]
  constructor
  · intro hle
    linarith
  · intro hle
    linarith

/-- A whole number of contracts within every bound and the requested notional. -/
structure Fits (terms : FuturesMarginTerms) (limits : ContractSizingLimits) (equity : Decimal)
    (side : PositionSide) (limitPrice requestedNotional makerFeeRate : Decimal)
    (contracts : Nat) : Prop where
  admits : Admits terms limits equity side limitPrice makerFeeRate contracts
  requested : contracts * terms.unit limitPrice ≤ requestedNotional

/-- The largest whole number of contracts that fits. -/
structure Largest (terms : FuturesMarginTerms) (limits : ContractSizingLimits) (equity : Decimal)
    (side : PositionSide) (limitPrice requestedNotional makerFeeRate : Decimal)
    (contracts : Nat) : Prop where
  positive : 0 < contracts
  fits : Fits terms limits equity side limitPrice requestedNotional makerFeeRate contracts
  maximal : ∀ more, Fits terms limits equity side limitPrice requestedNotional makerFeeRate more →
    more ≤ contracts

/-- What each outcome of `size_contracts` says. -/
def Sized (terms : FuturesMarginTerms) (limits : ContractSizingLimits) (equity : Decimal)
    (side : PositionSide) (limitPrice requestedNotional makerFeeRate : Decimal) :
    OrSkip (Decimal × Bool) → Prop
  | .ok (quantity, bounded) =>
    ∃ contracts : Nat, quantity = contracts * terms.contractSize ∧
      Largest terms limits equity side limitPrice requestedNotional makerFeeRate contracts ∧
      limits.minQuoteNotional ≤ contracts * terms.unit limitPrice ∧
      (bounded = true ↔ ¬Admits terms limits equity side limitPrice makerFeeRate
        (requestedNotional / terms.unit limitPrice))
  | .error .entryPriceNotPositive => terms.unit limitPrice ≤ 0
  | .error .notionalBelowMinimum =>
    ∃ contracts,
      Largest terms limits equity side limitPrice requestedNotional makerFeeRate contracts ∧
      contracts * terms.unit limitPrice < limits.minQuoteNotional
  | .error .belowOneContract => ∀ contracts, 0 < contracts →
    ¬Fits terms limits equity side limitPrice requestedNotional makerFeeRate contracts
  | .error .insufficientCash => equity ≤ 0 ∧ (0 < terms.unit limitPrice → ∀ contracts,
    0 < contracts →
    ¬Fits terms limits equity side limitPrice requestedNotional makerFeeRate contracts)
  | .error _ => False

section

variable {terms : FuturesMarginTerms} {limits : ContractSizingLimits}
  {limitPrice makerFeeRate : Decimal}

theorem FuturesMarginTerms.Validated.entryFee_nonneg (h : terms.Validated)
    (hprice : 0 < terms.unit limitPrice) (hfee : 0 ≤ makerFeeRate) :
    0 ≤ terms.entryFee limitPrice makerFeeRate :=
  add_nonneg (mul_nonneg hprice.le hfee) h.contractFee

theorem contractBound_spec (hterms : terms.Validated) (hlimits : limits.Validated)
    (hprice : 0 < terms.unit limitPrice) (hfee : 0 ≤ makerFeeRate) (equity : Decimal)
    (side : PositionSide) :
    ∃ bound, contractBound terms limits equity (terms.unit limitPrice)
        (terms.entryFee limitPrice makerFeeRate) (terms.initialRate side) = .ok bound ∧
      ∀ count, count ≤ bound ↔
        Admits terms limits equity side limitPrice makerFeeRate count := by
  have hentry := hterms.entryFee_nonneg hprice hfee
  have hrate := hterms.rate side
  have hroom : 0 < 1 - terms.minBufferFraction := sub_pos.mpr hterms.buffer.2
  have hleverage : 0 < terms.unit limitPrice +
      terms.maxLeverage * terms.entryFee limitPrice makerFeeRate :=
    add_pos_of_pos_of_nonneg hprice (mul_nonneg (zero_le_one.trans hterms.leverage) hentry)
  have hbuffer : 0 < terms.unit limitPrice * terms.initialRate side * terms.maintenanceFraction +
      (1 - terms.minBufferFraction) * terms.entryFee limitPrice makerFeeRate :=
    add_pos_of_pos_of_nonneg (mul_pos (mul_pos hprice hrate) hterms.maintenance)
      (mul_nonneg hroom.le hentry)
  have hexposure : 0 < terms.unit limitPrice * terms.initialRate side +
      limits.maxExposureFraction * terms.entryFee limitPrice makerFeeRate :=
    add_pos_of_pos_of_nonneg (mul_pos hprice hrate) (mul_nonneg hlimits.exposure.le hentry)
  refine ⟨_, by
    simp only [contractBound, divide_of_ne hprice.ne', divide_of_ne hleverage.ne',
      divide_of_ne hbuffer.ne', divide_of_ne hexposure.ne']
    rfl, ?_⟩
  intro count
  rw [le_min_iff, le_min_iff, le_min_iff, le_div_iff₀ hprice, le_solved_iff hleverage,
    le_solved_iff hbuffer, le_solved_iff hexposure]
  constructor
  · intro h
    obtain ⟨⟨⟨hnotional, hlevered⟩, hbuffered⟩, hexposed⟩ := h
    exact ⟨hnotional, hlevered, by simpa only [mul_assoc] using hbuffered,
      by simpa only [mul_assoc] using hexposed⟩
  · intro h
    exact ⟨⟨⟨h.notional, h.leverage⟩, by simpa only [mul_assoc] using h.buffer⟩,
      by simpa only [mul_assoc] using h.exposure⟩

variable {requestedNotional : Decimal} {side : PositionSide}

/-- A book without equity admits no contract: its own notional is more than nothing. -/
theorem not_fits_broke (hterms : terms.Validated) (hprice : 0 < terms.unit limitPrice)
    (hfee : 0 ≤ makerFeeRate) {contracts : Nat} (hbroke : equity ≤ 0) (hsome : 0 < contracts) :
    ¬Fits terms limits equity side limitPrice requestedNotional makerFeeRate contracts := by
  intro h
  have hcount : (0 : Decimal) < contracts := Nat.cast_pos.mpr hsome
  have hspent : 0 ≤ contracts * terms.entryFee limitPrice makerFeeRate :=
    mul_nonneg hcount.le (hterms.entryFee_nonneg hprice hfee)
  have hleft : equity - contracts * terms.entryFee limitPrice makerFeeRate ≤ 0 := by linarith
  have hlevered : terms.maxLeverage *
      (equity - contracts * terms.entryFee limitPrice makerFeeRate) ≤ 0 :=
    mul_nonpos_of_nonneg_of_nonpos (zero_le_one.trans hterms.leverage) hleft
  exact absurd (h.admits.leverage.trans hlevered) (mul_pos hcount hprice).not_ge

/-- The count that is rounded down is the largest that fits. -/
theorem fits_iff_le_floor {bound : Decimal} (hprice : 0 < terms.unit limitPrice)
    (hbound : ∀ count, count ≤ bound ↔
      Admits terms limits equity side limitPrice makerFeeRate count) (contracts : Nat) :
    Fits terms limits equity side limitPrice requestedNotional makerFeeRate contracts ↔
      (contracts : Int) ≤ ⌊min (requestedNotional / terms.unit limitPrice) bound⌋ := by
  rw [Int.le_floor, Int.cast_natCast, le_min_iff, le_div_iff₀ hprice, hbound]
  constructor
  · exact fun h => ⟨h.requested, h.admits⟩
  · exact fun h => ⟨h.2, h.1⟩

section

variable (hterms : terms.Validated) (hlimits : limits.Validated) (hfee : 0 ≤ makerFeeRate)
  (equity limitPrice requestedNotional : Decimal) (side : PositionSide)
include hterms hlimits hfee

theorem contracts_sized :
    ∃ outcome, sizeContracts terms limits equity side limitPrice requestedNotional makerFeeRate =
        .ok outcome ∧
      Sized terms limits equity side limitPrice requestedNotional makerFeeRate outcome := by
  by_cases hbroke : equity ≤ 0
  · refine ⟨.error .insufficientCash, ?_, hbroke, ?_⟩
    · simp only [sizeContracts, if_pos hbroke]
      rfl
    · exact fun hprice contracts hsome => not_fits_broke hterms hprice hfee hbroke hsome
  by_cases hprice : terms.unit limitPrice ≤ 0
  · refine ⟨.error .entryPriceNotPositive, ?_, hprice⟩
    unfold FuturesMarginTerms.unit at hprice
    simp only [sizeContracts, if_neg hbroke, if_pos hprice]
    rfl
  have hpositive := not_le.mp hprice
  obtain ⟨bound, hrun, hbound⟩ :=
    contractBound_spec hterms hlimits hpositive hfee equity side
  have hstart : sizeContracts terms limits equity side limitPrice requestedNotional makerFeeRate =
      (if (⌊min (requestedNotional / terms.unit limitPrice) bound⌋ : Decimal) < 1 then
        .ok (.error .belowOneContract)
      else if (⌊min (requestedNotional / terms.unit limitPrice) bound⌋ : Decimal) *
          terms.unit limitPrice < limits.minQuoteNotional then
        .ok (.error .notionalBelowMinimum)
      else .ok (.ok (⌊min (requestedNotional / terms.unit limitPrice) bound⌋ *
        terms.contractSize, decide (bound < requestedNotional / terms.unit limitPrice)))) := by
    unfold FuturesMarginTerms.entryFee FuturesMarginTerms.unit at hrun
    unfold FuturesMarginTerms.unit at hprice hpositive ⊢
    simp only [sizeContracts, if_neg hbroke, if_neg hprice, hrun, divide_of_ne hpositive.ne',
      bind, Except.bind, pure, Except.pure]
  rw [hstart]
  have hfits : ∀ contracts : Nat,
      Fits terms limits equity side limitPrice requestedNotional makerFeeRate contracts ↔
        (contracts : Int) ≤ ⌊min (requestedNotional / terms.unit limitPrice) bound⌋ :=
    fun contracts => fits_iff_le_floor hpositive hbound contracts
  generalize ⌊min (requestedNotional / terms.unit limitPrice) bound⌋ = whole at hfits ⊢
  by_cases hnone : (whole : Decimal) < 1
  · refine ⟨_, if_pos hnone, ?_⟩
    intro contracts hsome h
    have hle := (hfits contracts).mp h
    have hwhole : whole < 1 := by exact_mod_cast hnone
    omega
  rw [if_neg hnone]
  have hwhole : 1 ≤ whole := by exact_mod_cast not_lt.mp hnone
  have hcast : ((whole.toNat : Nat) : Decimal) = whole := by
    exact_mod_cast Int.toNat_of_nonneg (zero_le_one.trans hwhole)
  have hlargest : Largest terms limits equity side limitPrice requestedNotional makerFeeRate
      whole.toNat := by
    refine ⟨by omega, (hfits _).mpr (by omega), ?_⟩
    intro more h
    have hle := (hfits more).mp h
    omega
  rw [← hcast]
  by_cases hfloor : (whole.toNat : Decimal) * terms.unit limitPrice < limits.minQuoteNotional
  · exact ⟨_, if_pos hfloor, whole.toNat, hlargest, hfloor⟩
  · refine ⟨_, if_neg hfloor, whole.toNat, rfl, hlargest, not_lt.mp hfloor, ?_⟩
    rw [decide_eq_true_iff, ← hbound, not_le]

end

end

/-- A nano contract of a hundredth of a coin at a tenth of its notional. -/
def nanoTerms : FuturesMarginTerms :=
  { contractSize := 1 / 100, longRate := 1 / 10, shortRate := 1 / 5, maintenanceFraction := 1
    minBufferFraction := 1 / 2, maxLeverage := 2, feePerContract := 1 / 5 }

/-- Caps of a small strategy. -/
def smallLimits : ContractSizingLimits :=
  { maxQuoteNotional := 5000, minQuoteNotional := 10, maxExposureFraction := 1 / 4 }

open Backtest in
/-- The terms the backtest kernel resolves are validated. -/
theorem futuresTerms_validated {terms : FuturesTerms}
    (h : futuresTerms fingerprint specification strategy fundingRates = .ok (some terms)) :
    terms.toFuturesMarginTerms.Validated := by
  unfold futuresTerms at h
  split at h
  · obtain ⟨-, -, h⟩ := bind_eq_ok h
    cases h
  · split at h
    next contract margin _ _ _ =>
      obtain ⟨-, -, h⟩ := bind_eq_ok h
      split at h
      · exact absurd h (by simp [throw, throwThe, MonadExceptOf.throw])
      next derivatives _ =>
        obtain ⟨flattenAt, -, h⟩ := bind_eq_ok h
        obtain ⟨⟨rates, constant⟩, -, h⟩ := bind_eq_ok h
        cases h
        have hstress := zero_lt_one.trans_le margin.stressBounded.1
        have hrates := margin.ratesBounded
        simp only [List.mem_cons, List.not_mem_nil, or_false, forall_eq_or_imp, forall_eq] at hrates
        refine ⟨contract.sizePositive, mul_pos hrates.1.1 hstress, mul_pos hrates.2.1.1 hstress,
          hrates.2.2.1, margin.bufferBounded, derivatives.leverageBounded.1, ?_⟩
        cases hfee : specification.costs.feePerContract with
        | none => exact le_rfl
        | some fee => exact (specification.costs.contractFeeBounded fee hfee).1
    · exact absurd h (by simp [throw, throwThe, MonadExceptOf.throw])

end Thytrader.Trading
