import Thytrader.Trading.Sizing

/-!
# Which way the entry levels are snapped

`entry_levels` says that paper and live snap the stop away from the entry price and the target
toward it. A long stop is rounded down and does move away. A short target is rounded down as well,
which is away from the entry price, and the other two levels are rounded half up, which goes either
way. `entryLevels_conservative_iff` gives the remainders for which the levels come out as promised.
-/

namespace Thytrader.Trading

/-! ## Rounding a ratio -/

section

variable {ratio : Decimal}

theorem roundInteger_down (hratio : 0 ≤ ratio) : roundInteger .down ratio = ⌊ratio⌋ :=
  if_neg hratio.not_gt

theorem roundInteger_halfUp (hratio : 0 ≤ ratio) :
    roundInteger .halfUp ratio = ⌊ratio + 1 / 2⌋ :=
  if_neg hratio.not_gt

theorem roundInteger_halfUp_nonpos (hratio : ratio < 0) : roundInteger .halfUp ratio ≤ 0 := by
  have hfloor : 0 ≤ ⌊-ratio + 1 / 2⌋ := Int.floor_nonneg.mpr (by linarith)
  rw [show roundInteger .halfUp ratio = -⌊-ratio + 1 / 2⌋ from if_pos hratio]
  exact neg_nonpos.mpr hfloor

theorem le_floor_iff : ratio ≤ ⌊ratio⌋ ↔ Int.fract ratio = 0 := by
  have hparts := Int.floor_add_fract ratio
  constructor
  · intro h
    exact le_antisymm (by linarith) (Int.fract_nonneg ratio)
  · intro h
    linarith

theorem halfUp_le_iff : (⌊ratio + 1 / 2⌋ : Decimal) ≤ ratio ↔ Int.fract ratio < 1 / 2 := by
  have hparts := Int.floor_add_fract ratio
  rw [← Int.le_floor, ← Int.lt_add_one_iff, Int.floor_lt, Int.cast_add, Int.cast_one]
  constructor
  · intro h
    linarith
  · intro h
    linarith

theorem le_halfUp_iff :
    ratio ≤ ⌊ratio + 1 / 2⌋ ↔ Int.fract ratio = 0 ∨ 1 / 2 ≤ Int.fract ratio := by
  have hparts := Int.floor_add_fract ratio
  have hfract := Int.fract_nonneg ratio
  by_cases hhalf : 1 / 2 ≤ Int.fract ratio
  · have hnext : ⌊ratio⌋ + 1 ≤ ⌊ratio + 1 / 2⌋ := by
      rw [Int.le_floor, Int.cast_add, Int.cast_one]
      linarith
    have hcast : (⌊ratio⌋ : Decimal) + 1 ≤ ⌊ratio + 1 / 2⌋ := by exact_mod_cast hnext
    refine iff_of_true ?_ (.inr hhalf)
    linarith [Int.fract_lt_one ratio]
  · have hsame : ⌊ratio + 1 / 2⌋ = ⌊ratio⌋ := by
      rw [Int.floor_eq_iff]
      constructor <;> linarith
    rw [hsame, le_floor_iff]
    exact ⟨.inl, fun h => h.resolve_right hhalf⟩

end

section

variable {value snapped : Decimal} {increment : Option Decimal}

theorem snap_whole {rounding : Rounding} (h : snap value increment rounding = .ok snapped) :
    ∀ step ∈ increment, ∃ count : Int, snapped = count * step := by
  rintro step hstep
  obtain ⟨rfl, -⟩ | ⟨found, rfl, -, rfl⟩ := snap_ok h
  · cases hstep
  · cases hstep
    exact ⟨_, rfl⟩

theorem snap_down_iff (hsnapped : 0 < snapped) (h : snap value increment .down = .ok snapped) :
    snapped ≤ value ∧ (value ≤ snapped ↔ ∀ step ∈ increment, Int.fract (value / step) = 0) := by
  obtain ⟨rfl, rfl⟩ | ⟨step, rfl, hstep, hround⟩ := snap_ok h
  · simp
  · have hbelow := quantizeToIncrement_down_le hsnapped h
    have hratio : 0 ≤ value / step := div_nonneg (hsnapped.le.trans hbelow) hstep.le
    rw [roundInteger_down hratio] at hround
    refine ⟨hbelow, ?_⟩
    rw [hround, ← div_le_iff₀ hstep, le_floor_iff]
    simp

theorem snap_halfUp_iff (hsnapped : 0 < snapped) (h : snap value increment .halfUp = .ok snapped) :
    (snapped ≤ value ↔ ∀ step ∈ increment, Int.fract (value / step) < 1 / 2) ∧
      (value ≤ snapped ↔ ∀ step ∈ increment,
        Int.fract (value / step) = 0 ∨ 1 / 2 ≤ Int.fract (value / step)) := by
  obtain ⟨rfl, rfl⟩ | ⟨step, rfl, hstep, hround⟩ := snap_ok h
  · simp
  · have hratio : 0 ≤ value / step := by
      by_contra hnegative
      have hcount : (roundInteger .halfUp (value / step) : Decimal) ≤ 0 := by
        exact_mod_cast roundInteger_halfUp_nonpos (not_le.mp hnegative)
      exact hsnapped.not_ge (hround ▸ mul_nonpos_of_nonpos_of_nonneg hcount hstep.le)
    rw [roundInteger_halfUp hratio] at hround
    rw [hround, ← div_le_iff₀ hstep, ← le_div_iff₀ hstep, halfUp_le_iff, le_halfUp_iff]
    simp

end

/-! ## Legal and conservative levels -/

/-- `0 < stop < entry < target` for a long, mirrored for a short. -/
def LevelChain (side : PositionSide) (entryPrice : Decimal) (levels : EntryLevels) : Prop :=
  match side with
  | .long => 0 < levels.stopPrice ∧ levels.stopPrice < entryPrice ∧
    ∀ target ∈ levels.targetPrice, entryPrice < target
  | .short => entryPrice < levels.stopPrice ∧
    ∀ target ∈ levels.targetPrice, 0 < target ∧ target < entryPrice

/-- The stop has not moved toward the entry price, nor the target away from it. -/
def SnappedOutward (side : PositionSide) (exact levels : EntryLevels) : Prop :=
  match side with
  | .long => levels.stopPrice ≤ exact.stopPrice ∧
    ∀ level ∈ exact.targetPrice, ∀ target ∈ levels.targetPrice, target ≤ level
  | .short => exact.stopPrice ≤ levels.stopPrice ∧
    ∀ level ∈ exact.targetPrice, ∀ target ∈ levels.targetPrice, level ≤ target

/-- Whole legal levels: the stop no closer than the exact one, the target no farther. -/
structure ConservativeLevels (side : PositionSide) (entryPrice : Decimal) (exact : EntryLevels)
    (increment : Option Decimal) (levels : EntryLevels) : Prop where
  chain : 0 < entryPrice ∧ LevelChain side entryPrice levels
  whole : ∀ step ∈ increment, (∃ count : Int, levels.stopPrice = count * step) ∧
    ∀ target ∈ levels.targetPrice, ∃ count : Int, target = count * step
  outward : SnappedOutward side exact levels

/-- The remainders that rounding handles as the docstring says: a long target not rounded up, a
short stop not rounded down, a short target that needs no rounding. -/
def SafeRemainders (side : PositionSide) (entryPrice stopDistance : Decimal)
    (rewardMultiple increment : Option Decimal) : Prop :=
  match side with
  | .long => ∀ multiple ∈ rewardMultiple, ∀ step ∈ increment,
    Int.fract ((entryPrice + stopDistance * multiple) / step) < 1 / 2
  | .short => (∀ step ∈ increment, Int.fract ((entryPrice + stopDistance) / step) = 0 ∨
      1 / 2 ≤ Int.fract ((entryPrice + stopDistance) / step)) ∧
    ∀ multiple ∈ rewardMultiple, 0 < multiple ∧ ∀ step ∈ increment,
      Int.fract ((entryPrice - stopDistance * multiple) / step) = 0

section

variable {side : PositionSide} {entryPrice stopDistance : Decimal}
  {rewardMultiple increment : Option Decimal} {exact levels : EntryLevels}

theorem LevelsFound.whole (h : LevelsFound side entryPrice exact increment levels) :
    ∀ step ∈ increment, (∃ count : Int, levels.stopPrice = count * step) ∧
      ∀ target ∈ levels.targetPrice, ∃ count : Int, target = count * step := by
  rintro step hstep
  refine ⟨snap_whole h.stop step hstep, ?_⟩
  rintro target htarget
  obtain ⟨level, -, hsnap⟩ := h.snapped htarget
  exact snap_whole hsnap step hstep

theorem longLevels_conservative_iff (hentry : 0 < entryPrice) (hdistance : 0 < stopDistance)
    (h : LevelsFound .long entryPrice (exactLevels .long entryPrice stopDistance rewardMultiple)
      increment levels) :
    ConservativeLevels .long entryPrice (exactLevels .long entryPrice stopDistance rewardMultiple)
      increment levels ↔ SafeRemainders .long entryPrice stopDistance rewardMultiple increment := by
  obtain ⟨hpositive, hbeyond⟩ := h.checked
  have hstop : levels.stopPrice ≤ entryPrice - stopDistance := (snap_down_iff hpositive h.stop).1
  have hchain : 0 < entryPrice ∧ LevelChain .long entryPrice levels :=
    ⟨hentry, hpositive, by linarith, hbeyond⟩
  have hrest : ConservativeLevels .long entryPrice
      (exactLevels .long entryPrice stopDistance rewardMultiple) increment levels ↔
      ∀ level ∈ rewardMultiple.map (entryPrice + stopDistance * ·),
        ∀ target ∈ levels.targetPrice, target ≤ level :=
    ⟨fun hall => hall.outward.2, fun htargets => ⟨hchain, h.whole, hstop, htargets⟩⟩
  rw [hrest]
  obtain ⟨hnone, -⟩ | ⟨level, target, hlevel, htarget, hsnap⟩ := h.target
  · cases rewardMultiple with
    | none => simp [SafeRemainders]
    | some => cases hnone
  · cases rewardMultiple with
    | none => cases hlevel
    | some =>
      cases hlevel
      have hiff := (snap_halfUp_iff (hentry.trans (hbeyond target htarget)) hsnap).1
      simpa [SafeRemainders, htarget] using hiff

theorem shortLevels_conservative_iff (hentry : 0 < entryPrice) (hdistance : 0 < stopDistance)
    (h : LevelsFound .short entryPrice (exactLevels .short entryPrice stopDistance rewardMultiple)
      increment levels) :
    ConservativeLevels .short entryPrice (exactLevels .short entryPrice stopDistance rewardMultiple)
      increment levels ↔ SafeRemainders .short entryPrice stopDistance rewardMultiple increment := by
  obtain ⟨hbeyond, hpositive⟩ := h.checked
  have hstop := (snap_halfUp_iff (hentry.trans hbeyond) h.stop).2
  change entryPrice + stopDistance ≤ _ ↔ _ at hstop
  have hrest : ConservativeLevels .short entryPrice
      (exactLevels .short entryPrice stopDistance rewardMultiple) increment levels ↔
      entryPrice + stopDistance ≤ levels.stopPrice ∧
        (∀ target ∈ levels.targetPrice, target < entryPrice) ∧
        ∀ level ∈ rewardMultiple.map (entryPrice - stopDistance * ·),
          ∀ target ∈ levels.targetPrice, level ≤ target :=
    ⟨fun hall => ⟨hall.outward.1, fun target htarget => (hall.chain.2.2 target htarget).2,
      hall.outward.2⟩, fun ⟨hout, hbelow, htargets⟩ => ⟨⟨hentry, hbeyond, fun target htarget =>
        ⟨hpositive target htarget, hbelow target htarget⟩⟩, h.whole, hout, htargets⟩⟩
  rw [hrest, hstop]
  refine and_congr_right fun _ => ?_
  obtain ⟨hnone, hempty⟩ | ⟨level, target, hlevel, htarget, hsnap⟩ := h.target
  · cases rewardMultiple with
    | none => simp [hempty]
    | some => cases hnone
  · cases rewardMultiple with
    | none => cases hlevel
    | some multiple =>
      cases hlevel
      obtain ⟨hdown, hiff⟩ := snap_down_iff (hpositive target htarget) hsnap
      have hgain : 0 < stopDistance * multiple ↔ 0 < multiple := mul_pos_iff_of_pos_left hdistance
      -- A target that needed no rounding lies below the entry price just when the multiple is
      -- positive.
      have hside : (target < entryPrice ∧ entryPrice - stopDistance * multiple ≤ target) ↔
          0 < multiple ∧ entryPrice - stopDistance * multiple ≤ target := by
        refine and_congr_left fun hkept => ?_
        rw [← hgain]
        constructor
        · intro hbelow
          linarith
        · intro hpos
          linarith
      simpa [htarget, hiff] using hside

end

end Thytrader.Trading
