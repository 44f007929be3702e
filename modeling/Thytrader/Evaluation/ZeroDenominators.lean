import Thytrader.Evaluation.SeriesStarts
import Thytrader.Strategies.Warmup

/-!
# Zero denominators

The indicator series that divide by a quantity of the market: a range, a volume, a
deviation, a sum of changes. The source leaves such a series undefined at a bar where the
quantity is zero (`ZeroDenominator`), and nowhere else once its window is full.

The kinds that smooth such a series again carry the hole on.
-/

namespace Thytrader.Evaluation

open Lib MarketData Strategies List Option

/-! ## The quantities divided by -/

/-- The highest high and the lowest low of the window at a bar coincide. -/
def FlatRange (period : Nat) (candles : List Candle) (bar : Nat) : Prop :=
  ∃ level, (candleRange period candles)[bar]? = some (some level, some level)

def meanDeviation (period : Nat) (row : List Decimal) : Decimal :=
  (row.map (fun value => |value - row.sum / period|)).sum / period

def moneyFlow (rising : Candle × Candle → Bool) (row : List Candle) : Decimal :=
  (((pairwise row).filter rising).map (fun pair => typicalPrice pair.2 * pair.2.volume)).sum

def totalMoneyFlow (row : List Candle) : Decimal :=
  moneyFlow (fun pair => typicalPrice pair.1 < typicalPrice pair.2) row +
    moneyFlow (fun pair => typicalPrice pair.2 < typicalPrice pair.1) row

/-- The gains and losses of a window together. -/
def totalChange (row : List Decimal) : Decimal :=
  let changes := (pairwise row).map (fun pair => pair.2 - pair.1)
  (changes.filter (0 < ·)).sum + -(changes.filter (· < 0)).sum

def totalVolume (row : List Candle) : Decimal := (row.map (·.volume)).sum

/-- The true range of a window's bars after its first. -/
def totalTrueRange (row : List Candle) : Decimal :=
  ((pairwise row).map (fun pair => trueRange (some pair.1.close) pair.2)).sum

/-- The range the last `period` rows of an Ultimate Oscillator window sum to. -/
def pressureRange (period : Nat) (row : List (Decimal × Decimal)) : Decimal :=
  ((row.drop (row.length - period)).map Prod.snd).sum

/-- A documented zero denominator at a bar: a flat range, no volume, no deviation, or no change. The
other kinds have none. -/
def ZeroDenominator (math : DecimalMath) (candles : List Candle) (bar : Nat) :
    IndicatorRule → Prop
  | .roc input period =>
    period.value ≤ bar ∧ (sourceSeries input candles)[bar - period.value]? = some 0
  | .williamsR period => FlatRange period.value candles bar
  | .stochastic parameters => FlatRange parameters.kPeriod.value candles bar
  | .choppiness period => FlatRange period.value candles bar
  | .cci period =>
    period.value ≤ bar + 1 ∧
      meanDeviation period.value (window period.value (candles.map typicalPrice) bar) = 0
  | .zscore input period =>
    period.value ≤ bar + 1 ∧
      windowDeviation math period.value (window period.value (sourceSeries input candles) bar) = 0
  | .bollingerPercentB parameters =>
    parameters.period.value ≤ bar + 1 ∧
      windowDeviation math parameters.period.value
        (window parameters.period.value (sourceSeries .close candles) bar) = 0
  | .mfi period => period.value ≤ bar ∧ totalMoneyFlow (window (period.value + 1) candles bar) = 0
  | .cmo period =>
    period.value ≤ bar ∧ totalChange (window (period.value + 1) (sourceSeries .close candles) bar) = 0
  | .vwma period => period.value ≤ bar + 1 ∧ totalVolume (window period.value candles bar) = 0
  | .cmf period => period.value ≤ bar + 1 ∧ totalVolume (window period.value candles bar) = 0
  | .vwap period => period.value ≤ bar + 1 ∧ totalVolume (window period.value candles bar) = 0
  | .ultimateOscillator parameters =>
    parameters.longPeriod.value ≤ bar ∧
      ∃ period ∈ [parameters.shortPeriod.value, parameters.mediumPeriod.value,
          parameters.longPeriod.value],
        pressureRange period (window (parameters.longPeriod.value + 1)
          (withPrevious pressureAndRange candles) bar) = 0
  | .vortex period => period.value ≤ bar ∧ totalTrueRange (window (period.value + 1) candles bar) = 0
  | .adx period =>
    (wilderSmooth period.value (trueRanges candles))[bar]? = some (some 0) ∨
      ∃ lines, (adxLines period.value candles)[bar]? = some (some lines) ∧ lines.1 + lines.2 = 0
  | .stochasticRsi parameters =>
    -- a range of the index at or below the rounding noise counts as zero
    let rsi := relativeStrengthIndex parameters.rsiPeriod.value (sourceSeries .close candles)
    ∃ high low, (rollingExtremeOptional true parameters.stochPeriod.value rsi)[bar]? =
        some (some high) ∧
      (rollingExtremeOptional false parameters.stochPeriod.value rsi)[bar]? = some (some low) ∧
      high - low ≤ flatRsiRange
  | .tsi parameters =>
    (doubleSmooth parameters (sincePrevious (fun previous current => |current - previous|)
      (sourceSeries .close candles)))[bar]? = some (some 0)
  | _ => False

variable {closes : List Decimal}

/-! ## Windows with a guard -/

section

variable {candles : List Candle} {bar period : Nat}

theorem getElem?_candleRange (hbar : bar < candles.length) (hperiod : 1 ≤ period)
    (hfull : period - 1 ≤ bar) :
    ∃ high low, (candleRange period candles)[bar]? = some (some high, some low) := by
  obtain ⟨high, hhigh⟩ := (startsAt_donchianUpper candles hperiod).defined hbar hfull
  obtain ⟨low, hlow⟩ := (startsAt_donchianLower candles hperiod).defined hbar hfull
  exact ⟨high, low, getElem?_zip_eq_some.mpr ⟨hhigh, hlow⟩⟩

variable (answer : Candle → Decimal → Decimal → Decimal)

theorem blank_againstRange (hperiod : 1 ≤ period) :
    Blank (List.zipWith (againstRange answer) candles (candleRange period candles)) (period - 1) :=
  (startsAt_donchianUpper candles hperiod).blank.zipWith_zip fun _ _ => rfl

theorem defined_againstRange (hperiod : 1 ≤ period) (hbar : bar < candles.length)
    (hfull : period - 1 ≤ bar) (hrange : ¬ FlatRange period candles bar) :
    Defined (List.zipWith (againstRange answer) candles (candleRange period candles)) bar := by
  obtain ⟨high, low, hget⟩ := getElem?_candleRange hbar hperiod hfull
  have hne : ¬ high - low = 0 := by
    intro hzero
    obtain rfl : high = low := sub_eq_zero.mp hzero
    exact hrange ⟨high, hget⟩
  exact defined_zipWith_of (getElem?_eq_getElem hbar) hget (by simp [againstRange, hne])

theorem defined_rolling_guard {α : Type} {xs : List α} (quantity answer : List α → Decimal)
    (hbar : bar < xs.length) (hfull : period ≤ bar + 1)
    (hne : quantity (window period xs bar) ≠ 0) :
    Defined (rolling period (fun row => if quantity row = 0 then none else some (answer row)) xs)
      bar := by
  refine (defined_rolling _ _ _ _).mpr ⟨hbar, hfull, ?_⟩
  rw [isSome_ite_none_iff]
  exact hne

variable {values : List Decimal}

theorem defined_roc (hbar : bar < values.length) (hfull : period ≤ bar)
    (hne : values[bar - period]? ≠ some 0) :
    Defined (rateOfChange period values) bar := by
  refine defined_rolling_guard (fun row => row.headD 0)
    (fun row => 100 * (row.getLastD 0 - row.headD 0) / row.headD 0) hbar (by omega) ?_
  intro hhead
  -- the oldest value of the window is the one `period` bars ago
  have holdest : (window (period + 1) values bar)[0]? = values[bar - period]? := by
    rw [getElem?_window (by omega) (by omega)]
    congr 1
    omega
  have hpast : values[bar - period]? = some values[bar - period] :=
    getElem?_eq_getElem (by omega)
  rw [hpast] at holdest hne
  rw [headD_eq_head?_getD, head?_eq_getElem?, holdest, getD_some] at hhead
  exact hne (congrArg some hhead)

theorem defined_cci (hbar : bar < candles.length) (hfull : period ≤ bar + 1)
    (hne : meanDeviation period (window period (candles.map typicalPrice) bar) ≠ 0) :
    Defined (commodityChannelIndex period candles) bar :=
  defined_rolling_guard (meanDeviation period)
    (fun row => (row.getLastD 0 - row.sum / period) / (15 / 1000 * meanDeviation period row))
    (by rwa [length_map]) hfull hne

theorem defined_mfi (hbar : bar < candles.length) (hfull : period ≤ bar)
    (hne : totalMoneyFlow (window (period + 1) candles bar) ≠ 0) :
    Defined (moneyFlowIndex period candles) bar :=
  defined_rolling_guard totalMoneyFlow (fun row =>
    100 * moneyFlow (fun pair => typicalPrice pair.1 < typicalPrice pair.2) row /
      totalMoneyFlow row) hbar (by omega) hne

theorem defined_cmo (hbar : bar < values.length) (hfull : period ≤ bar)
    (hne : totalChange (window (period + 1) values bar) ≠ 0) :
    Defined (chandeMomentumOscillator period values) bar := by
  refine (defined_rolling _ _ _ _).mpr ⟨hbar, by omega, ?_⟩
  rw [isSome_ite_none_iff]
  exact hne

theorem defined_volumeWeighted (quantity : Candle → Decimal) (hbar : bar < candles.length)
    (hfull : period ≤ bar + 1) (hne : totalVolume (window period candles bar) ≠ 0) :
    Defined (volumeWeighted quantity period candles) bar :=
  defined_rolling_guard totalVolume
    (fun row => (row.map (fun candle => quantity candle * candle.volume)).sum / totalVolume row)
    hbar hfull hne

theorem defined_vortexSeries (movement : Candle → Candle → Decimal) (hbar : bar < candles.length)
    (hfull : period ≤ bar) (hne : totalTrueRange (window (period + 1) candles bar) ≠ 0) :
    Defined (vortexSeries movement period candles) bar :=
  defined_rolling_guard totalTrueRange
    (fun row => ((pairwise row).map (fun pair => movement pair.1 pair.2)).sum / totalTrueRange row)
    hbar (by omega) hne

theorem isSome_pressureAverage {rows : List (Decimal × Decimal)} (h : pressureRange period rows ≠ 0) :
    (pressureAverage period rows).isSome := by
  unfold pressureAverage
  rw [isSome_ite_none_iff]
  exact h

theorem defined_ultimate (parameters : UltimateOscillatorParameters)
    (hbar : bar < candles.length) (hfull : parameters.longPeriod.value ≤ bar)
    (hne : ∀ period ∈ [parameters.shortPeriod.value, parameters.mediumPeriod.value,
        parameters.longPeriod.value],
      pressureRange period (window (parameters.longPeriod.value + 1)
        (withPrevious pressureAndRange candles) bar) ≠ 0) :
    Defined (ultimateOscillatorValues parameters candles) bar := by
  have hlength := (causal_withPrevious pressureAndRange).length_eq candles
  refine (defined_rolling _ _ _ _).mpr ⟨by omega, by omega, ?_⟩
  obtain ⟨short, hshort⟩ := isSome_iff_exists.mp
    (isSome_pressureAverage (hne parameters.shortPeriod.value (by simp)))
  obtain ⟨medium, hmedium⟩ := isSome_iff_exists.mp
    (isSome_pressureAverage (hne parameters.mediumPeriod.value (by simp)))
  obtain ⟨long, hlong⟩ := isSome_iff_exists.mp
    (isSome_pressureAverage (hne parameters.longPeriod.value (by simp)))
  simp only [hshort, hmedium, hlong]
  rfl

variable (math : DecimalMath)

/-- A z-score divides by the deviation of its own window. -/
theorem defined_rollingZscore (hbar : bar < values.length) (hfull : period ≤ bar + 1)
    (hne : windowDeviation math period (window period values bar) ≠ 0) :
    Defined (rollingZscore math period values) bar := by
  have hmean : (simpleMovingAverage period values)[bar]? =
      some (some ((window period values bar).sum / period)) := by
    rw [simpleMovingAverage, getElem?_rolling, if_pos hbar, if_neg (by omega)]
  have hdeviation : (rollingPopulationStdev math period values)[bar]? =
      some (some (windowDeviation math period (window period values bar))) := by
    rw [rollingPopulationStdev, rollingStdev, getElem?_rolling, if_pos hbar, if_neg (by omega)]
  have hrow : ((simpleMovingAverage period values).zip
      (rollingPopulationStdev math period values))[bar]? =
        some (some ((window period values bar).sum / period),
          some (windowDeviation math period (window period values bar))) :=
    getElem?_zip_eq_some.mpr ⟨hmean, hdeviation⟩
  exact defined_zipWith_of (getElem?_eq_getElem hbar) hrow (by simp [hne])

theorem blank_rollingZscore (values : List Decimal) :
    Blank (rollingZscore math period values) (period - 1) :=
  (startsAt_sma period values).blank.zipWith_zip fun _ _ => rfl

variable (parameters : BollingerParameters)

theorem getElem?_bollingerBand (multiplier : Decimal) (hbar : bar < closes.length)
    (hfull : parameters.period.value ≤ bar + 1) :
    (bollingerBand math parameters multiplier closes)[bar]? =
      some (some ((window parameters.period.value closes bar).sum / parameters.period.value +
        multiplier * windowDeviation math parameters.period.value
          (window parameters.period.value closes bar))) := by
  have hmiddle : (bollingerMiddle parameters closes)[bar]? =
      some (some ((window parameters.period.value closes bar).sum / parameters.period.value)) := by
    rw [bollingerMiddle, simpleMovingAverage, getElem?_rolling, if_pos hbar, if_neg (by omega)]
  have hwidth : (rollingPopulationStdev math parameters.period.value closes)[bar]? =
      some (some (windowDeviation math parameters.period.value
        (window parameters.period.value closes bar))) := by
    rw [rollingPopulationStdev, rollingStdev, getElem?_rolling, if_pos hbar, if_neg (by omega)]
  exact getElem?_zipWith_eq_some.mpr ⟨_, _, hmiddle, hwidth, rfl⟩

theorem defined_percentB (parameters : BollingerParameters)
    (hbar : bar < closes.length) (hfull : parameters.period.value ≤ bar + 1)
    (hne : windowDeviation math parameters.period.value (window parameters.period.value closes
      bar) ≠ 0) : Defined (bollingerPercentBValues math parameters closes) bar := by
  have hupper := getElem?_bollingerBand math parameters parameters.stdevMultiplier.value hbar hfull
  have hlower :=
    getElem?_bollingerBand math parameters (-parameters.stdevMultiplier.value) hbar hfull
  have hpositive := parameters.stdevMultiplier.positive
  generalize windowDeviation math parameters.period.value
    (window parameters.period.value closes bar) = deviation at hupper hlower hne
  generalize (window parameters.period.value closes bar).sum / (parameters.period.value : Decimal) =
    mean at hupper hlower
  have hbands : ¬ mean + parameters.stdevMultiplier.value * deviation =
      mean + -parameters.stdevMultiplier.value * deviation := by
    intro hequal
    have hproduct : parameters.stdevMultiplier.value * deviation = 0 := by linarith
    rcases mul_eq_zero.mp hproduct with h | h
    · exact hpositive.ne' h
    · exact hne h
  have hrow := getElem?_zip_eq_some (z := (_, _)) |>.mpr ⟨hupper, hlower⟩
  exact defined_zipWith_of (getElem?_eq_getElem hbar) hrow (by simp only [if_neg hbands]; rfl)

theorem defined_choppinessIndex (hperiod : 1 ≤ period) (hbar : bar < candles.length)
    (hfull : period - 1 ≤ bar) (hrange : ¬ FlatRange period candles bar) :
    Defined (choppinessIndex math period candles) bar := by
  obtain ⟨high, low, hget⟩ := getElem?_candleRange hbar hperiod hfull
  have hne : ¬ high = low := by
    intro hequal
    subst hequal
    exact hrange ⟨high, hget⟩
  have hlength := causal_trueRanges.length_eq candles
  have hsum : (rolling period (fun (row : List Decimal) => some row.sum)
      (trueRanges candles))[bar]? = some (some (window period (trueRanges candles) bar).sum) := by
    rw [getElem?_rolling, if_pos (by omega), if_neg (by omega)]
  exact defined_zipWith_of hget hsum (by simp [hne])

theorem blank_choppinessIndex (hperiod : 1 ≤ period) :
    Blank (choppinessIndex math period candles) (period - 1) := by
  intro bar hearly hdefined
  obtain ⟨value, hvalue⟩ := hdefined
  obtain ⟨range, sum, hrange, -, hanswer⟩ := getElem?_zipWith_eq_some.mp hvalue
  obtain ⟨high, low⟩ := range
  cases high with
  | none => cases hanswer
  | some high =>
    have hhigh := (getElem?_zip_eq_some.mp hrange).1
    exact (startsAt_donchianUpper candles hperiod).blank bar hearly ⟨high, hhigh⟩

end

/-! ## Smoothings of a guarded series -/

variable {candles : List Candle} {bar : Nat}
variable {period : Nat} (parameters : StochasticParameters)

theorem blank_stochasticD :
    Blank (stochasticD parameters candles)
      (parameters.kPeriod.value + parameters.dPeriod.value - 2) := by
  have hk := parameters.kPeriod.lower
  have hd : 1 ≤ parameters.dPeriod.value := by have := parameters.dPeriod.lower; omega
  have h := Blank.of_over hd
    (fun bar => (defined_smaDefined hd (stochasticK parameters candles) bar).mp)
    (blank_againstRange _ (show 1 ≤ parameters.kPeriod.value by omega))
  exact h.mono (by omega)

theorem defined_stochasticD (hbar : bar < candles.length)
    (hfull : parameters.kPeriod.value + parameters.dPeriod.value - 2 ≤ bar)
    (hrange : ∀ earlier ≤ bar, bar < earlier + parameters.dPeriod.value →
      ¬ FlatRange parameters.kPeriod.value candles earlier) :
    Defined (stochasticD parameters candles) bar := by
  have hk := parameters.kPeriod.lower
  have hd : 1 ≤ parameters.dPeriod.value := by have := parameters.dPeriod.lower; omega
  refine (defined_smaDefined hd _ bar).mpr ⟨by omega, ?_⟩
  intro earlier hle hnear
  exact defined_againstRange _ (by omega) (by omega) (by omega) (hrange earlier hle hnear)

theorem startsAt_extremeOptional (maximum : Bool) (hperiod : 1 ≤ period) {series : Series}
    {length first : Nat} (h : StartsAt series length first) :
    StartsAt (rollingExtremeOptional maximum period series) length (first + period - 1) := by
  have hwindows := StartsAt.of_over hperiod (defined_windowsDefined hperiod series) h
  intro bar
  rw [← hwindows bar, rollingExtremeOptional, defined_map rfl]
  constructor
  · rintro ⟨row, hrow, -⟩
    exact ⟨row, hrow⟩
  · rintro ⟨row, hrow⟩
    refine ⟨row, hrow, isSome_windowExtreme ?_⟩
    -- a defined window holds a period of values
    rintro rfl
    rw [windowsDefined, getElem?_rolling] at hrow
    simp only [ite_none_right_eq_some, Option.some.injEq] at hrow
    obtain ⟨-, hrow⟩ := hrow
    obtain ⟨-, hrow⟩ := of_ite_ne hrow nofun
    obtain ⟨hlength, hrow⟩ := of_ite_ne_else hrow nofun
    rw [Option.some.inj hrow] at hlength
    simp at hlength
    omega

section

variable (parameters : StochasticRsiParameters)

theorem stochasticRsiRaw_spec (closes : List Decimal) :
    Blank (stochasticRsiRaw parameters closes)
        (parameters.rsiPeriod.value + parameters.stochPeriod.value - 1) ∧
      ∀ bar < closes.length, parameters.rsiPeriod.value + parameters.stochPeriod.value - 1 ≤ bar →
        (¬ ∃ high low, (rollingExtremeOptional true parameters.stochPeriod.value
              (relativeStrengthIndex parameters.rsiPeriod.value closes))[bar]? = some (some high) ∧
            (rollingExtremeOptional false parameters.stochPeriod.value
              (relativeStrengthIndex parameters.rsiPeriod.value closes))[bar]? = some (some low) ∧
            high - low ≤ flatRsiRange) →
        Defined (stochasticRsiRaw parameters closes) bar := by
  have hstoch : 1 ≤ parameters.stochPeriod.value := by have := parameters.stochPeriod.lower; omega
  have hindex := startsAt_rsi closes
    (show 1 ≤ parameters.rsiPeriod.value by have := parameters.rsiPeriod.lower; omega)
  have hhighs := startsAt_extremeOptional true hstoch hindex
  have hlows := startsAt_extremeOptional false hstoch hindex
  constructor
  · exact hhighs.blank.zipWith_zip (fun index _ => by cases index <;> rfl)
  · intro bar hbar hfull hflat
    obtain ⟨index, hvalue⟩ := hindex.defined hbar (by omega)
    obtain ⟨high, hhigh⟩ := hhighs.defined hbar hfull
    obtain ⟨low, hlow⟩ := hlows.defined hbar hfull
    have hrange : ¬ high - low ≤ flatRsiRange := fun hle => hflat ⟨high, low, hhigh, hlow, hle⟩
    have hrow := getElem?_zip_eq_some (z := (_, _)) |>.mpr ⟨hhigh, hlow⟩
    exact defined_zipWith_of hvalue hrow (by simp only [if_neg hrange]; rfl)

theorem blank_stochasticRsiD (closes : List Decimal) :
    Blank (stochasticRsiD parameters closes)
      (parameters.rsiPeriod.value + parameters.stochPeriod.value + parameters.kPeriod.value +
        parameters.dPeriod.value - 3) := by
  have hk := parameters.kPeriod.lower
  have hd := parameters.dPeriod.lower
  have hline := Blank.of_over hk
    (fun bar => (defined_smaDefined hk (stochasticRsiRaw parameters closes) bar).mp)
    (stochasticRsiRaw_spec parameters closes).1
  have h := Blank.of_over hd
    (fun bar => (defined_smaDefined hd (stochasticRsiK parameters closes) bar).mp)
    hline
  exact h.mono (by omega)

theorem defined_stochasticRsi
    (hfull : parameters.kPeriod.value + parameters.dPeriod.value - 1 ≤ bar + 1)
    (hraw : DefinedOver (stochasticRsiRaw parameters closes) (parameters.kPeriod.value +
      parameters.dPeriod.value - 1) bar) :
    Defined (stochasticRsiK parameters closes) bar ∧
      Defined (stochasticRsiD parameters closes) bar := by
  have hk := parameters.kPeriod.lower
  have hd := parameters.dPeriod.lower
  have hline (earlier : Nat) (hle : earlier ≤ bar) (hnear : bar < earlier + parameters.dPeriod.value) :
      Defined (stochasticRsiK parameters closes) earlier := by
    refine (defined_smaDefined hk _ earlier).mpr ⟨by omega, ?_⟩
    intro first hfirst hspan
    exact hraw first (by omega) (by omega)
  exact ⟨hline bar le_rfl (by omega),
    (defined_smaDefined hd _ bar).mpr ⟨by omega, hline⟩⟩

end

theorem adxLines_spec :
    Blank (adxLines period candles) (period - 1) ∧
      ∀ bar < candles.length, period - 1 ≤ bar →
        (wilderSmooth period (trueRanges candles))[bar]? ≠ some (some 0) →
        Defined (adxLines period candles) bar := by
  have hranges := startsAt_seededAverage (wilderUpdate period) period (trueRanges candles)
  have hplus := startsAt_seededAverage (wilderUpdate period) period (withPrevious plusMove candles)
  have hminus := startsAt_seededAverage (wilderUpdate period) period (withPrevious minusMove candles)
  rw [causal_trueRanges.length_eq] at hranges
  rw [(causal_withPrevious plusMove).length_eq] at hplus
  rw [(causal_withPrevious minusMove).length_eq] at hminus
  constructor
  · intro bar hearly hdefined
    obtain ⟨lines, hlines⟩ := hdefined
    rw [adxLines, getElem?_map, map_eq_some_iff] at hlines
    obtain ⟨row, hrow, hlines⟩ := hlines
    obtain ⟨range, moves⟩ := row
    cases range with
    | none => cases hlines
    | some range =>
      exact hranges.blank bar hearly ⟨range, (getElem?_zip_eq_some.mp hrow).1⟩
  · intro bar hbar hfull hzero
    obtain ⟨range, hrange⟩ := hranges.defined hbar hfull
    obtain ⟨plus, hplus⟩ := hplus.defined hbar hfull
    obtain ⟨minus, hminus⟩ := hminus.defined hbar hfull
    have hne : ¬ range = 0 := by
      rintro rfl
      exact hzero hrange
    refine ⟨(100 * plus / range, 100 * minus / range), ?_⟩
    have hrow : (smoothedMoves period candles)[bar]? = some (some range, some plus, some minus) :=
      getElem?_zip_eq_some.mpr ⟨hrange, getElem?_zip_eq_some.mpr ⟨hplus, hminus⟩⟩
    rw [adxLines, getElem?_map, hrow, map_some]
    simp [directionalLines, hne]

theorem blank_adxValues (hperiod : 1 ≤ period) :
    Blank (adxValues period candles) (2 * period - 2) := by
  have hindex : Blank ((adxLines period candles).map directionalIndex) (period - 1) := by
    intro bar hearly hdefined
    obtain ⟨lines, hlines, -⟩ := (defined_map rfl _ _).mp hdefined
    exact adxLines_spec.1 bar hearly ⟨lines, hlines⟩
  exact (blank_seedOptional (wilderUpdate period) hperiod hindex).mono (by omega)

/-- A seeded average of the directional index, once a period of it is defined. -/
theorem defined_adxValues (hperiod : 1 ≤ period) (hbar : bar < candles.length)
    (hfull : 2 * period - 2 ≤ bar)
    (hzero : ∀ earlier ≤ bar, bar < earlier + period → (wilderSmooth period (trueRanges
      candles))[earlier]? ≠ some (some 0) ∧ ¬ ∃ lines, (adxLines period candles)[earlier]? = some
      (some lines) ∧ lines.1 + lines.2 = 0) : Defined (adxValues period candles) bar := by
  refine defined_seedOptional_of_over (wilderUpdate period) hperiod (by omega) ?_
  intro earlier hle hnear
  obtain ⟨hrange, hsum⟩ := hzero earlier hle hnear
  obtain ⟨lines, hlines⟩ := adxLines_spec.2 earlier (by omega) (by omega) hrange
  have hne : ¬ lines.1 + lines.2 = 0 := fun h => hsum ⟨lines, hlines, h⟩
  exact (defined_map rfl _ _).mpr ⟨lines, hlines, by simp [directionalIndex, hne]⟩

variable (parameters : TsiParameters)

theorem startsAt_doubleSmooth (answer : Decimal → Decimal → Decimal) (closes : List Decimal) :
    StartsAt (doubleSmooth parameters (sincePrevious answer closes)) closes.length
      (parameters.longPeriod.value + parameters.shortPeriod.value - 1) := by
  have hlong := parameters.longPeriod.lower
  have hshort := parameters.shortPeriod.lower
  have h := startsAt_seedOptional (emaUpdate parameters.shortPeriod.value)
    (show 1 ≤ parameters.shortPeriod.value by omega)
    (startsAt_seedOptional (emaUpdate parameters.longPeriod.value)
      (show 1 ≤ parameters.longPeriod.value by omega) (startsAt_sincePrevious answer closes))
  rwa [show 1 + parameters.longPeriod.value - 1 + parameters.shortPeriod.value - 1 =
    parameters.longPeriod.value + parameters.shortPeriod.value - 1 by omega] at h

theorem trueStrengthLine_spec (closes : List Decimal) : Blank (trueStrengthLine parameters closes)
        (parameters.longPeriod.value + parameters.shortPeriod.value - 1) ∧
      ∀ bar < closes.length, parameters.longPeriod.value + parameters.shortPeriod.value - 1 ≤ bar →
        (doubleSmooth parameters (sincePrevious (fun previous current => |current - previous|)
          closes))[bar]? ≠ some (some 0) →
        Defined (trueStrengthLine parameters closes) bar := by
  have htops := startsAt_doubleSmooth parameters (fun previous current => current - previous) closes
  have hbottoms :=
    startsAt_doubleSmooth parameters (fun previous current => |current - previous|) closes
  constructor
  · intro bar hearly hdefined
    obtain ⟨top, bottom, htop, -, -⟩ :=
      (defined_zipWith (fun _ => rfl) (fun left => by cases left <;> rfl) _ _ _).mp hdefined
    exact htops.blank bar hearly ⟨top, htop⟩
  · intro bar hbar hfull hzero
    obtain ⟨top, htop⟩ := htops.defined hbar hfull
    obtain ⟨bottom, hbottom⟩ := hbottoms.defined hbar hfull
    have hne : ¬ bottom = 0 := by
      rintro rfl
      exact hzero hbottom
    exact defined_zipWith_of htop hbottom (by simp [hne])

end Thytrader.Evaluation
