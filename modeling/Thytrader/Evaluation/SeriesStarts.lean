import Thytrader.Evaluation.FirstValues

/-!
# Series that start once and never stop

The indicator series without a zero denominator on positive prices, each with the bar
of its first value (`StartsAt`). A line of a composite kind starts where its slowest stage
does, and a stage over another one starts a period later than that.
-/

namespace Thytrader.Evaluation

open Lib MarketData Strategies List

def PositivePrices (candles : List Candle) : Prop :=
  ∀ candle ∈ candles, 0 < candle.open_ ∧ 0 < candle.high ∧ 0 < candle.low ∧ 0 < candle.close

theorem length_sourceSeries (field : CandleField) (candles : List Candle) :
    (sourceSeries field candles).length = candles.length := length_map _

theorem positive_closes {candles : List Candle} (h : PositivePrices candles) :
    ∀ value ∈ sourceSeries .close candles, 0 < value := by
  intro value hvalue
  obtain ⟨candle, hcandle, rfl⟩ := mem_map.mp hvalue
  exact (h candle hcandle).2.2.2

variable {first : Nat}

/-! ## Averages -/

section

variable {period : Nat} (values : List Decimal)

theorem startsAt_ema (period : Nat) :
    StartsAt (exponentialMovingAverage period values) values.length (period - 1) :=
  startsAt_seededAverage _ _ _

section

variable (hperiod : 1 ≤ period)
include hperiod

theorem startsAt_wmaOptional {series : Series} {length : Nat} (h : StartsAt series length first) :
    StartsAt (weightedMovingAverageOptional period series) length (first + period - 1) :=
  (StartsAt.of_over hperiod (defined_windowsDefined hperiod series) h).optionMap _

theorem startsAt_secondExponential :
    StartsAt (exponentialMovingAverageOptional period (exponentialMovingAverage period values))
      values.length (2 * period - 2) := by
  have h := startsAt_seedOptional (emaUpdate period) hperiod
    (startsAt_ema values period)
  rwa [show period - 1 + period - 1 = 2 * period - 2 by omega] at h

theorem startsAt_thirdExponential :
    StartsAt (tripleExponential period values).2.2 values.length (3 * period - 3) := by
  have h := startsAt_seedOptional (emaUpdate period) hperiod
    (startsAt_secondExponential values hperiod)
  rwa [show 2 * period - 2 + period - 1 = 3 * period - 3 by omega] at h

theorem startsAt_dema :
    StartsAt (doubleExponentialMovingAverage period values) values.length (2 * period - 2) := by
  have h := (startsAt_ema values period).map₂
    (startsAt_secondExponential values hperiod) (fun outer inner => 2 * outer - inner)
  rwa [show max (period - 1) (2 * period - 2) = 2 * period - 2 by omega] at h

theorem startsAt_tema :
    StartsAt (tripleExponentialMovingAverage period values) values.length (3 * period - 3) := by
  have h := ((startsAt_ema values period).map₂
    (startsAt_secondExponential values hperiod) (fun one two => 3 * one - 3 * two)).map₂
    (startsAt_thirdExponential values hperiod) (fun outer tri => outer + tri)
  rwa [show max (max (period - 1) (2 * period - 2)) (3 * period - 3) = 3 * period - 3 by omega] at h

theorem startsAt_hma :
    StartsAt (hullMovingAverage period values) values.length (period + Nat.sqrt period - 2) := by
  have hsqrt : 1 ≤ Nat.sqrt period := Nat.sqrt_pos.mpr hperiod
  have hraw := (startsAt_rolling (period / 2) weightedMean values).map₂
    (startsAt_rolling period weightedMean values) (fun short long => 2 * short - long)
  have h := startsAt_wmaOptional hsqrt hraw
  rwa [show max (period / 2 - 1) (period - 1) + Nat.sqrt period - 1 =
    period + Nat.sqrt period - 2 by omega] at h

end

/-- A loop that answers exactly on the rows whose second column is defined. -/
theorem startsAt_machine_zip {α β γ σ : Type} {step : σ → α × Option β → σ × Option γ}
    (hstep : ∀ state row, (step state row).2.isSome = row.2.isSome) (state : σ) {xs : List α}
    {series : List (Option β)} (h : StartsAt series xs.length first) :
    StartsAt (machine step state (xs.zip series)) xs.length first := by
  intro bar
  rw [defined_machine]
  simp only [hstep, getElem?_zip_eq_some]
  constructor
  · rintro ⟨⟨x, entry⟩, ⟨hx, hentry⟩, hsome⟩
    obtain ⟨value, rfl⟩ := Option.isSome_iff_exists.mp hsome
    exact (h bar).mp ⟨value, hentry⟩
  · intro hbar
    obtain ⟨value, hvalue⟩ := (h bar).mpr hbar
    exact ⟨(xs[bar], some value), ⟨getElem?_eq_getElem hbar.1, hvalue⟩, rfl⟩

theorem startsAt_kama (parameters : KamaParameters) :
    StartsAt (kaufmanAdaptiveValues parameters values) values.length parameters.period.value := by
  refine startsAt_machine_zip ?_ _ (startsAt_rolling _ _ _)
  intro state row
  obtain ⟨value, smoothing⟩ := row
  cases smoothing <;> rfl

theorem isSome_windowExtreme {maximum : Bool} {row : List Decimal} (h : row ≠ []) :
    (windowExtreme maximum row).isSome := by
  cases row with
  | nil => exact absurd rfl h
  | cons => rfl

theorem startsAt_rollingExtreme (maximum : Bool) (hperiod : 1 ≤ period) :
    StartsAt (rollingExtreme maximum period values) values.length (period - 1) := by
  intro bar
  rw [rollingExtreme, defined_rolling]
  constructor
  · rintro ⟨hbar, hfull, -⟩
    omega
  · rintro ⟨hbar, hfirst⟩
    refine ⟨hbar, by omega, isSome_windowExtreme ?_⟩
    intro hempty
    have hlength := window_length period hbar (by omega)
    rw [hempty, length_nil] at hlength
    omega

theorem startsAt_rollingStdev (math : DecimalMath) (divisor period : Nat) :
    StartsAt (rollingStdev math divisor period values) values.length (period - 1) :=
  startsAt_rolling _ _ _

end

/-! ## Oscillators -/

section

variable (closes : List Decimal)

theorem startsAt_macdLine (parameters : MacdParameters) :
    StartsAt (macdLine parameters closes) closes.length (parameters.slowPeriod.value - 1) := by
  have h := (startsAt_ema closes parameters.fastPeriod.value).map₂
    (startsAt_ema closes parameters.slowPeriod.value) (· - ·)
  rwa [max_eq_right (by have := parameters.ordered; omega)] at h

variable {period : Nat} {state : RsiState}

theorem startsAt_macdSignalEma (hperiod : 1 ≤ period) {line : Series}
    (hsuffix : DefinedSuffix line) (h : StartsAt line line.length first) :
    StartsAt (macdSignalEma period line) line.length (first + period - 1) := by
  obtain ⟨head, defined, rfl⟩ := definedSuffix_split hsuffix
  have hdefined : (List.replicate head none ++ defined.map some).filterMap id = defined := by
    simp [filterMap_append, filterMap_map]
  have hsignal : macdSignalEma period (List.replicate head none ++ defined.map some) =
      List.replicate head none ++ exponentialMovingAverage period defined := by
    simp only [macdSignalEma, hdefined]
    simp
  -- the line is defined after its head, so its head ends where it starts
  have hline (bar : Nat) : Defined (List.replicate head none ++ defined.map some) bar ↔
      head ≤ bar ∧ bar < head + defined.length := by
    by_cases hhead : bar < head
    · simp [Defined, getElem?_append_left, hhead]
    · rw [Defined, getElem?_append_right (by simpa using hhead)]
      simp [getElem?_eq_some_iff]
      omega
  have hsmoothed (bar : Nat) :
      Defined (List.replicate head none ++ exponentialMovingAverage period defined) bar ↔
        head ≤ bar ∧ bar < head + defined.length ∧ head + period ≤ bar + 1 := by
    by_cases hhead : bar < head
    · simp [Defined, getElem?_append_left, hhead]
    · rw [Defined, getElem?_append_right (by simpa using hhead), length_replicate]
      refine ((startsAt_ema defined period) (bar - head)).trans ?_
      omega
  intro bar
  rw [hsignal, hsmoothed bar]
  have hlength : (List.replicate head (none : Option Decimal) ++ defined.map some).length =
      head + defined.length := by simp
  have hhead := (h head).symm.trans (hline head)
  have hfirst := (h first).symm.trans (hline first)
  omega

section

variable (parameters : MacdParameters)

theorem definedSuffix_macdLine : DefinedSuffix (macdLine parameters closes) :=
  definedSuffix_zipWith _ (definedSuffix_seededLoop _ _ _ _ _ _)
    (definedSuffix_seededLoop _ _ _ _ _ _)

theorem startsAt_macdSignal :
    StartsAt (macdSignal parameters closes) closes.length
      (parameters.slowPeriod.value + parameters.signalPeriod.value - 2) := by
  have hlength := (causal_macdLine parameters).length_eq closes
  have hline := startsAt_macdLine closes parameters
  rw [← hlength] at hline ⊢
  have h := startsAt_macdSignalEma (show 1 ≤ parameters.signalPeriod.value by
    have := parameters.signalPeriod.lower; omega) (definedSuffix_macdLine closes parameters) hline
  have hslow := parameters.slowPeriod.lower
  rwa [show parameters.slowPeriod.value - 1 + parameters.signalPeriod.value - 1 =
    parameters.slowPeriod.value + parameters.signalPeriod.value - 2 by omega] at h

theorem startsAt_macdHistogram :
    StartsAt (macdHistogram parameters closes) closes.length
      (parameters.slowPeriod.value + parameters.signalPeriod.value - 2) := by
  have h := (startsAt_macdLine closes parameters).map₂ (startsAt_macdSignal closes parameters) (· - ·)
  have hsignal := parameters.signalPeriod.lower
  rwa [max_eq_right (by omega)] at h

section

variable (hpositive : ∀ value ∈ closes, 0 < value)
include hpositive

/-- The percentage oscillator divides by an average of positive closes. -/
theorem startsAt_ppoLine :
    StartsAt (ppoLine parameters closes) closes.length (parameters.slowPeriod.value - 1) := by
  intro bar
  have hfast := startsAt_ema closes parameters.fastPeriod.value bar
  have hslow := startsAt_ema closes parameters.slowPeriod.value bar
  have hordered := parameters.ordered
  rw [ppoLine, defined_zipWith (fun _ => rfl) (fun left => by cases left <;> rfl)]
  constructor
  · rintro ⟨fast, slow, -, hvalue, -⟩
    exact hslow.mp ⟨slow, hvalue⟩
  · rintro ⟨hbar, hfirst⟩
    obtain ⟨fast, hfast⟩ := hfast.mpr ⟨hbar, by omega⟩
    obtain ⟨slow, hslow⟩ := hslow.mpr ⟨hbar, hfirst⟩
    have hpos : 0 < slow := positive_seededAverage (keepsPositive_emaUpdate _)
      (by have := parameters.slowPeriod.lower; omega) hpositive bar slow hslow
    exact ⟨fast, slow, hfast, hslow, by simp [hpos.ne']⟩

theorem startsAt_ppoSignal :
    StartsAt (ppoSignal parameters closes) closes.length
      (parameters.slowPeriod.value + parameters.signalPeriod.value - 2) := by
  have hsignal := parameters.signalPeriod.lower
  have hslow := parameters.slowPeriod.lower
  have h := startsAt_seedOptional (emaUpdate parameters.signalPeriod.value)
    (show 1 ≤ parameters.signalPeriod.value by omega) (startsAt_ppoLine closes parameters hpositive)
  rwa [show parameters.slowPeriod.value - 1 + parameters.signalPeriod.value - 1 =
    parameters.slowPeriod.value + parameters.signalPeriod.value - 2 by omega] at h

theorem startsAt_ppoHistogram :
    StartsAt (ppoHistogram parameters closes) closes.length
      (parameters.slowPeriod.value + parameters.signalPeriod.value - 2) := by
  have h := (startsAt_ppoLine closes parameters hpositive).map₂
    (startsAt_ppoSignal closes parameters hpositive) (· - ·)
  have hsignal := parameters.signalPeriod.lower
  rwa [max_eq_right (by omega)] at h

end

end

/-- The state of the RSI loop after some closes. -/
def RsiSeen (count : Nat) (state : RsiState) : Prop :=
  (count = 0 ∧ state.previous = none ∧ state.gains = []) ∨
    (1 ≤ count ∧ state.previous.isSome ∧ state.gains.length = count - 1)

theorem rsiSeen_step (period : Nat) {count : Nat} (value : Decimal) (h : RsiSeen count state) :
    RsiSeen (count + 1) (rsiStep period state value).1 := by
  obtain ⟨rfl, hprevious, hgains⟩ | ⟨hcount, hprevious, hgains⟩ := h
  · exact .inr ⟨by omega, by simp [rsiStep, hprevious], by simp [rsiStep, hprevious, hgains]⟩
  · obtain ⟨previous, hprevious⟩ := Option.isSome_iff_exists.mp hprevious
    refine .inr ⟨by omega, ?_, ?_⟩
    · simp only [rsiStep, hprevious]
      split <;> rfl
    · simp only [rsiStep, hprevious]
      split <;> simp [hgains] <;> omega

/-- A value is reported once `period` changes are known, this bar's included. -/
theorem rsiSeen_answer (hperiod : 1 ≤ period) {count : Nat} (value : Decimal)
    (h : RsiSeen count state) :
    (rsiStep period state value).2.isSome ↔ period ≤ count := by
  obtain ⟨rfl, hprevious, hgains⟩ | ⟨hcount, hprevious, hgains⟩ := h
  · simp only [rsiStep, hprevious]
    simp
    omega
  · obtain ⟨previous, hprevious⟩ := Option.isSome_iff_exists.mp hprevious
    simp only [rsiStep, hprevious]
    split
    next hshort => simp [hgains] at hshort ⊢; omega
    next hfull => simp [hgains] at hfull ⊢; omega

theorem startsAt_rsi (hperiod : 1 ≤ period) :
    StartsAt (relativeStrengthIndex period closes) closes.length period :=
  startsAt_machine (rsiStep period) RsiSeen (show RsiSeen 0 {} from .inl ⟨rfl, rfl, rfl⟩)
    (fun _ _ value h => rsiSeen_step period value h)
    (fun _ _ value h => rsiSeen_answer hperiod value h) closes

/-- The rate of a triple average divides by an average of positive values. -/
theorem startsAt_trix (hperiod : 1 ≤ period) (hpositive : ∀ value ∈ closes, 0 < value) :
    StartsAt (tripleExponentialRate period closes) closes.length (3 * period - 2) := by
  have hthird := startsAt_thirdExponential closes hperiod
  have hlevels : Positive (tripleExponential period closes).2.2 := by
    have hkeeps := keepsPositive_emaUpdate period
    exact positive_seedOptional hkeeps hperiod
      (positive_seedOptional hkeeps hperiod (positive_seededAverage hkeeps hperiod hpositive))
  intro bar
  rw [tripleExponentialRate, Defined, getElem?_withPrevious]
  constructor
  · rintro ⟨value, hvalue⟩
    obtain ⟨current, hcurrent, hvalue⟩ := Option.map_eq_some_iff.mp hvalue
    cases current with
    | none => cases hvalue
    | some current =>
      cases bar with
      | zero => cases hvalue
      | succ bar =>
        simp only [Nat.succ_ne_zero, if_false, Nat.add_sub_cancel] at hvalue
        cases hprevious : (tripleExponential period closes).2.2[bar]? with
        | none => rw [hprevious] at hvalue; cases hvalue
        | some previous =>
          cases previous with
          | none => rw [hprevious] at hvalue; cases hvalue
          | some previous =>
            have hnow := (hthird (bar + 1)).mp ⟨current, hcurrent⟩
            have hbefore := (hthird bar).mp ⟨previous, hprevious⟩
            omega
  · rintro ⟨hbar, hfirst⟩
    obtain ⟨current, hcurrent⟩ := (hthird bar).mpr ⟨hbar, by omega⟩
    obtain ⟨previous, hprevious⟩ := (hthird (bar - 1)).mpr ⟨by omega, by omega⟩
    have hpos := hlevels (bar - 1) previous hprevious
    have hlater : bar ≠ 0 := by omega
    rw [hcurrent]
    simp only [if_neg hlater, hprevious, Option.map_some, if_neg hpos.ne']
    exact ⟨_, rfl⟩

end

variable (candles : List Candle)
variable {period : Nat}

theorem startsAt_awesome (parameters : AwesomeOscillatorParameters) :
    StartsAt (awesomeOscillatorValues parameters candles) candles.length
      (parameters.slowPeriod.value - 1) := by
  have h := (startsAt_sma parameters.fastPeriod.value (candles.map medianPrice)).map₂
    (startsAt_sma parameters.slowPeriod.value (candles.map medianPrice)) (· - ·)
  rw [length_map, max_eq_right (by have := parameters.ordered; omega)] at h
  exact h

variable {line : List Candle → List Decimal}

theorem startsAt_cumulativeSeries (hline : Causal line) :
    StartsAt (cumulativeSeries line candles) candles.length 0 := by
  intro bar
  rw [cumulativeSeries, defined_map_some (fun value => value), hline.length_eq]
  simp

theorem startsAt_cumulativeSignal (hline : Causal line) (period : Nat) :
    StartsAt (cumulativeSignal line period candles) candles.length (period - 1) := by
  have h := startsAt_sma period (line candles)
  rwa [hline.length_eq] at h

theorem startsAt_sincePrevious {α : Type} (answer : α → α → Decimal) (xs : List α) :
    StartsAt (sincePrevious answer xs) xs.length 1 := by
  intro bar
  exact defined_withPrevious_map answer xs bar

theorem startsAt_forceIndex (hperiod : 1 ≤ period) :
    StartsAt (forceIndex period candles) candles.length period := by
  have h := startsAt_seedOptional (emaUpdate period) hperiod (startsAt_sincePrevious
    (fun previous candle : Candle => (candle.close - previous.close) * candle.volume) candles)
  rwa [show 1 + period - 1 = period by omega] at h

/-! ## Ranges, bands and channels -/

theorem startsAt_atr (period : Nat) :
    StartsAt (averageTrueRange period candles) candles.length (period - 1) := by
  refine startsAt_machine (atrStep period) (fun count state => state.trueRanges.length = count)
    (show (AtrState.trueRanges {}).length = 0 from rfl) ?_ ?_ candles
  · intro count state candle hseen
    simp only [atrStep]
    split <;> simp [hseen]
  · intro count state candle hseen
    simp only [atrStep]
    split
    next hshort => simp [hseen] at hshort ⊢; omega
    next hfull => simp [hseen] at hfull ⊢; omega

theorem startsAt_natr (period : Nat) (hpositive : PositivePrices candles) :
    StartsAt (normalizedAverageTrueRange period candles) candles.length (period - 1) := by
  intro bar
  have hrange := startsAt_atr candles period bar
  rw [normalizedAverageTrueRange, defined_zipWith_total (fun _ => rfl)]
  constructor
  · rintro ⟨candle, range, -, hvalue, -⟩
    exact hrange.mp ⟨range, hvalue⟩
  · rintro ⟨hbar, hfirst⟩
    obtain ⟨range, hvalue⟩ := hrange.mpr ⟨hbar, hfirst⟩
    have hclose := (hpositive candles[bar] (getElem_mem hbar)).2.2.2
    exact ⟨candles[bar], range, getElem?_eq_getElem hbar, hvalue, by simp [hclose.ne']⟩

theorem startsAt_bollingerMiddle (parameters : BollingerParameters) (closes : List Decimal) :
    StartsAt (bollingerMiddle parameters closes) closes.length (parameters.period.value - 1) :=
  startsAt_sma _ _

variable (math : DecimalMath)

theorem startsAt_bollingerBand (parameters : BollingerParameters) (multiplier : Decimal)
    (closes : List Decimal) :
    StartsAt (bollingerBand math parameters multiplier closes) closes.length
      (parameters.period.value - 1) := by
  have h := (startsAt_bollingerMiddle parameters closes).map₂
    (startsAt_rolling parameters.period.value (windowDeviation math parameters.period.value) closes)
    (fun middle width => middle + multiplier * width)
  rwa [max_self] at h

/-- The bandwidth divides by an average of positive closes. -/
theorem startsAt_bandwidth (parameters : BollingerParameters) {closes : List Decimal}
    (hpositive : ∀ value ∈ closes, 0 < value) :
    StartsAt (bollingerBandwidthValues math parameters closes) closes.length
      (parameters.period.value - 1) := by
  intro bar
  have hmiddle := startsAt_bollingerMiddle parameters closes bar
  have hupper := startsAt_bollingerBand math parameters parameters.stdevMultiplier.value closes bar
  have hlower := startsAt_bollingerBand math parameters (-parameters.stdevMultiplier.value) closes bar
  have hperiod : 1 ≤ parameters.period.value := by have := parameters.period.lower; omega
  rw [bollingerBandwidthValues, Defined]
  simp only [getElem?_zipWith_eq_some, getElem?_zip_eq_some]
  constructor
  · rintro ⟨value, middle, bands, hmid, -, hvalue⟩
    cases middle with
    | none => cases hvalue
    | some middle => exact hmiddle.mp ⟨middle, hmid⟩
  · intro hbar
    obtain ⟨middle, hmid⟩ := hmiddle.mpr hbar
    obtain ⟨upper, hup⟩ := hupper.mpr hbar
    obtain ⟨lower, hlow⟩ := hlower.mpr hbar
    have hpos : 0 < middle := positive_sma hperiod hpositive bar middle hmid
    exact ⟨(upper - lower) / middle, some middle, (some upper, some lower), hmid, ⟨hup, hlow⟩,
      if_neg hpos.ne'⟩

variable (parameters : KeltnerParameters)

theorem startsAt_keltnerMiddle :
    StartsAt (keltnerMiddle parameters candles) candles.length (parameters.period.value - 1) := by
  have h := startsAt_ema (candles.map (·.close)) parameters.period.value
  rwa [length_map] at h

theorem startsAt_keltnerBand (multiplier : Decimal) :
    StartsAt (keltnerBand parameters multiplier candles) candles.length
      (max parameters.period.value parameters.atrPeriod.value - 1) := by
  have h := (startsAt_keltnerMiddle candles parameters).map₂
    (startsAt_atr candles parameters.atrPeriod.value)
    (fun middle width => middle + multiplier * width)
  rwa [show max (parameters.period.value - 1) (parameters.atrPeriod.value - 1) =
    max parameters.period.value parameters.atrPeriod.value - 1 by omega] at h

theorem startsAt_donchianUpper (hperiod : 1 ≤ period) :
    StartsAt (donchianUpper period candles) candles.length (period - 1) := by
  have h := startsAt_rollingExtreme (candles.map (·.high)) true hperiod
  rwa [length_map] at h

theorem startsAt_donchianLower (hperiod : 1 ≤ period) :
    StartsAt (donchianLower period candles) candles.length (period - 1) := by
  have h := startsAt_rollingExtreme (candles.map (·.low)) false hperiod
  rwa [length_map] at h

theorem midpointSeries_eq (period : Nat) :
    midpointSeries period candles =
      List.zipWith (Option.map₂ (fun high low => (high + low) / 2)) (donchianUpper period candles)
        (donchianLower period candles) := by
  rw [midpointSeries, candleRange, List.zip, map_zipWith]
  rfl

theorem startsAt_midpointSeries (hperiod : 1 ≤ period) :
    StartsAt (midpointSeries period candles) candles.length (period - 1) := by
  have h := (startsAt_donchianUpper candles hperiod).map₂ (startsAt_donchianLower candles hperiod)
    (fun high low => (high + low) / 2)
  rwa [max_self, ← midpointSeries_eq] at h

theorem startsAt_senkouA (parameters : IchimokuParameters) :
    StartsAt (senkouA parameters candles) candles.length (parameters.kijunPeriod.value - 1) := by
  have hordered := parameters.ordered
  have htenkan := parameters.tenkanPeriod.lower
  have h := (startsAt_midpointSeries candles
      (show 1 ≤ parameters.tenkanPeriod.value by omega)).map₂
    (startsAt_midpointSeries candles (show 1 ≤ parameters.kijunPeriod.value by omega))
    (fun conversion base => (conversion + base) / 2)
  rwa [max_eq_right (by omega)] at h

/-- The log return of a bar of positive closes needs only the bar before. -/
theorem startsAt_logReturns (hpositive : PositivePrices candles) :
    StartsAt (withPrevious (logReturn math) candles) candles.length 1 := by
  intro bar
  rw [Defined, getElem?_withPrevious]
  cases bar with
  | zero => cases candles[0]? <;> simp [logReturn]
  | succ bar =>
    by_cases hbar : bar + 1 < candles.length
    · have hprevious := (hpositive candles[bar] (getElem_mem _)).2.2.2
      have hcurrent := (hpositive candles[bar + 1] (getElem_mem _)).2.2.2
      simp [hbar, getElem?_eq_getElem (show bar < candles.length by omega), logReturn,
        not_le.mpr hprevious, not_le.mpr hcurrent]
    · simp [hbar]

theorem startsAt_historicalVolatility (hperiod : 1 ≤ period)
    (annualizationPeriods : Option Nat) (hpositive : PositivePrices candles) :
    StartsAt (historicalVolatilityValues math period annualizationPeriods candles) candles.length
      period := by
  have h := StartsAt.of_over hperiod (defined_windowsDefined hperiod _)
    (startsAt_logReturns candles math hpositive)
  rw [show 1 + period - 1 = period by omega] at h
  exact h.optionMap _

/-! ## Trend systems -/

theorem startsAt_supertrendBands (parameters : SupertrendParameters) :
    StartsAt (supertrendBands parameters candles) candles.length (parameters.period.value - 1) := by
  refine startsAt_machine_zip ?_ _ (startsAt_atr candles _)
  intro state row
  obtain ⟨-, range⟩ := row
  cases range <;> rfl

/-- The first bar only starts the loop; every later bar reports. -/
theorem startsAt_parabolicSar (parameters : ParabolicSarParameters) :
    StartsAt (parabolicSarValues parameters candles) candles.length 1 := by
  refine startsAt_machine (sarStep parameters) (fun count phase => phase = .empty ↔ count = 0)
    (show (SarPhase.empty = .empty ↔ 0 = 0) from by simp) ?_ ?_ candles
  · intro count phase candle _
    cases phase <;> simp [sarStep, reportSar]
  · intro count phase candle hphase
    cases phase with
    | empty => simp [sarStep, hphase.mp rfl]
    | started | running =>
      have hlater : count ≠ 0 := by simpa using hphase
      simp [sarStep, reportSar]
      omega

end Thytrader.Evaluation
