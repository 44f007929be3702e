import Thytrader.Evaluation.Averages

/-!
# Momentum and volume indicators

`evaluation/indicator_math/momentum.py` and `volume.py`. A loop that starts at
`index < period` reads a trailing window of `period + 1` bars, and one that compares
with the bar before is `withPrevious`.

The MACD signal line is the one series whose code does not read bar by bar: it drops the undefined
head of the MACD line, smooths what is left and pads it again. The line, once defined, stays defined
(`DefinedSuffix`).
-/

namespace Thytrader.Evaluation

open Lib MarketData Strategies List Causal

/-! ## MACD -/

/-- `_macd_series`, the line. -/
def macdLine (parameters : MacdParameters) (closes : List Decimal) : Series :=
  List.zipWith (Option.map₂ (· - ·))
    (exponentialMovingAverage parameters.fastPeriod.value closes)
    (exponentialMovingAverage parameters.slowPeriod.value closes)

/-- `_macd_signal_ema`: smooth the defined suffix of the line. -/
def macdSignalEma (period : Nat) (line : Series) : Series :=
  let defined := line.filterMap id
  List.replicate (line.length - defined.length) none ++ exponentialMovingAverage period defined

/-- `_macd_series`, the signal. -/
def macdSignal (parameters : MacdParameters) (closes : List Decimal) : Series :=
  macdSignalEma parameters.signalPeriod.value (macdLine parameters closes)

/-- `_macd_series`, the histogram. -/
def macdHistogram (parameters : MacdParameters) (closes : List Decimal) : Series :=
  difference (macdLine parameters closes) (macdSignal parameters closes)

def DefinedSuffix : Series → Prop
  | [] => True
  | none :: rest => DefinedSuffix rest
  | some _ :: rest => ∀ value ∈ rest, value.isSome

section

variable {values : Series} (h : ∀ value ∈ values, value.isSome)
include h

theorem definedSuffix_of_isSome :
    DefinedSuffix values := by
  cases values with
  | nil => trivial
  | cons value =>
    cases value with
    | none => exact absurd (h none (by simp)) (by simp)
    | some => exact fun other hother => h other (by simp [hother])

theorem exists_map_some_of_isSome :
    ∃ defined : List Decimal, values = defined.map some := by
  induction values with
  | nil => exact ⟨[], rfl⟩
  | cons value _ ih =>
    obtain ⟨value, rfl⟩ := Option.isSome_iff_exists.mp (h value (by simp))
    obtain ⟨defined, rfl⟩ := ih (fun other hother => h other (by simp [hother]))
    exact ⟨value :: defined, rfl⟩

end

/-- A defined suffix is a run of undefined bars, then defined ones. -/
theorem definedSuffix_split {values : Series} (h : DefinedSuffix values) :
    ∃ (head : Nat) (defined : List Decimal),
      values = List.replicate head none ++ defined.map some := by
  induction values with
  | nil => exact ⟨0, [], rfl⟩
  | cons value _ ih =>
    cases value with
    | none =>
      obtain ⟨head, defined, hrest⟩ := ih h
      exact ⟨head + 1, defined, by rw [hrest, replicate_succ, cons_append]⟩
    | some value =>
      -- from the first defined bar on, every bar is defined
      obtain ⟨defined, rfl⟩ := exists_map_some_of_isSome h
      exact ⟨0, value :: defined, rfl⟩

section

variable (update : Decimal → Decimal → Decimal) (period : Nat) (values rest : List Decimal)
  (index : Nat) (previous : Option Decimal)

/-- Once a seeded loop has a level, every later bar is defined. -/
theorem seededLoop_isSome (h : period ≤ index + 1) :
    ∀ value ∈ seededLoop update period values index previous rest, value.isSome := by
  induction rest generalizing index previous with
  | nil => simp [seededLoop]
  | cons _ _ ih =>
    unfold seededLoop
    rw [if_neg (by omega)]
    intro other hother
    rcases mem_cons.mp hother with rfl | hother
    · rfl
    · exact ih (index + 1) _ (by omega) other hother

theorem definedSuffix_seededLoop :
    DefinedSuffix (seededLoop update period values index previous rest) := by
  induction rest generalizing index previous with
  | nil => trivial
  | cons value rest ih =>
    by_cases hfull : index + 1 < period
    · unfold seededLoop
      rw [if_pos hfull]
      exact ih (index + 1) previous
    · exact definedSuffix_of_isSome
        (seededLoop_isSome update period values (value :: rest) index previous (by omega))

end

theorem definedSuffix_zipWith (op : Decimal → Decimal → Decimal) {left right : Series}
    (hleft : DefinedSuffix left) (hright : DefinedSuffix right) :
    DefinedSuffix (List.zipWith (Option.map₂ op) left right) := by
  induction left generalizing right with
  | nil => trivial
  | cons first _ ih =>
    cases right with
    | nil => cases first <;> trivial
    | cons second =>
      cases first with
      | none =>
        refine ih hleft ?_
        cases second with
        | none => exact hright
        | some => exact definedSuffix_of_isSome hright
      | some =>
        cases second with
        | none => exact ih (definedSuffix_of_isSome hleft) hright
        | some =>
          obtain ⟨lefts, rfl⟩ := exists_map_some_of_isSome hleft
          obtain ⟨rights, rfl⟩ := exists_map_some_of_isSome hright
          have hzip : List.zipWith (Option.map₂ op) (lefts.map some) (rights.map some) =
              (List.zipWith op lefts rights).map some := by
            rw [zipWith_map, map_zipWith]
            rfl
          intro value hvalue
          obtain ⟨result, -, rfl⟩ := mem_map.mp (hzip ▸ hvalue)
          rfl

variable (period : Nat)

/-- Smoothing the defined suffix of a prefix is the prefix of smoothing it. -/
theorem macdSignalEma_take {line : Series} (h : DefinedSuffix line) (n : Nat) :
    macdSignalEma period (line.take n) = (macdSignalEma period line).take n := by
  obtain ⟨head, defined, rfl⟩ := definedSuffix_split h
  -- both sides are a run of undefined bars, then the average of the defined ones
  have hsplit (head : Nat) (defined : List Decimal) :
      macdSignalEma period (List.replicate head none ++ defined.map some) =
        List.replicate head none ++ exponentialMovingAverage period defined := by
    have hdefined : (List.replicate head none ++ defined.map some).filterMap id = defined := by
      simp [filterMap_append, filterMap_map]
    simp only [macdSignalEma, hdefined]
    simp
  rw [take_append, take_replicate, length_replicate, ← map_take, hsplit, hsplit,
    take_append, take_replicate, length_replicate,
    (causal_ema period).take_eq]

variable (parameters : MacdParameters)

theorem causal_macdLine : Causal (macdLine parameters) :=
  (causal_ema _).zipWith _ (causal_ema _)

theorem causal_macdSignal : Causal (macdSignal parameters) := by
  have hline := causal_macdLine parameters
  have hsuffix (closes : List Decimal) : DefinedSuffix (macdLine parameters closes) :=
    definedSuffix_zipWith _ (definedSuffix_seededLoop _ _ _ _ _ _)
      (definedSuffix_seededLoop _ _ _ _ _ _)
  constructor
  · intro closes
    obtain ⟨head, defined, hsplit⟩ := definedSuffix_split (hsuffix closes)
    have hlength := hline.length_eq closes
    have hdefined : (macdLine parameters closes).filterMap id = defined := by
      rw [hsplit]
      simp [filterMap_append, filterMap_map]
    rw [hsplit, length_append, length_replicate, length_map] at hlength
    simp only [macdSignal, macdSignalEma, hdefined, length_append, length_replicate,
      (causal_ema _).length_eq, hline.length_eq]
    omega
  · intro closes n
    simp only [macdSignal, hline.take_eq, macdSignalEma_take _ (hsuffix closes)]

theorem causal_macdHistogram : Causal (macdHistogram parameters) :=
  (causal_macdLine parameters).zipWith _ (causal_macdSignal parameters)

/-- `_ppo_series`, the line. -/
def ppoLine (parameters : MacdParameters) (closes : List Decimal) : Series :=
  List.zipWith (fun fast slow =>
    match fast, slow with
    | some fast, some slow => if slow = 0 then none else some (100 * (fast - slow) / slow)
    | _, _ => none)
    (exponentialMovingAverage parameters.fastPeriod.value closes)
    (exponentialMovingAverage parameters.slowPeriod.value closes)

/-- `_ppo_series`, the signal. -/
def ppoSignal (parameters : MacdParameters) (closes : List Decimal) : Series :=
  exponentialMovingAverageOptional parameters.signalPeriod.value (ppoLine parameters closes)

/-- `_ppo_series`, the histogram. -/
def ppoHistogram (parameters : MacdParameters) (closes : List Decimal) : Series :=
  difference (ppoLine parameters closes) (ppoSignal parameters closes)

section

variable (parameters : MacdParameters)

theorem causal_ppoLine : Causal (ppoLine parameters) :=
  (causal_ema _).zipWith _ (causal_ema _)

theorem causal_ppoSignal : Causal (ppoSignal parameters) :=
  (causal_emaOptional _).comp (causal_ppoLine parameters)

theorem causal_ppoHistogram : Causal (ppoHistogram parameters) :=
  (causal_ppoLine parameters).zipWith _ (causal_ppoSignal parameters)

end

/-! ## Range oscillators -/

/-- The highest high and the lowest low of each inclusive window. -/
def candleRange (period : Nat) (candles : List Candle) : List (Option Decimal × Option Decimal) :=
  (rollingExtreme true period (candles.map (·.high))).zip
    (rollingExtreme false period (candles.map (·.low)))

theorem causal_candleRange : Causal (candleRange period) :=
  ((causal_rollingExtreme true period).comp (map _)).zip
    ((causal_rollingExtreme false period).comp (map _))

/-- A value read against the range of its window, undefined on a flat one. -/
def againstRange (answer : Candle → Decimal → Decimal → Decimal) (candle : Candle)
    (range : Option Decimal × Option Decimal) : Option Decimal :=
  match range with
  | (some high, some low) => if high - low = 0 then none else some (answer candle high low)
  | _ => none

/-- `_stochastic_series`, %K. -/
def stochasticK (parameters : StochasticParameters) (candles : List Candle) : Series :=
  List.zipWith (againstRange (fun candle high low => 100 * (candle.close - low) / (high - low)))
    candles (candleRange parameters.kPeriod.value candles)

/-- `_stochastic_series`, %D. -/
def stochasticD (parameters : StochasticParameters) (candles : List Candle) : Series :=
  simpleMovingAverageDefined parameters.dPeriod.value (stochasticK parameters candles)

def williamsPercentR (period : Nat) (candles : List Candle) : Series :=
  List.zipWith (againstRange (fun candle high low => (high - candle.close) / (high - low) * -100))
    candles (candleRange period candles)

theorem causal_stochasticK (parameters : StochasticParameters) : Causal (stochasticK parameters) :=
  id.zipWith _ (causal_candleRange _)

theorem causal_williamsR : Causal (williamsPercentR period) :=
  id.zipWith _ (causal_candleRange period)

/-! ## Relative strength -/

/-- What the RSI loop carries: the previous value, the changes so far, the averages. -/
structure RsiState where
  previous : Option Decimal := none
  gains : List Decimal := []
  losses : List Decimal := []
  averages : Option (Decimal × Decimal) := none

/-- The index of two Wilder averages: 50 on no change at all, 100 on no loss. -/
def rsiLevel (averageGain averageLoss : Decimal) : Decimal :=
  if averageGain = 0 ∧ averageLoss = 0 then 50
  else if averageLoss = 0 then 100
  else 100 * averageGain / (averageGain + averageLoss)

/-- One bar of the RSI loop. -/
def rsiStep (period : Nat) (state : RsiState) (value : Decimal) : RsiState × Option Decimal :=
  match state.previous with
  | none => ({ state with previous := some value }, none)
  | some previous =>
    let change := value - previous
    let gain := max change 0
    let loss := max (-change) 0
    let gains := state.gains ++ [gain]
    let losses := state.losses ++ [loss]
    -- `index` counts the changes seen, this one included
    if gains.length < period then (⟨some value, gains, losses, state.averages⟩, none)
    else
      let averages := match state.averages with
        | none => ((gains.take period).sum / period, (losses.take period).sum / period)
        | some (averageGain, averageLoss) =>
          (wilderUpdate period averageGain gain, wilderUpdate period averageLoss loss)
      (⟨some value, gains, losses, some averages⟩, some (rsiLevel averages.1 averages.2))

def relativeStrengthIndex (period : Nat) : List Decimal → Series := machine (rsiStep period) {}

theorem causal_rsi : Causal (relativeStrengthIndex period) :=
  causal_machine _ _

def flatRsiRange : Decimal := 1 / 10 ^ 30

/-- The unsmoothed line of `_stochastic_rsi_series`. -/
def stochasticRsiRaw (parameters : StochasticRsiParameters) (closes : List Decimal) : Series :=
  let rsi := relativeStrengthIndex parameters.rsiPeriod.value closes
  let period := parameters.stochPeriod.value
  List.zipWith (fun value range =>
    match value, range with
    | some value, (some high, some low) =>
      if high - low ≤ flatRsiRange then none else some (100 * (value - low) / (high - low))
    | _, _ => none)
    rsi ((rollingExtremeOptional true period rsi).zip (rollingExtremeOptional false period rsi))

/-- `_stochastic_rsi_series`, %K. -/
def stochasticRsiK (parameters : StochasticRsiParameters) (closes : List Decimal) : Series :=
  simpleMovingAverageDefined parameters.kPeriod.value (stochasticRsiRaw parameters closes)

/-- `_stochastic_rsi_series`, %D. -/
def stochasticRsiD (parameters : StochasticRsiParameters) (closes : List Decimal) : Series :=
  simpleMovingAverageDefined parameters.dPeriod.value (stochasticRsiK parameters closes)

section

variable (parameters : StochasticRsiParameters)

theorem causal_stochasticRsiRaw : Causal (stochasticRsiRaw parameters) :=
  (causal_rsi _).zipWith _
    (((causal_extremeOptional true _).comp (causal_rsi _)).zip
      ((causal_extremeOptional false _).comp (causal_rsi _)))

theorem causal_stochasticRsiK : Causal (stochasticRsiK parameters) :=
  (causal_smaDefined _).comp (causal_stochasticRsiRaw parameters)

theorem causal_stochasticRsiD : Causal (stochasticRsiD parameters) :=
  (causal_smaDefined _).comp (causal_stochasticRsiK parameters)

end

/-! ## Changes over a lookback -/

def rateOfChange (period : Nat) : List Decimal → Series :=
  rolling (period + 1) (fun window =>
    let past := window.headD 0
    if past = 0 then none else some (100 * (window.getLastD 0 - past) / past))

def momentum (period : Nat) : List Decimal → Series :=
  rolling (period + 1) (fun window => some (window.getLastD 0 - window.headD 0))

def chandeMomentumOscillator (period : Nat) : List Decimal → Series :=
  rolling (period + 1) (fun window =>
    let changes := (pairwise window).map (fun pair => pair.2 - pair.1)
    let gains := (changes.filter (0 < ·)).sum
    let losses := -(changes.filter (· < 0)).sum
    let total := gains + losses
    if total = 0 then none else some (100 * (gains - losses) / total))

def tripleExponentialRate (period : Nat) (values : List Decimal) : Series :=
  withPrevious (fun previous current =>
    match current, previous with
    | some current, some (some previous) =>
      if previous = 0 then none else some (100 * (current - previous) / previous)
    | _, _ => none)
    (tripleExponential period values).2.2

theorem causal_trix : Causal (tripleExponentialRate period) :=
  (causal_withPrevious _).comp (causal_thirdExponential period)

/-- A quantity of each bar and the bar before it, undefined on the first bar. -/
def sincePrevious {α : Type} (answer : α → α → Decimal) : List α → Series :=
  withPrevious (fun previous current => previous.map (fun previous => answer previous current))

theorem causal_sincePrevious {α : Type} (answer : α → α → Decimal) :
    Causal (sincePrevious answer) := causal_withPrevious _

/-- Two chained averages with holes, as the true strength index smooths its changes. -/
def doubleSmooth (parameters : TsiParameters) (values : Series) : Series :=
  exponentialMovingAverageOptional parameters.shortPeriod.value
    (exponentialMovingAverageOptional parameters.longPeriod.value values)

/-- `_true_strength_series`, the line. -/
def trueStrengthLine (parameters : TsiParameters) (closes : List Decimal) : Series :=
  List.zipWith (fun top bottom =>
    match top, bottom with
    | some top, some bottom => if bottom = 0 then none else some (100 * top / bottom)
    | _, _ => none)
    (doubleSmooth parameters (sincePrevious (fun previous current => current - previous) closes))
    (doubleSmooth parameters (sincePrevious (fun previous current => |current - previous|) closes))

/-- `_true_strength_series`, the signal. -/
def trueStrengthSignal (parameters : TsiParameters) (closes : List Decimal) : Series :=
  exponentialMovingAverageOptional parameters.signalPeriod.value (trueStrengthLine parameters closes)

variable (parameters : TsiParameters)

theorem causal_doubleSmooth : Causal (doubleSmooth parameters) :=
  (causal_emaOptional _).comp (causal_emaOptional _)

theorem causal_trueStrengthLine : Causal (trueStrengthLine parameters) :=
  ((causal_doubleSmooth parameters).comp (causal_sincePrevious _)).zipWith _
    ((causal_doubleSmooth parameters).comp (causal_sincePrevious _))

theorem causal_trueStrengthSignal : Causal (trueStrengthSignal parameters) :=
  (causal_emaOptional _).comp (causal_trueStrengthLine parameters)

/-! ## Typical and median price -/

/-- `(high + low + close) / 3`. -/
def typicalPrice (candle : Candle) : Decimal := (candle.high + candle.low + candle.close) / 3

/-- `(high + low) / 2`. -/
def medianPrice (candle : Candle) : Decimal := (candle.high + candle.low) / 2

def commodityChannelIndex (period : Nat) (candles : List Candle) : Series :=
  rolling period (fun (window : List Decimal) =>
    let mean := window.sum / period
    let mad := (window.map (fun value => |value - mean|)).sum / period
    if mad = 0 then none else some ((window.getLastD 0 - mean) / (15 / 1000 * mad)))
    (candles.map typicalPrice)

def awesomeOscillatorValues (parameters : AwesomeOscillatorParameters) (candles : List Candle) :
    Series :=
  difference (simpleMovingAverage parameters.fastPeriod.value (candles.map medianPrice))
    (simpleMovingAverage parameters.slowPeriod.value (candles.map medianPrice))

theorem causal_awesome (parameters : AwesomeOscillatorParameters) :
    Causal (awesomeOscillatorValues parameters) :=
  ((causal_sma _).comp (map _)).zipWith _
    ((causal_sma _).comp (map _))

def pressureAndRange (previous : Option Candle) (candle : Candle) : Decimal × Decimal :=
  match previous with
  | none => (0, 0)
  | some previous =>
    let trueLow := min candle.low previous.close
    (candle.close - trueLow, max candle.high previous.close - trueLow)

/-- `_pressure_average`: the last `period` rows of a window. -/
def pressureAverage (period : Nat) (window : List (Decimal × Decimal)) : Option Decimal :=
  let rows := window.drop (window.length - period)
  let rangeSum := (rows.map Prod.snd).sum
  if rangeSum = 0 then none else some ((rows.map Prod.fst).sum / rangeSum)

def ultimateOscillatorValues (parameters : UltimateOscillatorParameters) (candles : List Candle) :
    Series :=
  rolling (parameters.longPeriod.value + 1) (fun window =>
    match pressureAverage parameters.shortPeriod.value window,
      pressureAverage parameters.mediumPeriod.value window,
      pressureAverage parameters.longPeriod.value window with
    | some short, some medium, some long => some (100 * (4 * short + 2 * medium + long) / 7)
    | _, _, _ => none)
    (withPrevious pressureAndRange candles)

/-! ## Volume -/

def moneyFlowIndex (period : Nat) : List Candle → Series :=
  rolling (period + 1) (fun window =>
    let flow (rising : Candle × Candle → Bool) :=
      (((pairwise window).filter rising).map (fun pair => typicalPrice pair.2 * pair.2.volume)).sum
    let positive := flow (fun pair => typicalPrice pair.1 < typicalPrice pair.2)
    let negative := flow (fun pair => typicalPrice pair.2 < typicalPrice pair.1)
    let total := positive + negative
    if total = 0 then none else some (100 * positive / total))

def moneyFlowMultiplier (candle : Candle) : Decimal :=
  let span := candle.high - candle.low
  if span = 0 then 0 else ((candle.close - candle.low) - (candle.high - candle.close)) / span

def volumeWeighted (quantity : Candle → Decimal) (period : Nat) : List Candle → Series :=
  rolling period (fun window =>
    let volume := (window.map (·.volume)).sum
    if volume = 0 then none
    else some ((window.map (fun candle => quantity candle * candle.volume)).sum / volume))

def volumeWeightedMovingAverage : Nat → List Candle → Series := volumeWeighted (·.close)

def chaikinMoneyFlow : Nat → List Candle → Series := volumeWeighted moneyFlowMultiplier

def rollingVolumeWeightedAveragePrice : Nat → List Candle → Series := volumeWeighted typicalPrice

theorem causal_volumeWeighted (quantity : Candle → Decimal) (period : Nat) :
    Causal (volumeWeighted quantity period) := causal_rolling _ _

def onBalanceStep (state : Decimal × Option Decimal) (candle : Candle) :
    (Decimal × Option Decimal) × Decimal :=
  let running := match state.2 with
    | none => state.1
    | some previousClose =>
      if previousClose < candle.close then state.1 + candle.volume
      else if candle.close < previousClose then state.1 - candle.volume
      else state.1
  ((running, some candle.close), running)

/-- The cumulative line of `_on_balance_volume_series`. -/
def onBalanceLine : List Candle → List Decimal := machine onBalanceStep (0, none)

/-- The cumulative line of `_accumulation_distribution_series`. -/
def accumulationLine : List Candle → List Decimal :=
  machine (fun running candle =>
    let next := running + moneyFlowMultiplier candle * candle.volume
    (next, next)) 0

def cumulativeSeries (line : List Candle → List Decimal) (candles : List Candle) : Series :=
  (line candles).map some

def cumulativeSignal (line : List Candle → List Decimal) (period : Nat) (candles : List Candle) :
    Series :=
  simpleMovingAverage period (line candles)

theorem causal_onBalanceLine : Causal onBalanceLine := causal_machine _ _

theorem causal_accumulationLine : Causal accumulationLine := causal_machine _ _

variable {line : List Candle → List Decimal}

theorem causal_cumulativeSeries (h : Causal line) :
    Causal (cumulativeSeries line) := (Causal.map _).comp h

theorem causal_cumulativeSignal (h : Causal line) (period : Nat) :
    Causal (cumulativeSignal line period) :=
  (causal_sma period).comp h

def forceIndex (period : Nat) (candles : List Candle) : Series :=
  exponentialMovingAverageOptional period
    (sincePrevious (fun previous candle => (candle.close - previous.close) * candle.volume) candles)

theorem causal_forceIndex : Causal (forceIndex period) :=
  (causal_emaOptional period).comp (causal_sincePrevious _)

end Thytrader.Evaluation
