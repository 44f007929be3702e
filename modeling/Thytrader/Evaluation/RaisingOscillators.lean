import Thytrader.Evaluation.IndicatorWarmup
import Thytrader.Evaluation.RaisingAverages

/-!
# Momentum, volume and trend series over raising division

The rest of `evaluation/indicator_math/` with the division that raises. The quotients of
these series stand behind a comparison with zero, except in three places: the index of
relative strength divides by the sum of two averages that are not negative, a deviation by
one less than its window, and the choppiness index by the logarithm of its period.
-/

namespace Thytrader.Evaluation.Raising

open Lib MarketData Strategies List

/-! ## Momentum -/

section

def macdLine (parameters : MacdParameters) (closes : List Decimal) : Result Series := do
  let fast ← exponentialMovingAverage parameters.fastPeriod.value closes
  let slow ← exponentialMovingAverage parameters.slowPeriod.value closes
  return zipWith (Option.map₂ (· - ·)) fast slow

variable (parameters : MacdParameters) (closes : List Decimal)

theorem macdLine_eq : macdLine parameters closes = .ok (Evaluation.macdLine parameters closes) := by
  rw [macdLine, ema_eq parameters.fastPeriod.one_le, ok_bind,
    ema_eq parameters.slowPeriod.one_le]
  rfl

def macdSignal (parameters : MacdParameters) (closes : List Decimal) : Result Series := do
  let line ← macdLine parameters closes
  let defined := line.filterMap id
  let smoothed ← exponentialMovingAverage parameters.signalPeriod.value defined
  return replicate (line.length - defined.length) none ++ smoothed

theorem macdSignal_eq :
    macdSignal parameters closes = .ok (Evaluation.macdSignal parameters closes) := by
  simp only [macdSignal, macdLine_eq, ok_bind,
    ema_eq parameters.signalPeriod.one_le]
  rfl

def macdHistogram (parameters : MacdParameters) (closes : List Decimal) : Result Series := do
  return difference (← macdLine parameters closes) (← macdSignal parameters closes)

theorem macdHistogram_eq :
    macdHistogram parameters closes = .ok (Evaluation.macdHistogram parameters closes) := by
  rw [macdHistogram, macdLine_eq, ok_bind, macdSignal_eq]
  rfl

/-- A quotient of two series, undefined where either is or on a zero divisor. -/
def ratioSeries (answer : Decimal → Decimal → Decimal) (divisor : Decimal → Decimal → Decimal)
    (left right : Series) : Result Series :=
  combineM (fun left right =>
    match left, right with
    | some left, some right => divideUnlessZero (answer left right) (divisor left right)
    | _, _ => .ok none) left right

theorem ratioSeries_eq (answer divisor : Decimal → Decimal → Decimal) (left right : Series) :
    ratioSeries answer divisor left right = .ok (zipWith (fun left right =>
      match left, right with
      | some left, some right =>
        if divisor left right = 0 then none else some (answer left right / divisor left right)
      | _, _ => none) left right) := by
  refine combineM_eq ?_
  intro left _ right _
  cases left with
  | none => rfl
  | some =>
    cases right with
    | none => rfl
    | some => exact divideUnlessZero_eq _ _

def ppoLine (parameters : MacdParameters) (closes : List Decimal) : Result Series := do
  let fast ← exponentialMovingAverage parameters.fastPeriod.value closes
  let slow ← exponentialMovingAverage parameters.slowPeriod.value closes
  ratioSeries (fun fast slow => 100 * (fast - slow)) (fun _ slow => slow) fast slow

theorem ppoLine_eq : ppoLine parameters closes = .ok (Evaluation.ppoLine parameters closes) := by
  rw [ppoLine, ema_eq parameters.fastPeriod.one_le, ok_bind,
    ema_eq parameters.slowPeriod.one_le, ok_bind, ratioSeries_eq]
  rfl

def ppoSignal (parameters : MacdParameters) (closes : List Decimal) : Result Series := do
  exponentialMovingAverageOptional parameters.signalPeriod.value (← ppoLine parameters closes)

theorem ppoSignal_eq :
    ppoSignal parameters closes = .ok (Evaluation.ppoSignal parameters closes) := by
  rw [ppoSignal, ppoLine_eq, ok_bind,
    emaOptional_eq parameters.signalPeriod.one_le]
  rfl

def ppoHistogram (parameters : MacdParameters) (closes : List Decimal) : Result Series := do
  return difference (← ppoLine parameters closes) (← ppoSignal parameters closes)

theorem ppoHistogram_eq :
    ppoHistogram parameters closes = .ok (Evaluation.ppoHistogram parameters closes) := by
  rw [ppoHistogram, ppoLine_eq, ok_bind, ppoSignal_eq]
  rfl

/-- `againstRange` with an answer that may raise, run only on a range that is not flat. -/
def againstRange (answer : Candle → Decimal → Decimal → Result Decimal) (candle : Candle)
    (range : Option Decimal × Option Decimal) : Result (Option Decimal) :=
  match range with
  | (some high, some low) =>
    if high - low = 0 then .ok none else return some (← answer candle high low)
  | _ => .ok none

theorem againstRange_eq {answerM : Candle → Decimal → Decimal → Result Decimal}
    {answer : Candle → Decimal → Decimal → Decimal}
    (h : ∀ candle high low, high - low ≠ 0 → answerM candle high low = .ok (answer candle high low))
    (candle : Candle) (range : Option Decimal × Option Decimal) :
    againstRange answerM candle range = .ok (Evaluation.againstRange answer candle range) := by
  obtain ⟨high, low⟩ := range
  cases high with
  | none => rfl
  | some high =>
    cases low with
    | none => rfl
    | some low =>
      simp only [againstRange, Evaluation.againstRange]
      split
      · rfl
      next hspan =>
        rw [h candle high low hspan]
        rfl

def stochasticK (parameters : StochasticParameters) (candles : List Candle) : Result Series :=
  combineM (againstRange (fun candle high low => divide (100 * (candle.close - low)) (high - low)))
    candles (candleRange parameters.kPeriod.value candles)

theorem stochasticK_eq (parameters : StochasticParameters) (candles : List Candle) :
    stochasticK parameters candles = .ok (Evaluation.stochasticK parameters candles) :=
  combineM_eq (fun candle _ range _ =>
    againstRange_eq (fun _ _ _ hspan => divide_of_ne hspan) candle range)

def stochasticD (parameters : StochasticParameters) (candles : List Candle) : Result Series := do
  simpleMovingAverageDefined parameters.dPeriod.value (← stochasticK parameters candles)

theorem stochasticD_eq (parameters : StochasticParameters) (candles : List Candle) :
    stochasticD parameters candles = .ok (Evaluation.stochasticD parameters candles) := by
  rw [stochasticD, stochasticK_eq, ok_bind, smaDefined_eq parameters.dPeriod.one_le]
  rfl

def williamsPercentR (period : Nat) (candles : List Candle) : Result Series :=
  combineM (againstRange (fun candle high low => do
    return (← divide (high - candle.close) (high - low)) * -100))
    candles (candleRange period candles)

theorem williamsR_eq (period : Nat) (candles : List Candle) :
    williamsPercentR period candles = .ok (Evaluation.williamsPercentR period candles) := by
  refine combineM_eq (fun candle _ range _ => againstRange_eq ?_ candle range)
  intro candle high low hspan
  rw [divide_of_ne hspan]
  rfl

/-! ## Relative strength -/

def rsiLevel (averageGain averageLoss : Decimal) : Result Decimal :=
  if averageGain = 0 ∧ averageLoss = 0 then .ok 50
  else if averageLoss = 0 then .ok 100
  else divide (100 * averageGain) (averageGain + averageLoss)

theorem rsiLevel_eq {averageGain averageLoss : Decimal} (hgain : 0 ≤ averageGain)
    (hloss : 0 ≤ averageLoss) :
    rsiLevel averageGain averageLoss = .ok (Evaluation.rsiLevel averageGain averageLoss) := by
  unfold rsiLevel Evaluation.rsiLevel
  split
  · rfl
  · split
    · rfl
    next hne =>
      have hpos : 0 < averageLoss := lt_of_le_of_ne hloss (Ne.symm hne)
      exact divide_of_ne (by linarith)

/-- The averages of a bar that reports an index. -/
def rsiAverages (period : Nat) (averages : Option (Decimal × Decimal)) (gains losses : List Decimal)
    (gain loss : Decimal) : Result (Decimal × Decimal) :=
  match averages with
  | none => do
    return (← divide (gains.take period).sum period, ← divide (losses.take period).sum period)
  | some (averageGain, averageLoss) => do
    return (← wilderUpdate period averageGain gain, ← wilderUpdate period averageLoss loss)

def rsiStep (period : Nat) (state : RsiState) (value : Decimal) :
    Result (RsiState × Option Decimal) :=
  match state.previous with
  | none => .ok ({ state with previous := some value }, none)
  | some previous =>
    let change := value - previous
    let gain := max change 0
    let loss := max (-change) 0
    let gains := state.gains ++ [gain]
    let losses := state.losses ++ [loss]
    if gains.length < period then .ok (⟨some value, gains, losses, state.averages⟩, none)
    else do
      let averages ← rsiAverages period state.averages gains losses gain loss
      let level ← rsiLevel averages.1 averages.2
      return (⟨some value, gains, losses, some averages⟩, some level)

/-- No change or average the loop carries is negative. -/
structure RsiNonneg (state : RsiState) : Prop where
  gains : ∀ gain ∈ state.gains, 0 ≤ gain
  losses : ∀ loss ∈ state.losses, 0 ≤ loss
  averages : ∀ averages ∈ state.averages, 0 ≤ averages.1 ∧ 0 ≤ averages.2

theorem mean_nonneg {values : List Decimal} (h : ∀ value ∈ values, 0 ≤ value) (period : Nat) :
    0 ≤ (values.take period).sum / period := by
  have hsum : 0 ≤ (values.take period).sum :=
    sum_nonneg (fun value hvalue => h value (mem_of_mem_take hvalue))
  positivity

theorem wilderUpdate_nonneg (period : Nat) {previous value : Decimal} (hprevious : 0 ≤ previous)
    (hvalue : 0 ≤ value) : 0 ≤ Evaluation.wilderUpdate period previous value := by
  unfold Evaluation.wilderUpdate
  positivity

variable {period : Nat}

theorem rsiStep_eq (hperiod : 1 ≤ period) {state : RsiState} (h : RsiNonneg state)
    (value : Decimal) :
    rsiStep period state value = .ok (Evaluation.rsiStep period state value) ∧
      RsiNonneg (Evaluation.rsiStep period state value).1 := by
  obtain ⟨previous, gains, losses, averages⟩ := state
  cases previous with
  | none => exact ⟨rfl, h.gains, h.losses, h.averages⟩
  | some previous =>
    have hadded {moves : List Decimal} (hmoves : ∀ move ∈ moves, 0 ≤ move) (last : Decimal) :
        ∀ move ∈ moves ++ [max last 0], 0 ≤ move :=
      forall_mem_append.mpr ⟨hmoves, forall_mem_singleton.mpr (le_max_right _ _)⟩
    have hgains := hadded h.gains (value - previous)
    have hlosses := hadded h.losses (-(value - previous))
    simp only [rsiStep, Evaluation.rsiStep]
    split
    · exact ⟨rfl, hgains, hlosses, h.averages⟩
    · cases averages with
      | none =>
        have hgain := mean_nonneg hgains period
        have hloss := mean_nonneg hlosses period
        simp only [rsiAverages, divide_natCast hperiod, ok_bind]
        refine ⟨?_, hgains, hlosses, ?_⟩
        · rw [show (pure _ : Result (Decimal × Decimal)) = .ok _ from rfl, ok_bind,
            rsiLevel_eq hgain hloss]
          rfl
        · intro averages haverages
          exact Option.some.inj haverages ▸ ⟨hgain, hloss⟩
      | some averages =>
        obtain ⟨averageGain, averageLoss⟩ := averages
        obtain ⟨hpriorGain, hpriorLoss⟩ := h.averages (averageGain, averageLoss) rfl
        have hgain := wilderUpdate_nonneg period hpriorGain (le_max_right (value - previous) 0)
        have hloss := wilderUpdate_nonneg period hpriorLoss (le_max_right (-(value - previous)) 0)
        simp only [rsiAverages, wilderUpdate_eq hperiod, ok_bind]
        refine ⟨?_, hgains, hlosses, ?_⟩
        · rw [show (pure _ : Result (Decimal × Decimal)) = .ok _ from rfl, ok_bind,
            rsiLevel_eq hgain hloss]
          rfl
        · intro averages haverages
          exact Option.some.inj haverages ▸ ⟨hgain, hloss⟩

def relativeStrengthIndex (period : Nat) : List Decimal → Result Series :=
  machineM (rsiStep period) {}

theorem rsi_eq (hperiod : 1 ≤ period) (values : List Decimal) :
    relativeStrengthIndex period values = .ok (Evaluation.relativeStrengthIndex period values) := by
  refine machineM_eq RsiNonneg ⟨by simp, by simp, by simp⟩ ?_
  intro state value hstate _
  exact rsiStep_eq hperiod hstate value

def stochasticRsiRaw (parameters : StochasticRsiParameters) (closes : List Decimal) :
    Result Series := do
  let rsi ← relativeStrengthIndex parameters.rsiPeriod.value closes
  let period := parameters.stochPeriod.value
  combineM (fun value range =>
    match value, range with
    | some value, (some high, some low) =>
      if high - low ≤ flatRsiRange then .ok none
      else return some (← divide (100 * (value - low)) (high - low))
    | _, _ => .ok none)
    rsi ((rollingExtremeOptional true period rsi).zip (rollingExtremeOptional false period rsi))

section

variable (parameters : StochasticRsiParameters) (closes : List Decimal)

theorem stochasticRsiRaw_eq :
    stochasticRsiRaw parameters closes = .ok (Evaluation.stochasticRsiRaw parameters closes) := by
  rw [stochasticRsiRaw, rsi_eq parameters.rsiPeriod.one_le, ok_bind]
  refine combineM_eq ?_
  intro value _ range _
  obtain ⟨high, low⟩ := range
  rcases value with _ | value
  · rfl
  rcases high with _ | high
  · rfl
  rcases low with _ | low
  · rfl
  simp only
  split
  · rfl
  next hrange =>
    have hpositive : 0 < flatRsiRange := by norm_num [flatRsiRange]
    have hne : high - low ≠ 0 := by linarith
    rw [divide_of_ne hne]
    rfl

def stochasticRsiK (parameters : StochasticRsiParameters) (closes : List Decimal) :
    Result Series := do
  simpleMovingAverageDefined parameters.kPeriod.value (← stochasticRsiRaw parameters closes)

theorem stochasticRsiK_eq :
    stochasticRsiK parameters closes = .ok (Evaluation.stochasticRsiK parameters closes) := by
  rw [stochasticRsiK, stochasticRsiRaw_eq, ok_bind,
    smaDefined_eq parameters.kPeriod.lower]
  rfl

def stochasticRsiD (parameters : StochasticRsiParameters) (closes : List Decimal) :
    Result Series := do
  simpleMovingAverageDefined parameters.dPeriod.value (← stochasticRsiK parameters closes)

theorem stochasticRsiD_eq :
    stochasticRsiD parameters closes = .ok (Evaluation.stochasticRsiD parameters closes) := by
  rw [stochasticRsiD, stochasticRsiK_eq, ok_bind,
    smaDefined_eq parameters.dPeriod.lower]
  rfl

end

/-! ## Changes over a lookback -/

/-- A quotient of each window, undefined on a zero divisor. -/
def rollingRatio {α : Type} (numerator denominator : List α → Decimal) (period : Nat) :
    List α → Result Series :=
  rollingM period (fun window => divideUnlessZero (numerator window) (denominator window))

theorem rollingRatio_eq {α : Type} (numerator denominator : List α → Decimal) (period : Nat)
    (xs : List α) :
    rollingRatio numerator denominator period xs = .ok (rolling period (fun window =>
      if denominator window = 0 then none else some (numerator window / denominator window)) xs) :=
  rollingM_eq (fun _ _ _ => divideUnlessZero_eq _ _)

def rateOfChange (period : Nat) : List Decimal → Result Series :=
  rollingRatio (fun window => 100 * (window.getLastD 0 - window.headD 0)) (fun window => window.headD 0)
    (period + 1)

def gainsAndLosses (window : List Decimal) : Decimal × Decimal :=
  let changes := (pairwise window).map (fun pair => pair.2 - pair.1)
  ((changes.filter (0 < ·)).sum, -(changes.filter (· < 0)).sum)

def chandeMomentumOscillator (period : Nat) : List Decimal → Result Series :=
  rollingRatio (fun window => 100 * ((gainsAndLosses window).1 - (gainsAndLosses window).2))
    (fun window => (gainsAndLosses window).1 + (gainsAndLosses window).2) (period + 1)

def tripleExponentialRate (period : Nat) (values : List Decimal) : Result Series := do
  let (_, _, third) ← tripleExponential period values
  withPreviousM (fun previous current =>
    match current, previous with
    | some current, some (some previous) => divideUnlessZero (100 * (current - previous)) previous
    | _, _ => .ok none) third

theorem trix_eq (hperiod : 1 ≤ period) (values : List Decimal) :
    tripleExponentialRate period values = .ok (Evaluation.tripleExponentialRate period values) := by
  rw [tripleExponentialRate, tripleExponential_eq hperiod, ok_bind]
  refine withPreviousM_eq ?_ _
  intro previous current
  rcases current with _ | current
  · rfl
  rcases previous with _ | _ | previous
  · rfl
  · rfl
  · exact divideUnlessZero_eq _ _

def doubleSmooth (parameters : TsiParameters) (values : Series) : Result Series := do
  let long ← exponentialMovingAverageOptional parameters.longPeriod.value values
  exponentialMovingAverageOptional parameters.shortPeriod.value long

theorem doubleSmooth_eq (parameters : TsiParameters) (values : Series) :
    doubleSmooth parameters values = .ok (Evaluation.doubleSmooth parameters values) := by
  rw [doubleSmooth, emaOptional_eq parameters.longPeriod.one_le, ok_bind,
    emaOptional_eq parameters.shortPeriod.one_le]
  rfl

def trueStrengthLine (parameters : TsiParameters) (closes : List Decimal) : Result Series := do
  let top ← doubleSmooth parameters
    (sincePrevious (fun previous current => current - previous) closes)
  let bottom ← doubleSmooth parameters
    (sincePrevious (fun previous current => |current - previous|) closes)
  ratioSeries (fun top _ => 100 * top) (fun _ bottom => bottom) top bottom

theorem trueStrengthLine_eq (parameters : TsiParameters) (closes : List Decimal) :
    trueStrengthLine parameters closes = .ok (Evaluation.trueStrengthLine parameters closes) := by
  rw [trueStrengthLine, doubleSmooth_eq, ok_bind, doubleSmooth_eq, ok_bind, ratioSeries_eq]
  rfl

def trueStrengthSignal (parameters : TsiParameters) (closes : List Decimal) : Result Series := do
  exponentialMovingAverageOptional parameters.signalPeriod.value
    (← trueStrengthLine parameters closes)

theorem trueStrengthSignal_eq (parameters : TsiParameters) (closes : List Decimal) :
    trueStrengthSignal parameters closes =
      .ok (Evaluation.trueStrengthSignal parameters closes) := by
  rw [trueStrengthSignal, trueStrengthLine_eq, ok_bind,
    emaOptional_eq parameters.signalPeriod.one_le]
  rfl

def commodityChannelIndex (period : Nat) (candles : List Candle) : Result Series :=
  rollingM period (fun (window : List Decimal) => do
    let mean ← divide window.sum period
    let mad ← divide (window.map (fun value => |value - mean|)).sum period
    if mad = 0 then return none
    else return some (← divide (window.getLastD 0 - mean) (15 / 1000 * mad)))
    (candles.map typicalPrice)

theorem cci_eq (hperiod : 1 ≤ period) (candles : List Candle) :
    commodityChannelIndex period candles =
      .ok (Evaluation.commodityChannelIndex period candles) := by
  refine rollingM_eq ?_
  intro window _ _
  simp only [divide_natCast hperiod, ok_bind]
  split
  · rfl
  next hmad =>
    rw [divide_of_ne (mul_ne_zero (by norm_num) hmad)]
    rfl

def awesomeOscillatorValues (parameters : AwesomeOscillatorParameters) (candles : List Candle) :
    Result Series := do
  return difference
    (← simpleMovingAverage parameters.fastPeriod.value (candles.map medianPrice))
    (← simpleMovingAverage parameters.slowPeriod.value (candles.map medianPrice))

theorem awesome_eq (parameters : AwesomeOscillatorParameters) (candles : List Candle) :
    awesomeOscillatorValues parameters candles =
      .ok (Evaluation.awesomeOscillatorValues parameters candles) := by
  rw [awesomeOscillatorValues, sma_eq parameters.fastPeriod.one_le, ok_bind,
    sma_eq parameters.slowPeriod.one_le]
  rfl

def pressureAverage (period : Nat) (window : List (Decimal × Decimal)) : Result (Option Decimal) :=
  let rows := window.drop (window.length - period)
  divideUnlessZero (rows.map Prod.fst).sum (rows.map Prod.snd).sum

theorem pressureAverage_eq (period : Nat) (window : List (Decimal × Decimal)) :
    pressureAverage period window = .ok (Evaluation.pressureAverage period window) :=
  divideUnlessZero_eq _ _

def ultimateOscillatorValues (parameters : UltimateOscillatorParameters) (candles : List Candle) :
    Result Series :=
  rollingM (parameters.longPeriod.value + 1) (fun window => do
    let short ← pressureAverage parameters.shortPeriod.value window
    let medium ← pressureAverage parameters.mediumPeriod.value window
    let long ← pressureAverage parameters.longPeriod.value window
    match short, medium, long with
    | some short, some medium, some long => return some (100 * (4 * short + 2 * medium + long) / 7)
    | _, _, _ => return none)
    (withPrevious pressureAndRange candles)

theorem ultimate_eq (parameters : UltimateOscillatorParameters) (candles : List Candle) :
    ultimateOscillatorValues parameters candles =
      .ok (Evaluation.ultimateOscillatorValues parameters candles) := by
  refine rollingM_eq ?_
  intro window _ _
  rw [pressureAverage_eq, ok_bind, pressureAverage_eq, ok_bind, pressureAverage_eq, ok_bind]
  cases Evaluation.pressureAverage parameters.shortPeriod.value window <;>
    cases Evaluation.pressureAverage parameters.mediumPeriod.value window <;>
      cases Evaluation.pressureAverage parameters.longPeriod.value window <;> rfl

end

/-! ## Volume -/

/-- The flow of the bars of a window that rose, and of those that fell. -/
def moneyFlows (window : List Candle) : Decimal × Decimal :=
  let flow (rising : Candle × Candle → Bool) :=
    (((pairwise window).filter rising).map (fun pair => typicalPrice pair.2 * pair.2.volume)).sum
  (flow (fun pair => typicalPrice pair.1 < typicalPrice pair.2),
    flow (fun pair => typicalPrice pair.2 < typicalPrice pair.1))

def moneyFlowIndex (period : Nat) : List Candle → Result Series :=
  rollingRatio (fun window => 100 * (moneyFlows window).1)
    (fun window => (moneyFlows window).1 + (moneyFlows window).2) (period + 1)

def moneyFlowMultiplier (candle : Candle) : Result Decimal :=
  let span := candle.high - candle.low
  if span = 0 then .ok 0
  else divide ((candle.close - candle.low) - (candle.high - candle.close)) span

theorem moneyFlowMultiplier_eq (candle : Candle) :
    moneyFlowMultiplier candle = .ok (Evaluation.moneyFlowMultiplier candle) := by
  simp only [moneyFlowMultiplier, Evaluation.moneyFlowMultiplier]
  split
  · rfl
  next hspan => exact divide_of_ne hspan

def volumeWeighted (quantity : Candle → Result Decimal) (period : Nat) :
    List Candle → Result Series :=
  rollingM period (fun window => do
    let volume := (window.map (·.volume)).sum
    if volume = 0 then return none
    else
      let weighted ← window.mapM (fun candle => return (← quantity candle) * candle.volume)
      return some (← divide weighted.sum volume))

theorem volumeWeighted_eq {quantityM : Candle → Result Decimal} {quantity : Candle → Decimal}
    (h : ∀ candle, quantityM candle = .ok (quantity candle)) (period : Nat) (candles : List Candle) :
    volumeWeighted quantityM period candles =
      .ok (Evaluation.volumeWeighted quantity period candles) := by
  refine rollingM_eq ?_
  intro window _ _
  have hweighted : window.mapM (fun candle => do return (← quantityM candle) * candle.volume) =
      (.ok (window.map (fun candle => quantity candle * candle.volume)) : Result (List Decimal)) := by
    refine mapM_eq_map ?_
    intro candle _
    rw [h, ok_bind]
    rfl
  simp only
  split
  · rfl
  next hvolume =>
    rw [hweighted, ok_bind, divide_of_ne hvolume]
    rfl

def accumulationLine : List Candle → Result (List Decimal) :=
  machineM (fun running candle => do
    let next := running + (← moneyFlowMultiplier candle) * candle.volume
    return (next, next)) 0

theorem accumulationLine_eq (candles : List Candle) :
    accumulationLine candles = .ok (Evaluation.accumulationLine candles) := by
  refine machineM_eq_of_forall ?_ 0 candles
  intro running candle
  rw [moneyFlowMultiplier_eq, ok_bind]
  rfl

def forceIndex (period : Nat) (candles : List Candle) : Result Series :=
  exponentialMovingAverageOptional period
    (sincePrevious (fun previous candle => (candle.close - previous.close) * candle.volume) candles)

end Thytrader.Evaluation.Raising
