import Thytrader.Evaluation.ZeroDenominators

/-!
# Declared warmup and first values

`indicator_min_warmup` against the recursions of `evaluation/indicator_math/`: for every
kind one output is blank for all bars before the declared warmup is over, and every output is
defined from there on, unless a zero denominator lies among the last warmup bars.
-/

namespace Thytrader.Strategies

theorem Bounded.one_le {high : Nat} (bound : Bounded 2 high) : 1 ≤ bound.value := by
  have hlower := bound.lower
  omega

/-- No kind is defined before its first bar. -/
theorem baseMinWarmup_pos (rule : IndicatorRule) : 1 ≤ baseMinWarmup rule := by
  cases rule <;> simp only [baseMinWarmup] <;> grind [Bounded.lower]

end Thytrader.Strategies

namespace Thytrader.Evaluation

open Lib MarketData Strategies Nat

variable (math : DecimalMath) (candles : List Candle)
variable {calculate : List Decimal → Series} {field : CandleField}

theorem startsAt_onSource {first : Nat}
    (h : StartsAt (calculate (sourceSeries field candles)) (sourceSeries field candles).length
      first) : StartsAt (onSource field calculate candles) candles.length first := by
  rwa [length_sourceSeries] at h

theorem blank_volumeWeighted (quantity : Candle → Decimal) (period : Nat) :
    Blank (volumeWeighted quantity period candles) (period - 1) := blank_rolling _ _ _

theorem blank_vortexSeries (movement : Candle → Candle → Decimal) (period : Nat) :
    Blank (vortexSeries movement period candles) period := blank_rolling (period + 1) _ _

/-- No bar was divided by zero over the last bars of the declared warmup. -/
def Regular (rule : IndicatorRule) (bars bar : Nat) : Prop :=
  ∀ earlier ≤ bar, bar < earlier + bars → ¬ ZeroDenominator math candles earlier rule

/-- One output is blank until the declared warmup is over, and all are defined from there on,
unless a zero denominator lies among the last warmup bars. -/
structure Warmed (rule : IndicatorRule) (outputs : List (List Candle → Series)) : Prop where
  blank : ∃ output ∈ outputs, Blank (output candles) (baseMinWarmup rule - 1)
  defined : ∀ bar < candles.length, baseMinWarmup rule ≤ bar + 1 →
    Regular math candles rule (baseMinWarmup rule) bar →
      outputs.Forall (fun output => Defined (output candles) bar)

variable {math candles} {rule : IndicatorRule} {output : List Candle → Series}

theorem Warmed.aligned {outputs : List (List Candle → Series)} (h : (output :: outputs).Forall
      (fun output => StartsAt (output candles) candles.length (baseMinWarmup rule - 1))) :
    Warmed math candles rule (output :: outputs) :=
  ⟨⟨_, .head _, ((List.forall_cons _ _ _).mp h).1.blank⟩, fun _ hbar hwarm _ =>
    h.imp (fun _ hstarts => hstarts.defined hbar (sub_le_of_le_add hwarm))⟩

theorem Warmed.starts (h : StartsAt (output candles) candles.length (baseMinWarmup rule - 1)) :
    Warmed math candles rule [output] := .aligned h

theorem Warmed.source
    (h : StartsAt (calculate (sourceSeries field candles)) (sourceSeries field candles).length
      (baseMinWarmup rule - 1)) : Warmed math candles rule [onSource field calculate] :=
  .starts (startsAt_onSource candles h)

/-- A single series that misses only bars with a zero denominator of their own. -/
theorem Warmed.guarded (hblank : Blank (output candles) (baseMinWarmup rule - 1))
    (hdefined : ∀ bar < candles.length, baseMinWarmup rule ≤ bar + 1 →
      ¬ ZeroDenominator math candles bar rule → Defined (output candles) bar) :
    Warmed math candles rule [output] := by
  refine ⟨⟨_, .head _, hblank⟩, fun bar hbar hwarm hregular => hdefined bar hbar hwarm ?_⟩
  have hpos := baseMinWarmup_pos rule
  exact hregular bar le_rfl (by omega)

theorem Warmed.guardedSource
    (hblank : Blank (calculate (sourceSeries field candles)) (baseMinWarmup rule - 1))
    (hdefined : ∀ bar < (sourceSeries field candles).length, baseMinWarmup rule ≤ bar + 1 →
      ¬ ZeroDenominator math candles bar rule →
        Defined (calculate (sourceSeries field candles)) bar) :
    Warmed math candles rule [onSource field calculate] :=
  .guarded hblank (fun bar hbar => hdefined bar (by rwa [length_sourceSeries]))

theorem Warmed.cumulative {line : List Candle → List Decimal} (hcausal : Causal line)
    {period : Nat} (hwarmup : baseMinWarmup rule = period) :
    Warmed math candles rule [cumulativeSeries line, cumulativeSignal line period] := by
  subst hwarmup
  exact ⟨⟨_, .tail _ (.head _), (startsAt_cumulativeSignal candles hcausal _).blank⟩,
    fun bar hbar hwarm _ =>
      ⟨(startsAt_cumulativeSeries candles hcausal).defined hbar (zero_le _),
        (startsAt_cumulativeSignal candles hcausal _).defined hbar (sub_le_of_le_add hwarm)⟩⟩

theorem lt_sourceSeries {bar : Nat} (hbar : bar < candles.length) (field : CandleField) :
    bar < (sourceSeries field candles).length := by
  rwa [length_sourceSeries]

/-- The line, the signal and the histogram of MACD and PPO. -/
theorem Warmed.signalled {line signal histogram : List Decimal → Series} {parameters : MacdParameters}
    (hwarmup : baseMinWarmup rule = parameters.slowPeriod.value + parameters.signalPeriod.value - 1)
    (hline : StartsAt (line (sourceSeries .close candles)) (sourceSeries .close candles).length
      (parameters.slowPeriod.value - 1))
    (hsignal : StartsAt (signal (sourceSeries .close candles)) (sourceSeries .close candles).length
      (parameters.slowPeriod.value + parameters.signalPeriod.value - 2))
    (hhistogram : StartsAt (histogram (sourceSeries .close candles))
      (sourceSeries .close candles).length
      (parameters.slowPeriod.value + parameters.signalPeriod.value - 2)) :
    Warmed math candles rule
      [onSource .close line, onSource .close signal, onSource .close histogram] := by
  have hlower := parameters.signalPeriod.lower
  refine ⟨⟨_, .tail _ (.head _), hsignal.blank.mono (by omega)⟩, fun bar hbar hwarm _ => ?_⟩
  have hbar := lt_sourceSeries hbar .close
  exact ⟨hline.defined hbar (by omega), hsignal.defined hbar (by omega),
    hhistogram.defined hbar (by omega)⟩

/-- All outputs of a kind. -/
abbrev Warms (math : DecimalMath) (candles : List Candle) (rule : IndicatorRule) : Prop :=
  Warmed math candles rule (indicatorOutputs math rule)

theorem stochastic_warms (parameters : StochasticParameters) : Warms math candles (.stochastic parameters) := by
  have hk := parameters.kPeriod.lower
  have hd := parameters.dPeriod.lower
  refine ⟨⟨_, .tail _ (.head _), blank_stochasticD parameters⟩, fun bar hbar hwarm hregular => ?_⟩
  simp only [baseMinWarmup] at hwarm hregular
  refine ⟨defined_againstRange _ parameters.kPeriod.one_le hbar (by omega)
    (hregular bar le_rfl (by omega)), ?_⟩
  refine defined_stochasticD parameters hbar (by omega) ?_
  intro earlier hle hnear
  exact hregular earlier hle (by omega)

theorem adx_warms (period : Bounded 2 100) : Warms math candles (.adx period) := by
  have hperiod := period.lower
  refine ⟨⟨_, .head _, blank_adxValues period.one_le⟩, fun bar hbar hwarm hregular => ?_⟩
  simp only [baseMinWarmup] at hwarm hregular
  have hnear (earlier : Nat) (hle : earlier ≤ bar) (hnear : bar < earlier + period.value) :=
    not_or.mp (hregular earlier hle (by omega))
  obtain ⟨lines, hlines⟩ := adxLines_spec.2 bar hbar (show period.value - 1 ≤ bar by omega)
    (hnear bar le_rfl (by omega)).1
  have hline : Defined (adxLines period.value candles) bar := ⟨lines, hlines⟩
  exact ⟨defined_adxValues period.one_le hbar (by omega) hnear,
    (defined_optionMap _ _ _).mpr hline, (defined_optionMap _ _ _).mpr hline⟩

theorem ichimoku_warms (parameters : IchimokuParameters) : Warms math candles (.ichimoku parameters) := by
  have hordered := parameters.ordered
  refine ⟨⟨_, .tail _ (.tail _ (.tail _ (.head _))),
    (startsAt_midpointSeries candles parameters.senkouBPeriod.one_le).blank.mono ?_⟩,
    fun bar hbar hwarm _ => ?_⟩
  · simp only [baseMinWarmup]
    omega
  simp only [baseMinWarmup] at hwarm
  exact ⟨(startsAt_midpointSeries candles parameters.tenkanPeriod.one_le).defined hbar (by omega),
    (startsAt_midpointSeries candles parameters.kijunPeriod.one_le).defined hbar (by omega),
    (startsAt_senkouA candles parameters).defined hbar (by omega),
    (startsAt_midpointSeries candles parameters.senkouBPeriod.one_le).defined hbar (by omega)⟩

theorem stochasticRsi_warms (parameters : StochasticRsiParameters) : Warms math candles (.stochasticRsi parameters) := by
  have hrsi := parameters.rsiPeriod.lower
  refine ⟨⟨_, .tail _ (.head _), blank_stochasticRsiD parameters _⟩,
    fun bar hbar hwarm hregular => ?_⟩
  simp only [baseMinWarmup] at hwarm hregular
  refine defined_stochasticRsi parameters (by omega) ?_
  intro earlier hle hnear
  exact (stochasticRsiRaw_spec parameters _).2 earlier (by rw [length_sourceSeries]; omega)
    (by omega) (hregular earlier hle (by omega))

theorem tsi_warms (parameters : TsiParameters) : Warms math candles (.tsi parameters) := by
  have hlong := parameters.longPeriod.lower
  have hsignal := parameters.signalPeriod.lower
  have hspec := trueStrengthLine_spec parameters (sourceSeries .close candles)
  refine ⟨⟨_, .tail _ (.head _), (blank_seedOptional (emaUpdate parameters.signalPeriod.value)
    parameters.signalPeriod.one_le hspec.1).mono ?_⟩, fun bar hbar hwarm hregular => ?_⟩
  · simp only [baseMinWarmup]
    omega
  simp only [baseMinWarmup] at hwarm hregular
  refine ⟨hspec.2 bar (lt_sourceSeries hbar _) (by omega) (hregular bar le_rfl (by omega)), ?_⟩
  refine defined_seedOptional_of_over (emaUpdate parameters.signalPeriod.value)
    parameters.signalPeriod.one_le (by omega) ?_
  intro earlier hle hnear
  exact hspec.2 earlier (by rw [length_sourceSeries]; omega) (by omega)
    (hregular earlier hle (by omega))

theorem keltner_warms (parameters : KeltnerParameters) : Warms math candles (.keltner parameters) := by
  refine ⟨⟨_, .head _, (startsAt_keltnerBand candles parameters _).blank⟩,
    fun bar hbar hwarm _ => ?_⟩
  simp only [baseMinWarmup] at hwarm
  exact ⟨(startsAt_keltnerBand candles parameters _).defined hbar (by omega),
    (startsAt_keltnerMiddle candles parameters).defined hbar (by omega),
    (startsAt_keltnerBand candles parameters _).defined hbar (by omega)⟩

theorem indicatorOutputs_warmed (hpositive : PositivePrices candles) (rule : IndicatorRule) :
    Warmed math candles rule (indicatorOutputs math rule) := by
  have hcloses := positive_closes hpositive
  cases rule with
  | ema => exact .source (startsAt_ema _ _)
  | sma | volumeSma => exact .source (startsAt_sma _ _)
  | rsi period => exact .source (startsAt_rsi _ period.one_le)
  | atr => exact .starts (startsAt_atr candles _)
  | highest _ period => exact .source (startsAt_rollingExtreme _ true period.one_le)
  | lowest _ period => exact .source (startsAt_rollingExtreme _ false period.one_le)
  | stdev | stdevSample => exact .source (startsAt_rollingStdev _ math _ _)
  | roc _ period =>
    refine .guardedSource (blank_rolling (period.value + 1) _ _) (fun bar hbar hwarm hnot => ?_)
    have hfull := le_of_succ_le_succ hwarm
    exact defined_roc hbar hfull (fun h => hnot ⟨hfull, h⟩)
  | williamsR period =>
    exact .guarded (blank_againstRange _ period.one_le) (fun bar hbar hwarm hnot =>
      defined_againstRange _ period.one_le hbar (sub_le_of_le_add hwarm) hnot)
  | cci period =>
    exact .guarded (blank_rolling period.value _ _) (fun bar hbar hwarm hnot =>
      defined_cci hbar hwarm (fun h => hnot ⟨hwarm, h⟩))
  | identity =>
    exact ⟨⟨_, .head _, fun bar hbar => absurd hbar (by simp [baseMinWarmup])⟩,
      fun bar hbar _ _ => (defined_map_some (fun value => value) _ bar).mpr (lt_sourceSeries hbar _)⟩
  | constant value =>
    exact ⟨⟨_, .head _, fun bar hbar => absurd hbar (by simp [baseMinWarmup])⟩,
      fun bar hbar _ _ => (defined_map_some (fun _ => value) _ bar).mpr hbar⟩
  | wma => exact .source (startsAt_rolling _ weightedMean _)
  | momentum | percentRank => exact .source (startsAt_rolling (_ + 1) _ _)
  | mfi period =>
    refine .guarded (blank_rolling (period.value + 1) _ _) (fun bar hbar hwarm hnot => ?_)
    have hfull := le_of_succ_le_succ hwarm
    exact defined_mfi hbar hfull (fun h => hnot ⟨hfull, h⟩)
  | macd parameters =>
    exact .signalled rfl (startsAt_macdLine _ parameters) (startsAt_macdSignal _ parameters)
      (startsAt_macdHistogram _ parameters)
  | bollinger parameters =>
    exact .aligned ⟨startsAt_onSource candles (startsAt_bollingerMiddle parameters _),
      startsAt_onSource candles (startsAt_bollingerBand math parameters _ _),
      startsAt_onSource candles (startsAt_bollingerBand math parameters _ _)⟩
  | stochastic parameters => exact stochastic_warms parameters
  | adx period => exact adx_warms period
  | dema _ period =>
    exact .source (startsAt_dema _ period.one_le)
  | tema _ period =>
    exact .source (startsAt_tema _ period.one_le)
  | hma _ period => exact .source (startsAt_hma _ period.one_le)
  | kama _ parameters => exact .source (startsAt_kama _ parameters)
  | vwma | cmf | vwap =>
    exact .guarded (blank_volumeWeighted candles _ _) (fun bar hbar hwarm hnot =>
      defined_volumeWeighted _ hbar hwarm (fun h => hnot ⟨hwarm, h⟩))
  | supertrend parameters =>
    exact .aligned ⟨(startsAt_supertrendBands candles parameters).optionMap _,
      (startsAt_supertrendBands candles parameters).optionMap _⟩
  | parabolicSar parameters => exact .starts (startsAt_parabolicSar candles parameters)
  | aroon period =>
    exact .aligned ⟨startsAt_rolling (_ + 1) _ _, startsAt_rolling (_ + 1) _ _,
      startsAt_rolling (_ + 1) _ _⟩
  | ichimoku parameters => exact ichimoku_warms parameters
  | vortex period =>
    refine ⟨⟨_, .head _, blank_vortexSeries candles _ _⟩, fun bar hbar hwarm hregular => ?_⟩
    have hfull := Nat.le_of_succ_le_succ hwarm
    have hne : totalTrueRange (window (period.value + 1) candles bar) ≠ 0 :=
      fun h => hregular bar le_rfl (Nat.lt_add_of_pos_right (Nat.succ_pos _)) ⟨hfull, h⟩
    exact ⟨defined_vortexSeries _ hbar hfull hne, defined_vortexSeries _ hbar hfull hne⟩
  | linearRegression =>
    exact .aligned ⟨startsAt_onSource candles (startsAt_rolling _ _ _),
      startsAt_onSource candles (startsAt_rolling _ _ _)⟩
  | trix period => exact .source (startsAt_trix _ period.one_le hcloses)
  | stochasticRsi parameters => exact stochasticRsi_warms parameters
  | ppo parameters =>
    exact .signalled rfl (startsAt_ppoLine _ parameters hcloses)
      (startsAt_ppoSignal _ parameters hcloses) (startsAt_ppoHistogram _ parameters hcloses)
  | ultimateOscillator parameters =>
    refine .guarded (blank_rolling (parameters.longPeriod.value + 1) _ _)
      (fun bar hbar hwarm hnot => ?_)
    have hfull := le_of_succ_le_succ hwarm
    refine defined_ultimate parameters hbar hfull ?_
    intro period hmember hzero
    exact hnot ⟨hfull, period, hmember, hzero⟩
  | awesomeOscillator parameters =>
    exact .starts (startsAt_awesome candles parameters)
  | cmo period =>
    refine .guardedSource (blank_rolling (period.value + 1) _ _) (fun bar hbar hwarm hnot => ?_)
    have hfull := le_of_succ_le_succ hwarm
    exact defined_cmo hbar hfull (fun h => hnot ⟨hfull, h⟩)
  | tsi parameters => exact tsi_warms parameters
  | keltner parameters => exact keltner_warms parameters
  | donchian period =>
    exact .aligned ⟨startsAt_donchianUpper candles period.one_le,
      startsAt_midpointSeries candles period.one_le, startsAt_donchianLower candles period.one_le⟩
  | bollingerPercentB parameters =>
    exact .guardedSource ((startsAt_bollingerBand math parameters _ _).blank.zipWith_zip fun _ _ => rfl)
      (fun bar hbar hwarm hnot =>
        defined_percentB math parameters hbar hwarm (fun h => hnot ⟨hwarm, h⟩))
  | bollingerBandwidth parameters =>
    exact .source (startsAt_bandwidth math parameters hcloses)
  | natr => exact .starts (startsAt_natr candles _ hpositive)
  | choppiness period =>
    exact .guarded (blank_choppinessIndex math period.one_le) (fun bar hbar hwarm hnot =>
      defined_choppinessIndex math period.one_le hbar (sub_le_of_le_add hwarm) hnot)
  | historicalVolatility period =>
    exact .starts (startsAt_historicalVolatility candles math period.one_le _ hpositive)
  | obv => exact .cumulative causal_onBalanceLine rfl
  | accumulationDistribution => exact .cumulative causal_accumulationLine rfl
  | forceIndex period => exact .starts (startsAt_forceIndex candles period.one_le)
  | zscore =>
    exact .guardedSource (blank_rollingZscore math _) (fun bar hbar hwarm hnot =>
      defined_rollingZscore math hbar hwarm (fun h => hnot ⟨hwarm, h⟩))

end Thytrader.Evaluation
