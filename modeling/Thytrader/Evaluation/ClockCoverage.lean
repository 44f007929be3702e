import Thytrader.Evaluation.DocumentWarmup

/-!
# Coverage of a slower clock

The bars `closed_bar_starts` plans for an evaluation window against the bars the evaluator maps
its closes onto. The close of the bar before the first one is the window's start, so the coverage
begins no later than the bar mapped onto that start (`closedBarStarts_cover`).
-/

namespace Thytrader.Evaluation

open Lib MarketData Strategies

variable {startsAt endsAt closeAt : Time} (timeframe : CandleInterval) {warmupBars : Nat}

/-- Every close from the window's start to its end is mapped onto a planned bar. -/
theorem mappedHtfStart_mem (hwarmup : 1 ≤ warmupBars) (hstart : startsAt ≤ closeAt)
    (hend : closeAt ≤ endsAt) :
    mappedHtfStart closeAt timeframe ∈ closedBarStarts startsAt endsAt timeframe warmupBars := by
  have hpos : (0 : Int) < timeframe.duration := timeframe.duration_pos
  obtain ⟨first, hfirst⟩ := timeframe.dvd_alignClosedEnd startsAt
  obtain ⟨mapped, hmapped⟩ := timeframe.dvd_alignClosedEnd closeAt
  obtain ⟨last, hlast⟩ := timeframe.dvd_alignClosedEnd endsAt
  have hle := timeframe.alignClosedEnd_mono hstart
  have hle' := timeframe.alignClosedEnd_mono hend
  rw [hfirst, hmapped] at hle
  rw [hmapped, hlast] at hle'
  have hfirstLe : (first : Int) ≤ mapped := le_of_mul_le_mul_left hle hpos
  have hlastLe : (mapped : Int) ≤ last := le_of_mul_le_mul_left hle' hpos
  simp only [closedBarStarts, closedBarRequiredCoverage, mappedHtfStart, lastCompletedBarStart,
    hfirst, hmapped, hlast]
  -- the coverage is a whole number of bars
  have hcount : timeframe.duration * last - timeframe.duration + timeframe.duration -
      (timeframe.duration * first - timeframe.duration - timeframe.duration * (warmupBars - 1)) +
      timeframe.duration - 1 = timeframe.duration - 1 + timeframe.duration *
        (last - first + warmupBars) := by ring
  rw [hcount, Int.add_mul_ediv_left _ _ hpos.ne', Int.ediv_eq_zero_of_lt (by omega) (by omega)]
  refine List.mem_map.mpr ⟨(mapped - first + (warmupBars - 1)).toNat, ?_, ?_⟩
  · rw [List.mem_range]
    omega
  · rw [Int.toNat_of_nonneg (by omega)]
    ring

variable {engine : Engine} {strategy : StrategyDefinition} {indicators : List IndicatorDefinition}
  {candles : List Candle} {rows : Dict Time Row}

/-- An accepted coverage has a row on every planned start. -/
theorem clockRows_get? {starts : List Time} (hincreasing : starts.Pairwise (· < ·))
    (h : clockRows engine strategy indicators starts candles = .ok rows) {start : Time}
    (hstart : start ∈ starts) : ∃ row, rows.get? start = some row := by
  obtain ⟨selected, hselected, rfl⟩ := bind_pure_ok h
  have hlength := (causal_calculateIndicatorRows engine.math indicators
    (strategyIndicatorOperands strategy)).length_eq selected
  have hstarts (bars : List Row) (hbars : bars.length = selected.length) :
      (selected.zip bars).map (fun bar => bar.1.startsAt) = starts := by
    rw [← (requiredHtfCandles_spec hselected).1]
    conv_rhs => rw [← @List.map_fst_zip _ _ selected bars hbars.ge, List.map_map]
    rfl
  have hkeys := hstarts _ hlength
  rw [← hkeys] at hstart
  obtain ⟨bar, hbar, hstart⟩ := List.mem_map.mp hstart
  unfold rowsByStart
  rw [Dict.get?_foldl_set_value (fun bar : Candle × Row => bar.1.startsAt) Prod.snd
    (hkeys ▸ hincreasing.imp ne_of_lt)]
  have hfound : ((selected.zip _).find? (fun bar : Candle × Row => bar.1.startsAt = start)).isSome :=
    List.find?_isSome.mpr ⟨bar, hbar, decide_eq_true hstart⟩
  obtain ⟨found, hfound⟩ := Option.isSome_iff_exists.mp hfound
  exact ⟨found.2, by rw [hfound]; rfl⟩

/-- For every bar of the window, the coverage has the slower bars of its close and of the close
before it, so the evaluator misses neither. -/
theorem closedBarStarts_cover (startsAt endsAt : Time) (ltfTimeframe timeframe : CandleInterval)
    (warmupBars : Nat) (hwarmup : 1 ≤ warmupBars) {barStartsAt : Time}
    (hstart : startsAt ≤ barStartsAt) (hend : ltfClose barStartsAt ltfTimeframe ≤ endsAt) :
    ∀ closeAt ∈ [ltfClose barStartsAt ltfTimeframe,
        ltfClose (barStartsAt - ltfTimeframe.duration) ltfTimeframe],
      mappedHtfStart closeAt timeframe ∈ closedBarStarts startsAt endsAt timeframe warmupBars ∧
      ∀ engine strategy indicators candles rows, clockRows engine strategy indicators
          (closedBarStarts startsAt endsAt timeframe warmupBars) candles = .ok rows →
        ∀ missed, ∃ row, heldRow rows closeAt timeframe missed = .ok row := by
  intro closeAt hclose
  have hpos : (0 : Int) < ltfTimeframe.duration := ltfTimeframe.duration_pos
  have hbetween : startsAt ≤ closeAt ∧ closeAt ≤ endsAt := by
    unfold ltfClose at hclose hend
    rcases List.mem_pair.mp hclose with rfl | rfl
    · exact ⟨le_add_of_le_of_nonneg hstart hpos.le, hend⟩
    · rw [sub_add_cancel]
      exact ⟨hstart, (le_add_of_nonneg_right hpos.le).trans hend⟩
  have hplanned := mappedHtfStart_mem timeframe hwarmup hbetween.1 hbetween.2
  refine ⟨hplanned, ?_⟩
  intro engine strategy indicators candles rows hrows missed
  obtain ⟨row, hrow⟩ := clockRows_get? (closedBarStarts_increasing _ _ _ _) hrows hplanned
  refine ⟨row, ?_⟩
  unfold heldRow
  rw [hrow]

def dayHours : List Time := closedBarStarts 0 86400000000 .oneHour 1

def dayCandles : List Candle := dayHours.map (fun start => ⟨start, 1, 1, 1, 1, 1⟩)

/-- The first 15-minute bar after midnight reads the hour before it twice, and both are found among
the day's candles. -/
theorem midnight_covered :
    let before := ltfClose (0 - CandleInterval.fifteenMinutes.duration) .fifteenMinutes
    (mappedHtfStart (ltfClose 0 .fifteenMinutes) .oneHour ∈ dayHours ∧
      mappedHtfStart before .oneHour ∈ dayHours) ∧
    ∀ engine strategy, ∃ rows, clockRows engine strategy [] dayHours dayCandles = .ok rows ∧
      (∃ row, heldRow rows (ltfClose 0 .fifteenMinutes) .oneHour "missed" = .ok row) ∧
      ∃ row, heldRow rows before .oneHour "missed" = .ok row := by
  have hcover :=
    closedBarStarts_cover 0 86400000000 .fifteenMinutes .oneHour 1 le_rfl le_rfl (by decide)
  obtain ⟨hclose, hrow⟩ := hcover _ List.mem_cons_self
  obtain ⟨hbefore, hrow'⟩ := hcover _ (List.mem_cons_of_mem _ List.mem_cons_self)
  refine ⟨⟨hclose, hbefore⟩, fun engine strategy => ?_⟩
  obtain ⟨selected, hselected⟩ := exists_eq_ok
    (show (requiredHtfCandles dayHours dayCandles).toOption.isSome = true by decide +kernel)
  obtain ⟨rows, hrows⟩ : ∃ rows, clockRows engine strategy [] dayHours dayCandles = .ok rows := by
    rw [clockRows, hselected]
    exact ⟨_, rfl⟩
  exact ⟨rows, hrows, hrow _ _ _ _ _ hrows _, hrow' _ _ _ _ _ hrows _⟩

end Thytrader.Evaluation
