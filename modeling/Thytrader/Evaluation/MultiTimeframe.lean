import Thytrader.Evaluation.Specification

/-!
# Closed-bar alignment across clocks

`evaluation/multi_timeframe.py`: the last completed bar of a slower clock at an instant,
and the bar starts of that clock an evaluation window needs.
-/

namespace Thytrader.Evaluation

open Lib MarketData Strategies

def lastCompletedBarStart (closeAt : Time) (interval : CandleInterval) : Time :=
  interval.alignClosedEnd closeAt - interval.duration

def mappedHtfStart (ltfClose : Time) (htfTimeframe : CandleInterval) : Time :=
  lastCompletedBarStart ltfClose htfTimeframe

def ltfClose (candleStartsAt : Time) (ltfTimeframe : CandleInterval) : Time :=
  candleStartsAt + ltfTimeframe.duration

def closedBarRequiredCoverage (evaluationStartsAt evaluationEndsAt : Time)
    (timeframe : CandleInterval) (warmupBars : Nat) : Time × Time :=
  let firstMappedStart := lastCompletedBarStart evaluationStartsAt timeframe
  let lastMappedStart := lastCompletedBarStart evaluationEndsAt timeframe
  (firstMappedStart - timeframe.duration * ((warmupBars : Int) - 1),
    lastMappedStart + timeframe.duration)

/-- `closed_bar_starts`: every bar start of the coverage, oldest first; the loop runs for the
rounded-up number of bars. -/
def closedBarStarts (evaluationStartsAt evaluationEndsAt : Time) (timeframe : CandleInterval)
    (warmupBars : Nat) : List Time :=
  let (coverageStart, coverageEnd) :=
    closedBarRequiredCoverage evaluationStartsAt evaluationEndsAt timeframe warmupBars
  let count := (coverageEnd - coverageStart + timeframe.duration - 1) / timeframe.duration
  (List.range count.toNat).map (fun index : Nat => coverageStart + timeframe.duration * index)

/-- The bar mapped onto a close has itself closed by then. -/
theorem mappedHtfStart_closed (closeAt : Time) (timeframe : CandleInterval) :
    mappedHtfStart closeAt timeframe + timeframe.duration ≤ closeAt := by
  have h := timeframe.alignClosedEnd_le closeAt
  unfold mappedHtfStart lastCompletedBarStart
  rwa [sub_add_cancel]

end Thytrader.Evaluation
