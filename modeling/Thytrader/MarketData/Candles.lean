import Thytrader.Basic

/-!
# Candle intervals and bar alignment

`market_data/models.py`: the closed set of candle intervals, their durations,
and `align_closed_end`, the exclusive end of the latest closed bar at an
instant. The calendar arithmetic of the source (`replace(minute=…)`,
`replace(hour=…)`) is Euclidean division on the UTC instant.
-/

namespace Thytrader.MarketData

/-- `Candle`: one exact OHLCV candle identified by its opening instant. -/
structure Candle where
  startsAt : Time
  open_ : Decimal
  high : Decimal
  low : Decimal
  close : Decimal
  volume : Decimal
  deriving DecidableEq

inductive CandleField where
  | open
  | high
  | low
  | close
  | volume
  deriving DecidableEq, Repr

def Candle.field (candle : Candle) : CandleField → Decimal
  | .open => candle.open_
  | .high => candle.high
  | .low => candle.low
  | .close => candle.close
  | .volume => candle.volume

inductive CandleInterval where
  | oneHour
  | fiveMinutes
  | fifteenMinutes
  | thirtyMinutes
  | sixHours
  | oneDay
  | oneMinute
  | twoHours
  | fourHours
  deriving DecidableEq, Repr

def minuteLength : Duration := 60 * 1000000

namespace CandleInterval

def minutes : CandleInterval → Int
  | oneHour => 60
  | fiveMinutes => 5
  | fifteenMinutes => 15
  | thirtyMinutes => 30
  | sixHours => 360
  | oneDay => 1440
  | oneMinute => 1
  | twoHours => 120
  | fourHours => 240

def duration (interval : CandleInterval) : Duration := interval.minutes * minuteLength

theorem duration_pos (interval : CandleInterval) : 0 < interval.duration := by
  cases interval <;> decide

/-- The token of an interval (`StrEnum` value). -/
def token : CandleInterval → String
  | oneHour => "1h"
  | fiveMinutes => "5m"
  | fifteenMinutes => "15m"
  | thirtyMinutes => "30m"
  | sixHours => "6h"
  | oneDay => "1d"
  | oneMinute => "1m"
  | twoHours => "2h"
  | fourHours => "4h"

/-- Every interval, in declaration order. -/
def all : List CandleInterval :=
  [oneHour, fiveMinutes, fifteenMinutes, thirtyMinutes, sixHours, oneDay, oneMinute, twoHours,
    fourHours]

/-- `align_closed_end`: the exclusive end of the latest fully closed bar at `now`. -/
def alignClosedEnd (interval : CandleInterval) (now : Time) : Time :=
  let instant := now / minuteLength
  let minute := instant % 60
  let hour := instant / 60 % 24
  let aligned :=
    if interval.minutes < 60 then instant - minute + minute / interval.minutes * interval.minutes
    else
      let hours := interval.minutes / 60
      if hours < 24 then instant - minute - hour * 60 + hour / hours * hours * 60
      else instant - minute - hour * 60
  aligned * minuteLength

variable (interval : CandleInterval) (now : Time)

/-- The latest closed end is the instant rounded down onto the interval's grid. -/
theorem alignClosedEnd_eq :
    interval.alignClosedEnd now = now / interval.duration * interval.duration := by
  have hminute : now / interval.duration = now / minuteLength / interval.minutes := by
    rw [duration, mul_comm, Int.ediv_ediv_of_nonneg (by decide)]
  rw [hminute, duration, ← mul_assoc]
  refine congrArg (· * minuteLength) (Int.le_antisymm ?_ ?_)
  -- whichever calendar field is cleared, the minute is rounded down
  all_goals cases interval <;> simp only [minutes] <;> norm_num <;> omega

theorem alignClosedEnd_le : interval.alignClosedEnd now ≤ now := by
  rw [alignClosedEnd_eq]
  exact Int.ediv_mul_le now interval.duration_pos.ne'

theorem dvd_alignClosedEnd : interval.duration ∣ interval.alignClosedEnd now := by
  rw [alignClosedEnd_eq]
  exact Dvd.intro_left _ rfl

theorem alignClosedEnd_mono {now later : Time} (h : now ≤ later) :
    interval.alignClosedEnd now ≤ interval.alignClosedEnd later := by
  rw [alignClosedEnd_eq, alignClosedEnd_eq]
  exact Int.mul_le_mul_of_nonneg_right (Int.ediv_le_ediv interval.duration_pos h)
    interval.duration_pos.le

end CandleInterval

/-- `EXECUTION_TIMEFRAMES`, in venue-duration order. -/
def executionTimeframes : List CandleInterval :=
  [.oneMinute, .fiveMinutes, .fifteenMinutes, .thirtyMinutes, .oneHour, .twoHours, .fourHours,
    .sixHours, .oneDay]

def parseCandleInterval (value : String) : Result CandleInterval :=
  match CandleInterval.all.find? (fun interval => interval.token = value) with
  | some interval => .ok interval
  | none => .error (.valueError ("Unsupported candle interval: " ++ value ++ "."))

end Thytrader.MarketData
