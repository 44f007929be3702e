import Thytrader.Portfolios.Manager
import Thytrader.Risk.Models
import Thytrader.Risk.OpeningAccounting

/-!
# The runtime state of a deployed portfolio

`PortfolioRuntimeState` of `portfolios/models.py` and the rules of `portfolios/deployment.py`
over it: the books of the current run, the run's equity, the day-open and high-water-mark
baselines, and the two breakers that measure against them.

Mirroring notes:
- `capital_quote` and the limits are numbers here, so `Decimal(text)` is the number.
- A state never written reads as the empty one under revision 0.
-/

namespace Thytrader.Portfolios

open Trading
open Risk (PortfolioRiskBook RiskReasonCode utcDayStart)

/-- The literal itself. -/
def BreakerReason.text : BreakerReason → String
  | .portfolioDailyLossStop => "PORTFOLIO_DAILY_LOSS_STOP"
  | .portfolioDrawdownStop => "PORTFOLIO_DRAWDOWN_STOP"

structure PortfolioRuntimeState where
  portfolioId : Uuid
  runStartedAt : Option Time := none
  breakerReason : Option BreakerReason := none
  breakerDetail : Option String := none
  breakerLatchedAt : Option Time := none
  dayOpenEquity : Option Decimal := none
  dayOpenAt : Option Time := none
  highWaterMarkEquity : Option Decimal := none
  lastEquity : Option Decimal := none
  lastEvaluatedAt : Option Time := none
  revision : Nat := 0
  deriving DecidableEq, Repr

structure PortfolioRuntimeView where
  aggregate : PortfolioAggregate
  runtime : PortfolioRuntimeState

structure BreakerTrip where
  reason : BreakerReason
  detail : String

/-! ## Books -/

def occupiedMembers (tagged : List Deployment) : List Deployment := tagged.filter occupiesRunningSlot

/-- `run_members`: the books created since the run started, all when that is unknown. -/
def runMembers (tagged : List Deployment) (runtime : PortfolioRuntimeState) : List Deployment :=
  tagged.filter (fun item => runtime.runStartedAt.all (fun started => started ≤ item.createdAt))

def startingEquity (deployment : Deployment) : Decimal :=
  (deployment.initialEquity.or deployment.paperStartingCash).getD 0

def netPnl (deployment : Deployment) : Decimal :=
  match deployment.performanceEquity with
  | none => 0
  | some equity => equity - startingEquity deployment

def totalNetPnl (books : List Deployment) : Decimal := (books.map netPnl).sum

def runEquity (aggregate : PortfolioAggregate) (books : List Deployment) : Decimal :=
  aggregate.portfolio.capitalQuote + totalNetPnl books

/-! ## Baselines -/

namespace PortfolioRuntimeState

def breakerLatched (runtime : PortfolioRuntimeState) : Bool := runtime.breakerReason.isSome

def beginRun (runtime : PortfolioRuntimeState) (equity : Decimal) (now : Time) :
    PortfolioRuntimeState :=
  { runtime with
    runStartedAt := some now
    dayOpenEquity := some equity
    dayOpenAt := some (utcDayStart now)
    highWaterMarkEquity := some equity
    lastEquity := some equity
    lastEvaluatedAt := some now }

def dayOpen (runtime : PortfolioRuntimeState) (equity : Decimal) (now : Time) : Decimal × Time :=
  match runtime.dayOpenEquity, runtime.dayOpenAt with
  | some opened, some day =>
    if day < utcDayStart now then (equity, utcDayStart now) else (opened, day)
  | _, _ => (equity, utcDayStart now)

def rollBaselines (runtime : PortfolioRuntimeState) (equity : Decimal) (now : Time) :
    PortfolioRuntimeState :=
  { runtime with
    dayOpenEquity := some (runtime.dayOpen equity now).1
    dayOpenAt := some (runtime.dayOpen equity now).2
    highWaterMarkEquity := some (runtime.highWaterMarkEquity.elim equity (max · equity))
    lastEquity := some equity
    lastEvaluatedAt := some now }

/-- `drawdown_fraction`: nothing before any mark. -/
def drawdownFraction (runtime : PortfolioRuntimeState) : Option Decimal :=
  match runtime.highWaterMarkEquity, runtime.lastEquity with
  | some peak, some equity => if peak ≤ 0 then none else some (max 0 ((peak - equity) / peak))
  | _, _ => none

/-- `daily_pnl`: the equity's change since the UTC day opened. -/
def dailyPnl (runtime : PortfolioRuntimeState) : Option Decimal :=
  match runtime.lastEquity, runtime.dayOpenEquity with
  | some last, some opened => some (last - opened)
  | _, _ => none

end PortfolioRuntimeState

/-! ## Breakers -/

/-- `value.quantize(...)` to some decimal places, half to even. -/
def quantize (places : Nat) (value : Decimal) : Decimal :=
  let scaled := value * 10 ^ places
  let below := ⌊scaled⌋
  let rest := scaled - below
  let rounded := if rest < 1 / 2 ∨ (rest = 1 / 2 ∧ below % 2 = 0) then below else below + 1
  rounded / 10 ^ places

/-- The daily loss stop of `tripped_breaker`. -/
def dailyLossTrip (aggregate : PortfolioAggregate) (runtime : PortfolioRuntimeState) :
    Option BreakerTrip :=
  let quote := aggregate.portfolio.quoteCurrency
  match aggregate.portfolio.limits.dailyLossQuote, runtime.dailyPnl with
  | some limit, some change =>
    if limit.val ≤ -change then
      some ⟨.portfolioDailyLossStop,
        "The portfolio lost " ++ quoteText (quantize 2 (-change)) quote ++
          " since the UTC day opened; its daily loss stop is " ++ quoteText limit.val quote ++ "."⟩
    else none
  | _, _ => none

/-- The drawdown stop of `tripped_breaker`. -/
def drawdownTrip (aggregate : PortfolioAggregate) (runtime : PortfolioRuntimeState) :
    Option BreakerTrip :=
  let quote := aggregate.portfolio.quoteCurrency
  match aggregate.portfolio.limits.maxDrawdownFraction, runtime.drawdownFraction with
  | some stop, some drawdown =>
    if stop.val ≤ drawdown then
      some ⟨.portfolioDrawdownStop,
        "Portfolio equity is " ++ percentText (quantize 4 drawdown) ++ " below its peak of " ++
          quoteText (quantize 2 (runtime.highWaterMarkEquity.getD 0)) quote ++
          "; its drawdown stop is " ++ percentText stop.val ++ "."⟩
    else none
  | _, _ => none

/-- `tripped_breaker`: the daily loss stop, then drawdown. -/
def trippedBreaker (aggregate : PortfolioAggregate) (runtime : PortfolioRuntimeState) :
    Option BreakerTrip :=
  (dailyLossTrip aggregate runtime).or (drawdownTrip aggregate runtime)

/-- `RiskReasonCode(breaker_reason)`. -/
def BreakerReason.riskReason : BreakerReason → RiskReasonCode
  | .portfolioDailyLossStop => .portfolioDailyLossStop
  | .portfolioDrawdownStop => .portfolioDrawdownStop

/-- `risk_book`: the entry gate's view of the portfolio. -/
def riskBook (aggregate : PortfolioAggregate) (runtime : PortfolioRuntimeState) :
    PortfolioRiskBook where
  portfolioId := aggregate.portfolio.portfolioId
  capital := aggregate.portfolio.capitalQuote
  maxTotalExposureFraction := aggregate.portfolio.limits.maxTotalExposureFraction.val
  maxPerAssetFraction := aggregate.portfolio.limits.maxPerAssetFraction.val
  live := aggregate.portfolio.mode = .live
  breakerReason := runtime.breakerReason.map (·.riskReason)

section

variable {aggregate : PortfolioAggregate} {runtime : PortfolioRuntimeState} {trip : BreakerTrip}

theorem dailyLossTrip_reason (h : dailyLossTrip aggregate runtime = some trip) :
    trip.reason = .portfolioDailyLossStop := by
  unfold dailyLossTrip at h
  split at h
  · obtain ⟨-, h⟩ := of_ite_ne_else h nofun
    exact (Option.some.inj h) ▸ rfl
  · cases h

theorem drawdownTrip_reason (h : drawdownTrip aggregate runtime = some trip) :
    trip.reason = .portfolioDrawdownStop := by
  unfold drawdownTrip at h
  split at h
  · obtain ⟨-, h⟩ := of_ite_ne_else h nofun
    exact (Option.some.inj h) ▸ rfl
  · cases h

end

variable {runtime : PortfolioRuntimeState} {change : Decimal} {limit : QuoteAmountText}
  {aggregate : PortfolioAggregate} (hlimit : aggregate.portfolio.limits.dailyLossQuote = some limit)
  (hchange : runtime.dailyPnl = some change)
include hlimit hchange

theorem dailyLossTrip_isSome : (dailyLossTrip aggregate runtime).isSome ↔ limit.val ≤ -change := by
  unfold dailyLossTrip
  rw [hlimit, hchange]
  dsimp only
  split
  next hle => simp [hle]
  next hle => simp [hle]

theorem trippedBreaker_daily :
    (trippedBreaker aggregate runtime).map (·.reason) = some .portfolioDailyLossStop ↔
      limit.val ≤ -change := by
  rw [← dailyLossTrip_isSome hlimit hchange]
  unfold trippedBreaker
  cases hdaily : dailyLossTrip aggregate runtime with
  | some => simp [dailyLossTrip_reason hdaily]
  | none =>
    cases hdrawdown : drawdownTrip aggregate runtime with
    | none => simp
    | some => simp [drawdownTrip_reason hdrawdown]

end Thytrader.Portfolios
