import Thytrader.Alerts.Paging
import Thytrader.Backtest.DeclaredWarmup
import Thytrader.Backtest.Funnel
import Thytrader.Backtest.NoLookahead
import Thytrader.Backtest.Trailing
import Thytrader.Evaluation.ClockCoverage
import Thytrader.Evaluation.Conditions
import Thytrader.Execution.AutomaticResume
import Thytrader.Execution.BarOrder
import Thytrader.Execution.Capital
import Thytrader.Execution.DailyLatch
import Thytrader.Execution.EntryGate
import Thytrader.Execution.FundingTiming
import Thytrader.Execution.LeaseFence
import Thytrader.Execution.RejectionBackoff
import Thytrader.Execution.Revisions
import Thytrader.Execution.TerminalStamps
import Thytrader.FleetControl.EntryLatch
import Thytrader.FleetControl.ExactlyOnce
import Thytrader.FleetControl.InventoryWalk
import Thytrader.MarketData.Pages
import Thytrader.MarketData.RetentionSweep
import Thytrader.MarketData.WindowTransparency
import Thytrader.MarketData.WindowWarming
import Thytrader.MarketData.WorkerTransitions
import Thytrader.Portfolios.LatchKept
import Thytrader.Portfolios.Settlement
import Thytrader.Replay.Codec
import Thytrader.Replay.TapeReplay
import Thytrader.Research.Finished
import Thytrader.Research.Leases
import Thytrader.Research.WalkForward
import Thytrader.Risk.Netting
import Thytrader.Risk.RepriceSlots
import Thytrader.Trading.ContractSizing
import Thytrader.Trading.FailedFills
import Thytrader.Trading.FillFold
import Thytrader.Trading.InventoryClaims
import Thytrader.Trading.OrderProgress
import Thytrader.Trading.RepairRuns
import Thytrader.Trading.RowOrder
import Thytrader.Trading.SiblingPositions
import Thytrader.Trading.SnappedLevels
import Thytrader.Trading.RoundedFold
