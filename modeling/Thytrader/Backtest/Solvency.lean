import Thytrader.Backtest.Accounting
import Thytrader.Lib.Rounding

/-!
# Shared cash of a long-only spot run

An entry is sized from the cash at its signal and paid bars later, after sibling books may have
spent it. What keeps the shared balance from going below zero is the check at the fill, which
refuses a long that cash cannot fund with its fee. The other moves of cash are sales: they add a
non-negative notional less a fee below it, because every exit price of the run is non-negative
(`ExitQuote.price_nonneg`, `reachable_cash_nonneg`).

All this is exact. The kernel rounds to 64 digits, and the check compares a rounded sum, so a fill
that takes the cash to its last digit can leave it below zero (`roundedFills_overdraw`).
-/

namespace Thytrader.Backtest

open Lib MarketData Strategies Trading Evaluation FillModel Except

variable {strategy : StrategyDefinition} {position : Position}
  {cash stopDistance limitPrice : Decimal}

structure PositivePrices (candle : Candle) : Prop where
  open_ : 0 < candle.open_
  high : 0 < candle.high
  low : 0 < candle.low
  close : 0 < candle.close

/-- What a long-only spot run is bound to: its side, its cost bounds and its candles. -/
structure SpotRun (sim : Simulation) : Prop where
  long : sim.strategy.entry.side = .long
  spot : sim.costs.futures = none
  makerFee : sim.costs.makerFeeRate ≤ 1
  takerFee : sim.costs.takerFeeRate ≤ 1
  slippage : sim.costs.slippageBps ≤ 1000
  spread : sim.costs.fillModel.spreadBps ≤ 1000
  prices : ∀ feed ∈ sim.feeds, ∀ start candle,
    feed.candleByStart.get? start = some candle → PositivePrices candle

/-! ## Accepted requests -/

variable {candle : Candle}

theorem validateCandleValues_pos (h : validateCandleValues candle = .ok ()) :
    PositivePrices candle := by
  obtain ⟨hvalid, h⟩ := of_ite_ne h nofun
  simp only [not_or, not_le] at hvalid
  exact ⟨hvalid.1, hvalid.2.1, hvalid.2.2.1, hvalid.2.2.2.1⟩

variable {sim : Simulation}

/-- An accepted long-only spot request runs within the bounds. -/
theorem spotRun_of_backtestSimulation {engine : Engine} {specification : ResearchRunSpecification}
    {history : History} {fundingRates : Option (Dict Time Decimal)}
    (hlong : strategy.entry.side = .long) (hspot : strategy.instrument.isFuture = false)
    (h : backtestSimulation engine specification strategy history fundingRates = .ok sim) :
    SpotRun sim := by
  obtain ⟨futures, traces, interval, hterms, hfeeds, hstrategy, -, hcosts⟩ :=
    backtestSimulation_spec h
  have hfees := specification.costs.feesBounded
  refine ⟨by rw [hstrategy]; exact hlong, by rw [hcosts]; exact futuresTerms_spot hspot hterms,
    ?_, ?_, ?_, ?_, ?_⟩
  · rw [hcosts]
    linarith
  · rw [hcosts]
    linarith
  · rw [hcosts]
    exact specification.costs.slippageBounded.2
  · rw [hcosts]
    exact specification.costs.spreadBounded.2
  · intro feed hfeed start candle hfound
    obtain ⟨productId, -, hbook⟩ := mapM_mem hfeeds hfeed
    obtain ⟨candles, trace, -, hmap, -, -⟩ := bookFeed_inv hbook
    obtain ⟨hmapped, hvalid⟩ := candleMap_eq_ok hmap
    rw [hmapped] at hfound
    exact validateCandleValues_pos (hvalid candle (startsAt_of_candlesByStart hfound).1)

/-! ## Exit prices -/

section

variable {model : FillModel} (hspread : model.spreadBps ≤ 1000)

include hspread

theorem FillModel.halfSpread_lt_one : model.halfSpreadFraction < 1 := by
  unfold halfSpreadFraction
  linarith

/-- The bid of a non-negative price is non-negative. -/
theorem FillModel.bid_nonneg {price : Decimal} (hprice : 0 ≤ price) : 0 ≤ model.bid price := by
  have hhalf := halfSpread_lt_one hspread
  unfold bid
  split
  · exact mul_nonneg hprice (by linarith)
  · exact hprice

theorem FillModel.rawForBid_nonneg {bidPrice raw : Decimal} (hprice : 0 < bidPrice)
    (h : model.rawForBid bidPrice = .ok raw) : 0 ≤ raw := by
  have hhalf := halfSpread_lt_one hspread
  unfold rawForBid at h
  split at h
  · obtain ⟨-, rfl⟩ := divide_eq_ok h
    exact div_nonneg hprice.le (by linarith)
  · cases h
    exact hprice.le

theorem FillModel.takerSell_nonneg {reference slippageBps : Decimal} (hreference : 0 ≤ reference)
    (hslippage : slippageBps ≤ 1000) : 0 ≤ (model.takerSell reference slippageBps).price := by
  have hbid := bid_nonneg hspread hreference
  have hprice : 0 ≤ model.bid reference * (1 - slippageBps / 10000) :=
    mul_nonneg hbid (by linarith)
  unfold takerSell quote
  split
  · exact hprice
  · exact hprice

end

/-! ## Sound books -/

/-- A long spot position that can be sold: some quantity, a stop and a target above zero,
and no contract fee. -/
structure Position.Sound (position : Position) : Prop where
  long : position.side = .long
  quantity : 0 ≤ position.entry.quantity
  stop : 0 < position.stopPrice
  target : ∀ target ∈ position.targetPrice, 0 < target
  unitFee : position.unitFee = none

/-- A resting long entry that opens a sound position. -/
structure PendingEntry.Sound (pending : PendingEntry) : Prop where
  long : pending.side = .long
  quantity : 0 ≤ pending.quantity
  stop : 0 < pending.stopPrice
  target : ∀ target ∈ pending.targetPrice, 0 < target

/-- What a book of a long-only spot run carries. -/
structure Book.Sound (book : Book) : Prop where
  pending : ∀ pending ∈ book.pending, pending.Sound
  position : ∀ position ∈ book.position, position.Sound

/-- Cash covers itself and every book is sound. -/
structure Solvent (books : List Book) (account : Account) : Prop where
  cash : 0 ≤ account.cash
  books : ∀ book ∈ books, book.Sound

variable {quote : FillQuote} {feeRate cash' : Decimal}

section

variable {sim : Simulation} (hrun : SpotRun sim)

include hrun

/-- Every exit of a sound position is at a non-negative price and pays at most its notional. -/
theorem ExitQuote.price_nonneg (hposition : position.Sound) (hcandle : PositivePrices candle)
    (h : ExitQuote position candle sim.costs quote feeRate) :
    0 ≤ quote.price ∧ feeRate ≤ 1 := by
  have hspread := hrun.spread
  cases h with
  | target htarget => exact ⟨(hposition.target _ htarget).le, hrun.makerFee⟩
  | stop hreference =>
    refine ⟨?_, hrun.takerFee⟩
    simp only [stopReference, hposition.long] at hreference
    obtain ⟨raw, hraw, rfl⟩ := bind_pure_ok hreference
    simp only [takerExitQuote, hposition.long]
    exact takerSell_nonneg hspread
      (le_min hcandle.open_.le (rawForBid_nonneg hspread hposition.stop hraw))
      hrun.slippage
  | market hreference =>
    refine ⟨?_, hrun.takerFee⟩
    simp only [takerExitQuote, hposition.long]
    refine takerSell_nonneg hspread ?_ hrun.slippage
    simp only [List.mem_cons, List.not_mem_nil, or_false] at hreference
    rcases hreference with rfl | rfl | rfl | rfl
    · exact hcandle.open_.le
    · exact hcandle.high.le
    · exact hcandle.low.le
    · exact hcandle.close.le

end

theorem closePosition_cash_le {reason : ExitReason} {bar : Duration} {trade : BacktestTrade}
    (hposition : position.Sound) (hprice : 0 ≤ quote.price) (hfee : feeRate ≤ 1)
    (h : closePosition position candle cash quote reason feeRate bar = .ok (trade, cash')) :
    cash ≤ cash' := by
  unfold closePosition at h
  simp only at h
  obtain ⟨-, h⟩ := of_ite_ne h nofun
  obtain ⟨-, rfl⟩ := h
  have hnotional : 0 ≤ position.entry.quantity * quote.price :=
    mul_nonneg hposition.quantity hprice
  have hpaid : position.entry.quantity * quote.price * feeRate ≤
      position.entry.quantity * quote.price := mul_le_of_le_one_right hnotional hfee
  simp only [exitLedger, hposition.long, hposition.unitFee, Option.elim_none, add_zero]
  linarith

/-! ## One product's turn -/

section

variable {sim : Simulation} {offset : Nat} {feed : BookFeed} {candle : Candle}
  {desk desk' : Desk} {closing : Closing}

theorem trailPosition_sound {trailed : Position} {record : Option SignalTraceRecord}
    {isFillBar : Bool} (hposition : position.Sound)
    (h : trailPosition position candle strategy record isFillBar = .ok trailed) :
    trailed.Sound := by
  unfold trailPosition at h
  split at h
  · exact ok.inj h ▸ hposition
  next policy _ =>
    obtain ⟨state, hstate, rfl⟩ := bind_pure_ok h
    refine ⟨hposition.long, hposition.quantity, ?_, hposition.target, hposition.unitFee⟩
    simp only [ratchetedStop, hposition.long, ratchetedLongStop] at hstate
    split at hstate
    · exact ok.inj hstate ▸ hposition.stop
    · split at hstate
      · exact ok.inj hstate ▸ hposition.stop
      · obtain ⟨candidate, -, hstate⟩ := bind_eq_ok hstate
        split at hstate
        · exact ok.inj hstate ▸ hposition.stop
        · exact ok.inj hstate ▸ lt_max_of_lt_left hposition.stop

theorem ExitOutcome.solvent (hrun : SpotRun sim) (hcandle : PositivePrices candle) {book : Book}
    (hbook : book.Sound)
    (h : ExitOutcome feed book candle offset sim.strategy sim.costs cash sim.bar closing) :
    cash ≤ closing.cash ∧ closing.book.Sound := by
  cases h with
  | flat => exact ⟨le_rfl, hbook⟩
  | @arms position trailed _ hheld htrail =>
    refine ⟨le_rfl, hbook.pending, ?_⟩
    rintro _ ⟨⟩
    have htrailed := trailPosition_sound (hbook.position position hheld) htrail
    exact ⟨htrailed.long, htrailed.quantity, htrailed.stop, htrailed.target, htrailed.unitFee⟩
  | @closes held position _ _ _ _ _ hheld hposition _ hquote _ hclose =>
    have hsound : position.Sound := by
      rcases hposition with rfl | ⟨isFillBar, htrail⟩
      · exact hbook.position position hheld
      · exact trailPosition_sound (hbook.position held hheld) htrail
    obtain ⟨hprice, hfee⟩ := hquote.price_nonneg hrun hsound hcandle
    exact ⟨closePosition_cash_le hsound hprice hfee hclose, hbook.pending, by simp⟩

theorem recordClose_solvent (hcash : 0 ≤ desk.cash)
    (h : desk.cash ≤ closing.cash ∧ closing.book.Sound) :
    0 ≤ (recordClose desk closing strategy).cash ∧ (recordClose desk closing strategy).book.Sound := by
  unfold recordClose
  split
  · exact ⟨hcash.trans h.1, h.2⟩
  · exact ⟨hcash.trans h.1, h.2.pending, h.2.position⟩

variable {pending : PendingEntry} {makerFeeRate : Decimal}

/-- A fill that cash could not fund was refused. -/
theorem fillPosition_solvent (hrun : SpotRun sim) {held : Option Position}
    (hpending : pending.Sound) (hheld : ∀ open_ ∈ held, open_.Sound)
    (h : fillPosition held pending candle cash offset sim.costs = .ok (some (position, cash'))) :
    0 ≤ cash' ∧ position.Sound := by
  cases held with
  | none =>
    simp only [fillPosition, openPosition, openingQuantity, hrun.spot, bind, bind, pure,
      pure] at h
    obtain ⟨hfunded, h⟩ := of_ite_ne h (fun hne => by cases hne)
    obtain ⟨rfl, rfl⟩ := h
    refine ⟨?_, hpending.long, hpending.quantity, hpending.stop, hpending.target, rfl⟩
    simp only [Option.isNone_none, hpending.long, true_and, not_lt] at hfunded
    simp only [entryCash, hpending.long]
    linarith
  | some open_ =>
    have hopen := hheld open_ rfl
    obtain ⟨hfunded, h⟩ := of_ite_ne h (fun hne => by cases hne)
    obtain ⟨price, -, h⟩ := bind_eq_ok h
    obtain ⟨rfl, rfl⟩ := h
    refine ⟨?_, hopen.long, add_nonneg hopen.quantity hpending.quantity, hopen.stop,
      hopen.target, hopen.unitFee⟩
    simp only [hpending.long, true_and, not_lt] at hfunded
    simp only [entryCash, hpending.long]
    linarith

theorem stressedEntry_sound {stress : Option ExecutionStress} (h : pending.Sound) :
    (stressedEntry stress pending).Sound := by
  cases stress with
  | none => exact h
  | some stress =>
    exact ⟨h.long, mul_nonneg h.quantity stress.fillBounded.1.le, h.stop, h.target⟩

theorem EntryMatch.solvent (hrun : SpotRun sim) (hcash : 0 ≤ desk.cash) (hbook : desk.book.Sound)
    (h : EntryMatch desk candle offset sim.strategy sim.costs desk') :
    0 ≤ desk'.cash ∧ desk'.book.Sound := by
  cases h with
  | idle => exact ⟨hcash, hbook⟩
  | @waits pending hpending | @reprices pending hpending =>
    have hsound := hbook.pending pending hpending
    refine ⟨hcash, ?_, hbook.position⟩
    rintro _ ⟨⟩
    exact ⟨hsound.long, hsound.quantity, hsound.stop, hsound.target⟩
  | expires => exact ⟨hcash, by simp [expireEntry], hbook.position⟩
  | refuses => exact ⟨hcash, by simp, hbook.position⟩
  | @fills pending position cash hpending hfill =>
    have hsound : (stressedEntry sim.costs.executionStress pending).Sound :=
      stressedEntry_sound (hbook.pending pending hpending)
    obtain ⟨hleft, hposition⟩ := fillPosition_solvent hrun hsound hbook.position hfill
    refine ⟨hleft, by simp, ?_⟩
    rintro _ ⟨⟩
    exact hposition

theorem entryLevels_long_pos {entryPrice : Decimal} {reward : Option Decimal} {levels : EntryLevels}
    (h : entryLevels .long entryPrice stopDistance reward = .ok (.ok levels)) :
    0 < levels.stopPrice ∧ ∀ target ∈ levels.targetPrice, 0 < target := by
  obtain ⟨hentry, -, hfound⟩ := entryLevels_found h
  obtain ⟨hstop, htargets⟩ := hfound.checked
  exact ⟨hstop, fun target htarget => hentry.trans (htargets target htarget)⟩

theorem boundedNotional_pos {sized : SizedNotional}
    (h : boundedNotional strategy cash stopDistance limitPrice makerFeeRate = .ok (.ok sized)) :
    0 < sized.notional := by
  obtain ⟨riskQuantity, -, h⟩ := bind_eq_ok h
  obtain ⟨fundable, -, h⟩ := bind_eq_ok h
  obtain ⟨hminimum, h⟩ := of_ite_ne h nofun
  cases h
  exact strategy.sizing.notionalOrdered.1.trans_le (not_lt.mp hminimum)

theorem entryQuantity_nonneg {quantity : Decimal} {capped : Bool} (hlimit : 0 < limitPrice)
    (h : entryQuantity strategy cash stopDistance limitPrice makerFeeRate none = .ok (.ok
      (quantity, capped))) : 0 ≤ quantity := by
  obtain ⟨sized, hsized, h⟩ := bind_eq_ok h
  cases sized with
  | error => cases h
  | ok =>
    obtain ⟨divided, hdivided, h⟩ := bind_eq_ok h
    cases h
    obtain ⟨-, rfl⟩ := divide_eq_ok hdivided
    exact div_nonneg (boundedNotional_pos hsized).le hlimit.le

theorem EntryRest.solvent (hrun : SpotRun sim) {record : SignalTraceRecord}
    {mayOpenBook expiryWindow : Bool} (hlimit : 0 < limitPrice) (hbook : desk.book.Sound)
    (h : EntryRest desk record sim.strategy sim.costs limitPrice mayOpenBook expiryWindow desk') :
    desk'.cash = desk.cash ∧ desk'.book.Sound := by
  cases h with
  | warmup | unmatched | skips => exact ⟨rfl, hbook⟩
  | @rests pending _ hsized =>
    refine ⟨rfl, ?_, hbook.position⟩
    rintro _ ⟨⟩
    cases hheld : desk.book.position with
    | none =>
      rw [hheld] at hsized
      obtain ⟨atr, levels, quantity, capped, hlevels, hquantity, rfl⟩ := sizeEntry_eq_ok hsized
      rw [hrun.long] at hlevels
      rw [hrun.spot] at hquantity
      obtain ⟨hstop, htarget⟩ := entryLevels_long_pos hlevels
      exact ⟨hrun.long, entryQuantity_nonneg hlimit hquantity, hstop, htarget⟩
    | some position =>
      rw [hheld] at hsized
      obtain ⟨sized, quantity, -, -, -, hbounded, hquantity, rfl⟩ := sizePyramidAdd_eq_ok hsized
      have hposition := hbook.position position hheld
      obtain ⟨-, rfl⟩ := divide_eq_ok hquantity
      exact ⟨hposition.long, div_nonneg (boundedNotional_pos hbounded).le hlimit.le,
        hposition.stop, hposition.target⟩

end

/-! ## Runs -/

theorem solvent_keptBySteps (hrun : SpotRun sim) : KeptBySteps sim Solvent := by
  intro offset feed hfeed candle done todo desk desk' hcandle hstep hsolvent
  have hbook : desk.book.Sound := hsolvent.books desk.book (by simp)
  have hprices := hrun.prices feed hfeed _ candle hcandle
  -- the step keeps cash and its own book; the other books stand aside
  suffices hdesk : 0 ≤ desk'.cash ∧ desk'.book.Sound from
    ⟨hdesk.1, forall_exchange hsolvent.books hdesk.2⟩
  cases hstep with
  | cools => exact ⟨hsolvent.cash, hbook.pending, hbook.position⟩
  | entry hmatch => exact hmatch.solvent hrun hsolvent.cash hbook
  | exits hexit => exact recordClose_solvent hsolvent.cash (hexit.solvent hrun hprices hbook)
  | funds hfunding =>
    cases hfunding with
    | none => exact ⟨hsolvent.cash, hbook⟩
    | flows _ hfutures =>
      rw [hrun.spot] at hfutures
      cases hfutures
  | flattens hfutures =>
    rw [hrun.spot] at hfutures
    cases hfutures
  | rests hrest =>
    obtain ⟨hsame, hrested⟩ := hrest.solvent hrun hprices.close hbook
    rw [hsame]
    exact ⟨hsolvent.cash, hrested⟩

/-- Closing a book out sells its position at the terminal open. -/
theorem solvent_keptByCloseOut (hrun : SpotRun sim) :
    KeptByCloseOut sim Solvent := by
  intro feed hfeed done todo desk desk' hclose hsolvent
  have hbook : desk.book.Sound := hsolvent.books desk.book (by simp)
  obtain ⟨hpending, hposition⟩ := hclose.empty
  refine ⟨?_, forall_exchange hsolvent.books ⟨by simp [hpending], by simp [hposition]⟩⟩
  cases hclose with
  | flat => exact hsolvent.cash
  | @sells position candle _ _ hheld hcandle hsold =>
    have hsound := hbook.position position hheld
    have hprices := hrun.prices feed hfeed _ candle hcandle
    obtain ⟨hprice, hfee⟩ := ExitQuote.price_nonneg hrun hsound hprices
      (.market (show candle.open_ ∈ [candle.open_, candle.high, candle.low, candle.close] by simp))
    exact hsolvent.cash.trans (closePosition_cash_le hsound hprice hfee hsold)

/-- In every state of an accepted long-only spot run the shared cash is at least zero. -/
theorem reachable_cash_nonneg {engine : Engine} {specification : ResearchRunSpecification}
    {strategy : StrategyDefinition} {history : History}
    {fundingRates : Option (Dict Time Decimal)} {sim : Simulation}
    (hlong : strategy.entry.side = .long) (hspot : strategy.instrument.isFuture = false)
    (hsim : backtestSimulation engine specification strategy history fundingRates = .ok sim)
    {books : List Book} {account : Account} (h : Reachable sim books account) :
    0 ≤ account.cash := by
  have hrun := spotRun_of_backtestSimulation hlong hspot hsim
  have hinitial : Solvent sim.initial.books sim.initial.toAccount := by
    obtain ⟨_, _, _, -, -, -, hcash, -⟩ := backtestSimulation_spec hsim
    refine ⟨?_, ?_⟩
    · show 0 ≤ sim.initialCash
      rw [hcash]
      exact specification.balancePositive.le
    · intro book hbook
      obtain ⟨feed, -, rfl⟩ := List.mem_map.mp hbook
      exact ⟨by simp, by simp⟩
  exact (reachable_invariant (solvent_keptBySteps hrun) (solvent_keptByCloseOut hrun) hinitial
    h).cash

theorem hourlyHistory_cash_nonneg :
    ∃ sim books account,
      backtestSimulation hourlyEngine hourlySpecification hourlyStrategy hourlyHistory none =
        .ok sim ∧
      Reachable sim books account ∧ account.cash < 1000 ∧ 0 ≤ account.cash := by
  -- after the second bar the entry has been paid
  obtain ⟨sim, books, account, hsim, hreached, hspent⟩ := exists_reachable_midBar hourlyEngine
    hourlySpecification hourlyStrategy hourlyHistory 1 1 (fun _ state => state.2.cash < 1000)
    (by decide +kernel)
  exact ⟨_, books, account, hsim, hreached, of_decide_eq_true hspent,
    reachable_cash_nonneg rfl rfl hsim hreached⟩

/-! ## In the kernel's context -/

/-- What a long spot fill of `_open_position` leaves of the cash, each operation rounded by the
context; `none` refuses the fill. -/
def openedCash (round : Decimal → Decimal) (quantity price makerFeeRate cash : Decimal) :
    Option Decimal :=
  let notional := round (quantity * price)
  let fee := round (notional * makerFeeRate)
  if cash < round (notional + fee) then none else some (round (round (cash - notional) - fee))

theorem openPosition_openedCash {pending : PendingEntry} {offset : Nat} {costs : Costs}
    (hspot : costs.futures = none) (hlong : pending.side = .long) :
    (openPosition pending candle cash offset costs).map (Option.map Prod.snd) =
      .ok (openedCash id pending.quantity (costs.fillModel.maker pending.limitPrice).price
        costs.makerFeeRate cash) := by
  simp only [openPosition, openingQuantity, openedCash, hspot, hlong, bind, Except.bind, pure,
    Except.pure, Option.elim_none, add_zero, Option.isNone_none, true_and, id_eq]
  split
  · rfl
  · rfl

/-- Two entries of 500 quote, sized and funded from 1001 in the kernel's 64 digits: the last digits
of the notionals pass both checks and leave the cash below zero. -/
theorem roundedFills_overdraw :
    ∃ held cash,
      openedCash (roundTo 10 64) (roundTo 10 64 (500 / 14)) 14 (1 / 1000) 1001 = some held ∧
      openedCash (roundTo 10 64) (roundTo 10 64 (500 / 3)) 3 (1 / 1000) held = some cash ∧
      cash < 0 := by
  have hrun : ((openedCash (roundTo 10 64) (roundTo 10 64 (500 / 14)) 14 (1 / 1000) 1001).bind
      (openedCash (roundTo 10 64) (roundTo 10 64 (500 / 3)) 3 (1 / 1000))).any (· < 0) = true := by
    decide +kernel
  obtain ⟨cash, hcash, hnegative⟩ := (Option.any_eq_true _ _).mp hrun
  obtain ⟨held, hheld, hcash⟩ := Option.bind_eq_some_iff.mp hcash
  exact ⟨held, cash, hheld, hcash, of_decide_eq_true hnegative⟩

end Thytrader.Backtest
